import GoopOperator.Api.Target
import GoopOperator.DaemonSet.Manifest
import GoopOperator.Store.Basic

/-!
# Requests to the API server

How each call of the store is sent: a method, a target, and for a write the object as the body.
-/

namespace GoopOperator.Api

/-- What a request does. -/
inductive Method where
  /-- It reads. -/
  | get
  /-- It replaces. -/
  | put
  /-- It creates. -/
  | post
  deriving DecidableEq

/-- The name of a method. -/
def Method.name : Method → String
  | .get => "GET"
  | .put => "PUT"
  | .post => "POST"

/-- A request. -/
structure Request where
  /-- What it does. -/
  method : Method
  /-- What it does it with. -/
  target : String
  /-- The object that it writes. -/
  body : Option Json
  deriving DecidableEq

/-- The path of the jobs of a namespace, or of all. -/
def goopsPath (ns : Option String) : String :=
  "/apis/" ++ Goop.apiVersion ++ (ns.elim "" fun n => "/namespaces/" ++ n) ++ "/goops"

/-- The path of the DaemonSets of a namespace, or of all. -/
def daemonSetsPath (ns : Option String) : String :=
  "/apis/" ++ DaemonSet.apiVersion ++ (ns.elim "" fun n => "/namespaces/" ++ n) ++ "/daemonsets"

/-- The object that a call is about. -/
def objectOf : StoreCall → Except KeyError (ObjectKind × ObjectKey)
  | .get key => .ok (.goop, key)
  | .update goop | .updateStatus goop => goop.key.map fun key => (.goop, key)
  | .getWorkload key => .ok (.daemonSet, key)
  | .createWorkload d => .ok (.daemonSet, d.key)

/-- The path of an object. -/
def pathOf (kind : ObjectKind) (key : ObjectKey) : String :=
  (match kind with
    | .goop => goopsPath (some key.ns)
    | .daemonSet => daemonSetsPath (some key.ns)) ++ "/" ++ key.name

/-- The request of a call about the object of a key. A write ends its path by an empty query. -/
def Request.ofCall (pauseImage : String) (key : ObjectKey) : StoreCall → Request
  | .get _ => ⟨.get, pathOf .goop key, none⟩
  | .update goop => ⟨.put, pathOf .goop key ++ "?", some goop.toJson⟩
  | .updateStatus goop => ⟨.put, pathOf .goop key ++ "/status?", some goop.toJson⟩
  | .getWorkload _ => ⟨.get, pathOf .daemonSet key, none⟩
  | .createWorkload d =>
    ⟨.post, daemonSetsPath (some key.ns) ++ "?", some (DaemonSet.ofWorkload d pauseImage).toJson⟩

/-- The targets at which all jobs and DaemonSets of a namespace are listed and watched, when the list
was of the given version. -/
def watchTargets (ns : Option String) (version : String) : List String :=
  [daemonSetsPath ns, goopsPath ns].flatMap fun path =>
    [path ++ "?&limit=500",
      path ++ "?&watch=true&timeoutSeconds=290&allowWatchBookmarks=true&resourceVersion=" ++ version]

end GoopOperator.Api
