import GoopOperator.Goop
import GoopOperator.Workload

/-!
# The store that the operator works on

The five calls that the operator makes, what each of them answers, and the errors with which a store
may answer instead. A write carries the resource version that its writer has read, and a store
refuses it where the object has changed since.
-/

namespace GoopOperator

/-- The kinds of objects in a store. -/
inductive ObjectKind where
  /-- A job. -/
  | goop
  /-- The workload of a job. -/
  | daemonSet
  deriving DecidableEq

/-- The name of a kind. -/
def ObjectKind.name : ObjectKind → String
  | .goop => "Goop"
  | .daemonSet => "DaemonSet"

/-- Why a store refuses a call. -/
inductive StoreError where
  /-- There is no such object. -/
  | notFound (kind : ObjectKind) (key : ObjectKey)
  /-- The object has changed since it was read. -/
  | conflict (key : ObjectKey) (message : String)
  /-- There is such an object already. -/
  | alreadyExists (kind : ObjectKind) (key : ObjectKey)
  /-- Any other refusal, with a status code. -/
  | api (code : Nat) (message : String)
  /-- The store could not be reached or was not able to answer. -/
  | transient (message : String)
  deriving DecidableEq

namespace StoreError

/-- A short label of an error. -/
def label : StoreError → String
  | .notFound .. => "not_found"
  | .conflict .. => "conflict"
  | .alreadyExists .. => "already_exists"
  | .api .. => "api"
  | .transient .. => "transient"

/-- The wording of an error. -/
def message : StoreError → String
  | .notFound kind key => kind.name ++ " " ++ key.toText ++ " not found"
  | .conflict key m => "conflict on " ++ key.toText ++ ": " ++ m
  | .alreadyExists kind key => kind.name ++ " " ++ key.toText ++ " already exists"
  | .api code m => "api error " ++ toString code ++ ": " ++ m
  | .transient m => "transient store error: " ++ m

/-- Whether the object was not there. -/
def isNotFound : StoreError → Bool
  | .notFound .. => true
  | _ => false

/-- Whether the object had changed. -/
def isConflict : StoreError → Bool
  | .conflict .. => true
  | _ => false

/-- The refusal of a job that has no key. -/
def unprocessable (e : KeyError) : StoreError := .api 422 e.message

end StoreError

/-- The five calls, without their arguments. -/
inductive Operation where
  /-- Read a job. -/
  | get
  /-- Write the metadata and the spec of a job. -/
  | update
  /-- Write the status of a job. -/
  | updateStatus
  /-- Read how far a workload has got. -/
  | getWorkload
  /-- Create a workload. -/
  | createWorkload
  deriving DecidableEq

/-- Whether an operation writes. -/
def Operation.isWrite : Operation → Bool
  | .update | .updateStatus | .createWorkload => true
  | .get | .getWorkload => false

/-- The operations. -/
def Operation.all : List Operation := [.get, .update, .updateStatus, .getWorkload, .createWorkload]

/-- A call of a store. -/
inductive StoreCall where
  /-- Reads the job of a key. -/
  | get (key : ObjectKey)
  /-- Writes the metadata and the spec of a job, its finalizers included, and not its status. -/
  | update (goop : Goop)
  /-- Writes the status of a job and nothing else. -/
  | updateStatus (goop : Goop)
  /-- Reads how far the workload of a key has got. -/
  | getWorkload (key : ObjectKey)
  /-- Creates a workload. -/
  | createWorkload (spec : WorkloadSpec)
  deriving DecidableEq

namespace StoreCall

/-- What a call is. -/
def operation : StoreCall → Operation
  | .get _ => .get
  | .update _ => .update
  | .updateStatus _ => .updateStatus
  | .getWorkload _ => .getWorkload
  | .createWorkload _ => .createWorkload

/-- What a call answers where it is not refused. -/
abbrev Answer : StoreCall → Type
  | .get _ | .update _ | .updateStatus _ => Goop
  | .getWorkload _ => Rollout
  | .createWorkload _ => Unit

end StoreCall

end GoopOperator
