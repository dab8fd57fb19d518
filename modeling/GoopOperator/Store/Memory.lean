import GoopOperator.Store.Basic
import GoopOperator.Store.Table

/-!
# A store in memory

A store that behaves as an API server does: every write checks the resource version, metadata and
status are written apart, finalizers hold an object whose deletion is requested, and a workload goes
away with its job. It can be told to fail calls, to lose status writes and to advance a rollout.

`MemoryStore.answer` answers the calls that the operator makes; the other functions are what users and
the cluster do beside it.
-/

namespace GoopOperator

/-- A workload in the store. -/
structure StoredWorkload where
  /-- What was asked for. -/
  spec : WorkloadSpec
  /-- How far it has got. -/
  rollout : Rollout
  deriving DecidableEq

/-- A store in memory. -/
structure MemoryStore where
  /-- The jobs. -/
  goops : Table Goop
  /-- The workloads. -/
  workloads : Table StoredWorkload
  /-- The last resource version that was given. -/
  version : Nat
  /-- The failures that wait for the next calls of an operation. -/
  faults : Operation → List StoreError
  /-- The number of status writes still to be acknowledged and lost. -/
  lossesLeft : Nat
  /-- The number of calls of an operation so far, failed ones included. -/
  calls : Operation → Nat
  /-- The number of nodes that a new workload should run on. -/
  nodes : Int32

namespace MemoryStore

/-- A store without objects, for a cluster of `nodes` nodes. -/
def empty (nodes : Int32) : MemoryStore where
  goops := ∅
  workloads := ∅
  version := 0
  faults _ := []
  lossesLeft := 0
  calls _ := 0
  nodes := nodes

/-! ## Versions -/

/-- The store after one more resource version has been given. -/
def advance (s : MemoryStore) : MemoryStore := { s with version := s.version + 1 }

/-- The text of the last resource version. -/
def versionText (s : MemoryStore) : String := toString s.version

/-- The job with the last resource version. -/
def stamp (s : MemoryStore) (g : Goop) : Goop :=
  { g with metadata := { g.metadata with resourceVersion := some s.versionText } }

/-- The job at a key, if `incoming` was written from its last version. -/
def current (s : MemoryStore) (key : ObjectKey) (incoming : Goop) : Except StoreError Goop :=
  match s.goops.get? key with
  | none => .error (.notFound .goop key)
  | some stored =>
    if incoming.metadata.resourceVersion = stored.metadata.resourceVersion then .ok stored
    else .error (.conflict key
      "the object has been modified; please apply your changes to the latest version and try again")

/-! ## What the operator calls -/

/-- The store with one more call of an operation counted. -/
def counted (s : MemoryStore) (op : Operation) : MemoryStore :=
  { s with calls := fun o => if o = op then s.calls o + 1 else s.calls o }

/-- Counts a call of an operation, and takes the failure that waits for it, if there is one. -/
def charge (s : MemoryStore) (op : Operation) : Option StoreError × MemoryStore :=
  match s.faults op with
  | [] => (none, s.counted op)
  | e :: rest =>
    (some e, { s.counted op with faults := fun o => if o = op then rest else s.faults o })

/-- Answers a call of an operation, unless a failure waits for it. -/
def serve (s : MemoryStore) (op : Operation)
    (act : MemoryStore → Except StoreError α × MemoryStore) : Except StoreError α × MemoryStore :=
  match s.charge op with
  | (some e, s) => (.error e, s)
  | (none, s) => act s

/-- Removes a job and the workload at its key. -/
def purge (s : MemoryStore) (key : ObjectKey) : MemoryStore :=
  { s with goops := s.goops.erase key, workloads := s.workloads.erase key }

/-- Puts a job at a key. -/
def put (s : MemoryStore) (key : ObjectKey) (g : Goop) : MemoryStore :=
  { s with goops := s.goops.insert key g }

/-- The stored job with the finalizers, labels, annotations and spec of another. -/
def merged (stored incoming : Goop) : Goop :=
  { stored with
    metadata := { stored.metadata with
      finalizers := incoming.metadata.finalizers
      labels := incoming.metadata.labels
      annotations := incoming.metadata.annotations }
    spec := incoming.spec }

/-- Writes the metadata and the spec of a job at its key. A job that is being deleted takes no new
finalizer, and goes away with its last one. -/
def writeObject (key : ObjectKey) (incoming : Goop) (s : MemoryStore) :
    Except StoreError Goop × MemoryStore :=
  match s.current key incoming with
  | .error e => (.error e, s)
  | .ok stored =>
    -- a write that is refused from here on has used up a version
    let s := s.advance
    if stored.isDeletionRequested ∧ ¬ incoming.finalizers.all (stored.finalizers.contains ·) then
      (.error (.api 422
        "Forbidden: no new finalizers can be added if the object is being deleted"), s)
    else
      let after := s.stamp (merged stored incoming)
      if after.isDeletionRequested ∧ after.finalizers = [] then (.ok after, s.purge key)
      else (.ok after, s.put key after)

/-- Writes the status of a job at its key, or loses it. -/
def writeStatus (key : ObjectKey) (incoming : Goop) (s : MemoryStore) :
    Except StoreError Goop × MemoryStore :=
  match s.current key incoming with
  | .error e => (.error e, s)
  | .ok stored =>
    match s.lossesLeft with
    -- a lost write answers with the job as it stands, and uses up no version
    | n + 1 => (.ok stored, { s with lossesLeft := n })
    | 0 =>
      let s := s.advance
      let after := s.stamp { stored with status := incoming.status }
      (.ok after, s.put key after)

/-- Whether the job that an owner reference names is at a key. -/
def isOwner (s : MemoryStore) (key : ObjectKey) (owner : OwnerReference) : Bool :=
  (s.goops.get? key).any fun g => g.metadata.uid = some owner.uid

/-- Creates a workload, of which nothing is ready yet. An owner has to be there. -/
def create (d : WorkloadSpec) (s : MemoryStore) : Except StoreError Unit × MemoryStore :=
  if s.workloads.contains d.key then (.error (.alreadyExists .daemonSet d.key), s)
  else if d.owner.all (s.isOwner d.key) then
    (.ok (), { s with workloads := s.workloads.insert d.key ⟨d, ⟨s.nodes, 0, 0, true⟩⟩ })
  else (.error (.notFound .goop d.key), s)

/-- Answers a call. -/
def answer : (c : StoreCall) → MemoryStore → Except StoreError c.Answer × MemoryStore
  | .get key, s =>
    s.serve .get fun s =>
      ((s.goops.get? key).elim (.error (.notFound .goop key)) .ok, s)
  | .update goop, s =>
    -- a job that belongs nowhere is turned away before the call counts
    match goop.key with
    | .error e => (.error (.unprocessable e), s)
    | .ok key => s.serve .update (writeObject key goop)
  | .updateStatus goop, s =>
    match goop.key with
    | .error e => (.error (.unprocessable e), s)
    | .ok key => s.serve .updateStatus (writeStatus key goop)
  | .getWorkload key, s =>
    s.serve .getWorkload fun s =>
      ((s.workloads.get? key).elim (.error (.notFound .daemonSet key)) fun w => .ok w.rollout, s)
  | .createWorkload d, s => s.serve .createWorkload (create d)

@[simp] theorem goops_charge (s : MemoryStore) (op : Operation) :
    (s.charge op).2.goops = s.goops := by
  unfold charge
  split <;> rfl

@[simp] theorem workloads_charge (s : MemoryStore) (op : Operation) :
    (s.charge op).2.workloads = s.workloads := by
  unfold charge
  split <;> rfl

/-! ## What users do -/

/-- Creates a job as a user does; the store gives it a unique id, a version and a time. A job without
a namespace is not kept. -/
def insert (s : MemoryStore) (g : Goop) (uid : String) (now : Timestamp) : Goop × MemoryStore :=
  let s := s.advance
  let g := s.stamp { g with metadata := { g.metadata with
    uid := some uid, creationTimestamp := some now } }
  match g.key with
  | .ok key => (g, s.put key g)
  | .error _ => (g, s)

/-- Requests the deletion of a job. Without finalizers the job goes away at once; otherwise the
request is noted with its time, unless there is one already. -/
def requestDeletion (s : MemoryStore) (key : ObjectKey) (now : Timestamp) : Bool × MemoryStore :=
  match s.goops.get? key with
  | none => (false, s)
  | some g =>
    if g.finalizers = [] then (true, s.purge key)
    else
      let s := s.advance
      let g := { g with metadata := { g.metadata with
        deletionTimestamp := g.metadata.deletionTimestamp <|> some now } }
      (true, s.put key (s.stamp g))

/-- Edits a job as another client does. The version moves on also where there is no such job. -/
def edit (s : MemoryStore) (key : ObjectKey) (f : Goop → Goop) : Bool × MemoryStore :=
  let s := s.advance
  match s.goops.get? key with
  | some g => (true, s.put key (s.stamp (f g)))
  | none => (false, s)

/-- An edit that breaks off before it has changed the job: the version has moved on all the same. -/
def breakOff (s : MemoryStore) (key : ObjectKey) : Bool × MemoryStore :=
  (s.goops.contains key, s.advance)

/-! ## What the cluster does -/

/-- Removes a workload and leaves its job. -/
def deleteWorkload (s : MemoryStore) (key : ObjectKey) : Bool × MemoryStore :=
  (s.workloads.contains key, { s with workloads := s.workloads.erase key })

/-- Changes how far a workload has got. -/
def adjustRollout (s : MemoryStore) (key : ObjectKey) (f : Rollout → Rollout) :
    Option Rollout × MemoryStore :=
  match s.workloads.get? key with
  | none => (none, s)
  | some w =>
    let rollout := f w.rollout
    (some rollout, { s with workloads := s.workloads.insert key { w with rollout } })

end MemoryStore

/-- One more node has the workload ready and available, up to the number of nodes that should. -/
def Rollout.advance (w : Rollout) : Rollout :=
  let w := if w.ready < w.desired then { w with ready := w.ready + 1 } else w
  if w.available < w.ready then { w with available := w.available + 1 } else w

namespace MemoryStore

/-- Advances the rollout of a workload by one node. -/
def advanceRollout (s : MemoryStore) (key : ObjectKey) : Option Rollout × MemoryStore :=
  s.adjustRollout key .advance

/-! ## Arranged failures, and the count of writes -/

/-- The store after a failure has been added to those that wait for an operation. -/
def queueFault (s : MemoryStore) (op : Operation) (e : StoreError) : MemoryStore :=
  { s with faults := fun o => if o = op then s.faults o ++ [e] else s.faults o }

/-- The store that loses the next `n` status writes. -/
def loseStatusWrites (s : MemoryStore) (n : Nat) : MemoryStore := { s with lossesLeft := n }

/-- The number of writes so far, failed ones included. -/
def writes (s : MemoryStore) : Nat :=
  (Operation.all.filter Operation.isWrite).foldl (fun n op => n + s.calls op) 0

end MemoryStore

end GoopOperator
