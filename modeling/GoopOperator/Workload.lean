import GoopOperator.Metadata
import GoopOperator.ObjectKey

/-!
# The workload of a job

The operator asks the cluster to run the job on every node (`WorkloadSpec`) and reads back how
far that has got (`Rollout`).
-/

namespace GoopOperator

/-- How far a workload has been rolled out. -/
structure Rollout where
  /-- The number of nodes that should run it. -/
  desired : Int32
  /-- The number of nodes where it is ready. -/
  ready : Int32
  /-- The number of nodes where it is available. -/
  available : Int32
  /-- Whether the counts belong to the current generation of the workload. -/
  observed : Bool
  deriving DecidableEq

namespace Rollout

/-- A workload of which nothing is known. -/
def unobserved : Rollout := ⟨0, 0, 0, false⟩

/-- Whether the workload has run on every node that should run it. -/
def isComplete (w : Rollout) : Bool :=
  w.observed ∧ w.desired = w.ready ∧ w.desired = w.available

/-- Writes rollout counts. -/
def toJson (w : Rollout) : Json :=
  .obj [("desired", .int w.desired.toInt), ("ready", .int w.ready.toInt),
    ("available", .int w.available.toInt), ("observed", .bool w.observed)]

/-- Reads rollout counts. -/
def ofJson? (v : Json) : Option Rollout := do
  match ← Json.slots? ["desired", "ready", "available", "observed"] v with
  | [desired, ready, available, observed] =>
    return {
      desired := ← desired.required? Json.int32?
      ready := ← ready.required? Json.int32?
      available := ← available.required? Json.int32?
      observed := ← observed.required? Json.bool? }
  | _ => none

end Rollout

/-- Writes a key. -/
def ObjectKey.toJson (k : ObjectKey) : Json :=
  .obj [("namespace", .str k.ns), ("name", .str k.name)]

/-- Reads a key. -/
def ObjectKey.ofJson? (v : Json) : Option ObjectKey := do
  match ← Json.slots? ["namespace", "name"] v with
  | [ns, name] => return ⟨← ns.required? Json.text?, ← name.required? Json.text?⟩
  | _ => none

/-- What the operator asks the cluster to run. -/
structure WorkloadSpec where
  /-- The key, which is that of the job. -/
  key : ObjectKey
  /-- The labels of the workload, its selector and its pods. -/
  labels : StringMap String
  /-- The image of the job. -/
  image : String
  /-- The command of the job. -/
  command : List String
  /-- The expected number of runs, for information. -/
  jobCount : Option Int32
  /-- The job as owner: its deletion takes the workload with it. -/
  owner : Option OwnerReference
  deriving DecidableEq

namespace WorkloadSpec

/-- Writes what is asked for. -/
def toJson (d : WorkloadSpec) : Json :=
  .obj [("key", d.key.toJson), ("labels", d.labels.toJson), ("image", .str d.image),
    ("command", Json.texts d.command), ("job_count", Json.orNull (fun n => .int n.toInt) d.jobCount),
    ("owner", Json.orNull OwnerReference.toJson d.owner)]

/-- Reads what is asked for. -/
def ofJson? (v : Json) : Option WorkloadSpec := do
  match ← Json.slots? ["key", "labels", "image", "command", "job_count", "owner"] v with
  | [key, labels, image, command, jobCount, owner] =>
    return {
      key := ← key.required? ObjectKey.ofJson?
      labels := ← labels.required? StringMap.ofJson?
      image := ← image.required? Json.text?
      command := ← command.required? Json.texts?
      jobCount := ← jobCount.optional? Json.int32?
      owner := ← owner.optional? OwnerReference.ofJson? }
  | _ => none

end WorkloadSpec

end GoopOperator
