import GoopOperator.DaemonSet.Manifest

/-!
# What the cluster reports of a DaemonSet

The operator reads back the metadata of a DaemonSet and the counts of its rollout. Counts that were
published for an older generation of the DaemonSet do not count as observed.
-/

namespace GoopOperator

/-- The published status of a DaemonSet, as far as the operator uses it. -/
structure DaemonSetStatus where
  /-- The number of nodes that should run it. -/
  desired : Int32
  /-- The number of nodes where it is ready. -/
  ready : Int32
  /-- The number of nodes where it is available. -/
  available : Option Int32
  /-- The generation that the status was published for. -/
  observedGeneration : Option Int64
  deriving DecidableEq

/-- A DaemonSet as the cluster reports it. -/
structure ObservedDaemonSet where
  /-- The object's metadata. -/
  metadata : ObjectMeta
  /-- The published status. -/
  status : Option DaemonSetStatus
  deriving DecidableEq

namespace DaemonSetStatus

/-- Whether every condition of the status can be read. -/
def areConditions? : Json → Option (List Unit) :=
  Json.list? fun v => do
    let members ← Json.members? v
    let _ ← Json.lastMember? members "lastTransitionTime" Timestamp.ofJson?
    let _ ← ["message", "reason", "status", "type"].mapM fun name =>
      Json.lastMember? members name Json.text?

/-- Reads a status. A count that is absent is 0, except those that are optional. -/
def ofJson? (v : Json) : Option DaemonSetStatus := do
  let members ← Json.members? v
  let count (name : String) := Json.lastMember? members name Json.int32?
  let _ ← ["collisionCount", "currentNumberScheduled", "numberMisscheduled", "numberUnavailable",
    "updatedNumberScheduled"].mapM count
  let _ ← Json.lastMember? members "conditions" areConditions?
  return {
    desired := (← count "desiredNumberScheduled").getD 0
    ready := (← count "numberReady").getD 0
    available := ← count "numberAvailable"
    observedGeneration := ← Json.lastMember? members "observedGeneration" Json.int64? }

end DaemonSetStatus

namespace ObservedDaemonSet

/-- Reads a DaemonSet. Where it names its API version and its kind, they have to be right. -/
def ofJson? (v : Json) : Option ObservedDaemonSet := do
  let members ← Json.members? v
  guard <| members.all fun m =>
    (m.1 ≠ "apiVersion" || m.2 = .str DaemonSet.apiVersion) &&
    (m.1 ≠ "kind" || m.2 = .str DaemonSet.kind)
  let _ ← Json.lastMember? members "spec" Json.members?
  return {
    metadata := (← Json.lastMember? members "metadata" ObjectMeta.ofJson?).getD ∅
    status := ← Json.lastMember? members "status" DaemonSetStatus.ofJson? }

/-- How far the DaemonSet has got. -/
def workload (r : ObservedDaemonSet) : Rollout :=
  match r.status with
  | none => .unobserved
  | some s =>
    { desired := s.desired
      ready := s.ready
      available := s.available.getD 0
      observed := match s.observedGeneration, r.metadata.generation with
        -- without a generation there is no older one
        | some seen, some current => current ≤ seen
        | some _, none => true
        | none, _ => false }

end ObservedDaemonSet

end GoopOperator
