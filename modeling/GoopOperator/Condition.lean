import GoopOperator.Json.Record

/-!
# Conditions

One entry of the status log of a `Goop`: which aspect it speaks of, whether that holds, the lifecycle
state it belongs to, a message, and when its status last changed.
-/

namespace GoopOperator

/-- The aspect that a condition speaks of. -/
inductive ConditionType where
  /-- The job is available. -/
  | available
  /-- The job is degraded. -/
  | degraded
  deriving DecidableEq

/-- Whether a condition holds. -/
inductive ConditionStatus where
  /-- It holds. -/
  | yes
  /-- It does not hold. -/
  | no
  /-- It is not known whether it holds. -/
  | unknown
  deriving DecidableEq

/-- The lifecycle state that a condition belongs to. -/
inductive Reason where
  /-- The finalizer is being attached. -/
  | initialized
  /-- The workload exists. -/
  | deployed
  /-- The workload has run everywhere. -/
  | completed
  /-- The finalizer has been released. -/
  | finalized
  deriving DecidableEq

/-- The name of a condition type. -/
def ConditionType.name : ConditionType → String
  | .available => "Available"
  | .degraded => "Degraded"

/-- The name of a condition status. -/
def ConditionStatus.name : ConditionStatus → String
  | .yes => "True"
  | .no => "False"
  | .unknown => "Unknown"

/-- The name of a reason. -/
def Reason.name : Reason → String
  | .initialized => "Initialized"
  | .deployed => "Deployed"
  | .completed => "Completed"
  | .finalized => "Finalized"

/-- Some values with their names. -/
def named (name : α → String) (values : List α) : List (String × α) :=
  values.map fun x => (name x, x)

/-- Reads a condition type. -/
def ConditionType.ofJson? : Json → Option ConditionType :=
  Json.oneOf? (named name [.available, .degraded])

/-- Reads a condition status. -/
def ConditionStatus.ofJson? : Json → Option ConditionStatus :=
  Json.oneOf? (named name [.yes, .no, .unknown])

/-- Reads a reason. -/
def Reason.ofJson? : Json → Option Reason :=
  Json.oneOf? (named name [.initialized, .deployed, .completed, .finalized])

/-- A type is read back from its name. -/
theorem ConditionType.ofJson?_name (t : ConditionType) : ofJson? (.str t.name) = some t := by
  cases t <;> decide

/-- A status is read back from its name. -/
theorem ConditionStatus.ofJson?_name (s : ConditionStatus) : ofJson? (.str s.name) = some s := by
  cases s <;> decide

/-- A reason is read back from its name. -/
theorem Reason.ofJson?_name (r : Reason) : ofJson? (.str r.name) = some r := by
  cases r <;> decide

/-- An entry of the status log. -/
structure Condition where
  /-- The aspect that it speaks of. -/
  type : ConditionType
  /-- Whether it holds. -/
  status : ConditionStatus
  /-- The lifecycle state that it belongs to. -/
  reason : Reason
  /-- A message for people. -/
  message : String
  /-- When the status last changed, in the words of whoever wrote it. -/
  lastTransition : Option String
  deriving DecidableEq

namespace Condition

/-- A condition that has not been recorded yet. -/
def new (type : ConditionType) (status : ConditionStatus) (reason : Reason) (message : String) :
    Condition :=
  ⟨type, status, reason, message, none⟩

/-- A condition on availability. -/
def available : ConditionStatus → Reason → String → Condition := new .available

/-- A condition on degradation. -/
def degraded : ConditionStatus → Reason → String → Condition := new .degraded

/-- Writes a condition. -/
def toJson (c : Condition) : Json :=
  .obj ([("type", .str c.type.name), ("status", .str c.status.name), ("reason", .str c.reason.name),
    ("message", .str c.message)] ++ Json.memberIfSome "lastTransitionTime" .str c.lastTransition)

/-- Reads a condition. -/
def ofJson? (v : Json) : Option Condition := do
  match ← Json.slots? ["type", "status", "reason", "message", "lastTransitionTime"] v with
  | [type, status, reason, message, lastTransition] =>
    return {
      type := ← type.required? ConditionType.ofJson?
      status := ← status.required? ConditionStatus.ofJson?
      reason := ← reason.required? Reason.ofJson?
      message := ← message.defaulted? "" Json.text?
      lastTransition := ← lastTransition.omittable? Json.text? }
  | _ => none

/-- A condition is read back from what is written of it. -/
theorem ofJson?_toJson (c : Condition) : ofJson? c.toJson = some c := by
  obtain ⟨type, status, reason, message, lastTransition⟩ := c
  cases lastTransition <;>
    simp [ofJson?, toJson, Json.slots?, Json.memberIfSome, List.lookup_cons,
      Json.Slot.required?, Json.Slot.defaulted?, Json.Slot.omittable?, Json.nullable?, Json.text?,
      ConditionType.ofJson?_name, ConditionStatus.ofJson?_name, Reason.ofJson?_name]

end Condition

end GoopOperator
