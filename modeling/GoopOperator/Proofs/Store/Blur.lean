import GoopOperator.Proofs.Json.Metadata
import GoopOperator.Proofs.Ledger.Lifeline
import GoopOperator.Store.Basic
import GoopOperator.Workload.Plan

/-!
# What may be looked past

No pass decides anything by the version of a job, by the times in its ledger, by the fraction of a second
in which it was created or its deletion requested, or by its managed fields, nor by what a transient
failure says. A `Blur` says which of these are looked past; two jobs are alike
under a blur if they are the same when blurred (`Goop.blur`). What a pass looks at is the same in alike
jobs (`ledger_blur`, `plan_blur`), and what it does to alike jobs leaves them alike (`Ledger.set?_blur`,
`Goop.blur_addFinalizer`).
-/

namespace GoopOperator

/-- What is looked past. -/
structure Blur where
  /-- The version of a job. -/
  versions : Bool
  /-- The times in its ledger. -/
  times : Bool
  /-- What a job loses when it is sent: what has passed of a second in the times of its metadata, and
  whether a field set of its managed fields is `null` or absent. -/
  losses : Bool
  /-- What a transient failure of the store says. -/
  wording : Bool

namespace Blur

/-- A version, unless it is looked past. -/
def version (b : Blur) (v : Option String) : Option String := if b.versions then none else v

/-- A time, unless it is looked past. -/
def time (b : Blur) (t : String) : String := if b.times then "" else t

/-- A time of the metadata, as that of a whole second where the rest is looked past. -/
def stamp (b : Blur) (t : Option Timestamp) : Option Timestamp := if b.losses then t.map .whole else t

/-- Managed fields, as they are read back where the rest is looked past. -/
def managed (b : Blur) (es : Option (List ManagedFields)) : Option (List ManagedFields) :=
  if b.losses then es.map (·.map ManagedFields.settled) else es

end Blur

/-- A condition as it is seen under a blur. -/
def Condition.blur (b : Blur) (c : Condition) : Condition :=
  { c with lastTransition := c.lastTransition.map b.time }

/-! ## Ledgers -/

namespace Ledger

/-- A ledger as it is seen under a blur. -/
def blur (b : Blur) (l : Ledger) : Ledger := ⟨l.entries.map (Condition.blur b)⟩

/-- The marks are seen. -/
@[simp] theorem marks_blur (b : Blur) (l : Ledger) : (l.blur b).marks = l.marks := by
  unfold marks blur
  rw [List.map_map]
  rfl

@[simp] theorem isInitial_blur (b : Blur) (l : Ledger) : (l.blur b).isInitial = l.isInitial := by
  rw [isInitial_eq_marks, marks_blur, ← isInitial_eq_marks]

@[simp] theorem isComplete_blur (b : Blur) (l : Ledger) (r : Reason) :
    (l.blur b).isComplete r = l.isComplete r := by
  rw [isComplete_eq_marks, marks_blur, ← isComplete_eq_marks]

@[simp] theorem isIncomplete_blur (b : Blur) (l : Ledger) (r : Reason) :
    (l.blur b).isIncomplete r = l.isIncomplete r := by
  rw [isIncomplete_eq_marks, marks_blur, ← isIncomplete_eq_marks]

@[simp] theorem isState_blur (b : Blur) (l : Ledger) (r : Reason) :
    (l.blur b).isState r = l.isState r := by
  rw [isState_eq, isComplete_blur, isIncomplete_blur, ← isState_eq]

/-- The last entry of a type is seen as itself. -/
theorem latest?_blur (b : Blur) (l : Ledger) (t : ConditionType) :
    (l.blur b).latest? t = (l.latest? t).map (Condition.blur b) := by
  unfold latest? blur
  rw [← List.map_reverse, List.find?_map]
  rfl

/-- A new entry. -/
theorem push_blur (b : Blur) (l : Ledger) (c : Condition) (now : String) :
    (l.push c now).blur b = (l.blur b).push c (b.time now) := by
  unfold push blur
  rw [List.map_append]
  rfl

/-- A renewed entry. -/
theorem renewed_blur (b : Blur) (old c : Condition) (now : String) :
    (renewed old c now).blur b = renewed (old.blur b) c (b.time now) := by
  obtain ⟨type, status, reason, message, last⟩ := old
  unfold renewed Condition.blur
  cases last with
  | none => simp
  | some t => by_cases hs : status = c.status <;> simp [hs]

/-- Recording a condition is seen as recording it in what is seen. -/
theorem set?_blur (b : Blur) (l : Ledger) (c : Condition) (now : String) :
    (l.blur b).set? c (b.time now) = (l.set? c now).map (blur b) := by
  unfold set?
  rw [latest?_blur]
  cases l.latest? c.type with
  | none => exact congrArg some (push_blur b l c now).symm
  | some old =>
    have hentry : ((replaceLast (fun x => x.type = c.type) (renewed old c now) l.entries).map
          (Condition.blur b)) =
        replaceLast (fun x => x.type = c.type) (renewed (old.blur b) c (b.time now))
          (l.entries.map (Condition.blur b)) := by
      rw [← renewed_blur]
      exact map_replaceLast (p := fun x => x.type = c.type) (q := fun x => x.type = c.type)
        (Condition.blur b) (fun _ => rfl) _ _
    have hreason : (old.blur b).reason = old.reason := rfl
    have hstatus : (old.blur b).status = old.status := rfl
    have hmessage : (old.blur b).message = old.message := rfl
    simp only [Option.map_some, hreason, hstatus, hmessage]
    split
    · exact congrArg some (push_blur b l c now).symm
    · split
      · rfl
      · exact congrArg (fun entries => some (Ledger.mk entries)) hentry.symm

end Ledger

/-! ## Jobs -/

namespace Goop

/-- A job as it is seen under a blur. -/
def blur (b : Blur) (g : Goop) : Goop :=
  { g with
    metadata := { g.metadata with
      creationTimestamp := b.stamp g.metadata.creationTimestamp
      deletionTimestamp := b.stamp g.metadata.deletionTimestamp
      resourceVersion := b.version g.metadata.resourceVersion
      managedFields := b.managed g.metadata.managedFields }
    status := g.status.map fun s => ⟨s.conditions.blur b⟩ }

variable (b : Blur) (g : Goop)

@[simp] theorem ledger_blur : (g.blur b).ledger = g.ledger.blur b := by
  unfold ledger blur
  cases g.status <;> rfl

@[simp] theorem key_blur : (g.blur b).key = g.key := rfl

@[simp] theorem finalizers_blur : (g.blur b).finalizers = g.finalizers := rfl

@[simp] theorem hasFinalizer_blur (token : String) :
    (g.blur b).hasFinalizer token = g.hasFinalizer token := rfl

@[simp] theorem isDeletionRequested_blur :
    (g.blur b).isDeletionRequested = g.isDeletionRequested := by
  show (b.stamp g.metadata.deletionTimestamp).isSome = g.metadata.deletionTimestamp.isSome
  unfold Blur.stamp
  split
  · exact Option.isSome_map
  · rfl

/-- What is run for a job does not depend on what is looked past. -/
@[simp] theorem plan_blur (settings : Settings) :
    WorkloadSpec.plan (g.blur b) settings = WorkloadSpec.plan g settings := rfl

/-- One more finalizer. -/
theorem blur_addFinalizer (token : String) :
    (g.addFinalizer token).blur b = (g.blur b).addFinalizer token := by
  unfold addFinalizer
  rw [hasFinalizer_blur]
  split <;> rfl

/-- One finalizer less. -/
theorem blur_removeFinalizer (token : String) :
    (g.removeFinalizer token).blur b = (g.blur b).removeFinalizer token := rfl

variable {b g}

/-- What does not depend on what is looked past is the same in alike jobs. -/
theorem same_of_blur {g' : Goop} (h : g.blur b = g'.blur b) {f : Goop → β}
    (hf : ∀ x : Goop, f (x.blur b) = f x) : f g = f g' := by
  rw [← hf g, h, hf]

/-- A condition recorded in alike jobs, at times that are seen as the same, leaves alike jobs. -/
theorem blur_of_set? {g' : Goop} (h : g.blur b = g'.blur b) (c : Condition) {now now' : String}
    (hnow : b.time now = b.time now') :
    (g.ledger.set? c now).map (fun l => (g.withLedger l).blur b) =
      (g'.ledger.set? c now').map (fun l => (g'.withLedger l).blur b) := by
  have hledger : g.ledger.blur b = g'.ledger.blur b := by
    rw [← ledger_blur, h, ledger_blur]
  have hset : (g.ledger.set? c now).map (Ledger.blur b) =
      (g'.ledger.set? c now').map (Ledger.blur b) := by
    rw [← Ledger.set?_blur, ← Ledger.set?_blur, hledger, hnow]
  calc (g.ledger.set? c now).map (fun l => (g.withLedger l).blur b)
      = ((g.ledger.set? c now).map (Ledger.blur b)).map (g.blur b).withLedger := by
        rw [Option.map_map]
        rfl
    _ = ((g'.ledger.set? c now').map (Ledger.blur b)).map (g'.blur b).withLedger := by rw [hset, h]
    _ = (g'.ledger.set? c now').map (fun l => (g'.withLedger l).blur b) := by
        rw [Option.map_map]
        rfl

end Goop

end GoopOperator
