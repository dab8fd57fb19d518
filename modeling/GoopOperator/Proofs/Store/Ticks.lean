import GoopOperator.Store.Memory
import Mathlib.Logic.Function.Iterate

/-!
# Ticks of a rollout

A tick makes a workload ready on one more node, and available on one more, each up to a limit: what is
ready is limited by what is desired, and what is available by what is ready now. As a count only goes
up where a greater one is there, its sum is a count again (`raise?_eq`), so that ticks may be reckoned
with in the integers. What any number of them lead to follows from one tick by induction
(`toInt_ready_after`, `toInt_available_after`); where the counts are in order, the limits fall together
(`InOrder.after`), and the workload has run everywhere as soon as there have been as many ticks as
nodes were missing (`InOrder.isComplete_after`).
-/

namespace GoopOperator

/-! ## Counts -/

/-- A count below another one may go up by one. -/
theorem toInt_succ_of_lt {count limit : Int32} (h : count < limit) :
    (count + 1).toInt = count.toInt + 1 := by
  have hlow := count.le_toInt
  have hhigh := limit.toInt_lt
  rw [Int32.lt_iff_toInt_lt] at h
  rw [Int32.toInt_add]
  show (count.toInt + 1).bmod (2 ^ 32) = count.toInt + 1
  rw [Int.bmod_eq_of_le] <;> omega

namespace Rollout

/-- The next count, if there is one. -/
def succ? (count : Int32) : Option Int32 :=
  if count = Int32.maxValue then none else some (count + 1)

/-- A count that goes up by one below a limit. -/
def raise (count limit : Int32) : Int32 := if count < limit then count + 1 else count

/-- The same, with no answer where the sum is too great for a count. -/
def raise? (count limit : Int32) : Option Int32 :=
  if count < limit then succ? count else some count

/-- The next count is the one that is greater by one in the integers. -/
theorem succ?_eq_some_iff {count next : Int32} :
    succ? count = some next ↔ next.toInt = count.toInt + 1 := by
  unfold succ?
  by_cases hmax : count = Int32.maxValue
  · subst hmax
    have hnext := next.toInt_lt
    have hgreatest : Int32.maxValue.toInt = 2 ^ 31 - 1 := rfl
    rw [if_pos rfl]
    exact ⟨nofun, fun h => by omega⟩
  · have hlt : count < Int32.maxValue := by
      have hle : count.toInt ≤ Int32.maxValue.toInt := Int.le_of_lt_add_one count.toInt_lt
      have hne : count.toInt ≠ Int32.maxValue.toInt := fun h => hmax (Int32.toInt_inj.mp h)
      rw [Int32.lt_iff_toInt_lt]
      omega
    rw [if_neg hmax, Option.some.injEq, ← Int32.toInt_inj, toInt_succ_of_lt hlt]
    exact eq_comm

/-- Below a limit no sum is too great. -/
theorem raise?_eq (count limit : Int32) : raise? count limit = some (raise count limit) := by
  unfold raise? raise
  split
  · rename_i hlt
    exact succ?_eq_some_iff.mpr (toInt_succ_of_lt hlt)
  · rfl

/-- What a count that is raised is in the integers. -/
theorem toInt_raise (count limit : Int32) :
    (raise count limit).toInt = max count.toInt (min limit.toInt (count.toInt + 1)) := by
  unfold raise
  split
  · rename_i hlt
    rw [toInt_succ_of_lt hlt]
    rw [Int32.lt_iff_toInt_lt] at hlt
    omega
  · rename_i hnot
    rw [Int32.lt_iff_toInt_lt] at hnot
    omega

/-- A count that is raised does not go down, and goes up by one at most. -/
theorem raise_between (count limit : Int32) :
    count.toInt ≤ (raise count limit).toInt ∧ (raise count limit).toInt ≤ count.toInt + 1 := by
  rw [toInt_raise]
  omega

/-! ## One tick -/

/-- A tick, with no answer where one of its sums is too great for a count. -/
def advance? (w : Rollout) : Option Rollout := do
  let ready ← raise? w.ready w.desired
  let available ← raise? w.available ready
  return { w with ready, available }

variable (w : Rollout)

/-- A tick raises what is ready, and then what is available. -/
theorem advance_eq : w.advance =
    { w with
      ready := raise w.ready w.desired
      available := raise w.available (raise w.ready w.desired) } := by
  unfold advance raise
  dsimp only
  by_cases hready : w.ready < w.desired
  · rw [if_pos hready]
    dsimp only
    split <;> rfl
  · rw [if_neg hready]
    split <;> rfl

/-- No sum of a tick is too great, whatever the counts are. -/
theorem advance?_eq : w.advance? = some w.advance := by
  unfold advance?
  rw [raise?_eq, Option.bind_eq_bind, Option.bind_some, raise?_eq, Option.bind_some, advance_eq]
  rfl

/-! ## Any number of ticks -/

/-- The rollout after `k` ticks. -/
def after (k : ℕ) : Rollout := advance^[k] w

/-- One tick more. -/
theorem after_succ (k : ℕ) : w.after (k + 1) = (w.after k).advance :=
  Function.iterate_succ_apply' advance k w

/-- Ticks leave what is desired, and whether the counts are observed. -/
theorem desired_after (k : ℕ) :
    (w.after k).desired = w.desired ∧ (w.after k).observed = w.observed := by
  induction k with
  | zero => exact ⟨rfl, rfl⟩
  | succ k ih =>
    rw [after_succ, advance_eq]
    exact ih

/-- The counts after one tick more. -/
theorem counts_after_succ (k : ℕ) :
    (w.after (k + 1)).ready = raise (w.after k).ready w.desired ∧
      (w.after (k + 1)).available = raise (w.after k).available (w.after (k + 1)).ready := by
  rw [after_succ, advance_eq, ← (w.desired_after k).1]
  exact ⟨rfl, rfl⟩

/-- What is ready after some ticks. -/
theorem toInt_ready_after (k : ℕ) :
    (w.after k).ready.toInt = max w.ready.toInt (min w.desired.toInt (w.ready.toInt + k)) := by
  induction k with
  | zero =>
    show w.ready.toInt = _
    omega
  | succ k ih =>
    rw [(w.counts_after_succ k).1, toInt_raise, ih]
    omega

/-- What is available after some ticks: it goes up from where it was, and stays behind what is
ready by then. -/
theorem toInt_available_after (k : ℕ) :
    (w.after k).available.toInt =
      max w.available.toInt (min (w.after k).ready.toInt (w.available.toInt + k)) := by
  induction k with
  | zero =>
    show w.available.toInt = _
    omega
  | succ k ih =>
    -- what is ready goes up by one at most, so it does not leave behind what has caught up with it
    have hready := raise_between (w.after k).ready w.desired
    rw [← (w.counts_after_succ k).1] at hready
    rw [(w.counts_after_succ k).2, toInt_raise, ih]
    omega

/-- Ticks do not lower a count, and leave what is ready within what was ready or is desired. -/
theorem le_after_succ (k : ℕ) :
    (w.after k).ready ≤ (w.after (k + 1)).ready ∧
      (w.after k).available ≤ (w.after (k + 1)).available ∧
      (w.after k).ready.toInt ≤ max w.ready.toInt w.desired.toInt := by
  obtain ⟨hready, havailable⟩ := w.counts_after_succ k
  refine ⟨?_, ?_, ?_⟩
  · rw [Int32.le_iff_toInt_le, hready]
    exact (raise_between _ _).1
  · rw [Int32.le_iff_toInt_le, havailable]
    exact (raise_between _ _).1
  · rw [w.toInt_ready_after k]
    omega

/-! ## Counts in order -/

/-- No more nodes are available than are ready, and no more are ready than are desired. -/
structure InOrder : Prop where
  /-- What is available is ready. -/
  available_le : w.available ≤ w.ready
  /-- What is ready is desired. -/
  ready_le : w.ready ≤ w.desired

namespace InOrder

variable {w} (h : w.InOrder) (k : ℕ)

include h

/-- After some ticks each count has gone up by their number, or is what is desired. -/
theorem toInt_after :
    (w.after k).ready.toInt = min w.desired.toInt (w.ready.toInt + k) ∧
      (w.after k).available.toInt = min w.desired.toInt (w.available.toInt + k) := by
  have hready := w.toInt_ready_after k
  have havailable := w.toInt_available_after k
  have hle := Int32.le_iff_toInt_le.mp h.available_le
  have hle' := Int32.le_iff_toInt_le.mp h.ready_le
  omega

/-- Ticks keep the order. -/
theorem after : (w.after k).InOrder := by
  have hle := Int32.le_iff_toInt_le.mp h.available_le
  obtain ⟨hready, havailable⟩ := h.toInt_after k
  constructor
  · rw [Int32.le_iff_toInt_le]
    omega
  · rw [Int32.le_iff_toInt_le, (w.desired_after k).1]
    omega

/-- The workload has run everywhere from that tick on with which as many nodes have become available
as were missing. -/
theorem isComplete_after (hobserved : w.observed = true) :
    (w.after k).isComplete = true ↔ w.desired.toInt - w.available.toInt ≤ k := by
  have hle := Int32.le_iff_toInt_le.mp h.available_le
  obtain ⟨hready, havailable⟩ := h.toInt_after k
  obtain ⟨hdesired, hobserved'⟩ := w.desired_after k
  unfold isComplete
  rw [decide_eq_true_iff, hobserved', hdesired, ← Int32.toInt_inj, ← Int32.toInt_inj, hready,
    havailable]
  constructor
  · rintro ⟨-, -, hall⟩
    omega
  · intro hmissing
    refine ⟨hobserved, ?_, ?_⟩ <;> omega

end InOrder

end Rollout

/-! ## Ticks in a store -/

namespace Table

variable {t : Table α} {key : ObjectKey} {x : α}

/-- Putting what is there changes nothing. -/
theorem insert_of_get? (h : t.get? key = some x) : t.insert key x = t := by
  refine Table.ext fun k => ?_
  rw [get?_insert]
  split
  · rename_i hk
    rw [hk, h]
  · rfl

/-- What is put last stays. -/
theorem insert_insert (y : α) : (t.insert key x).insert key y = t.insert key y := by
  refine Table.ext fun k => ?_
  rw [get?_insert, get?_insert, get?_insert]
  split <;> rfl

end Table

namespace MemoryStore

/-- The store after `k` ticks of the workload at a key. -/
def ticked (s : MemoryStore) (key : ObjectKey) (k : ℕ) : MemoryStore :=
  (fun s => (s.advanceRollout key).2)^[k] s

variable {s : MemoryStore} {key : ObjectKey} {w : StoredWorkload}

/-- A tick answers with the rollout that it leaves, and leaves all else. -/
theorem advanceRollout_eq (hw : s.workloads.get? key = some w) :
    s.advanceRollout key =
      (some w.rollout.advance,
        { s with workloads := s.workloads.insert key { w with rollout := w.rollout.advance } }) := by
  unfold advanceRollout adjustRollout
  rw [hw]

/-- Some ticks leave the rollout that they lead to, and leave all else. -/
theorem ticked_eq (hw : s.workloads.get? key = some w) (k : ℕ) :
    s.ticked key k =
      { s with workloads := s.workloads.insert key { w with rollout := w.rollout.after k } } := by
  induction k with
  | zero =>
    have hsame : s.workloads.insert key { w with rollout := w.rollout.after 0 } = s.workloads :=
      Table.insert_of_get? hw
    rw [hsame]
    rfl
  | succ k ih =>
    have hthere : (s.ticked key k).workloads.get? key =
        some { w with rollout := w.rollout.after k } := by
      rw [ih]
      exact if_pos rfl
    calc s.ticked key (k + 1)
        = ((s.ticked key k).advanceRollout key).2 := Function.iterate_succ_apply' _ k s
      _ = { s.ticked key k with
            workloads := (s.ticked key k).workloads.insert key
              { w with rollout := (w.rollout.after k).advance } } := by rw [advanceRollout_eq hthere]
      _ = { s with workloads := s.workloads.insert key { w with rollout := w.rollout.after (k + 1) } } := by
          rw [ih, Rollout.after_succ]
          exact congrArg (fun t => { s with workloads := t }) (Table.insert_insert _)

/-- Ticks of a workload change nothing but its rollout, and each one answers with the rollout that it
leaves; none of their sums is too great for a count. They leave what is desired and whether the counts
are observed, they lower no count, and what is ready stays within what was ready or is desired. Where
the counts are in order they stay in order, and after `k` ticks each count has gone up by `k` or is
what is desired; the workload, if it is observed, has run everywhere exactly from that tick on by
which as many nodes have become available as were missing. -/
theorem ticks_raise_counts (hw : s.workloads.get? key = some w) (k : ℕ) :
    let r := w.rollout.after k
    let next := w.rollout.after (k + 1)
    (s.ticked key k = { s with workloads := s.workloads.insert key { w with rollout := r } } ∧
        ((s.ticked key k).advanceRollout key).1 = some next ∧ r.advance? = some next) ∧
      (r.desired = w.rollout.desired ∧ r.observed = w.rollout.observed) ∧
      (r.ready ≤ next.ready ∧ r.available ≤ next.available ∧
        r.ready.toInt ≤ max w.rollout.ready.toInt w.rollout.desired.toInt) ∧
      (w.rollout.InOrder → r.InOrder ∧
        r.ready.toInt = min w.rollout.desired.toInt (w.rollout.ready.toInt + k) ∧
        r.available.toInt = min w.rollout.desired.toInt (w.rollout.available.toInt + k) ∧
        (w.rollout.observed = true →
          (r.isComplete = true ↔ w.rollout.desired.toInt - w.rollout.available.toInt ≤ k))) := by
  have hstore := ticked_eq hw k
  have hthere : (s.ticked key k).workloads.get? key =
      some { w with rollout := w.rollout.after k } := by
    rw [hstore]
    exact if_pos rfl
  refine ⟨⟨hstore, ?_, ?_⟩, w.rollout.desired_after k, w.rollout.le_after_succ k, fun h => ?_⟩
  · rw [advanceRollout_eq hthere, Rollout.after_succ]
  · rw [Rollout.advance?_eq, Rollout.after_succ]
  · obtain ⟨hready, havailable⟩ := h.toInt_after k
    exact ⟨h.after k, hready, havailable, h.isComplete_after k⟩

/-- A workload that should run on as many nodes as can be counted, and misses one to be ready and two to
be available. -/
def vast : StoredWorkload where
  spec := ⟨⟨"jobs", "nightly"⟩, .empty, "busybox:1.36", ["true"], none, none⟩
  rollout := ⟨Int32.maxValue, Int32.maxValue - 1, Int32.maxValue - 2, true⟩

/-- A store of that workload. -/
def vastStore : MemoryStore :=
  { MemoryStore.empty 1 with workloads := (∅ : Table StoredWorkload).insert vast.spec.key vast }

/-- It has not run everywhere after one tick, but after two, and a third one leaves it as it is. -/
theorem sample_ticked :
    vast.rollout.InOrder ∧
      (vast.rollout.after 1).isComplete = false ∧
      (vast.rollout.after 2).isComplete = true ∧
      ((vastStore.ticked vast.spec.key 2).advanceRollout vast.spec.key).1 =
        some ⟨Int32.maxValue, Int32.maxValue, Int32.maxValue, true⟩ := by
  have hthere : vastStore.workloads.get? vast.spec.key = some vast := rfl
  have horder : vast.rollout.InOrder := ⟨by decide, by decide⟩
  obtain ⟨-, -, -, hone⟩ := ticks_raise_counts hthere 1
  obtain ⟨⟨-, hanswer, -⟩, -, -, htwo⟩ := ticks_raise_counts hthere 2
  obtain ⟨-, -, -, hcomplete⟩ := hone horder
  obtain ⟨-, -, -, hcomplete'⟩ := htwo horder
  refine ⟨horder, Bool.eq_false_iff.mpr fun h => ?_, (hcomplete' rfl).mpr (by decide), hanswer⟩
  exact absurd ((hcomplete rfl).mp h) (by decide)

end MemoryStore

end GoopOperator
