import GoopOperator.Proofs.Pass.Alone
import GoopOperator.Proofs.Store.Writes

/-!
# Failures that are not delivered

A failure may wait for a call that a pass does not make. A store is `hushed` if no failure waits
any more. A pass that is alone with a store and takes none of the failures that wait runs as it
does with the hushed store (`run_hushed`).
-/

namespace GoopOperator

namespace MemoryStore

/-- The store without the failures that wait. -/
def hushed (s : MemoryStore) : MemoryStore := { s with faults := fun _ => [] }

/-- What is done neither looks at the failures that wait nor changes them. -/
def Deaf (act : MemoryStore → Except StoreError α × MemoryStore) : Prop :=
  ∀ s, act s.hushed = ((act s).1, (act s).2.hushed) ∧ (act s).2.faults = s.faults

/-! ## Writes -/

/-- Writing a job. -/
theorem deaf_writeObject (key : ObjectKey) (g : Goop) : Deaf (writeObject key g) := by
  intro s
  have hcurrent : s.hushed.current key g = s.current key g := rfl
  unfold writeObject
  rw [hcurrent]
  cases s.current key g with
  | error e => exact ⟨rfl, rfl⟩
  | ok stored =>
    simp only
    -- the version that is given is the same
    have hstamp :
        s.hushed.advance.stamp (merged stored g) = s.advance.stamp (merged stored g) := rfl
    rw [hstamp]
    split
    · exact ⟨rfl, rfl⟩
    · split <;> exact ⟨rfl, rfl⟩

/-- Writing the status of a job. -/
theorem deaf_writeStatus (key : ObjectKey) (g : Goop) : Deaf (writeStatus key g) := by
  intro s
  have hcurrent : s.hushed.current key g = s.current key g := rfl
  have hlosses : s.hushed.lossesLeft = s.lossesLeft := rfl
  unfold writeStatus
  rw [hcurrent, hlosses]
  cases s.current key g with
  | error e => exact ⟨rfl, rfl⟩
  | ok stored =>
    cases s.lossesLeft with
    | zero => exact ⟨rfl, rfl⟩
    | succ n => exact ⟨rfl, rfl⟩

/-- Creating a workload. -/
theorem deaf_create (d : WorkloadSpec) : Deaf (create d) := by
  intro s
  have hworkloads : s.hushed.workloads = s.workloads := rfl
  have howner : s.hushed.isOwner d.key = s.isOwner d.key := rfl
  unfold create
  rw [hworkloads, howner]
  split
  · exact ⟨rfl, rfl⟩
  · split <;> exact ⟨rfl, rfl⟩

/-! ## Calls -/

/-- A call is turned away whatever the store holds, or served by what is deaf to failures. -/
theorem answer_served (c : StoreCall) :
    (∃ e, ∀ s : MemoryStore, s.answer c = (.error e, s)) ∨
      ∃ act, Deaf act ∧ ∀ s : MemoryStore, s.answer c = s.serve c.operation act := by
  cases c with
  | get key => exact Or.inr ⟨_, fun s => ⟨rfl, rfl⟩, fun s => s.answer_get_eq key⟩
  | getWorkload key => exact Or.inr ⟨_, fun s => ⟨rfl, rfl⟩, fun s => s.answer_getWorkload_eq key⟩
  | createWorkload d => exact Or.inr ⟨_, deaf_create d, fun s => s.answer_createWorkload_eq d⟩
  | update g =>
    cases hkey : g.key with
    | error e =>
      refine Or.inl ⟨.unprocessable e, fun s => ?_⟩
      rw [answer_update_eq, hkey]
    | ok key =>
      refine Or.inr ⟨_, deaf_writeObject key g, fun s => ?_⟩
      rw [answer_update_eq, hkey]
      rfl
  | updateStatus g =>
    cases hkey : g.key with
    | error e =>
      refine Or.inl ⟨.unprocessable e, fun s => ?_⟩
      rw [answer_updateStatus_eq, hkey]
    | ok key =>
      refine Or.inr ⟨_, deaf_writeStatus key g, fun s => ?_⟩
      rw [answer_updateStatus_eq, hkey]
      rfl

/-- A call takes at most the first of the failures that wait. -/
theorem faults_answer (s : MemoryStore) (c : StoreCall) (op : Operation) :
    (s.answer c).2.faults op <:+ s.faults op := by
  rcases answer_served c with ⟨e, h⟩ | ⟨act, hact, h⟩
  · simp [h]
  · rw [h]
    unfold serve charge
    -- at most the first of them is delivered
    cases hf : s.faults c.operation with
    | nil =>
      have hkept : (act (s.counted c.operation)).2.faults op = s.faults op :=
        congrFun (hact _).2 op
      simp [hkept]
    | cons e rest =>
      simp only
      split
      · rename_i hop
        rw [hop, hf]
        exact List.suffix_cons e rest
      · exact List.suffix_rfl

/-- A call that takes no failure is answered as by the hushed store. -/
theorem answer_hushed {s : MemoryStore} {c : StoreCall} (h : (s.answer c).2.faults = s.faults) :
    s.hushed.answer c = ((s.answer c).1, (s.answer c).2.hushed) := by
  rcases answer_served c with ⟨e, hc⟩ | ⟨act, hact, hc⟩
  · rw [hc, hc]
  · rw [hc] at h
    rw [hc, hc]
    unfold serve charge at h ⊢
    cases hf : s.faults c.operation with
    | nil =>
      simp only
      exact (hact (s.counted c.operation)).1
    | cons e rest =>
      -- the failure has been taken
      rw [hf] at h
      have hrest := congrFun h c.operation
      simp only [if_true] at hrest
      rw [hf] at hrest
      exact absurd hrest.symm (List.cons_ne_self e rest)

/-- Serving a call takes no more of the losses than doing it. -/
theorem lossesLeft_serve (s : MemoryStore) (op : Operation)
    {act : MemoryStore → Except StoreError α × MemoryStore}
    (hact : ∀ s, (act s).2.lossesLeft ≤ s.lossesLeft) :
    (s.serve op act).2.lossesLeft ≤ s.lossesLeft := by
  unfold serve charge
  cases s.faults op with
  | nil => exact hact (s.counted op)
  | cons e rest => exact Nat.le_refl _

/-- No call adds to the status writes that are to be lost. -/
theorem lossesLeft_answer (s : MemoryStore) (c : StoreCall) :
    (s.answer c).2.lossesLeft ≤ s.lossesLeft := by
  cases c with
  | get key => exact lossesLeft_serve s .get fun _ => Nat.le_refl _
  | getWorkload key => exact lossesLeft_serve s .getWorkload fun _ => Nat.le_refl _
  | createWorkload d =>
    refine lossesLeft_serve s .createWorkload fun s => ?_
    unfold create
    split
    · exact Nat.le_refl _
    · split <;> exact Nat.le_refl _
  | update g =>
    rw [answer_update_eq]
    cases g.key with
    | error e => exact Nat.le_refl _
    | ok key =>
      refine lossesLeft_serve s .update fun s => ?_
      unfold writeObject
      split
      · exact Nat.le_refl _
      · simp only
        split
        · exact Nat.le_refl _
        · split <;> exact Nat.le_refl _
  | updateStatus g =>
    rw [answer_updateStatus_eq]
    cases g.key with
    | error e => exact Nat.le_refl _
    | ok key =>
      refine lossesLeft_serve s .updateStatus fun s => ?_
      unfold writeStatus
      split
      · exact Nat.le_refl _
      · split
        · rename_i hlosses
          rw [hlosses]
          exact Nat.le_succ _
        · exact Nat.le_refl _

end MemoryStore

/-! ## Passes -/

/-- A bench with the hushed store. -/
def Bench.hushed (b : Bench) : Bench := { b with store := b.store.hushed }

namespace Pass

open Bench

variable {clock : Nat → Timestamp}

/-- A pass takes failures from the front of those that wait. -/
theorem faults_run (p : Pass α) (b : Bench) (op : Operation) :
    (p.run (respond clock calm) b).2.store.faults op <:+ b.store.faults op := by
  induction p generalizing b with
  | done r => exact List.suffix_rfl
  | perform e next ih =>
    cases e with
    | clock => exact ih _ _
    | work task => exact ih _ _
    | call c => exact (ih _ _).trans (b.store.faults_answer c op)

/-- A pass does not add to the status writes that are to be lost. -/
theorem lossesLeft_run (p : Pass α) (b : Bench) :
    (p.run (respond clock calm) b).2.store.lossesLeft ≤ b.store.lossesLeft := by
  induction p generalizing b with
  | done r => exact Nat.le_refl _
  | perform e next ih =>
    cases e with
    | clock => exact ih _ _
    | work task => exact ih _ _
    | call c => exact Nat.le_trans (ih _ _) (b.store.lossesLeft_answer c)

/-- A pass that takes no failure runs as with the hushed store. -/
theorem run_hushed {p : Pass α} {b : Bench}
    (h : ∀ op, (p.run (respond clock calm) b).2.store.faults op = b.store.faults op) :
    p.run (respond clock calm) b.hushed =
      ((p.run (respond clock calm) b).1, (p.run (respond clock calm) b).2.hushed) := by
  induction p generalizing b with
  | done r => rfl
  | perform e next ih =>
    cases e with
    | clock => exact ih _ h
    | work task => exact ih _ h
    | call c =>
      -- the failures that wait after the call are between those before it and those at the end
      have hcall : (b.store.answer c).2.faults = b.store.faults := by
        funext op
        refine (b.store.faults_answer c op).eq_of_length_le ?_
        rw [← h op]
        exact (faults_run (next _) _ op).length_le
      have hnext := ih ((b.store.answer c).1.mapError .store)
        (b := ⟨(b.store.answer c).2, b.calls + 1, b.looks⟩)
        fun op => (h op).trans (congrFun hcall op).symm
      refine Eq.trans ?_ hnext
      show (next ((b.store.hushed.answer c).1.mapError .store)).run (respond clock calm)
        ⟨(b.store.hushed.answer c).2, b.calls + 1, b.looks⟩ = _
      rw [MemoryStore.answer_hushed hcall]
      rfl

end Pass

end GoopOperator
