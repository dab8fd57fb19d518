import GoopOperator.Proofs.Pass.Quiet

/-!
# Calls that are refused

A store in memory may refuse a call at several points, and one of them lies behind the point where a
version has been used up. Wherever it is, the store does not change: `Refused` lists the little that may
have moved, and `refused_answer` says that no refusal does more.

A failure that waits is delivered to the next call of its operation, and to no other. A call whose job
has no key is turned away before it takes one.
-/

namespace GoopOperator

/-- The key that a call is made for, if it can be told. -/
def StoreCall.key : StoreCall → Except KeyError ObjectKey
  | .get key | .getWorkload key => .ok key
  | .update goop | .updateStatus goop => goop.key
  | .createWorkload d => .ok d.key

namespace MemoryStore

/-- What is left of a store by a call of an operation that is refused: nothing of it has moved but the
operation's own count, the failure that may have waited for it, and the version. -/
structure Refused (s s' : MemoryStore) (op : Operation) : Prop where
  /-- The jobs are the same. -/
  goops : s'.goops = s.goops
  /-- So are the workloads. -/
  workloads : s'.workloads = s.workloads
  /-- So is the number of status writes still to be lost. -/
  lossesLeft : s'.lossesLeft = s.lossesLeft
  /-- New workloads are for as many nodes as before. -/
  nodes : s'.nodes = s.nodes
  /-- One more version may have been used up. -/
  version : s'.version = s.version ∨ s'.version = s.version + 1
  /-- One more call of the operation may have been counted. -/
  count : s'.calls op = s.calls op ∨ s'.calls op = s.calls op + 1
  /-- No call of another operation has been counted. -/
  counts : ∀ o, o ≠ op → s'.calls o = s.calls o
  /-- The first failure that waited for the operation may have been taken. -/
  fault : s'.faults op = s.faults op ∨ ∃ e, s.faults op = e :: s'.faults op
  /-- All those that wait for other operations still do. -/
  faults : ∀ o, o ≠ op → s'.faults o = s.faults o

/-- What is done either succeeds or leaves the store, but for a version. -/
def Atomic (act : MemoryStore → Except StoreError α × MemoryStore) : Prop :=
  ∀ s e, (act s).1 = .error e → (act s).2 = s ∨ (act s).2 = s.advance

/-! ## What is done in a call -/

/-- What only looks at the store leaves it. -/
theorem atomic_look (f : MemoryStore → Except StoreError α) : Atomic fun s => (f s, s) :=
  fun _ _ _ => .inl rfl

/-- Writing a job. -/
theorem atomic_writeObject (key : ObjectKey) (g : Goop) : Atomic (writeObject key g) := by
  intro s e h
  unfold writeObject at h ⊢
  cases hcurrent : s.current key g with
  | error e => exact .inl rfl
  | ok stored =>
    rw [hcurrent] at h
    simp only at h ⊢
    split
    · -- a new finalizer is refused behind the version
      exact .inr rfl
    · rename_i hnew
      rw [if_neg hnew] at h
      split at h <;> cases h

/-- Writing the status of a job. -/
theorem atomic_writeStatus (key : ObjectKey) (g : Goop) : Atomic (writeStatus key g) := by
  intro s e h
  unfold writeStatus at h ⊢
  cases hcurrent : s.current key g with
  | error e => exact .inl rfl
  | ok stored =>
    rw [hcurrent] at h
    simp only at h
    split at h <;> cases h

/-- Creating a workload. -/
theorem atomic_create (d : WorkloadSpec) : Atomic (create d) := by
  intro s e h
  unfold create at h ⊢
  split
  · exact .inl rfl
  · rename_i habsent
    rw [if_neg habsent] at h
    split
    · rename_i howner
      rw [if_pos howner] at h
      cases h
    · exact .inl rfl

/-! ## Calls -/

section calls

variable {s : MemoryStore} {c : StoreCall} {op : Operation} {e : StoreError}

/-- A call that can tell no key is turned away, and the store stays as it is. -/
theorem answer_of_key_error {e : KeyError} (hc : c.key = .error e) (s : MemoryStore) :
    s.answer c = (.error (.unprocessable e), s) := by
  cases c with
  | update g =>
    rw [answer_update_eq, show g.key = .error e from hc]
  | updateStatus g =>
    rw [answer_updateStatus_eq, show g.key = .error e from hc]
  | _ => cases hc

/-- Any other call is served. What is done in it does not look at the failures that wait, and leaves the
store if it does not succeed. -/
theorem answer_of_key_ok {key : ObjectKey} (hc : c.key = .ok key) :
    ∃ act, Deaf act ∧ Atomic act ∧ ∀ s : MemoryStore, s.answer c = s.serve c.operation act := by
  cases c with
  | get k => exact ⟨_, fun s => ⟨rfl, rfl⟩, atomic_look _, fun s => s.answer_get_eq k⟩
  | getWorkload k => exact ⟨_, fun s => ⟨rfl, rfl⟩, atomic_look _, fun s => s.answer_getWorkload_eq k⟩
  | createWorkload d => exact ⟨_, deaf_create d, atomic_create d, fun s => s.answer_createWorkload_eq d⟩
  | update g =>
    refine ⟨_, deaf_writeObject key g, atomic_writeObject key g, fun s => ?_⟩
    rw [answer_update_eq, show g.key = .ok key from hc]
    rfl
  | updateStatus g =>
    refine ⟨_, deaf_writeStatus key g, atomic_writeStatus key g, fun s => ?_⟩
    rw [answer_updateStatus_eq, show g.key = .ok key from hc]
    rfl

/-- A call of an operation for which no failure waits is counted and done. -/
theorem serve_of_calm {act : MemoryStore → Except StoreError α × MemoryStore}
    (hs : s.faults op = []) : s.serve op act = act (s.counted op) := by
  unfold serve charge
  rw [hs]

/-- A call of an operation for which failures wait is counted, and the first of them is the answer. -/
theorem serve_of_fault {act : MemoryStore → Except StoreError α × MemoryStore}
    {rest : List StoreError} (hs : s.faults op = e :: rest) :
    s.serve op act = (.error e,
      { s.counted op with faults := fun o => if o = op then rest else s.faults o }) := by
  unfold serve charge
  rw [hs]

/-- A store that has counted a call, and perhaps given a version, is as if it had refused it. -/
theorem refused_counted (s : MemoryStore) (op : Operation) :
    s.Refused (s.counted op) op ∧ s.Refused (s.counted op).advance op := by
  have hcount : (s.counted op).calls op = s.calls op + 1 := if_pos rfl
  have hcounts : ∀ o, o ≠ op → (s.counted op).calls o = s.calls o := fun o ho => if_neg ho
  exact ⟨⟨rfl, rfl, rfl, rfl, .inl rfl, .inr hcount, hcounts, .inl rfl, fun _ _ => rfl⟩,
    ⟨rfl, rfl, rfl, rfl, .inr rfl, .inr hcount, hcounts, .inl rfl, fun _ _ => rfl⟩⟩

/-- A call that is refused leaves the store as it was. -/
theorem refused_answer (h : (s.answer c).1 = .error e) : s.Refused (s.answer c).2 c.operation := by
  cases hc : c.key with
  | error e =>
    rw [answer_of_key_error hc]
    exact ⟨rfl, rfl, rfl, rfl, .inl rfl, .inl rfl, fun _ _ => rfl, .inl rfl, fun _ _ => rfl⟩
  | ok key =>
    obtain ⟨act, -, hatomic, hserve⟩ := answer_of_key_ok hc
    obtain ⟨hcounted, hadvanced⟩ := s.refused_counted c.operation
    rw [hserve] at h ⊢
    cases hfaults : s.faults c.operation with
    | nil =>
      rw [serve_of_calm hfaults] at h ⊢
      rcases hatomic _ e h with hsame | hsame
      · rw [hsame]
        exact hcounted
      · rw [hsame]
        exact hadvanced
    | cons first rest =>
      rw [serve_of_fault hfaults]
      refine ⟨rfl, rfl, rfl, rfl, .inl rfl, hcounted.count, hcounted.counts, .inr ⟨first, ?_⟩,
        fun o ho => if_neg ho⟩
      rw [hfaults]
      exact congrArg _ (if_pos rfl).symm

/-- A call that can tell its key is answered with the first of the failures that wait for its operation,
and takes that one. -/
theorem answer_of_fault {key : ObjectKey} {rest : List StoreError} (hc : c.key = .ok key)
    (hs : s.faults c.operation = e :: rest) :
    (s.answer c).1 = .error e ∧
      (s.answer c).2.faults = fun o => if o = c.operation then rest else s.faults o := by
  obtain ⟨act, -, -, hserve⟩ := answer_of_key_ok hc
  rw [hserve, serve_of_fault hs]
  exact ⟨rfl, rfl⟩

/-- A call that can tell no key, or for whose operation no failure waits, takes none. -/
theorem faults_answer_of_calm (h : s.faults c.operation = [] ∨ ∃ e, c.key = .error e) :
    (s.answer c).2.faults = s.faults := by
  cases hc : c.key with
  | error e => rw [answer_of_key_error hc]
  | ok key =>
    rcases h with hs | ⟨e, he⟩
    · obtain ⟨act, hdeaf, -, hserve⟩ := answer_of_key_ok hc
      rw [hserve, serve_of_calm hs]
      exact (hdeaf _).2
    · exact nomatch hc.symm.trans he

end calls

end MemoryStore

end GoopOperator
