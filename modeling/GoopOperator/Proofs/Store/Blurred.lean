import GoopOperator.Proofs.Pass.Alike
import GoopOperator.Proofs.Store.Writes

/-!
# Blurred stores

A store answers by nothing but the versions of its jobs, their finalizers, their deletion requests and
their ids. So as long as the versions are seen, a store that is blurred answers a blurred call with
the blurred answer, and is left blurred (`answer_update_blur` and its like). Two passes over stores
that are the same when blurred therefore go the same way (`couples_of_serves`).
-/

namespace GoopOperator

namespace MemoryStore

/-- A store as it is seen under a blur. -/
def blur (b : Blur) (s : MemoryStore) : MemoryStore :=
  { s with goops := ⟨fun k => (s.goops.get? k).map (Goop.blur b)⟩ }

variable {b : Blur}

/-- What is done to a store is done to what is seen of it too, where `seen` is that of a store and `view`
that of an answer. -/
def Respects (seen : MemoryStore → MemoryStore) (view : α → α)
    (act act' : MemoryStore → Except StoreError α × MemoryStore) : Prop :=
  ∀ s : MemoryStore, act' (seen s) = ((act s).1.map view, seen (act s).2)

/-- What is served respects a view of stores if what is done for it does, where failures are seen. -/
theorem Respects.serve {seen : MemoryStore → MemoryStore} {view : α → α} {op : Operation}
    {act act' : MemoryStore → Except StoreError α × MemoryStore} (h : Respects seen view act act')
    (hseen : ∀ s : MemoryStore, (seen s).charge op = ((s.charge op).1, seen (s.charge op).2)) :
    Respects seen view (serve · op act) (serve · op act') := by
  intro s
  simp only [MemoryStore.serve, hseen]
  cases s.charge op with
  | mk failure s =>
    cases failure with
    | none => exact h s
    | some e => rfl

/-! ## Objects -/

/-- A job put into the store. -/
theorem blur_put (s : MemoryStore) (key : ObjectKey) (g : Goop) :
    (s.put key g).blur b = (s.blur b).put key (g.blur b) := by
  have hgoops : ((s.put key g).blur b).goops = ((s.blur b).put key (g.blur b)).goops := by
    refine Table.ext fun k => ?_
    show (if k = key then some g else s.goops.get? k).map (Goop.blur b) =
      if k = key then some (g.blur b) else (s.goops.get? k).map (Goop.blur b)
    split <;> rfl
  exact congrArg (fun goops => { s with goops }) hgoops

/-- A job that is purged. -/
theorem blur_purge (s : MemoryStore) (key : ObjectKey) :
    (s.purge key).blur b = (s.blur b).purge key := by
  have hgoops : ((s.purge key).blur b).goops = ((s.blur b).purge key).goops := by
    refine Table.ext fun k => ?_
    show (if k = key then none else s.goops.get? k).map (Goop.blur b) =
      if k = key then none else (s.goops.get? k).map (Goop.blur b)
    split <;> rfl
  exact congrArg (fun goops => { s.purge key with goops }) hgoops

/-- The last version given to a job, where versions are seen. -/
theorem blur_stamp (hb : b.versions = false) (s : MemoryStore) (g : Goop) :
    (s.stamp g).blur b = (s.blur b).stamp (g.blur b) := by
  unfold stamp Goop.blur Blur.version
  rw [hb]
  rfl

/-- The job that a write is based on, where versions are seen. -/
theorem current_blur (hb : b.versions = false) (s : MemoryStore) (key : ObjectKey) (g : Goop) :
    (s.blur b).current key (g.blur b) = (s.current key g).map (Goop.blur b) := by
  have hversion (x : Goop) :
      (x.blur b).metadata.resourceVersion = x.metadata.resourceVersion := by
    unfold Goop.blur Blur.version
    rw [hb]
    rfl
  have hgoops : (s.blur b).goops.get? key = (s.goops.get? key).map (Goop.blur b) := rfl
  unfold current
  rw [hgoops]
  cases s.goops.get? key with
  | none => rfl
  | some stored =>
    simp only [Option.map_some, hversion]
    split <;> rfl

/-- The owner of a workload. -/
theorem isOwner_blur (s : MemoryStore) (key : ObjectKey) :
    (s.blur b).isOwner key = s.isOwner key := by
  funext owner
  show ((s.goops.get? key).map (Goop.blur b)).any _ = _
  unfold isOwner
  cases s.goops.get? key <;> rfl

/-! ## Calls -/

/-- The failures that wait for a call are seen. -/
theorem charge_blur (op : Operation) (s : MemoryStore) :
    (s.blur b).charge op = ((s.charge op).1, (s.charge op).2.blur b) := by
  have hfaults : (s.blur b).faults = s.faults := rfl
  unfold charge
  rw [hfaults]
  cases s.faults op <;> rfl

/-- Writing a job. -/
theorem respects_writeObject (hb : b.versions = false) (key : ObjectKey) (g : Goop) :
    Respects (blur b) (Goop.blur b) (writeObject key g) (writeObject key (g.blur b)) := by
  intro s
  unfold writeObject
  rw [current_blur hb]
  cases s.current key g with
  | error e => rfl
  | ok stored =>
    -- what is looked at and what is written are the same, blurred
    have hafter : (s.blur b).advance.stamp (merged (stored.blur b) (g.blur b)) =
        (s.advance.stamp (merged stored g)).blur b :=
      (blur_stamp hb s.advance (merged stored g)).symm
    simp only [Except.map, hafter, Goop.isDeletionRequested_blur, Goop.finalizers_blur]
    split
    · rfl
    split
    · exact Prod.ext rfl (blur_purge s.advance key).symm
    · exact Prod.ext rfl (blur_put s.advance key _).symm

/-- Writing the status of a job. -/
theorem respects_writeStatus (hb : b.versions = false) (key : ObjectKey) (g : Goop) :
    Respects (blur b) (Goop.blur b) (writeStatus key g) (writeStatus key (g.blur b)) := by
  intro s
  have hlosses : (s.blur b).lossesLeft = s.lossesLeft := rfl
  unfold writeStatus
  rw [current_blur hb, hlosses]
  cases s.current key g with
  | error e => rfl
  | ok stored =>
    have hafter : (s.blur b).advance.stamp { stored.blur b with status := (g.blur b).status } =
        (s.advance.stamp { stored with status := g.status }).blur b :=
      (blur_stamp hb s.advance { stored with status := g.status }).symm
    simp only [Except.map]
    cases s.lossesLeft with
    | succ n => rfl
    | zero => exact Prod.ext (congrArg Except.ok hafter) (by
        simp only [hafter]
        exact (blur_put s.advance key _).symm)

/-- Creating a workload. -/
theorem respects_create (d : WorkloadSpec) : Respects (blur b) id (create d) (create d) := by
  intro s
  have hworkloads : (s.blur b).workloads = s.workloads := rfl
  unfold create
  rw [isOwner_blur, hworkloads]
  split
  · rfl
  · split <;> rfl

variable (s : MemoryStore)

/-- Reading a job. -/
theorem answer_get_blur (key : ObjectKey) :
    (s.blur b).answer (.get key) =
      ((s.answer (.get key)).1.map (Goop.blur b), (s.answer (.get key)).2.blur b) := by
  rw [answer_get_eq, answer_get_eq]
  refine Respects.serve (fun s => ?_) (charge_blur .get) s
  show (((s.goops.get? key).map (Goop.blur b)).elim _ _, _) = _
  cases s.goops.get? key <;> rfl

/-- Writing a job, where versions are seen. -/
theorem answer_update_blur (hb : b.versions = false) (g : Goop) :
    (s.blur b).answer (.update (g.blur b)) =
      ((s.answer (.update g)).1.map (Goop.blur b), (s.answer (.update g)).2.blur b) := by
  rw [answer_update_eq, answer_update_eq, Goop.key_blur]
  cases g.key with
  | error e => rfl
  | ok key => exact (respects_writeObject hb key g).serve (charge_blur .update) s

/-- Writing the status of a job, where versions are seen. -/
theorem answer_updateStatus_blur (hb : b.versions = false) (g : Goop) :
    (s.blur b).answer (.updateStatus (g.blur b)) =
      ((s.answer (.updateStatus g)).1.map (Goop.blur b), (s.answer (.updateStatus g)).2.blur b) := by
  rw [answer_updateStatus_eq, answer_updateStatus_eq, Goop.key_blur]
  cases g.key with
  | error e => rfl
  | ok key => exact (respects_writeStatus hb key g).serve (charge_blur .updateStatus) s

/-- Looking at a workload. -/
theorem answer_getWorkload_blur (key : ObjectKey) :
    (s.blur b).answer (.getWorkload key) =
      ((s.answer (.getWorkload key)).1, (s.answer (.getWorkload key)).2.blur b) := by
  have hserved : (s.blur b).answer (.getWorkload key) =
      ((s.answer (.getWorkload key)).1.map id, (s.answer (.getWorkload key)).2.blur b) := by
    rw [answer_getWorkload_eq, answer_getWorkload_eq]
    refine Respects.serve (fun s => ?_) (charge_blur .getWorkload) s
    have hworkloads : (s.blur b).workloads = s.workloads := rfl
    rw [hworkloads]
    cases s.workloads.get? key <;> rfl
  rw [hserved, Except.map_id, id]

/-- Creating a workload. -/
theorem answer_createWorkload_blur (d : WorkloadSpec) :
    (s.blur b).answer (.createWorkload d) =
      ((s.answer (.createWorkload d)).1, (s.answer (.createWorkload d)).2.blur b) := by
  have hserved : (s.blur b).answer (.createWorkload d) =
      ((s.answer (.createWorkload d)).1.map id, (s.answer (.createWorkload d)).2.blur b) :=
    (respects_create d).serve (charge_blur .createWorkload) s
  rw [hserved, Except.map_id, id]

end MemoryStore

/-! ## Passes -/

/-- Calls are answered by a store in memory, which nothing else changes. -/
structure Serves (respond : (e : Effect) → σ → e.Answer × σ) (store : σ → MemoryStore) : Prop where
  /-- The answer to a call. -/
  answer : ∀ c s, (respond (.call c) s).1 = ((store s).answer c).1.mapError .store
  /-- The store after a call. -/
  after : ∀ c s, store (respond (.call c) s).2 = ((store s).answer c).2
  /-- The store after a look at the time of day. -/
  clock : ∀ s, store (respond .clock s).2 = store s

/-- Answers of a store that are the same when blurred are so for a pass. -/
theorem result_of_map {α β : Type} {b : Blur} {f : α → β} {r r' : Except StoreError α}
    (h : r.map f = r'.map f) :
    b.result f (r.mapError .store) = b.result f (r'.mapError .store) := by
  have hcomm (x : Except StoreError α) :
      b.result f (x.mapError .store) = (x.map f).mapError fun e => b.error (.store e) := by
    cases x <;> rfl
  rw [hcomm, hcomm, h]

/-- Answers of which the same is seen are both refused, for the same reason, or both given. -/
theorem result_unit {α β : Type} {b : Blur} {f : α → β} {r r' : Except PassError α}
    (h : b.result f r = b.result f r') : b.result (fun _ => ()) r = b.result (fun _ => ()) r' := by
  rcases Blur.result_cases h with ⟨e, e', rfl, rfl, he⟩ | ⟨a, a', rfl, rfl, -⟩
  · exact congrArg Except.error he
  · rfl

/-- Stores that are the same when blurred answer alike calls alike, and stay so, where versions are
seen. -/
theorem answers_alike {b : Blur} (hb : b.versions = false) {s s' : MemoryStore}
    (hs : s.blur b = s'.blur b) {c c' : StoreCall} (hc : CallsAlike b c c') :
    AnswersAlike b c c' ((s.answer c).1.mapError .store) ((s'.answer c').1.mapError .store) ∧
      (s.answer c).2.blur b = (s'.answer c').2.blur b := by
  cases hc with
  | get key =>
    have h := s.answer_get_blur (b := b) key
    rw [hs, s'.answer_get_blur] at h
    exact ⟨result_of_map (Prod.mk.inj h).1.symm, (Prod.mk.inj h).2.symm⟩
  | @update g g' hg =>
    have h := s.answer_update_blur hb g
    rw [hs, hg, s'.answer_update_blur hb] at h
    exact ⟨result_unit (result_of_map (Prod.mk.inj h).1.symm), (Prod.mk.inj h).2.symm⟩
  | @updateStatus g g' hg =>
    have h := s.answer_updateStatus_blur hb g
    rw [hs, hg, s'.answer_updateStatus_blur hb] at h
    exact ⟨result_unit (result_of_map (Prod.mk.inj h).1.symm), (Prod.mk.inj h).2.symm⟩
  | getWorkload key =>
    have h := s.answer_getWorkload_blur (b := b) key
    rw [hs, s'.answer_getWorkload_blur] at h
    exact ⟨result_of_map (congrArg (Except.map id) (Prod.mk.inj h).1.symm), (Prod.mk.inj h).2.symm⟩
  | createWorkload d =>
    have h := s.answer_createWorkload_blur (b := b) d
    rw [hs, s'.answer_createWorkload_blur] at h
    exact ⟨result_of_map (congrArg (Except.map id) (Prod.mk.inj h).1.symm), (Prod.mk.inj h).2.symm⟩

/-- Where calls are answered by stores that are the same when blurred, alike passes go the same way,
whatever times of day they are shown, if versions are seen and times are not. -/
theorem couples_of_serves {α σ τ : Type} {b : Blur} (hb : b.versions = false) (ht : b.times = true)
    {respond : (e : Effect) → σ → e.Answer × σ} {respond' : (e : Effect) → τ → e.Answer × τ}
    {store : σ → MemoryStore} {store' : τ → MemoryStore} (hs : Serves respond store)
    (hs' : Serves respond' store') :
    Pass.Couples (α := α) b respond respond'
      (fun x x' => (store x.state).blur b = (store' x'.state).blur b) (CallsAlike b) := by
  refine ⟨fun h => ⟨?_, ?_⟩, fun h hc => ⟨hc, ?_⟩⟩
  · unfold Blur.time
    rw [ht]
    rfl
  · show (store (respond .clock _).2).blur b = (store' (respond' .clock _).2).blur b
    rw [hs.clock, hs'.clock, h]
  · unfold Pass.Point.answered
    rw [hs.answer, hs'.answer, hs.after, hs'.after]
    exact answers_alike hb h hc

end GoopOperator
