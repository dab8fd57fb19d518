import GoopOperator.Proofs.Store.Writes
import GoopOperator.Proofs.Workload.Plan

/-!
# What calls do to the workloads

A workload comes into the store by a call that creates it, where there was none, and only if its
owner is there. It goes with the job at its key. `Placed` lists what a call leaves of the workload
at a key.
-/

namespace GoopOperator

/-- The workload is to be owned by this job, so that it goes away with it. -/
def WorkloadSpec.OwnedBy (d : WorkloadSpec) (g : Goop) : Prop :=
  ∃ owner, d.owner = some owner ∧ g.metadata.uid = some owner.uid

/-- What is run for a job is run at its key, and owned by it. -/
theorem WorkloadSpec.of_plan {g : Goop} {settings : Settings} {d : WorkloadSpec}
    (h : plan g settings = .ok d) :
    g.key = .ok d.key ∧ d.OwnedBy g := by
  cases planned_of_plan h with
  | planned hkey himage howner => exact ⟨hkey, _, rfl, Goop.uid_controllerReference? howner⟩

/-- Where there is no object after one was put into a table, there was none before. -/
theorem Table.get?_eq_none_of_insert {t : Table α} {key k : ObjectKey} {x : α}
    (h : (t.insert key x).get? k = none) : t.get? k = none := by
  rw [Table.get?_insert] at h
  split at h
  · cases h
  · exact h

namespace MemoryStore

/-- What a call that makes the store `s'` leaves of the workload at a key. -/
inductive Placed (s s' : MemoryStore) (k : ObjectKey) :
    StoreCall → Option StoredWorkload → Prop where
  /-- The workload stays, and so does the job, if there is one. -/
  | kept {c : StoreCall} (hjob : s'.goops.get? k = none → s.goops.get? k = none) :
    Placed s s' k c (s.workloads.get? k)
  /-- It goes away with the job. -/
  | purged {c : StoreCall} (hjob : s'.goops.get? k = none) : Placed s s' k c none
  /-- It is created where there was none, and its owner is there. -/
  | created {d : WorkloadSpec} (hk : d.key = k) (hnone : s.workloads.get? k = none)
    (howner : d.owner.all (s.isOwner k) = true) (hjobs : s'.goops = s.goops) :
    Placed s s' k (.createWorkload d) (some ⟨d, ⟨s.nodes, 0, 0, true⟩⟩)

/-- A call is refused by the failure that waits for it, or done after it has been counted. -/
theorem serve_split (s : MemoryStore) (op : Operation)
    (act : MemoryStore → Except StoreError α × MemoryStore) :
    (∃ e, s.serve op act = (.error e, (s.charge op).2)) ∨
      s.serve op act = act (s.counted op) := by
  unfold serve charge
  cases s.faults op with
  | nil => exact Or.inr rfl
  | cons e rest => exact Or.inl ⟨e, rfl⟩

section placed

variable (s : MemoryStore) (k : ObjectKey)

/-- What a call leaves of the workload where all objects stay. -/
theorem placed_of_same {s s' : MemoryStore} (hgoops : s'.goops = s.goops)
    (hworkloads : s'.workloads = s.workloads) (k : ObjectKey) (c : StoreCall) :
    Placed s s' k c (s'.workloads.get? k) := by
  rw [hworkloads]
  refine .kept fun h => ?_
  rwa [hgoops] at h

/-- What a call leaves of the workload at a key, if it is served at all. -/
theorem placed_serve {c : StoreCall} {op : Operation}
    {act : MemoryStore → Except StoreError α × MemoryStore}
    (hact : Placed s (act (s.counted op)).2 k c ((act (s.counted op)).2.workloads.get? k)) :
    Placed s (s.serve op act).2 k c ((s.serve op act).2.workloads.get? k) := by
  rcases s.serve_split op act with ⟨e, h⟩ | h
  · rw [h]
    exact placed_of_same (goops_charge s op) (workloads_charge s op) k c
  · rw [h]
    exact hact

/-- What a call leaves of the workload at a key. -/
theorem placed_answer (c : StoreCall) :
    Placed s (s.answer c).2 k c ((s.answer c).2.workloads.get? k) := by
  cases c with
  | get key => exact placed_serve s k (placed_of_same (by rfl) (by rfl) k _)
  | getWorkload key => exact placed_serve s k (placed_of_same (by rfl) (by rfl) k _)
  | createWorkload d =>
    rw [answer_createWorkload_eq]
    refine placed_serve s k ?_
    unfold create
    split
    · exact placed_of_same (by rfl) (by rfl) k _
    rename_i habsent
    split
    · rename_i howner
      show Placed s _ k _ (if k = d.key then _ else s.workloads.get? k)
      split
      · rename_i hk
        subst hk
        refine .created rfl ?_ howner rfl
        simpa [Table.contains, counted] using habsent
      · exact .kept id
    · exact placed_of_same (by rfl) (by rfl) k _
  | update g =>
    rw [answer_update_eq]
    cases g.key with
    | error e => exact placed_of_same (by rfl) (by rfl) k _
    | ok key =>
      refine placed_serve s k ?_
      unfold writeObject
      split
      · exact placed_of_same (by rfl) (by rfl) k _
      · simp only
        split
        · exact placed_of_same (by rfl) (by rfl) k _
        split
        -- the last finalizer of a job that is being deleted takes the job and the workload away
        · show Placed s _ k _ (if k = key then none else s.workloads.get? k)
          split
          · rename_i hk
            exact .purged (if_pos hk)
          · rename_i hk
            exact .kept fun h => (if_neg hk).symm.trans h
        · exact .kept fun h => Table.get?_eq_none_of_insert h
  | updateStatus g =>
    rw [answer_updateStatus_eq]
    cases g.key with
    | error e => exact placed_of_same (by rfl) (by rfl) k _
    | ok key =>
      refine placed_serve s k ?_
      unfold writeStatus
      split
      · exact placed_of_same (by rfl) (by rfl) k _
      · split
        · exact placed_of_same (by rfl) (by rfl) k _
        · exact .kept fun h => Table.get?_eq_none_of_insert h

end placed

/-- An owner that is there is stored. -/
theorem exists_of_isOwner {s : MemoryStore} {k : ObjectKey} {owner : OwnerReference}
    (h : s.isOwner k owner = true) :
    ∃ g, s.goops.get? k = some g ∧ g.metadata.uid = some owner.uid := by
  unfold isOwner at h
  cases hg : s.goops.get? k with
  | none =>
    rw [hg] at h
    cases h
  | some g =>
    rw [hg] at h
    exact ⟨g, rfl, by simpa using h⟩

/-- A workload that has been created was not there before, is there now, and so is its owner. -/
theorem create_of_answer {s : MemoryStore} {d : WorkloadSpec}
    (h : (s.answer (.createWorkload d)).1 = .ok ()) :
    s.workloads.get? d.key = none ∧
      (s.answer (.createWorkload d)).2.workloads.get? d.key ≠ none ∧
      ∀ owner, d.owner = some owner →
        ∃ g, s.goops.get? d.key = some g ∧ g.metadata.uid = some owner.uid := by
  rw [answer_createWorkload_eq] at h ⊢
  rcases s.serve_split .createWorkload (create d) with ⟨e, he⟩ | hserved
  · rw [he] at h
    cases h
  rw [hserved] at h ⊢
  unfold create at h ⊢
  split at h
  · cases h
  rename_i habsent
  rw [if_neg habsent]
  split at h
  · rename_i hthere
    rw [if_pos hthere]
    refine ⟨by simpa [Table.contains, counted] using habsent, by simp, fun owner howner => ?_⟩
    rw [howner] at hthere
    exact exists_of_isOwner hthere
  · cases h

/-- A lookup that finds a workload has found the one that is stored. -/
theorem getWorkload_of_answer {s : MemoryStore} {k : ObjectKey} {r : Rollout}
    (h : (s.answer (.getWorkload k)).1 = .ok r) :
    ∃ wl, s.workloads.get? k = some wl ∧ wl.rollout = r := by
  rw [answer_getWorkload_eq] at h
  rcases s.serve_split .getWorkload fun s =>
    ((s.workloads.get? k).elim (.error (.notFound .daemonSet k)) fun w => .ok w.rollout, s)
    with ⟨e, he⟩ | hserved
  · rw [he] at h
    cases h
  · rw [hserved] at h
    change (s.workloads.get? k).elim _ _ = _ at h
    cases hwl : s.workloads.get? k with
    | none =>
      rw [hwl] at h
      cases h
    | some wl =>
      rw [hwl] at h
      exact ⟨wl, rfl, Except.ok.inj h⟩

end MemoryStore

end GoopOperator
