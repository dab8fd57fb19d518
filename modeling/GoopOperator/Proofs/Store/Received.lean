import GoopOperator.Proofs.Json.Resources
import GoopOperator.Proofs.Store.Blurred

/-!
# Calls as a server receives them

A request does not say all that a call does. A job is read back without the fractions of its seconds
(`Goop.settled`), and the DaemonSet of a workload says nothing of the expected number of runs
(`StoreCall.received`). A store does not miss it: it keeps the times and the managed fields that it has,
and the number of runs without ever looking at it. So stores that differ in these numbers alone answer a
call as it was made and as it is received in the same way, and go on to differ in nothing else
(`MemoryStore.answer_received`).
-/

namespace GoopOperator

/-- The workload without the expected number of runs. -/
def WorkloadSpec.uncounted (d : WorkloadSpec) : WorkloadSpec := { d with jobCount := none }

/-- The call as it is received. -/
def StoreCall.received : StoreCall → StoreCall
  | .update g => .update g.settled
  | .updateStatus g => .updateStatus g.settled
  | .createWorkload d => .createWorkload d.uncounted
  | c => c

/-- A stored workload without the expected number of runs. -/
def StoredWorkload.uncounted (w : StoredWorkload) : StoredWorkload := { w with spec := w.spec.uncounted }

namespace MemoryStore

/-- A store whose workloads are seen without the expected number of runs. -/
def uncounted (s : MemoryStore) : MemoryStore :=
  { s with workloads := ⟨fun k => (s.workloads.get? k).map .uncounted⟩ }

/-- The jobs are seen. -/
theorem goops_eq_of_uncounted {s s' : MemoryStore} (h : s'.uncounted = s.uncounted) :
    s'.goops = s.goops := by
  show s'.uncounted.goops = s.uncounted.goops
  rw [h]

/-- The failures that wait for a call are seen. -/
theorem charge_uncounted (op : Operation) (s : MemoryStore) :
    s.uncounted.charge op = ((s.charge op).1, (s.charge op).2.uncounted) := by
  have hfaults : s.uncounted.faults = s.faults := rfl
  unfold charge
  rw [hfaults]
  cases s.faults op <;> rfl

/-- A job that is purged. -/
theorem uncounted_purge (s : MemoryStore) (key : ObjectKey) :
    (s.purge key).uncounted = s.uncounted.purge key := by
  have hworkloads : (s.purge key).uncounted.workloads = (s.uncounted.purge key).workloads := by
    refine Table.ext fun k => ?_
    show (if k = key then none else s.workloads.get? k).map StoredWorkload.uncounted =
      if k = key then none else (s.workloads.get? k).map StoredWorkload.uncounted
    split <;> rfl
  exact congrArg (fun workloads => { s.purge key with workloads }) hworkloads

/-- A workload put into the store. -/
theorem uncounted_insert (s : MemoryStore) (key : ObjectKey) (w : StoredWorkload) :
    uncounted { s with workloads := s.workloads.insert key w } =
      { s.uncounted with workloads := s.uncounted.workloads.insert key w.uncounted } := by
  have hworkloads : (uncounted { s with workloads := s.workloads.insert key w }).workloads =
      s.uncounted.workloads.insert key w.uncounted := by
    refine Table.ext fun k => ?_
    show (if k = key then some w else s.workloads.get? k).map StoredWorkload.uncounted =
      if k = key then some w.uncounted else (s.workloads.get? k).map StoredWorkload.uncounted
    split <;> rfl
  exact congrArg (fun workloads => { s with workloads }) hworkloads

/-! ## What is done for a call -/

/-- Writing a job. -/
theorem uncounted_writeObject (key : ObjectKey) (g : Goop) :
    Respects uncounted id (writeObject key g) (writeObject key g) := by
  intro s
  have hcurrent : s.uncounted.current key g = s.current key g := rfl
  unfold writeObject
  rw [hcurrent]
  cases s.current key g with
  | error e => rfl
  | ok stored =>
    have hafter : s.uncounted.advance.stamp (merged stored g) = s.advance.stamp (merged stored g) := rfl
    simp only [hafter]
    split
    · rfl
    split
    · exact Prod.ext rfl (uncounted_purge s.advance key).symm
    · rfl

/-- Writing the status of a job. -/
theorem uncounted_writeStatus (key : ObjectKey) (g : Goop) :
    Respects uncounted id (writeStatus key g) (writeStatus key g) := by
  intro s
  have hcurrent : s.uncounted.current key g = s.current key g := rfl
  have hlosses : s.uncounted.lossesLeft = s.lossesLeft := rfl
  unfold writeStatus
  rw [hcurrent, hlosses]
  cases s.current key g with
  | error e => rfl
  | ok stored => cases s.lossesLeft <;> rfl

/-- Creating a workload, with the expected number of runs and without it. -/
theorem uncounted_create (d : WorkloadSpec) :
    Respects uncounted id (create d) (create d.uncounted) := by
  intro s
  have hcontains : s.uncounted.workloads.contains d.key = s.workloads.contains d.key :=
    Option.isSome_map
  have howner : d.uncounted.owner.all (s.uncounted.isOwner d.key) = d.owner.all (s.isOwner d.key) := rfl
  have hkey : d.uncounted.key = d.key := rfl
  unfold create
  rw [hkey, hcontains, howner]
  split
  · rfl
  · split
    · exact Prod.ext rfl (uncounted_insert s d.key ⟨d, ⟨s.nodes, 0, 0, true⟩⟩).symm
    · rfl

/-! ## Calls -/

section calls

variable {s s' : MemoryStore}

/-- What is done in one way to a store without numbers is done in the same way to stores that differ in
these alone. -/
theorem same_of_respects {α : Type} {act act' seen : MemoryStore → Except StoreError α × MemoryStore}
    (h : s'.uncounted = s.uncounted) (hact : Respects uncounted id act seen)
    (hact' : Respects uncounted id act' seen) :
    (act' s').1 = (act s).1 ∧ (act' s').2.uncounted = (act s).2.uncounted := by
  have hsame := hact' s'
  rw [h, hact s] at hsame
  simp only [Except.map_id, id, Prod.mk.injEq] at hsame
  exact ⟨hsame.1.symm, hsame.2.symm⟩

/-- Stores that differ in the expected numbers of runs alone answer a call and the call as it is received
in the same way, and differ in nothing else afterwards. -/
theorem answer_received (h : s'.uncounted = s.uncounted) (c : StoreCall) :
    HEq (s'.answer c.received).1 (s.answer c).1 ∧
      (s'.answer c.received).2.uncounted = (s.answer c).2.uncounted := by
  cases c with
  | get key =>
    have hget : Respects uncounted id (answer (.get key)) (answer (.get key)) := by
      refine Respects.serve (fun s => ?_) (charge_uncounted .get)
      show ((s.goops.get? key).elim _ _, _) = _
      cases s.goops.get? key <;> rfl
    exact (same_of_respects h hget hget).imp heq_of_eq id
  | update g =>
    have hupdate : Respects uncounted id (answer (.update g)) (answer (.update g)) := by
      intro s
      rw [answer_update_eq, answer_update_eq]
      cases g.key with
      | error e => rfl
      | ok key => exact (uncounted_writeObject key g).serve (charge_uncounted .update) s
    -- the times and the managed fields of the job that is written are not looked at
    have hreceived : answer (.update g.settled) = answer (.update g) := rfl
    exact (same_of_respects h hupdate (hreceived ▸ hupdate)).imp heq_of_eq id
  | updateStatus g =>
    have hupdate : Respects uncounted id (answer (.updateStatus g)) (answer (.updateStatus g)) := by
      intro s
      rw [answer_updateStatus_eq, answer_updateStatus_eq]
      cases g.key with
      | error e => rfl
      | ok key => exact (uncounted_writeStatus key g).serve (charge_uncounted .updateStatus) s
    have hreceived : answer (.updateStatus g.settled) = answer (.updateStatus g) := rfl
    exact (same_of_respects h hupdate (hreceived ▸ hupdate)).imp heq_of_eq id
  | getWorkload key =>
    have hlook : Respects uncounted id (answer (.getWorkload key)) (answer (.getWorkload key)) := by
      refine Respects.serve (fun s => ?_) (charge_uncounted .getWorkload)
      show (((s.workloads.get? key).map StoredWorkload.uncounted).elim _ _, _) = _
      cases s.workloads.get? key <;> rfl
    exact (same_of_respects h hlook hlook).imp heq_of_eq id
  | createWorkload d =>
    -- both workloads are the same without the number, so both are created as that one is
    have hcreate (d' : WorkloadSpec) (hd : d'.uncounted = d.uncounted) :
        Respects uncounted id (answer (.createWorkload d')) (answer (.createWorkload d.uncounted)) :=
      hd ▸ (uncounted_create d').serve (charge_uncounted .createWorkload)
    exact (same_of_respects h (hcreate d rfl) (hcreate d.uncounted rfl)).imp heq_of_eq id

end calls

end MemoryStore

end GoopOperator
