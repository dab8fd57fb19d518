import GoopOperator.Proofs.Ledger.Lifeline
import GoopOperator.Proofs.Pass.Alone
import GoopOperator.Proofs.Store.Workloads
import GoopOperator.Workload.Plan

/-!
# What a pass that is alone finds and leaves

The `outline` of a job is what is left of it without its version and without the messages and
times of its ledger; two stores are `Alike` that differ in nothing else and in counts. A `Scene`
is what a pass that is alone with a store sees of it: the job and the workload at one key, the
status writes still to be lost, and no failure that waits. Each call leads from a scene to a
scene.
-/

namespace GoopOperator

/-! ## Outlines -/

/-- A condition that says nothing but its mark. -/
def Mark.blank (m : Mark) : Condition := ⟨m.type, m.status, m.reason, "", none⟩

namespace Ledger

/-- The ledger of the marks `marks`, without messages and times. -/
def ofMarks (marks : List Mark) : Ledger := ⟨marks.map Mark.blank⟩

@[simp] theorem marks_ofMarks (marks : List Mark) : (ofMarks marks).marks = marks := by
  unfold Ledger.marks ofMarks
  rw [List.map_map]
  exact List.map_id marks

/-- A ledger without messages and times. -/
def outline (l : Ledger) : Ledger := ofMarks l.marks

@[simp] theorem marks_outline (l : Ledger) : l.outline.marks = l.marks := marks_ofMarks _

@[simp] theorem isInitial_outline (l : Ledger) : l.outline.isInitial = l.isInitial := by
  rw [isInitial_eq_marks, isInitial_eq_marks, marks_outline]

@[simp] theorem isComplete_outline (l : Ledger) (r : Reason) :
    l.outline.isComplete r = l.isComplete r := by
  rw [isComplete_eq_marks, isComplete_eq_marks, marks_outline]

@[simp] theorem isIncomplete_outline (l : Ledger) (r : Reason) :
    l.outline.isIncomplete r = l.isIncomplete r := by
  rw [isIncomplete_eq_marks, isIncomplete_eq_marks, marks_outline]

@[simp] theorem isState_outline (l : Ledger) (r : Reason) : l.outline.isState r = l.isState r := by
  rw [isState_eq, isState_eq, isComplete_outline, isIncomplete_outline]

end Ledger

namespace Goop

/-- A job without its version and without the messages and times of its ledger. -/
def outline (g : Goop) : Goop :=
  { g with
    metadata := { g.metadata with resourceVersion := none }
    status := g.status.map fun s => ⟨s.conditions.outline⟩ }

@[simp] theorem ledger_outline (g : Goop) : g.outline.ledger = g.ledger.outline := by
  unfold ledger outline
  cases g.status <;> rfl

/-- The ledger in outline is one that a life leaves if the ledger is. -/
theorem lifelike_outline {g : Goop} (h : g.ledger.Lifelike) : g.outline.ledger.Lifelike := by
  unfold Ledger.Lifelike at h ⊢
  rw [ledger_outline, Ledger.marks_outline]
  exact h

@[simp] theorem hasFinalizer_outline (g : Goop) (token : String) :
    g.outline.hasFinalizer token = g.hasFinalizer token := rfl

@[simp] theorem isDeletionRequested_outline (g : Goop) :
    g.outline.isDeletionRequested = g.isDeletionRequested := rfl

@[simp] theorem outline_stamp (s : MemoryStore) (g : Goop) : (s.stamp g).outline = g.outline := rfl

@[simp] theorem outline_addFinalizer (g : Goop) (token : String) :
    (g.addFinalizer token).outline = g.outline.addFinalizer token := by
  unfold addFinalizer
  rw [hasFinalizer_outline]
  split <;> rfl

@[simp] theorem ledger_addFinalizer (g : Goop) (token : String) :
    (g.addFinalizer token).ledger = g.ledger := by
  rcases g.addFinalizer_eq token with h | h <;> rw [h]
  rfl

@[simp] theorem isDeletionRequested_addFinalizer (g : Goop) (token : String) :
    (g.addFinalizer token).isDeletionRequested = g.isDeletionRequested := by
  rcases g.addFinalizer_eq token with h | h <;> rw [h]
  rfl

/-- What is run for a job does not depend on more than its outline. -/
@[simp] theorem plan_outline (g : Goop) (settings : Settings) :
    WorkloadSpec.plan g.outline settings = WorkloadSpec.plan g settings := rfl

/-- The job after a condition is recorded, in outline. -/
def marked (g : Goop) (c : Condition) : Goop :=
  g.withLedger (.ofMarks (c.mark.record g.ledger.marks))

@[simp] theorem marks_marked (g : Goop) (c : Condition) :
    (g.marked c).ledger.marks = c.mark.record g.ledger.marks := Ledger.marks_ofMarks _

/-- Conditions with the same mark leave the same outline. -/
theorem marked_congr (g : Goop) {c c' : Condition} (h : c.mark = c'.mark) :
    g.marked c = g.marked c' := by
  unfold marked
  rw [h]

/-- Recording a condition in outline. -/
theorem outline_of_set? {g : Goop} {c : Condition} {now : String} {l : Ledger}
    (h : g.ledger.set? c now = some l) : (g.withLedger l).outline = g.outline.marked c := by
  have houtline : (g.withLedger l).outline = g.outline.withLedger l.outline := rfl
  rw [houtline, marked, Ledger.outline, marks_set? h, ledger_outline, Ledger.marks_outline]

/-- A condition that the ledger already holds changes nothing in outline. -/
theorem outline_of_set?_none {g : Goop} {c : Condition} {now : String}
    (h : g.ledger.set? c now = none) : g.outline.marked c = g.outline := by
  have hmarks := record_marks_of_set?_none h
  unfold marked
  rw [ledger_outline, Ledger.marks_outline, hmarks]
  -- a job without a status has an empty ledger, which holds nothing
  obtain ⟨metadata, spec, status⟩ := g
  cases status with
  | some status => rfl
  | none => cases h

end Goop

/-! ## Stores that are alike -/

/-- Two stores differ in nothing but versions, the messages and times of ledgers, and counts. -/
structure MemoryStore.Alike (s s' : MemoryStore) : Prop where
  /-- The jobs are the same in outline. -/
  goops : ∀ k, (s.goops.get? k).map Goop.outline = (s'.goops.get? k).map Goop.outline
  /-- The workloads are the same. -/
  workloads : ∀ k, s.workloads.get? k = s'.workloads.get? k
  /-- The failures that wait are the same. -/
  faults : ∀ op, s.faults op = s'.faults op
  /-- The status writes still to be lost are as many. -/
  losses : s.lossesLeft = s'.lossesLeft
  /-- The nodes are as many. -/
  nodes : s.nodes = s'.nodes

/-! ## Scenes -/

/-- What a store holds at the key `k`, of which all else is as in `s₀`: a job, a workload, and a
number of status writes to be lost. No failure waits. -/
structure Scene (s₀ : MemoryStore) (k : ObjectKey) (o : Option Goop) (wl : Option StoredWorkload)
    (n : Nat) (s : MemoryStore) : Prop where
  /-- The job. -/
  job : s.goops.get? k = o
  /-- The workload. -/
  workload : s.workloads.get? k = wl
  /-- The number of losses. -/
  losses : s.lossesLeft = n
  /-- No failure waits. -/
  quiet : ∀ op, s.faults op = []
  /-- The nodes are as many. -/
  nodes : s.nodes = s₀.nodes
  /-- The other jobs. -/
  otherJobs : ∀ k', k' ≠ k → s.goops.get? k' = s₀.goops.get? k'
  /-- The other workloads. -/
  otherWorkloads : ∀ k', k' ≠ k → s.workloads.get? k' = s₀.workloads.get? k'

namespace Scene

variable {s₀ s : MemoryStore} {k : ObjectKey} {o : Option Goop} {g : Goop}
  {wl : Option StoredWorkload} {n : Nat}

/-- The scene that a store presents by itself. -/
theorem of_quiet (hquiet : ∀ op, s.faults op = []) (k : ObjectKey) :
    Scene s k (s.goops.get? k) (s.workloads.get? k) s.lossesLeft s :=
  ⟨rfl, rfl, rfl, hquiet, rfl, fun _ _ => rfl, fun _ _ => rfl⟩

/-- Stores that present the same scene in outline are alike. -/
theorem alike {s' : MemoryStore} {o' : Option Goop} (h : Scene s₀ k o wl n s)
    (h' : Scene s₀ k o' wl n s') (ho : o.map Goop.outline = o'.map Goop.outline) : s.Alike s' := by
  refine ⟨fun k' => ?_, fun k' => ?_, fun op => ?_, ?_, ?_⟩
  · by_cases hk : k' = k
    · rw [hk, h.job, h'.job, ho]
    · rw [h.otherJobs k' hk, h'.otherJobs k' hk]
  · by_cases hk : k' = k
    · rw [hk, h.workload, h'.workload]
    · rw [h.otherWorkloads k' hk, h'.otherWorkloads k' hk]
  · rw [h.quiet, h'.quiet]
  · rw [h.losses, h'.losses]
  · rw [h.nodes, h'.nodes]

/-- Counting a call leaves the scene. -/
theorem counted (h : Scene s₀ k o wl n s) (op : Operation) : Scene s₀ k o wl n (s.counted op) :=
  ⟨h.job, h.workload, h.losses, h.quiet, h.nodes, h.otherJobs, h.otherWorkloads⟩

/-- Where no failure waits, a call is done after it has been counted. -/
theorem serve_eq (h : Scene s₀ k o wl n s) (op : Operation)
    (act : MemoryStore → Except StoreError α × MemoryStore) :
    s.serve op act = act (s.counted op) := by
  unfold MemoryStore.serve MemoryStore.charge
  rw [h.quiet op]

/-- Putting a job at the key. -/
theorem put (h : Scene s₀ k o wl n s) (g : Goop) :
    Scene s₀ k (some g) wl n (s.advance.put k g) := by
  refine ⟨if_pos rfl, h.workload, h.losses, h.quiet, h.nodes, fun k' hk => ?_, h.otherWorkloads⟩
  exact (if_neg hk).trans (h.otherJobs k' hk)

/-- Reading the job. -/
theorem get (h : Scene s₀ k (some g) wl n s) :
    ∃ s', s.answer (.get k) = (.ok g, s') ∧ Scene s₀ k (some g) wl n s' := by
  refine ⟨s.counted .get, ?_, h.counted _⟩
  rw [MemoryStore.answer_get_eq, h.serve_eq]
  show ((s.goops.get? k).elim _ _, _) = _
  rw [h.job]
  rfl

/-- Reading the job where there is none. -/
theorem get_none (h : Scene s₀ k none wl n s) :
    ∃ s', s.answer (.get k) = (.error (.notFound .goop k), s') ∧ Scene s₀ k none wl n s' := by
  refine ⟨s.counted .get, ?_, h.counted _⟩
  rw [MemoryStore.answer_get_eq, h.serve_eq]
  show ((s.goops.get? k).elim _ _, _) = _
  rw [h.job]
  rfl

/-- Reading how far the workload has got. -/
theorem getWorkload {w : StoredWorkload} (h : Scene s₀ k o (some w) n s) :
    ∃ s', s.answer (.getWorkload k) = (.ok w.rollout, s') ∧ Scene s₀ k o (some w) n s' := by
  refine ⟨s.counted .getWorkload, ?_, h.counted _⟩
  rw [MemoryStore.answer_getWorkload_eq, h.serve_eq]
  show ((s.workloads.get? k).elim _ _, _) = _
  rw [h.workload]
  rfl

/-- Reading how far the workload has got where there is none. -/
theorem getWorkload_none (h : Scene s₀ k o none n s) :
    ∃ s', s.answer (.getWorkload k) = (.error (.notFound .daemonSet k), s') ∧
      Scene s₀ k o none n s' := by
  refine ⟨s.counted .getWorkload, ?_, h.counted _⟩
  rw [MemoryStore.answer_getWorkload_eq, h.serve_eq]
  show ((s.workloads.get? k).elim _ _, _) = _
  rw [h.workload]
  rfl

/-- The job of the scene is the last version of itself. -/
theorem current (h : Scene s₀ k (some g) wl n s) {incoming : Goop}
    (hv : incoming.metadata.resourceVersion = g.metadata.resourceVersion) :
    s.current k incoming = .ok g := by
  unfold MemoryStore.current
  rw [h.job]
  exact if_pos hv

/-- Writing the status. -/
theorem updateStatus (h : Scene s₀ k (some g) wl 0 s) (hkey : g.key = .ok k) (l : Ledger) :
    ∃ g' s', s.answer (.updateStatus (g.withLedger l)) = (.ok g', s') ∧
      ∃ s₁, Scene s₀ k (some (MemoryStore.stamp s₁ (g.withLedger l))) wl 0 s' := by
  have hs := h.counted .updateStatus
  let s₁ := (s.counted .updateStatus).advance
  refine ⟨s₁.stamp (g.withLedger l), s₁.put k (s₁.stamp (g.withLedger l)), ?_, s₁, hs.put _⟩
  rw [MemoryStore.answer_updateStatus_eq]
  simp only [Goop.key_withLedger, hkey]
  rw [h.serve_eq]
  unfold MemoryStore.writeStatus
  rw [hs.current (Goop.resourceVersion_withLedger g l)]
  simp only [hs.losses, MemoryStore.withStatus_withLedger]
  rfl

/-- Writing the status where the write is lost. -/
theorem updateStatus_lost (h : Scene s₀ k (some g) wl (n + 1) s) (hkey : g.key = .ok k)
    (l : Ledger) :
    ∃ g' s', s.answer (.updateStatus (g.withLedger l)) = (.ok g', s') ∧
      Scene s₀ k (some g) wl n s' := by
  have hs := h.counted .updateStatus
  refine ⟨g, { s.counted .updateStatus with lossesLeft := n }, ?_,
    hs.job, hs.workload, rfl, hs.quiet, hs.nodes, hs.otherJobs, hs.otherWorkloads⟩
  rw [MemoryStore.answer_updateStatus_eq]
  simp only [Goop.key_withLedger, hkey]
  rw [h.serve_eq]
  unfold MemoryStore.writeStatus
  rw [hs.current (Goop.resourceVersion_withLedger g l)]
  simp only [hs.losses]

/-- Attaching a finalizer to a job whose deletion is not requested. -/
theorem attach (h : Scene s₀ k (some g) wl n s) (hkey : g.key = .ok k)
    (hd : g.isDeletionRequested = false) (token : String) :
    ∃ g' s', s.answer (.update (g.addFinalizer token)) = (.ok g', s') ∧
      ∃ s₁, Scene s₀ k (some (MemoryStore.stamp s₁ (g.addFinalizer token))) wl n s' := by
  have hs := h.counted .update
  let s₁ := (s.counted .update).advance
  refine ⟨s₁.stamp (g.addFinalizer token), s₁.put k (s₁.stamp (g.addFinalizer token)), ?_, s₁,
    hs.put _⟩
  rw [MemoryStore.answer_update_eq]
  simp only [Goop.key_addFinalizer, hkey]
  rw [h.serve_eq]
  unfold MemoryStore.writeObject
  rw [hs.current (Goop.resourceVersion_addFinalizer g token)]
  simp only [hd, MemoryStore.merged_addFinalizer, MemoryStore.isDeletionRequested_stamp,
    Goop.isDeletionRequested_addFinalizer, Bool.false_eq_true, false_and, if_false]
  rfl

/-- Releasing a finalizer that is not the last one of a job whose deletion is requested. -/
theorem release (h : Scene s₀ k (some g) wl n s) (hkey : g.key = .ok k) {token : String}
    (hrest : (g.removeFinalizer token).finalizers ≠ []) :
    ∃ g' s', s.answer (.update (g.removeFinalizer token)) = (.ok g', s') ∧
      ∃ s₁, Scene s₀ k (some (MemoryStore.stamp s₁ (g.removeFinalizer token))) wl n s' := by
  have hs := h.counted .update
  let s₁ := (s.counted .update).advance
  refine ⟨s₁.stamp (g.removeFinalizer token), s₁.put k (s₁.stamp (g.removeFinalizer token)), ?_, s₁,
    hs.put _⟩
  have hold : (g.removeFinalizer token).finalizers.all (g.finalizers.contains ·) = true := by
    simp +contextual
  rw [MemoryStore.answer_update_eq]
  simp only [Goop.key_removeFinalizer, hkey]
  rw [h.serve_eq]
  unfold MemoryStore.writeObject
  rw [hs.current (Goop.resourceVersion_removeFinalizer g token)]
  simp only [hold, not_true_eq_false, and_false, if_false, MemoryStore.finalizers_stamp,
    MemoryStore.finalizers_merged, hrest]
  rfl

/-- Releasing the last finalizer of a job whose deletion is requested. -/
theorem release_last (h : Scene s₀ k (some g) wl n s) (hkey : g.key = .ok k)
    (hd : g.isDeletionRequested = true) {token : String}
    (hrest : (g.removeFinalizer token).finalizers = []) :
    ∃ g' s', s.answer (.update (g.removeFinalizer token)) = (.ok g', s') ∧
      Scene s₀ k none none n s' := by
  have hs := h.counted .update
  let s₁ := (s.counted .update).advance
  have hscene : Scene s₀ k none none n (s₁.purge k) := by
    refine ⟨if_pos rfl, if_pos rfl, hs.losses, hs.quiet, hs.nodes, fun k' hk => ?_, fun k' hk => ?_⟩
    · exact (if_neg hk).trans (hs.otherJobs k' hk)
    · exact (if_neg hk).trans (hs.otherWorkloads k' hk)
  refine ⟨s₁.stamp (g.removeFinalizer token), s₁.purge k, ?_, hscene⟩
  rw [MemoryStore.answer_update_eq]
  simp only [Goop.key_removeFinalizer, hkey]
  rw [h.serve_eq]
  unfold MemoryStore.writeObject
  rw [hs.current (Goop.resourceVersion_removeFinalizer g token)]
  simp only [hrest, List.all_nil, not_true_eq_false, and_false, if_false,
    MemoryStore.isDeletionRequested_stamp, MemoryStore.isDeletionRequested_merged, hd,
    MemoryStore.finalizers_stamp, MemoryStore.finalizers_merged, and_self, if_true]
  rfl

end Scene

namespace Scene

variable {s₀ s : MemoryStore} {k : ObjectKey} {g : Goop} {n : Nat}

/-- Creating the workload that a job asks for. -/
theorem create (h : Scene s₀ k (some g) none n s) (hkey : g.key = .ok k) {settings : Settings}
    {d : WorkloadSpec} (hplan : WorkloadSpec.plan g settings = .ok d) :
    ∃ s', s.answer (.createWorkload d) = (.ok (), s') ∧
      Scene s₀ k (some g) (some ⟨d, ⟨s₀.nodes, 0, 0, true⟩⟩) n s' := by
  obtain ⟨hdkey, owner, howner, huid⟩ := WorkloadSpec.of_plan hplan
  obtain rfl : d.key = k := Except.ok.inj (hdkey.symm.trans hkey)
  have hs := h.counted .createWorkload
  have hscene : Scene s₀ d.key (some g) (some ⟨d, ⟨s₀.nodes, 0, 0, true⟩⟩) n
      { s.counted .createWorkload with
        workloads := (s.counted .createWorkload).workloads.insert d.key
          ⟨d, ⟨(s.counted .createWorkload).nodes, 0, 0, true⟩⟩ } := by
    refine ⟨hs.job, (if_pos rfl).trans ?_, hs.losses, hs.quiet, hs.nodes, hs.otherJobs,
      fun k' hk => ?_⟩
    · rw [hs.nodes]
    · exact (if_neg hk).trans (hs.otherWorkloads k' hk)
  refine ⟨_, ?_, hscene⟩
  rw [MemoryStore.answer_createWorkload_eq, h.serve_eq]
  unfold MemoryStore.create
  have habsent : (s.counted .createWorkload).workloads.contains d.key = false := by
    unfold Table.contains
    rw [hs.workload]
    rfl
  have hthere : d.owner.all ((s.counted .createWorkload).isOwner d.key) = true := by
    rw [howner]
    show (s.counted .createWorkload).isOwner d.key owner = true
    unfold MemoryStore.isOwner
    rw [hs.job]
    simp [huid]
  rw [habsent, hthere]
  rfl

end Scene

end GoopOperator
