import GoopOperator.Proofs.Lifecycle.Healing
import GoopOperator.Proofs.Lifecycle.Permits

/-!
# Passes that find nothing to do

`AtRest` lists the jobs over which a pass writes nothing, each with what the pass returns. Such a
pass leaves every job and every workload as it is (`Lifecycle.meets_rest`), so it may be repeated at
will.

A pass that loses no status write either asks to be repeated at once, or leaves a job at rest under
the very result that it returns itself (`Scene.rests`). It follows that passes which are repeated
come to an end: the first one that does not ask for it is the last one that changes anything.
-/

namespace GoopOperator

/-! ## Runs without a write -/

/-- The jobs and the workloads are the same, and no write has been called. -/
structure MemoryStore.Untouched (s s' : MemoryStore) : Prop where
  /-- The jobs are the same. -/
  goops : s'.goops = s.goops
  /-- The workloads are the same. -/
  workloads : s'.workloads = s.workloads
  /-- Each kind of write has been called as often. -/
  writes : ∀ op, op.isWrite = true → s'.calls op = s.calls op

namespace MemoryStore.Untouched

/-- Nothing has happened. -/
theorem refl (s : MemoryStore) : Untouched s s := ⟨rfl, rfl, fun _ _ => rfl⟩

/-- One run after another. -/
theorem trans {s s' s'' : MemoryStore} (h : Untouched s s') (h' : Untouched s' s'') :
    Untouched s s'' :=
  ⟨h'.goops.trans h.goops, h'.workloads.trans h.workloads,
    fun op hop => (h'.writes op hop).trans (h.writes op hop)⟩

/-- Counting a call that is no write. -/
theorem counted (s : MemoryStore) {op : Operation} (hop : op.isWrite = false) :
    Untouched s (s.counted op) := by
  refine ⟨rfl, rfl, fun o ho => if_neg ?_⟩
  rintro rfl
  exact absurd (hop.symm.trans ho) Bool.false_ne_true

end MemoryStore.Untouched

section reading

variable {s₀ s : MemoryStore} {k : ObjectKey} {o : Option Goop} {wl : Option StoredWorkload}
  {n : Nat}

/-- Where no failure waits, a call that is no write is counted, and that is all. -/
theorem Scene.answer_reading (h : Scene s₀ k o wl n s) {c : StoreCall}
    (hc : c.operation.isWrite = false) : (s.answer c).2 = s.counted c.operation := by
  cases c with
  | get key =>
    rw [MemoryStore.answer_get_eq, h.serve_eq]
    rfl
  | getWorkload key =>
    rw [MemoryStore.answer_getWorkload_eq, h.serve_eq]
    rfl
  | update g => cases hc
  | updateStatus g => cases hc
  | createWorkload d => cases hc

open Pass Bench in
/-- A run that asks for no write touches nothing, and leaves the scene. -/
theorem Scene.meets_untouched {p : Pass α} {clock : Nat → Timestamp}
    {Q : Except PassError α → Bench → Prop} {b : Bench} (h : Scene s₀ k o wl n b.store)
    (hp : Meets (respond clock calm) (fun e _ => e.isWrite = false) Q p b) :
    Meets (respond clock calm) (fun e _ => e.isWrite = false)
      (fun r b' => Q r b' ∧ b.store.Untouched b'.store ∧ Scene s₀ k o wl n b'.store) p b := by
  induction p generalizing b with
  | done r => exact ⟨hp, .refl _, h⟩
  | perform e next ih =>
    obtain ⟨he, hnext⟩ := hp
    have hstep : b.store.Untouched (respond clock calm e b).2.store ∧
        Scene s₀ k o wl n (respond clock calm e b).2.store := by
      cases e with
      | call c =>
        show b.store.Untouched (b.store.answer c).2 ∧ Scene s₀ k o wl n (b.store.answer c).2
        rw [h.answer_reading he]
        exact ⟨.counted _ he, h.counted _⟩
      | clock => exact ⟨.refl _, h⟩
      | work task => exact ⟨.refl _, h⟩
    refine ⟨he, (ih _ hstep.2 hnext).mono fun r b' hr => ?_⟩
    exact ⟨hr.1, hstep.1.trans hr.2.1, hr.2.2⟩

end reading

namespace Lifecycle

open Pass Bench

/-! ## Stages that have nothing to do -/

section idle

variable {cx : Context} {g : Goop}

/-- A stage that hands on the job leaves it to the next ones. -/
theorem run_next {st : Stage} {rest : List Stage} (h : st.handle cx g = pure (.next g)) :
    Chain.run ⟨st :: rest⟩ cx g = Chain.run ⟨rest⟩ cx g := by
  rw [Chain.run_cons, h]
  rfl

theorem start_begun (hb : g.ledger.isInitial = false) : start.handle cx g = pure (.next g) := by
  simp [start, hb]

theorem attachFinalizer_settled (hs : ¬ NeedsToken cx g)
    (hi : g.ledger.isIncomplete .initialized = false) :
    attachFinalizer.handle cx g = pure (.next g) := by
  have htoken : attachToken cx g = pure g := by
    unfold attachToken
    simp only [needsToken_iff]
    exact if_neg hs
  unfold attachFinalizer
  simp only
  rw [htoken]
  show (if g.ledger.isIncomplete .initialized = true then _ else _) = _
  rw [hi]
  rfl

theorem release_wanted {cleanup : Cleanup} (hf : g.ledger.isComplete .finalized = false)
    (hd : g.isDeletionRequested = false) : (release cleanup).handle cx g = pure (.next g) := by
  simp [release, hf, hd]

theorem create_past (hi : g.ledger.isComplete .initialized = false) :
    create.handle cx g = pure (.next g) := by
  simp [create, hi]

theorem complete_early (hl : g.ledger.isComplete .deployed = false) :
    complete.handle cx g = pure (.next g) := by
  simp [complete, hl]

/-- A job that is past its initialization is not without the finalizer for want of attaching it. -/
theorem not_needsToken_of_isComplete {r : Reason} (hl : g.ledger.isComplete r = true)
    (hr : r ≠ .initialized) : ¬ NeedsToken cx g := by
  rintro ⟨hstate, -⟩
  rw [Ledger.isState_eq, isComplete_of_ne hl hr, isIncomplete_of_isComplete hl] at hstate
  cases hstate

/-- The first two stages have nothing to do with a job in whose state something is complete. -/
theorem run_of_complete {r : Reason} (hl : g.ledger.isComplete r = true)
    (hs : ¬ NeedsToken cx g) :
    chain.run cx g = Chain.run ⟨[release .nothing, create, complete]⟩ cx g :=
  (run_next (start_begun (isInitial_of_isComplete hl))).trans
    (run_next (attachFinalizer_settled hs (isIncomplete_of_isComplete hl _)))

/-- With a job that is finalized no stage has anything to do. -/
theorem run_of_finalized (hl : g.ledger.isComplete .finalized = true) :
    chain.run cx g = pure .never := by
  rw [run_of_complete hl (not_needsToken_of_isComplete hl (by decide)), Chain.run_cons]
  have hstage : (release .nothing).handle cx g = pure (.stop .never) := by
    simp [release, hl]
  rw [hstage]
  rfl

/-- With a job that is initialized and to stay, the fourth stage is the first one that may have
something to do. -/
theorem run_of_initialized (hl : g.ledger.isComplete .initialized = true)
    (hf : g.hasFinalizer cx.settings.finalizer = true) (hd : g.isDeletionRequested = false) :
    chain.run cx g = Chain.run ⟨[create, complete]⟩ cx g := by
  rw [run_of_complete hl (fun h => by rw [h.2.1] at hf; cases hf)]
  exact run_next (release_wanted (isComplete_of_ne hl (by decide)) hd)

/-- With a job that is past its initialization and to stay, the last stage is the only one that may
have something to do. -/
theorem run_of_past {r : Reason} (hl : g.ledger.isComplete r = true) (hi : r ≠ .initialized)
    (hf : r ≠ .finalized) (hd : g.isDeletionRequested = false) :
    chain.run cx g = Chain.run ⟨[complete]⟩ cx g := by
  rw [run_of_complete hl (not_needsToken_of_isComplete hl hi)]
  exact (run_next (release_wanted (isComplete_of_ne hl hf) hd)).trans
    (run_next (create_past (isComplete_of_ne hl hi)))

end idle

/-! ## Jobs at rest -/

/-- A pass over this job and this workload writes nothing, and returns this result. -/
inductive AtRest (cx : Context) :
    Option Goop → Option StoredWorkload → Except PassError Requeue → Prop where
  /-- There is no job. -/
  | gone {wl : Option StoredWorkload} : AtRest cx none wl (.ok .never)
  /-- The finalizer is released. -/
  | finalized {g : Goop} {wl : Option StoredWorkload}
    (hl : g.ledger.isComplete .finalized = true) : AtRest cx (some g) wl (.ok .never)
  /-- The job has run everywhere. -/
  | completed {g : Goop} {wl : Option StoredWorkload} (hl : g.ledger.isComplete .completed = true)
    (hd : g.isDeletionRequested = false) : AtRest cx (some g) wl (.ok .never)
  /-- It cannot be told what to run for the job. -/
  | unplanned {g : Goop} {e : PassError} (hl : g.ledger.isComplete .initialized = true)
    (hf : g.hasFinalizer cx.settings.finalizer = true) (hd : g.isDeletionRequested = false)
    (hplan : WorkloadSpec.plan g cx.settings = .error e) : AtRest cx (some g) none (.error e)
  /-- The workload has not run everywhere. -/
  | waiting {g : Goop} {w : StoredWorkload} (hl : g.ledger.isComplete .deployed = true)
    (hd : g.isDeletionRequested = false) (hw : w.rollout.isComplete = false) :
    AtRest cx (some g) (some w) (.ok (.after cx.settings.pollInterval))
  /-- The workload is gone, and the ledger says so. -/
  | bereft {g : Goop} (hl : g.ledger.isComplete .deployed = true)
    (hd : g.isDeletionRequested = false) (hm : ∀ now, g.ledger.set? (missing g) now = none) :
    AtRest cx (some g) none (.error (.missingWorkload cx.key))

section rest

variable {s₀ : MemoryStore} {cx : Context} {o : Option Goop} {wl : Option StoredWorkload} {n : Nat}
  {clock : Nat → Timestamp} {b : Bench}

/-- A pass over a job at rest reads, writes nothing and returns its result. -/
theorem meets_rest {r : Except PassError Requeue} (h : Scene s₀ cx.key o wl n b.store)
    (hrest : AtRest cx o wl r) :
    Meets (respond clock calm) (fun e _ => e.isWrite = false)
      (fun r' b' => r' = r ∧ b.store.Untouched b'.store ∧ Scene s₀ cx.key o wl n b'.store)
      (reconcile chain cx) b := by
  refine h.meets_untouched ?_
  unfold reconcile
  rw [meets_bind, meets_attempt]
  -- the pass finds the job, and the stages run on it
  have hread : ∀ {g : Goop} {f : Except PassError Goop → Pass Requeue}, o = some g →
      f (.ok g) = chain.run cx g →
      (∀ b' : Bench, Scene s₀ cx.key (some g) wl n b'.store →
        Meets (respond clock calm) (fun e _ => e.isWrite = false) (fun r' _ => r' = r)
          (chain.run cx g) b') →
      Meets (respond clock calm) (fun e _ => e.isWrite = false)
        (fun a b' => Meets (respond clock calm) (fun e _ => e.isWrite = false) (fun r' _ => r' = r)
          (f a) b') cx.fetch b := by
    rintro g f rfl hf hrun
    obtain ⟨s₁, hanswer, hscene⟩ := h.get
    refine meets_call hanswer rfl ?_
    show Meets _ _ _ (f (.ok g)) _
    rw [hf]
    exact hrun _ hscene
  cases hrest with
  | gone =>
    obtain ⟨s₁, hanswer, -⟩ := h.get_none
    exact meets_call hanswer rfl rfl
  | finalized hl =>
    refine hread rfl rfl fun b' _ => ?_
    rw [run_of_finalized hl]
    rfl
  | completed hl hd =>
    refine hread rfl rfl fun b' _ => ?_
    rw [run_of_past hl (by decide) (by decide) hd,
      run_next (complete_early (isComplete_of_ne hl (by decide)))]
    rfl
  | unplanned hl hf hd hplan =>
    refine hread rfl rfl fun b' hscene => ?_
    obtain ⟨s₁, hanswer, -⟩ := hscene.getWorkload_none
    rw [run_of_initialized hl hf hd, Chain.run_cons, meets_bind]
    unfold create
    simp only [hl, not_true_eq_false, if_false]
    rw [meets_bind, meets_attempt]
    refine meets_call hanswer rfl ?_
    show Meets _ _ _ (Pass.ofExcept (WorkloadSpec.plan _ cx.settings) >>= _) _
    rw [hplan]
    rfl
  | waiting hl hd hw =>
    refine hread rfl rfl fun b' hscene => ?_
    obtain ⟨s₁, hanswer, -⟩ := hscene.getWorkload
    rw [run_of_past hl (by decide) (by decide) hd, Chain.run_cons, meets_bind]
    unfold complete
    simp only [hl, not_true_eq_false, if_false]
    rw [meets_bind, meets_attempt]
    refine meets_call hanswer rfl ?_
    show Meets _ _ _ (if _ then _ else _) _
    rw [hw]
    rfl
  | bereft hl hd hm =>
    refine hread rfl rfl fun b' hscene => ?_
    obtain ⟨s₁, hanswer, -⟩ := hscene.getWorkload_none
    rw [run_of_past hl (by decide) (by decide) hd, Chain.run_cons, meets_bind]
    unfold complete
    simp only [hl, not_true_eq_false, if_false]
    rw [meets_bind, meets_attempt]
    refine meets_call hanswer rfl ?_
    show Meets _ _ _ (record cx _ (missing _) >>= _) _
    unfold record
    rw [meets_bind, meets_bind]
    refine meets_clock rfl ?_
    simp only [hm]
    rfl

end rest

/-! ## Outcomes at rest -/

/-- The outcome asks for another pass at once, or leaves a job at rest under its own result. -/
def Rests (cx : Context) (G : Outcome) : Prop :=
  G.result = .ok .now ∨ ∀ o, o.map Goop.outline = G.job → AtRest cx o G.workload G.result

/-- The workload of a job that is to stay is gone. -/
structure LacksWorkload (g : Goop) (wl : Option StoredWorkload) : Prop where
  /-- The workload has been there. -/
  deployed : g.ledger.isComplete .deployed = true
  /-- The job is to stay. -/
  wanted : g.isDeletionRequested = false
  /-- There is no workload. -/
  gone : wl = none

section outcomes

variable {cx : Context} {nodes : Int32} {g : Goop} {wl : Option StoredWorkload}

/-- An outcome with a job in it rests if the job does. -/
theorem rests_of_job {r : Except PassError Requeue}
    (h : ∀ g', g'.outline = g → AtRest cx (some g') wl r) : Rests cx ⟨r, some g, wl⟩ := by
  right
  intro o ho
  obtain ⟨g', rfl, hg'⟩ := Option.map_eq_some_iff.mp ho
  exact h g' hg'

/-- A job in which it has been recorded that a state is complete has come past the other ones. -/
theorem not_lacksWorkload_marked {c : Condition} (hl : g.ledger.Lifelike)
    (hc : g.ledger.Due c.mark) (hr : c.reason ≠ .deployed) : ¬ LacksWorkload (g.marked c) wl := by
  rintro ⟨hdeployed, -, -⟩
  rw [isComplete_marked hl hc] at hdeployed
  exact hr (of_decide_eq_true hdeployed).1

/-- The last stage. -/
theorem rests_afterComplete (hl : g.ledger.Lifelike) (hb : g.ledger.isInitial = false)
    (hinc : g.ledger.isIncomplete .initialized = false)
    (hi : g.ledger.isComplete .initialized = false) (hd : g.isDeletionRequested = false)
    (hw : ¬ LacksWorkload g wl) : Rests cx (afterComplete cx 0 g wl) := by
  unfold afterComplete
  split
  · rename_i hdeployed
    refine rests_of_job ?_
    rintro g' rfl
    -- no other state is left
    rcases hl.state hb with h | h | h | h | h
    · exact absurd (h.symm.trans hinc) (by decide)
    · exact absurd (h.symm.trans hi) (by decide)
    · exact absurd (h.symm.trans hdeployed) (by decide)
    · exact .completed (by simpa using h) hd
    · exact .finalized (by simpa using h)
  · rename_i hdeployed
    have hdeployed : g.ledger.isComplete .deployed = true := by simpa using hdeployed
    cases wl with
    | none => exact absurd ⟨hdeployed, hd, rfl⟩ hw
    | some w =>
      simp only
      split
      · have hc : g.ledger.Due (completed g).mark := .completed hdeployed
        refine rests_of_job fun g' hg' => ?_
        have hg' : g'.outline = g.marked (completed g) := hg'
        have hcomplete : g'.outline.ledger.isComplete .completed = true := by
          rw [hg', isComplete_marked hl hc]
          rfl
        have hd' : g'.outline.isDeletionRequested = false := hg' ▸ hd
        exact .completed (by simpa using hcomplete) hd'
      · rename_i hrollout
        refine rests_of_job ?_
        rintro g' rfl
        exact .waiting (by simpa using hdeployed) hd (by simpa using hrollout)

/-- The fourth stage. -/
theorem rests_afterCreate (hnodes : nodes ≠ 0) (hl : g.ledger.Lifelike)
    (hb : g.ledger.isInitial = false) (hinc : g.ledger.isIncomplete .initialized = false)
    (hs : ¬ NeedsToken cx g) (hd : g.isDeletionRequested = false) (hw : ¬ LacksWorkload g wl) :
    Rests cx (afterCreate cx nodes 0 g wl) := by
  unfold afterCreate
  split
  · rename_i hi
    exact rests_afterComplete hl hb hinc hi hd hw
  rename_i hi
  have hi : g.ledger.isComplete .initialized = true := by simpa using hi
  cases wl with
  | some w =>
    have hc : g.ledger.Due (adopted g).mark := .deployed hi
    have hincomplete : (g.marked (adopted g)).ledger.isIncomplete .initialized = false := by
      rw [isIncomplete_marked hl hc]
      rfl
    have hpast : (g.marked (adopted g)).ledger.isComplete .initialized = false := by
      rw [isComplete_marked hl hc]
      rfl
    exact rests_afterComplete (g := g.marked (adopted g)) (lifelike_marked hl hc)
      (isInitial_marked _ _) hincomplete hpast hd fun h => nomatch h.gone
  | none =>
    simp only
    cases hplan : WorkloadSpec.plan g cx.settings with
    | error e =>
      have htoken : g.hasFinalizer cx.settings.finalizer = true := by
        cases hf : g.hasFinalizer cx.settings.finalizer with
        | true => rfl
        | false => exact absurd ⟨by rw [Ledger.isState_eq, hi, Bool.true_or], hf, hd⟩ hs
      refine rests_of_job ?_
      rintro g' rfl
      exact .unplanned (by simpa using hi) (by simpa using htoken) hd (by simpa using hplan)
    | ok d =>
      have hc : g.ledger.Due (created g).mark := .deployed hi
      -- nothing of the new workload is ready, so it is not complete
      have hfresh : (⟨nodes, 0, 0, true⟩ : Rollout).isComplete = false := by
        simp [Rollout.isComplete, hnodes]
      refine rests_of_job fun g' hg' => ?_
      have hg' : g'.outline = g.marked (created g) := hg'
      have hdeployed : g'.outline.ledger.isComplete .deployed = true := by
        rw [hg', isComplete_marked hl hc]
        rfl
      have hd' : g'.outline.isDeletionRequested = false := hg' ▸ hd
      exact .waiting (by simpa using hdeployed) hd' hfresh

/-- The third stage. -/
theorem rests_afterRelease (hnodes : nodes ≠ 0) (hl : g.ledger.Lifelike)
    (hb : g.ledger.isInitial = false) (hinc : g.ledger.isIncomplete .initialized = false)
    (hs : ¬ NeedsToken cx g) (hw : ¬ LacksWorkload g wl) :
    Rests cx (afterRelease cx nodes 0 g wl) := by
  unfold afterRelease
  split
  · rename_i hf
    refine rests_of_job ?_
    rintro g' rfl
    exact .finalized (by simpa using hf)
  rename_i hf
  have hf : g.ledger.isComplete .finalized = false := by simpa using hf
  split
  · rename_i hd
    exact rests_afterCreate hnodes hl hb hinc hs hd hw
  split
  · exact Or.inl rfl
  · have hc : g.ledger.Due (finalized g).mark := .finalized hb hf
    refine rests_of_job fun g' hg' => ?_
    have hg' : g'.outline = g.marked (finalized g) := hg'
    have hcomplete : g'.outline.ledger.isComplete .finalized = true := by
      rw [hg', isComplete_marked hl hc]
      rfl
    exact .finalized (by simpa using hcomplete)

/-- The second stage. -/
theorem rests_afterAttach (hnodes : nodes ≠ 0) (hl : g.ledger.Lifelike)
    (hb : g.ledger.isInitial = false) (hw : ¬ LacksWorkload g wl) :
    Rests cx (afterAttach cx nodes 0 g wl) := by
  have hledger := ledger_attached cx g
  have hneeds : ¬ NeedsToken cx (attached cx g) := not_needsToken_attached
  have hdeletion := isDeletionRequested_attached cx g
  unfold afterAttach
  generalize attached cx g = g₁ at hledger hneeds hdeletion
  rw [← hledger] at hl hb
  unfold afterToken
  split
  · rename_i hi
    have hc : g₁.ledger.Due initialized.mark := .initialized hi
    have hincomplete : (g₁.marked initialized).ledger.isIncomplete .initialized = false := by
      rw [isIncomplete_marked hl hc]
      rfl
    exact rests_afterRelease (g := g₁.marked initialized) hnodes (lifelike_marked hl hc)
      (isInitial_marked _ _) hincomplete (mt (needsToken_of_marked hi) hneeds)
      (not_lacksWorkload_marked hl hc (by decide))
  · rename_i hi
    refine rests_afterRelease hnodes hl hb (by simpa using hi) hneeds ?_
    rintro ⟨hdeployed, hd, hgone⟩
    exact hw ⟨hledger ▸ hdeployed, hdeletion.symm.trans hd, hgone⟩

/-- The outcome of a pass, unless it finds that a workload is gone. -/
theorem rests_outcome (hnodes : nodes ≠ 0) (hl : g.ledger.Lifelike) (hw : ¬ LacksWorkload g wl) :
    Rests cx (outcome cx nodes 0 (some g) wl) := by
  show Rests cx (afterStart cx nodes 0 g wl)
  unfold afterStart
  split
  · rename_i hb
    have hc : g.ledger.Due starting.mark := .starting hb
    exact rests_afterAttach (g := g.marked starting) hnodes (lifelike_marked hl hc)
      (isInitial_marked _ _) (not_lacksWorkload_marked hl hc (by decide))
  · rename_i hb
    exact rests_afterAttach hnodes hl (by simpa using hb) hw

end outcomes

/-! ## Passes that come to rest -/

section passes

variable {s₀ s : MemoryStore} {cx : Context} {g : Goop} {wl : Option StoredWorkload} {n : Nat}
  {clock : Nat → Timestamp} {b : Bench}

/-- Where no status write is lost, a condition that is recorded is one that the ledger holds. -/
theorem meets_recorded (h : Scene s₀ cx.key (some g) wl 0 b.store)
    (hkey : g.key = .ok cx.key) {c : Condition} {Q : Except PassError Goop → Bench → Prop}
    (hQ : ∀ g' b', Scene s₀ cx.key (some g') wl 0 b'.store → g'.outline = g.outline.marked c →
      (∀ now, g'.ledger.set? c now = none) → Q (.ok g') b') :
    Meets (respond clock calm) (fun _ _ => True) Q (record cx g c) b := by
  unfold record
  rw [meets_bind]
  refine meets_clock (P := fun _ _ => True) trivial ?_
  simp only
  cases hset : g.ledger.set? c (clock b.looks).toText with
  | none => exact hQ g _ h (Goop.outline_of_set?_none hset).symm (set?_none_anytime hset)
  | some l =>
    simp only
    rw [meets_bind]
    obtain ⟨g₁, s₁, hanswer, s₂, hscene⟩ := h.updateStatus hkey l
    refine meets_call hanswer trivial ?_
    obtain ⟨s₃, hget, hscene'⟩ := hscene.get
    refine meets_call (P := fun _ _ => True) hget trivial ?_
    exact hQ _ _ hscene' (Goop.outline_of_set? hset) (set?_again hset)

/-- A pass that finds the workload of a deployed job gone says so in the ledger, and leaves the job
at rest. -/
theorem meets_bereft (h : Scene s₀ cx.key (some g) wl 0 b.store) (hg : Sound cx.key g)
    (hw : LacksWorkload g wl) :
    Meets (respond clock calm) (fun _ _ => True)
      (fun r b' => ∃ g', Scene s₀ cx.key (some g') none 0 b'.store ∧ AtRest cx (some g') none r)
      (reconcile chain cx) b := by
  obtain ⟨hl, hd, rfl⟩ := hw
  unfold reconcile
  rw [meets_bind, meets_attempt]
  obtain ⟨s₁, hanswer, hscene⟩ := h.get
  refine meets_call hanswer trivial ?_
  show Meets _ _ _ (chain.run cx g) _
  rw [run_of_past hl (by decide) (by decide) hd, Chain.run_cons, meets_bind]
  unfold complete
  simp only [hl, not_true_eq_false, if_false]
  rw [meets_bind, meets_attempt]
  obtain ⟨s₂, hanswer', hscene'⟩ := hscene.getWorkload_none
  refine meets_call hanswer' trivial ?_
  show Meets _ _ _ (record cx g (missing g) >>= _) _
  rw [meets_bind]
  refine meets_recorded hscene' hg.key fun g' b' hend houtline hagain => ⟨g', hend, ?_⟩
  have hl' : g.outline.ledger.isComplete .deployed = true := by simpa using hl
  have hdue : g.outline.ledger.Due (missing g).mark := .missing hl'
  have hdeployed : g'.outline.ledger.isComplete .deployed = true := by
    rw [houtline, isComplete_marked (Goop.lifelike_outline hg.life) hdue]
    rfl
  have hd' : g'.outline.isDeletionRequested = false := houtline ▸ hd
  -- the job has kept its name, and so the condition is the same
  have hname : missing g' = missing g := by
    show missing g'.outline = missing g
    rw [houtline]
    rfl
  exact .bereft (by simpa using hdeployed) hd' fun now => hname ▸ hagain now

end passes

end Lifecycle

section scene

open Lifecycle Pass Bench

variable {s₀ s : MemoryStore} {cx : Context} {o : Option Goop} {wl : Option StoredWorkload} {n : Nat}

/-- A pass over a job at rest returns its result, touches nothing and leaves the scene. -/
theorem Scene.passOver_rest {r : Except PassError Requeue} (h : Scene s₀ cx.key o wl n s)
    (hrest : AtRest cx o wl r) (clock : Nat → Timestamp) :
    (Lifecycle.passOver clock calm cx s).1 = r ∧
      s.Untouched (Lifecycle.passOver clock calm cx s).2.store ∧
      Scene s₀ cx.key o wl n (Lifecycle.passOver clock calm cx s).2.store :=
  (meets_rest (b := .new s) h hrest).run

/-- Where no status write is lost, a pass asks for another one at once, or leaves a job at rest
under its own result. -/
theorem Scene.rests (h : Scene s₀ cx.key o wl 0 s) (hnodes : s₀.nodes ≠ 0)
    (hkey : ∀ g, o = some g → g.key = .ok cx.key)
    (hlife : ∀ g, o = some g → g.ledger.Grown) (clock : Nat → Timestamp)
    (hr : (Lifecycle.passOver clock calm cx s).1 ≠ .ok .now) :
    ∃ o' wl', Scene s₀ cx.key o' wl' 0 (Lifecycle.passOver clock calm cx s).2.store ∧
      AtRest cx o' wl' (Lifecycle.passOver clock calm cx s).1 := by
  have hstays : ∀ {r}, AtRest cx o wl r →
      ∃ o' wl', Scene s₀ cx.key o' wl' 0 (Lifecycle.passOver clock calm cx s).2.store ∧
        AtRest cx o' wl' (Lifecycle.passOver clock calm cx s).1 := by
    intro r hrest
    obtain ⟨hresult, -, hend⟩ := h.passOver_rest hrest clock
    exact ⟨o, wl, hend, hresult ▸ hrest⟩
  cases o with
  | none => exact hstays .gone
  | some g =>
    rcases hlife g rfl with hlife | hfinalized
    · have hsound : Sound cx.key g := ⟨hkey g rfl, hlife⟩
      by_cases hw : LacksWorkload g wl
      · have hmeets : Meets (respond clock calm) _ _ (reconcile chain cx) (.new s) :=
          meets_bereft h hsound hw
        obtain ⟨g', hend, hrest⟩ := hmeets.run
        exact ⟨some g', none, hend, hrest⟩
      · have hw' : ¬ LacksWorkload g.outline wl := fun h =>
          hw ⟨by simpa using h.deployed, h.wanted, h.gone⟩
        obtain ⟨hresult, o', ho', hend⟩ :=
          h.passOver (fun _ hg' => Option.some.inj hg' ▸ hsound) clock rfl
        refine ⟨o', _, hend, ?_⟩
        rw [hresult] at hr ⊢
        rcases rests_outcome hnodes (Goop.lifelike_outline hlife) hw' with hnow | hrest
        · exact absurd hnow hr
        · exact hrest o' ho'
    · refine hstays (.finalized ?_)
      rw [isComplete_eq_marks, hfinalized]
      rfl

end scene

end GoopOperator
