import GoopOperator.Proofs.Lifecycle.Outcome

/-!
# Passes that stall

A pass stalls that makes the operator wait for a change of a job which is neither completed nor
finalized. Only the first condition is looked at again after it has been recorded: where a later
one is lost, the pass goes on with the job as it was, finds nothing to do, and says so. `Stall`
lists the ways in which this happens, and `stalled_outcome` says that there are no others.
-/

namespace GoopOperator

/-- The job is neither completed nor finalized. -/
def Goop.IsUnfinished (g : Goop) : Prop :=
  g.ledger.isComplete .completed = false ∧ g.ledger.isComplete .finalized = false

/-- Whether a job is unfinished shows in its outline. -/
theorem Goop.isUnfinished_outline {g : Goop} : g.outline.IsUnfinished ↔ g.IsUnfinished := by
  unfold IsUnfinished
  rw [ledger_outline, Ledger.isComplete_outline, Ledger.isComplete_outline]

namespace Lifecycle

/-- The ways in which a pass over the job `g` stalls where the next `n` status writes are lost. -/
inductive Stall (cx : Context) (n : Nat) (g : Goop) (wl : Option StoredWorkload) : Prop where
  /-- It is lost that the job is initialized. -/
  | initialized (hn : 0 < n) (hd : g.isDeletionRequested = false)
    (hg : g.ledger.isIncomplete .initialized = true)
  /-- It is lost that the workload has been adopted. -/
  | deployed (hn : 0 < n) (hd : g.isDeletionRequested = false)
    (hg : g.ledger.isComplete .initialized = true) (hw : wl.isSome = true)
  /-- It is lost that the job is completed. -/
  | completed (hn : 0 < n) (hd : g.isDeletionRequested = false)
    (hg : g.ledger.isComplete .deployed = true) {w : StoredWorkload} (hw : wl = some w)
    (hcomplete : w.rollout.isComplete = true)
  /-- It is lost that the job is finalized; where initialization was under way, that it is
  complete has been lost before. -/
  | finalized (hn : 0 < n) (hd : g.isDeletionRequested = true)
    (htoken : g.hasFinalizer cx.settings.finalizer = false)
    (hg : g.ledger.isInitial = false) (hunfinished : g.IsUnfinished)
    (hlost : g.ledger.isIncomplete .initialized = true → 1 < n)

/-! ## Where a stall shows -/

/-- The outcome of a pass that stalls. -/
def Stalled (errorDelay : Duration) (G : Outcome) : Prop :=
  actionAfter errorDelay G.result = .awaitChange ∧ ∃ g, G.job = some g ∧ g.IsUnfinished

section stalled

variable {delay : Duration} {cx : Context} {nodes : Int32} {n : Nat} {g : Goop}
  {wl : Option StoredWorkload}

/-- A pass that says that nothing is left to do. -/
theorem stalled_never : Stalled delay ⟨.ok .never, some g, wl⟩ ↔ g.IsUnfinished := by
  constructor
  · rintro ⟨-, g', hg', h⟩
    obtain rfl := Option.some.inj hg'
    exact h
  · intro h
    exact ⟨rfl, g, rfl, h⟩

/-- A pass that says that something is left to do at once. -/
theorem not_stalled_now {o : Option Goop} : ¬ Stalled delay ⟨.ok .now, o, wl⟩ :=
  fun h => nomatch h.1

/-- A pass that says that something is left to do later. -/
theorem not_stalled_after {d : Duration} {o : Option Goop} :
    ¬ Stalled delay ⟨.ok (.after d), o, wl⟩ :=
  fun h => nomatch h.1

/-- A pass that fails otherwise than by being cancelled. -/
theorem not_stalled_error {e : PassError} (he : e ≠ .cancelled) {o : Option Goop} :
    ¬ Stalled delay ⟨.error e, o, wl⟩ := by
  rintro ⟨haction, -⟩
  change e.action delay = _ at haction
  unfold PassError.action at haction
  rw [if_neg he] at haction
  split at haction <;> cases haction

/-- A plan does not fail by being cancelled. -/
theorem plan_ne_cancelled {settings : Settings} {e : PassError}
    (h : WorkloadSpec.plan g settings = .error e) : e ≠ .cancelled := by
  rintro rfl
  cases WorkloadSpec.planned_of_plan h

/-- A job in a state other than completed and finalized. -/
theorem isUnfinished_of_isComplete {r : Reason} (h : g.ledger.isComplete r = true)
    (hc : r ≠ .completed) (hf : r ≠ .finalized) : g.IsUnfinished :=
  ⟨isComplete_of_ne h hc, isComplete_of_ne h hf⟩

/-! ## Stage by stage -/

/-- The last stage stalls over a deployed job whose completion is lost, and where the job has not
come as far as that stage. -/
theorem stalled_afterComplete (hl : g.ledger.Lifelike) :
    Stalled delay (afterComplete cx n g wl) ↔
      g.ledger.isComplete .deployed = false ∧ g.IsUnfinished ∨
      g.ledger.isComplete .deployed = true ∧ 0 < n ∧
        ∃ w, wl = some w ∧ w.rollout.isComplete = true := by
  unfold afterComplete
  cases hd : g.ledger.isComplete .deployed with
  | false =>
    rw [if_pos rfl, stalled_never]
    simp
  | true =>
    rw [if_neg (by decide)]
    cases wl with
    | none => simp [not_stalled_error]
    | some w =>
      simp only
      split
      · rename_i hw
        rw [stalled_never]
        unfold afterRecord
        split
        · rename_i hn
          have hdue : g.ledger.Due (completed g).mark := .completed hd
          have hcompleted : (g.marked (completed g)).ledger.isComplete .completed = true := by
            rw [isComplete_marked hl hdue]
            rfl
          simp [Goop.IsUnfinished, hcompleted, hn]
        · rename_i hn
          have hunfinished : g.IsUnfinished := isUnfinished_of_isComplete hd (by decide) (by decide)
          simp [hunfinished, hw, Nat.pos_of_ne_zero hn]
      · rename_i hw
        simp [not_stalled_after, hw]

/-- The fourth stage stalls besides over an initialized job of which it is lost that its workload
has been adopted. -/
theorem stalled_afterCreate (hl : g.ledger.Lifelike) :
    Stalled delay (afterCreate cx nodes n g wl) ↔
      g.ledger.isComplete .initialized = false ∧ Stalled delay (afterComplete cx n g wl) ∨
      g.ledger.isComplete .initialized = true ∧ 0 < n ∧ wl.isSome = true := by
  unfold afterCreate
  cases hi : g.ledger.isComplete .initialized with
  | false =>
    rw [if_pos rfl]
    simp
  | true =>
    rw [if_neg (by decide)]
    cases wl with
    | none =>
      cases hplan : WorkloadSpec.plan g cx.settings with
      | error e => simp [not_stalled_error (plan_ne_cancelled hplan)]
      | ok d => simp [not_stalled_after]
    | some w =>
      simp only
      cases n with
      | zero =>
        -- the job is deployed, and that it is completed is not lost
        have hdue : g.ledger.Due (adopted g).mark := .deployed hi
        have hdeployed : (g.marked (adopted g)).ledger.isComplete .deployed = true := by
          rw [isComplete_marked hl hdue]
          rfl
        have hstays : ¬ Stalled delay (afterComplete cx 0 (g.marked (adopted g)) (some w)) := by
          rw [stalled_afterComplete (lifelike_marked hl hdue), hdeployed]
          simp
        simpa [afterRecord] using hstays
      | succ n =>
        -- the job is taken for one that is not deployed
        have hdeployed : g.ledger.isComplete .deployed = false := isComplete_of_ne hi (by decide)
        have hunfinished : g.IsUnfinished := isUnfinished_of_isComplete hi (by decide) (by decide)
        have hstalls : Stalled delay (afterComplete cx n g (some w)) :=
          (stalled_afterComplete hl).mpr (Or.inl ⟨hdeployed, hunfinished⟩)
        simpa [afterRecord] using hstalls

/-- The third stage stalls besides over a job that is to be deleted, and of which it is lost that
it is finalized. -/
theorem stalled_afterRelease (hl : g.ledger.Lifelike) (hb : g.ledger.isInitial = false) :
    Stalled delay (afterRelease cx nodes n g wl) ↔
      g.ledger.isComplete .finalized = false ∧
        (g.isDeletionRequested = false ∧ Stalled delay (afterCreate cx nodes n g wl) ∨
        g.isDeletionRequested = true ∧ g.hasFinalizer cx.settings.finalizer = false ∧ 0 < n ∧
          g.IsUnfinished) := by
  unfold afterRelease
  cases hf : g.ledger.isComplete .finalized with
  | true =>
    rw [if_pos rfl, stalled_never]
    simp [Goop.IsUnfinished, hf]
  | false =>
    rw [if_neg (by decide)]
    cases hd : g.isDeletionRequested with
    | false =>
      rw [if_pos rfl]
      simp
    | true =>
      rw [if_neg (by decide)]
      cases htoken : g.hasFinalizer cx.settings.finalizer with
      | true =>
        rw [if_pos rfl]
        simp [not_stalled_now]
      | false =>
        rw [if_neg (by decide), stalled_never]
        unfold afterRecord
        split
        · rename_i hn
          have hdue : g.ledger.Due (finalized g).mark := .finalized hb hf
          have hfinalized : (g.marked (finalized g)).ledger.isComplete .finalized = true := by
            rw [isComplete_marked hl hdue]
            rfl
          simp [Goop.IsUnfinished, hfinalized, hn]
        · rename_i hn
          simp [Nat.pos_of_ne_zero hn]

/-- Where no status write is lost, no stage stalls over a job that has just been initialized. -/
theorem not_stalled_initialized (hl : g.ledger.Lifelike)
    (hi : g.ledger.isIncomplete .initialized = true) :
    ¬ Stalled delay (afterToken cx nodes 0 g wl) := by
  have hdue : g.ledger.Due initialized.mark := .initialized hi
  have hinitialized : (g.marked initialized).ledger.isComplete .initialized = true := by
    rw [isComplete_marked hl hdue]
    rfl
  have hl' := lifelike_marked hl hdue
  unfold afterToken
  rw [if_pos hi]
  show ¬ Stalled delay (afterRelease cx nodes 0 (g.marked initialized) wl)
  rw [stalled_afterRelease hl' (isInitial_marked g _), stalled_afterCreate hl', hinitialized]
  simp

/-! ## The whole pass -/

/-- A stall takes a status write that is lost. -/
theorem Stall.loses (h : Stall cx n g wl) : 0 < n := by
  cases h <;> assumption

/-- No pass stalls over a job without a history. -/
theorem Stall.begun (h : Stall cx n g wl) : g.ledger.isInitial = false := by
  cases h with
  | initialized hn hd hg => exact isInitial_of_isIncomplete hg
  | deployed hn hd hg hw => exact isInitial_of_isComplete hg
  | completed hn hd hg hw hcomplete => exact isInitial_of_isComplete hg
  | finalized hn hd htoken hg hunfinished hlost => exact hg

/-- A stall depends on the marks of the ledger, the request for deletion and, where there is one,
the finalizer. -/
theorem Stall.congr (h : Stall cx n g wl) {g' : Goop} (hmarks : g'.ledger.marks = g.ledger.marks)
    (hd' : g'.isDeletionRequested = g.isDeletionRequested)
    (htoken' : g.isDeletionRequested = true →
      g'.hasFinalizer cx.settings.finalizer = g.hasFinalizer cx.settings.finalizer) :
    Stall cx n g' wl := by
  have hcomplete' : ∀ r, g'.ledger.isComplete r = g.ledger.isComplete r := by
    intro r
    rw [isComplete_eq_marks, isComplete_eq_marks, hmarks]
  have hincomplete' : ∀ r, g'.ledger.isIncomplete r = g.ledger.isIncomplete r := by
    intro r
    rw [isIncomplete_eq_marks, isIncomplete_eq_marks, hmarks]
  cases h with
  | initialized hn hd hg => exact .initialized hn (hd'.trans hd) ((hincomplete' _).trans hg)
  | deployed hn hd hg hw => exact .deployed hn (hd'.trans hd) ((hcomplete' _).trans hg) hw
  | completed hn hd hg hw hcomplete =>
    exact .completed hn (hd'.trans hd) ((hcomplete' _).trans hg) hw hcomplete
  | finalized hn hd htoken hg hunfinished hlost =>
    refine .finalized hn (hd'.trans hd) ((htoken' hd).trans htoken) ?_ ?_ fun hi => ?_
    · rw [isInitial_eq_marks, hmarks, ← isInitial_eq_marks]
      exact hg
    · exact ⟨(hcomplete' _).trans hunfinished.1, (hcomplete' _).trans hunfinished.2⟩
    · exact hlost ((hincomplete' _).symm.trans hi)

/-- Attaching the finalizer makes no difference to a stall. -/
theorem stall_attached : Stall cx n (attached cx g) wl ↔ Stall cx n g wl := by
  have hmarks := congrArg Ledger.marks (ledger_attached cx g)
  have hd := isDeletionRequested_attached cx g
  -- the finalizer is not attached to a job that is to be deleted
  have htoken : g.isDeletionRequested = true →
      (attached cx g).hasFinalizer cx.settings.finalizer =
        g.hasFinalizer cx.settings.finalizer := by
    intro hrequested
    rw [attached_of_not fun h => Bool.false_ne_true (h.2.2.symm.trans hrequested)]
  constructor
  · intro h
    exact h.congr hmarks.symm hd.symm fun h' => (htoken (hd.symm.trans h')).symm
  · intro h
    exact h.congr hmarks hd htoken

/-- A stall shows in the outline of a job. -/
theorem stall_outline : Stall cx n g.outline wl ↔ Stall cx n g wl := by
  have hmarks : g.outline.ledger.marks = g.ledger.marks := by
    rw [Goop.ledger_outline, Ledger.marks_outline]
  constructor
  · intro h
    exact h.congr hmarks.symm rfl fun _ => rfl
  · intro h
    exact h.congr hmarks rfl fun _ => rfl

/-- From the second stage on, where the finalizer is attached already. -/
theorem stalled_afterToken (hl : g.ledger.Lifelike) (hb : g.ledger.isInitial = false) :
    Stalled delay (afterToken cx nodes n g wl) ↔ Stall cx n g wl := by
  cases hi : g.ledger.isIncomplete .initialized with
  | true =>
    have hcomplete := isComplete_of_isIncomplete hi
    have hunfinished : g.IsUnfinished := ⟨hcomplete _, hcomplete _⟩
    cases n with
    | zero =>
      refine iff_of_false (not_stalled_initialized hl hi) fun h => ?_
      exact absurd h.loses (Nat.lt_irrefl 0)
    | succ n =>
      -- the job is taken for one that is still being initialized
      unfold afterToken
      rw [if_pos hi]
      show Stalled delay (afterRelease cx nodes n g wl) ↔ _
      rw [stalled_afterRelease hl hb, stalled_afterCreate hl, stalled_afterComplete hl,
        hcomplete, hcomplete, hcomplete]
      constructor
      · rintro ⟨-, ⟨hd, -⟩ | ⟨hd, htoken, hn, -⟩⟩
        · exact .initialized (Nat.succ_pos n) hd hi
        · exact .finalized (Nat.succ_pos n) hd htoken hb hunfinished fun _ => Nat.succ_lt_succ hn
      · intro h
        refine ⟨rfl, ?_⟩
        cases h with
        | initialized hn hd hg => exact Or.inl ⟨hd, Or.inl ⟨rfl, Or.inl ⟨rfl, hunfinished⟩⟩⟩
        | deployed hn hd hg => exact absurd ((hcomplete _).symm.trans hg) Bool.false_ne_true
        | completed hn hd hg => exact absurd ((hcomplete _).symm.trans hg) Bool.false_ne_true
        | finalized hn hd htoken hg hunfinished hlost =>
          exact Or.inr ⟨hd, htoken, Nat.lt_of_succ_lt_succ (hlost hi), hunfinished⟩
  | false =>
    unfold afterToken
    rw [hi, if_neg Bool.false_ne_true, stalled_afterRelease hl hb, stalled_afterCreate hl,
      stalled_afterComplete hl]
    constructor
    · rintro ⟨hf, ⟨hd, ⟨hinit, ⟨hdeployed, hunfinished⟩ | ⟨hdeployed, hn, w, hw, hcomplete⟩⟩ |
        ⟨hinit, hn, hw⟩⟩ | ⟨hd, htoken, hn, hunfinished⟩⟩
      · -- the job would be in no state at all
        rcases hl.state hb with h | h | h | h | h
        · exact absurd (hi.symm.trans h) Bool.false_ne_true
        · exact absurd (hinit.symm.trans h) Bool.false_ne_true
        · exact absurd (hdeployed.symm.trans h) Bool.false_ne_true
        · exact absurd (hunfinished.1.symm.trans h) Bool.false_ne_true
        · exact absurd (hf.symm.trans h) Bool.false_ne_true
      · exact .completed hn hd hdeployed hw hcomplete
      · exact .deployed hn hd hinit hw
      · exact .finalized hn hd htoken hb hunfinished fun h =>
          absurd (hi.symm.trans h) Bool.false_ne_true
    · intro h
      cases h with
      | initialized hn hd hg => exact absurd (hi.symm.trans hg) Bool.false_ne_true
      | deployed hn hd hg hw =>
        exact ⟨isComplete_of_ne hg (by decide), Or.inl ⟨hd, Or.inr ⟨hg, hn, hw⟩⟩⟩
      | completed hn hd hg hw hcomplete =>
        have hinit : g.ledger.isComplete .initialized = false := isComplete_of_ne hg (by decide)
        refine ⟨isComplete_of_ne hg (by decide), Or.inl ⟨hd, Or.inl ⟨hinit, ?_⟩⟩⟩
        exact Or.inr ⟨hg, hn, _, hw, hcomplete⟩
      | finalized hn hd htoken hg hunfinished hlost =>
        exact ⟨hunfinished.2, Or.inr ⟨hd, htoken, hn, hunfinished⟩⟩

/-- A pass over a job in a life stalls in one of the ways listed. -/
theorem stalled_outcome (hl : g.ledger.Lifelike) :
    Stalled delay (outcome cx nodes n (some g) wl) ↔ Stall cx n g wl := by
  cases hb : g.ledger.isInitial with
  | false =>
    have hledger := ledger_attached cx g
    rw [outcome_of_begun hb, afterAttach,
      stalled_afterToken (hledger.symm ▸ hl) (hledger.symm ▸ hb), stall_attached]
  | true =>
    refine iff_of_false ?_ fun h => Bool.false_ne_true (h.begun.symm.trans hb)
    show ¬ Stalled delay (afterStart cx nodes n g wl)
    unfold afterStart
    rw [if_pos hb]
    split
    · have hdue : g.ledger.Due starting.mark := .starting hb
      have hledger := ledger_attached cx (g.marked starting)
      refine not_stalled_initialized ?_ ?_
      · rw [hledger]
        exact lifelike_marked hl hdue
      · rw [hledger, isIncomplete_marked hl hdue]
        rfl
    · exact not_stalled_now

end stalled

end Lifecycle

end GoopOperator
