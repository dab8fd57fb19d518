import GoopOperator.Proofs.Store.Scene
import GoopOperator.Reconcile

/-!
# What a pass that is alone comes to

The result of a pass that nothing disturbs, and the job and the workload that it leaves, are a
function of the job in outline, the workload, the number of nodes and the number of status writes
to be lost (`Lifecycle.outcome`). It is put together from what is left to do at each stage
(`afterStart`, `afterAttach`, `afterRelease`, `afterCreate`, `afterComplete`).

The theorems of this module say where a stage has nothing to do, and what is left to do once it
has done its part. That passes come to these outcomes is shown in
`GoopOperator.Proofs.Lifecycle.Run`.
-/

namespace GoopOperator

/-- What a pass comes to. -/
structure Outcome where
  /-- Its result. -/
  result : Except PassError Requeue
  /-- The job that it leaves, in outline. -/
  job : Option Goop
  /-- The workload that it leaves. -/
  workload : Option StoredWorkload

namespace Lifecycle

/-! ## What is left to do -/

/-- The job after a condition is recorded, where the next `n` status writes are lost. -/
def afterRecord (n : Nat) (g : Goop) (c : Condition) : Goop := if n = 0 then g.marked c else g

/-- What is left to do at the last stage. -/
def afterComplete (cx : Context) (n : Nat) (g : Goop) (wl : Option StoredWorkload) : Outcome :=
  if g.ledger.isComplete .deployed = false then ⟨.ok .never, some g, wl⟩
  else
    match wl with
    | none => ⟨.error (.missingWorkload cx.key), some (afterRecord n g (missing g)), none⟩
    | some w =>
      if w.rollout.isComplete then ⟨.ok .never, some (afterRecord n g (completed g)), some w⟩
      else ⟨.ok (.after cx.settings.pollInterval), some g, some w⟩

/-- What is left to do where the workload is created. -/
def afterCreate (cx : Context) (nodes : Int32) (n : Nat) (g : Goop) (wl : Option StoredWorkload) :
    Outcome :=
  if g.ledger.isComplete .initialized = false then afterComplete cx n g wl
  else
    match wl with
    | some w => afterComplete cx (n - 1) (afterRecord n g (adopted g)) (some w)
    | none =>
      match WorkloadSpec.plan g cx.settings with
      | .error e => ⟨.error e, some g, none⟩
      | .ok d =>
        ⟨.ok (.after cx.settings.pollInterval), some (afterRecord n g (created g)),
          some ⟨d, ⟨nodes, 0, 0, true⟩⟩⟩

/-- What is left of a job whose finalizer is released: nothing, if that was the last one. -/
def released (cx : Context) (g : Goop) : Option Goop :=
  if (g.removeFinalizer cx.settings.finalizer).finalizers = [] then none
  else some (g.removeFinalizer cx.settings.finalizer)

/-- What is left to do where the finalizer is released. -/
def afterRelease (cx : Context) (nodes : Int32) (n : Nat) (g : Goop) (wl : Option StoredWorkload) :
    Outcome :=
  if g.ledger.isComplete .finalized then ⟨.ok .never, some g, wl⟩
  else if g.isDeletionRequested = false then afterCreate cx nodes n g wl
  else if g.hasFinalizer cx.settings.finalizer then
    ⟨.ok .now, released cx g, if (released cx g).isSome then wl else none⟩
  else ⟨.ok .never, some (afterRecord n g (finalized g)), wl⟩

/-- The job is one to which the finalizer is to be attached. -/
def NeedsToken (cx : Context) (g : Goop) : Prop :=
  g.ledger.isState .initialized = true ∧ g.hasFinalizer cx.settings.finalizer = false ∧
    g.isDeletionRequested = false

instance (cx : Context) (g : Goop) : Decidable (NeedsToken cx g) :=
  inferInstanceAs (Decidable (_ ∧ _ ∧ _))

/-- The job with the finalizer, if that is to be attached. -/
def attached (cx : Context) (g : Goop) : Goop :=
  if NeedsToken cx g then g.addFinalizer cx.settings.finalizer else g

/-- What is left to do of a job with the finalizer before it is recorded that initialization is
complete. -/
def afterToken (cx : Context) (nodes : Int32) (n : Nat) (g : Goop) (wl : Option StoredWorkload) :
    Outcome :=
  if g.ledger.isIncomplete .initialized then
    afterRelease cx nodes (n - 1) (afterRecord n g initialized) wl
  else afterRelease cx nodes n g wl

/-- What is left to do where the finalizer is attached. -/
def afterAttach (cx : Context) (nodes : Int32) (n : Nat) (g : Goop) (wl : Option StoredWorkload) :
    Outcome :=
  afterToken cx nodes n (attached cx g) wl

/-- What is left to do at the first stage. -/
def afterStart (cx : Context) (nodes : Int32) (n : Nat) (g : Goop) (wl : Option StoredWorkload) :
    Outcome :=
  if g.ledger.isInitial then
    if n = 0 then afterAttach cx nodes 0 (g.marked starting) wl else ⟨.ok .now, some g, wl⟩
  else afterAttach cx nodes n g wl

/-- What a pass comes to. -/
def outcome (cx : Context) (nodes : Int32) (n : Nat) (o : Option Goop)
    (wl : Option StoredWorkload) : Outcome :=
  match o with
  | none => ⟨.ok .never, none, wl⟩
  | some g => afterStart cx nodes n g wl

/-! ## Marks that have just been recorded -/

section marked

variable {g : Goop} {c : Condition}

/-- The last mark of a job in which a condition that is due has been recorded. -/
theorem getLast?_marked (hl : g.ledger.Lifelike) (hc : g.ledger.Due c.mark) :
    (g.marked c).ledger.marks.getLast? = some c.mark := by
  rw [Goop.marks_marked]
  exact (life_record hl hc).2

/-- Which state is complete once a condition that is due has been recorded. -/
theorem isComplete_marked (hl : g.ledger.Lifelike) (hc : g.ledger.Due c.mark) (r : Reason) :
    (g.marked c).ledger.isComplete r = decide (c.reason = r ∧ c.status = .yes) := by
  rw [isComplete_eq_marks, getLast?_marked hl hc]
  rfl

/-- Which state is incomplete once a condition that is due has been recorded. -/
theorem isIncomplete_marked (hl : g.ledger.Lifelike) (hc : g.ledger.Due c.mark) (r : Reason) :
    (g.marked c).ledger.isIncomplete r = decide (c.reason = r ∧ c.status ≠ .yes) := by
  rw [isIncomplete_eq_marks, getLast?_marked hl hc]
  rfl

/-- Which state is current once a condition that is due has been recorded. -/
theorem isState_marked (hl : g.ledger.Lifelike) (hc : g.ledger.Due c.mark) (r : Reason) :
    (g.marked c).ledger.isState r = decide (c.reason = r) := by
  rw [Ledger.isState_eq, isComplete_marked hl hc, isIncomplete_marked hl hc]
  by_cases hs : c.status = .yes <;> simp [hs]

/-- Something has been recorded. -/
theorem isInitial_marked (g : Goop) (c : Condition) : (g.marked c).ledger.isInitial = false := by
  rw [isInitial_eq_marks, Goop.marks_marked, List.isEmpty_eq_false_iff]
  exact Mark.record_ne_nil _ _

/-- A condition that is due and completes a state is new where that state is not complete. -/
theorem marked_ne (hl : g.ledger.Lifelike) (hc : g.ledger.Due c.mark) (hs : c.status = .yes)
    (h : g.ledger.isComplete c.reason = false) : g.marked c ≠ g := by
  intro hsame
  have hcomplete := isComplete_marked hl hc c.reason
  rw [hsame, h] at hcomplete
  simp [hs] at hcomplete

/-- A condition that is due is recorded in a life. -/
theorem lifelike_marked (hl : g.ledger.Lifelike) (hc : g.ledger.Due c.mark) :
    (g.marked c).ledger.Lifelike := by
  obtain ⟨hlife, -⟩ := life_record hl hc
  right
  rw [Goop.marks_marked]
  exact hlife

end marked

/-! ## Stages that have nothing to do -/

section nothing

variable {cx : Context} {nodes : Int32} {n : Nat} {g : Goop} {wl : Option StoredWorkload}

/-- The first stage has nothing to do where something has been recorded. -/
theorem outcome_of_begun (hb : g.ledger.isInitial = false) :
    outcome cx nodes n (some g) wl = afterAttach cx nodes n g wl := by
  show afterStart cx nodes n g wl = _
  unfold afterStart
  rw [hb]
  exact if_neg Bool.false_ne_true

/-- A job to which the finalizer is not to be attached stays. -/
theorem attached_of_not (h : ¬ NeedsToken cx g) : attached cx g = g := if_neg h

/-- Attaching the finalizer leaves the ledger. -/
theorem ledger_attached (cx : Context) (g : Goop) : (attached cx g).ledger = g.ledger := by
  unfold attached
  split
  · exact g.ledger_addFinalizer _
  · rfl

/-- Attaching the finalizer leaves the request for deletion. -/
theorem isDeletionRequested_attached (cx : Context) (g : Goop) :
    (attached cx g).isDeletionRequested = g.isDeletionRequested := by
  unfold attached
  split
  · exact g.isDeletionRequested_addFinalizer _
  · rfl

/-- A job with the finalizer needs it no more. -/
theorem not_needsToken_attached : ¬ NeedsToken cx (attached cx g) := by
  unfold attached
  split
  · rintro ⟨-, htoken, -⟩
    rw [g.hasFinalizer_addFinalizer] at htoken
    cases htoken
  · assumption

/-- Recording a condition does not make a job need the finalizer. -/
theorem needsToken_of_marked {c : Condition} (hi : g.ledger.isIncomplete .initialized = true)
    (h : NeedsToken cx (g.marked c)) : NeedsToken cx g := by
  refine ⟨?_, h.2⟩
  rw [Ledger.isState_eq, hi, Bool.or_true]

/-- So far the second stage has nothing to do where the finalizer is not to be attached. -/
theorem outcome_of_secured (hb : g.ledger.isInitial = false) (hs : ¬ NeedsToken cx g) :
    outcome cx nodes n (some g) wl = afterToken cx nodes n g wl := by
  rw [outcome_of_begun hb, afterAttach, attached_of_not hs]

/-- The second stage has nothing to do where initialization is not incomplete besides. -/
theorem outcome_of_settled (hb : g.ledger.isInitial = false) (hs : ¬ NeedsToken cx g)
    (hi : g.ledger.isIncomplete .initialized = false) :
    outcome cx nodes n (some g) wl = afterRelease cx nodes n g wl := by
  rw [outcome_of_secured hb hs, afterToken, hi]
  exact if_neg Bool.false_ne_true

/-- The third stage has nothing to do with a job that is to stay. -/
theorem afterRelease_of_wanted (hf : g.ledger.isComplete .finalized = false)
    (hd : g.isDeletionRequested = false) :
    afterRelease cx nodes n g wl = afterCreate cx nodes n g wl := by
  unfold afterRelease
  rw [hf, if_neg Bool.false_ne_true, if_pos hd]

/-- The fourth stage has nothing to do where initialization is not the last that was completed. -/
theorem afterCreate_of_past (hi : g.ledger.isComplete .initialized = false) :
    afterCreate cx nodes n g wl = afterComplete cx n g wl := if_pos hi

/-- The first four stages have nothing to do with a job that is deployed or completed. -/
theorem outcome_marked_of_past {c : Condition} (hl : g.ledger.Lifelike)
    (hc : g.ledger.Due c.mark) (hd : g.isDeletionRequested = false) (hi : c.reason ≠ .initialized)
    (hf : c.reason ≠ .finalized) :
    outcome cx nodes n (some (g.marked c)) wl = afterComplete cx n (g.marked c) wl := by
  have hsecured : ¬ NeedsToken cx (g.marked c) := by
    rintro ⟨hstate, -⟩
    rw [isState_marked hl hc] at hstate
    exact hi (of_decide_eq_true hstate)
  have hd' : (g.marked c).isDeletionRequested = false := hd
  rw [outcome_of_settled (isInitial_marked g c) hsecured, afterRelease_of_wanted _ hd',
    afterCreate_of_past]
  · rw [isComplete_marked hl hc]
    simp [hi]
  · rw [isComplete_marked hl hc]
    simp [hf]
  · rw [isIncomplete_marked hl hc]
    simp [hi]

end nothing

/-! ## What each write leaves to do

After each write of a pass, a pass that begins anew comes to the same as the one under way. -/

section writes

variable {cx : Context} {nodes : Int32} {g : Goop} {wl : Option StoredWorkload}

/-- The finalizer has been attached. -/
theorem outcome_attached (hb : g.ledger.isInitial = false) :
    outcome cx nodes 0 (some (attached cx g)) wl = outcome cx nodes 0 (some g) wl := by
  have hb' : (attached cx g).ledger.isInitial = false := by
    rw [ledger_attached, hb]
  rw [outcome_of_secured hb' not_needsToken_attached, outcome_of_begun hb]
  rfl

/-- It has been recorded that initialization is complete. -/
theorem outcome_marked_initialized (hl : g.ledger.Lifelike) (hs : ¬ NeedsToken cx g)
    (hi : g.ledger.isIncomplete .initialized = true) :
    outcome cx nodes 0 (some (g.marked initialized)) wl =
      afterRelease cx nodes 0 (g.marked initialized) wl := by
  have hc : g.ledger.Due initialized.mark := .initialized hi
  refine outcome_of_settled (isInitial_marked g _) (mt (needsToken_of_marked hi) hs) ?_
  rw [isIncomplete_marked hl hc]
  rfl

/-- It has been recorded that the finalizer is released. -/
theorem outcome_marked_finalized (hl : g.ledger.Lifelike) (hb : g.ledger.isInitial = false)
    (hf : g.ledger.isComplete .finalized = false) (n : Nat) :
    outcome cx nodes n (some (g.marked (finalized g))) wl =
      ⟨.ok .never, some (g.marked (finalized g)), wl⟩ := by
  have hc : g.ledger.Due (finalized g).mark := .finalized hb hf
  have hcomplete : (g.marked (finalized g)).ledger.isComplete .finalized = true := by
    rw [isComplete_marked hl hc]
    rfl
  rw [outcome_of_settled (isInitial_marked g _), afterRelease, if_pos hcomplete]
  · rintro ⟨hstate, -⟩
    rw [isState_marked hl hc] at hstate
    exact nomatch of_decide_eq_true hstate
  · rw [isIncomplete_marked hl hc]
    rfl

/-- The workload has been created for a job whose initialization is complete. -/
theorem outcome_of_created (hl : g.ledger.Lifelike) (hs : ¬ NeedsToken cx g)
    (hi : g.ledger.isComplete .initialized = true) (hd : g.isDeletionRequested = false)
    {w : StoredWorkload} (hw : w.rollout.isComplete = false) :
    outcome cx nodes 0 (some g) (some w) =
      ⟨.ok (.after cx.settings.pollInterval), some (g.marked (created g)), some w⟩ := by
  have hc : g.ledger.Due (adopted g).mark := .deployed hi
  have hb := isInitial_of_isComplete hi
  have hincomplete := isIncomplete_of_isComplete hi .initialized
  have hfinalized : g.ledger.isComplete .finalized = false := isComplete_of_ne hi nofun
  rw [outcome_of_settled hb hs hincomplete, afterRelease_of_wanted hfinalized hd]
  have hdeployed : (g.marked (adopted g)).ledger.isComplete .deployed = true := by
    rw [isComplete_marked hl hc]
    rfl
  -- that a workload was adopted or created makes no difference but in the message
  have hsame : g.marked (adopted g) = g.marked (created g) := g.marked_congr rfl
  simp [afterCreate, hi, afterRecord, afterComplete, hdeployed, hw, ← hsame]

/-- It has been recorded that the workload is created. -/
theorem outcome_marked_created (hl : g.ledger.Lifelike)
    (hi : g.ledger.isComplete .initialized = true) (hd : g.isDeletionRequested = false)
    {w : StoredWorkload} (hw : w.rollout.isComplete = false) :
    outcome cx nodes 0 (some (g.marked (created g))) (some w) =
      ⟨.ok (.after cx.settings.pollInterval), some (g.marked (created g)), some w⟩ := by
  have hc : g.ledger.Due (created g).mark := .deployed hi
  have hdeployed : (g.marked (created g)).ledger.isComplete .deployed = true := by
    rw [isComplete_marked hl hc]
    rfl
  rw [outcome_marked_of_past hl hc hd nofun nofun]
  simp [afterComplete, hdeployed, hw]

/-- Recording a condition again changes nothing. -/
theorem marked_marked (g : Goop) {c c' : Condition} (h : c.mark = c'.mark) :
    (g.marked c).marked c' = g.marked c := by
  unfold Goop.marked
  rw [Goop.ledger_withLedger, Ledger.marks_ofMarks, h]
  show g.withLedger (.ofMarks (c'.mark.record (c'.mark.record g.ledger.marks))) = _
  rw [Mark.record_record]

/-- It has been recorded that the workload is missing. -/
theorem outcome_marked_missing (hl : g.ledger.Lifelike)
    (hi : g.ledger.isComplete .deployed = true) (hd : g.isDeletionRequested = false) :
    outcome cx nodes 0 (some (g.marked (missing g))) none =
      ⟨.error (.missingWorkload cx.key), some (g.marked (missing g)), none⟩ := by
  have hc : g.ledger.Due (missing g).mark := .missing hi
  have hdeployed : (g.marked (missing g)).ledger.isComplete .deployed = true := by
    rw [isComplete_marked hl hc]
    rfl
  rw [outcome_marked_of_past hl hc hd nofun nofun]
  have hagain : (g.marked (missing g)).marked (missing (g.marked (missing g))) =
      g.marked (missing g) := marked_marked g rfl
  simp [afterComplete, hdeployed, afterRecord, hagain]

/-- It has been recorded that the job is complete. -/
theorem outcome_marked_completed (hl : g.ledger.Lifelike)
    (hi : g.ledger.isComplete .deployed = true) (hd : g.isDeletionRequested = false) :
    outcome cx nodes 0 (some (g.marked (completed g))) wl =
      ⟨.ok .never, some (g.marked (completed g)), wl⟩ := by
  have hc : g.ledger.Due (completed g).mark := .completed hi
  have hpast : (g.marked (completed g)).ledger.isComplete .deployed = false := by
    rw [isComplete_marked hl hc]
    rfl
  rw [outcome_marked_of_past hl hc hd nofun nofun]
  exact if_pos hpast

end writes

end Lifecycle

end GoopOperator
