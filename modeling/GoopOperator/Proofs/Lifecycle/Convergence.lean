import GoopOperator.Proofs.Lifecycle.Calls
import GoopOperator.Proofs.Lifecycle.Rest
import GoopOperator.Proofs.Store.Ticks

/-!
# From a new job to a completed one

A new job, passes over it and nodes on which its workload gets ready, in any order (`Act`): what a
pass returns and leaves depends on two numbers only, that of the passes before it and that of the
nodes since the workload was created. `Phase` is the machine that counts them, and `Phase.Holds`
ties its phases to the store. One act leads from a phase to the next one (`Phase.Holds.pass`,
`Phase.Holds.tick`), and so do any number of them (`Phase.Holds.after`). `converges_on_the_tick`
reads off what this means for each pass.
-/

namespace GoopOperator

/-! ## Rollouts -/

/-- The workload should run on `n` nodes, and is ready and available on `r` of them. -/
structure Rollout.Reaches (w : Rollout) (n r : Nat) : Prop where
  /-- The nodes on which it should run. -/
  desired : w.desired.toInt = n
  /-- The nodes on which it is ready. -/
  ready : w.ready.toInt = r
  /-- The nodes on which it is available. -/
  available : w.available.toInt = r
  /-- The counts are those of the current generation. -/
  observed : w.observed = true
  /-- There are not more of them than there should be. -/
  bounded : r ≤ n

namespace Rollout.Reaches

variable {w : Rollout} {n r : Nat}

/-- A new workload is ready nowhere. -/
theorem fresh {nodes : Int32} (hn : nodes.toInt = n) :
    Reaches ⟨nodes, 0, 0, true⟩ n 0 := ⟨hn, rfl, rfl, rfl, Nat.zero_le n⟩

/-- A workload that is ready nowhere is as a new one. -/
theorem eq_fresh (h : w.Reaches n 0) {nodes : Int32} (hn : nodes.toInt = n) :
    w = ⟨nodes, 0, 0, true⟩ := by
  obtain ⟨desired, ready, available, observed⟩ := w
  obtain ⟨hdesired, hready, havailable, rfl, -⟩ := h
  obtain rfl : desired = nodes := Int32.toInt_inj.mp (hdesired.trans hn.symm)
  obtain rfl : ready = 0 := Int32.toInt_inj.mp hready
  obtain rfl : available = 0 := Int32.toInt_inj.mp havailable
  rfl

/-- It has run everywhere where it is ready on all nodes. -/
theorem isComplete_eq (h : w.Reaches n r) : w.isComplete = decide (n ≤ r) := by
  have hbounded := h.bounded
  have hready : w.desired = w.ready ↔ n ≤ r := by
    rw [← Int32.toInt_inj, h.desired, h.ready]
    omega
  have havailable : w.desired = w.available ↔ n ≤ r := by
    rw [← Int32.toInt_inj, h.desired, h.available]
    omega
  unfold isComplete
  simp only [h.observed, hready, havailable, true_and, and_self]

/-- One more node, if there is one. -/
theorem advance (h : w.Reaches n r) : w.advance.Reaches n (min (r + 1) n) := by
  obtain ⟨hdesired, hready, havailable, hobserved, hbounded⟩ := h
  have hready' : (raise w.ready w.desired).toInt = (min (r + 1) n : Nat) := by
    rw [toInt_raise, hready, hdesired]
    omega
  have havailable' : (raise w.available (raise w.ready w.desired)).toInt = (min (r + 1) n : Nat) := by
    rw [toInt_raise, hready', havailable]
    omega
  rw [advance_eq]
  exact ⟨hdesired, hready', havailable', hobserved, Nat.min_le_right (r + 1) n⟩

end Rollout.Reaches

namespace Lifecycle

open Pass Bench

/-! ## Acts -/

/-- What happens to a job: a pass is made over it, or its workload gets ready on one more node. -/
inductive Act where
  /-- An undisturbed pass. -/
  | pass (clock : Nat → Timestamp)
  /-- One more node. -/
  | tick

namespace Act

/-- The store after an act. -/
def apply (cx : Context) (s : MemoryStore) : Act → MemoryStore
  | .pass clock => (passOver clock calm cx s).2.store
  | .tick => (s.advanceRollout cx.key).2

/-- The store after some acts, one after the other. -/
def after (cx : Context) (s : MemoryStore) (acts : List Act) : MemoryStore := acts.foldl (apply cx) s

/-- Whether it is a pass. -/
def isPass : Act → Bool
  | .pass _ => true
  | .tick => false

/-- The number of passes. -/
def passes (acts : List Act) : Nat := acts.countP isPass

/-- The number of ticks. -/
def ticks (acts : List Act) : Nat := acts.countP fun a => !a.isPass

/-- One of the passes has `n` ticks before it. -/
def HasLatePass (n : Nat) (acts : List Act) : Prop :=
  ∃ front clock back, acts = front ++ .pass clock :: back ∧ n ≤ ticks front

end Act

/-! ## Phases -/

/-- How far a job has got. -/
inductive Phase where
  /-- The store is going to lose some status writes. -/
  | lagging (losses : Nat)
  /-- The workload has been created, and has had some ticks since. -/
  | deployed (ticks : Nat)
  /-- The job has run everywhere. -/
  | completed

namespace Phase

/-- What a pass leads to, on `n` nodes. -/
def pass (n : Nat) : Phase → Phase
  | .lagging (losses + 1) => .lagging losses
  | .lagging 0 => .deployed 0
  | .deployed t => if t < n then .deployed t else .completed
  | .completed => .completed

/-- What a tick leads to. -/
def tick : Phase → Phase
  | .deployed t => .deployed (t + 1)
  | φ => φ

/-- What an act leads to. -/
def next (n : Nat) (φ : Phase) : Act → Phase
  | .pass _ => φ.pass n
  | .tick => φ.tick

/-- What some acts lead to. -/
def after (n : Nat) (φ : Phase) (acts : List Act) : Phase := acts.foldl (next n) φ

/-- What a pass returns. -/
def result (cx : Context) (n : Nat) : Phase → Except PassError Requeue
  | .lagging (_ + 1) => .ok .now
  | .lagging 0 => .ok (.after cx.settings.pollInterval)
  | .deployed t => if t < n then .ok (.after cx.settings.pollInterval) else .ok .never
  | .completed => .ok .never

section counting

variable {n m : Nat} {acts : List Act}

/-- The store lags for as many passes as there are status writes to be lost. -/
theorem after_lagging (h : Act.passes acts ≤ m) :
    after n (.lagging m) acts = .lagging (m - Act.passes acts) := by
  induction acts generalizing m with
  | nil => rfl
  | cons a acts ih =>
    cases a with
    | tick =>
      have hcount : Act.passes (.tick :: acts) = Act.passes acts := List.countP_cons_of_neg nofun
      rw [hcount] at h ⊢
      exact ih h
    | pass clock =>
      have hcount : Act.passes (.pass clock :: acts) = Act.passes acts + 1 :=
        List.countP_cons_of_pos rfl
      rw [hcount] at h ⊢
      obtain ⟨m, rfl⟩ : ∃ m', m = m' + 1 := ⟨m - 1, by omega⟩
      show after n (.lagging m) acts = _
      rw [ih (by omega)]
      congr 1
      omega

/-- While no pass is late, ticks are counted. -/
theorem after_deployed {t : Nat}
    (h : ∀ front clock back, acts = front ++ .pass clock :: back → t + Act.ticks front < n) :
    after n (.deployed t) acts = .deployed (t + Act.ticks acts) := by
  induction acts generalizing t with
  | nil => rfl
  | cons a acts ih =>
    cases a with
    | tick =>
      have hcount : ∀ l, Act.ticks (.tick :: l) = Act.ticks l + 1 := fun l =>
        List.countP_cons_of_pos rfl
      show after n (.deployed (t + 1)) acts = _
      rw [hcount, ih fun front clock back heq => ?_]
      · congr 1
        omega
      · have hlt := h (.tick :: front) clock back (congrArg _ heq)
        rw [hcount] at hlt
        omega
    | pass clock =>
      have hcount : ∀ l, Act.ticks (.pass clock :: l) = Act.ticks l := fun l =>
        List.countP_cons_of_neg nofun
      have hlt : t < n := h [] clock acts rfl
      have hstays : pass n (.deployed t) = .deployed t := if_pos hlt
      show after n (pass n (.deployed t)) acts = _
      rw [hstays, hcount, ih fun front clock' back heq => ?_]
      have hfront := h (.pass clock :: front) clock' back (congrArg _ heq)
      rw [hcount] at hfront
      exact hfront

/-- What is completed stays so. -/
theorem after_completed (n : Nat) (acts : List Act) : after n .completed acts = .completed := by
  induction acts with
  | nil => rfl
  | cons a acts ih => cases a <;> exact ih

/-- A late pass completes the job. -/
theorem after_latePass {t : Nat} {front back : List Act} {clock : Nat → Timestamp}
    (h : n ≤ t + Act.ticks front) :
    after n (.deployed t) (front ++ .pass clock :: back) = .completed := by
  induction front generalizing t with
  | nil =>
    have hlate : pass n (.deployed t) = .completed := if_neg (Nat.not_lt.mpr h)
    show after n (pass n (.deployed t)) back = _
    rw [hlate]
    exact after_completed n back
  | cons a front ih =>
    cases a with
    | tick =>
      have hcount : Act.ticks (.tick :: front) = Act.ticks front + 1 :=
        List.countP_cons_of_pos rfl
      exact ih (t := t + 1) (by omega)
    | pass clock' =>
      have hcount : Act.ticks (.pass clock' :: front) = Act.ticks front :=
        List.countP_cons_of_neg nofun
      show after n (pass n (.deployed t)) (front ++ .pass clock :: back) = _
      unfold pass
      simp only
      split
      · exact ih (by omega)
      · exact after_completed n _

end counting

end Phase

/-! ## Single passes -/

/-- A job without a history that is to stay, and for which `d` is to be run. -/
structure IsNew (cx : Context) (d : WorkloadSpec) (g : Goop) : Prop where
  /-- The key. -/
  key : g.key = .ok cx.key
  /-- Nothing is recorded. -/
  empty : g.ledger.isInitial = true
  /-- No deletion is requested. -/
  wanted : g.isDeletionRequested = false
  /-- What is to be run. -/
  plan : WorkloadSpec.plan g cx.settings = .ok d

/-- A job that is to stay and has the finalizer, with these marks in its ledger. -/
structure Stays (cx : Context) (marks : List Mark) (g : Goop) : Prop where
  /-- The key. -/
  key : g.key = .ok cx.key
  /-- No deletion is requested. -/
  wanted : g.isDeletionRequested = false
  /-- The finalizer. -/
  secured : g.hasFinalizer cx.settings.finalizer = true
  /-- The ledger. -/
  marks : g.ledger.marks = marks

/-- What a ledger says of a job that is deployed. -/
def deployedMarks : List Mark := [⟨.available, .yes, .initialized⟩, ⟨.available, .yes, .deployed⟩]

/-- What a ledger says of a job that is completed. -/
def completedMarks : List Mark := deployedMarks ++ [⟨.available, .yes, .completed⟩]

/-- A job stays as its outline does. -/
theorem stays_outline {cx : Context} {marks : List Mark} {g : Goop} :
    Stays cx marks g.outline ↔ Stays cx marks g := by
  constructor
  · rintro ⟨hkey, hd, hf, hmarks⟩
    exact ⟨hkey, hd, hf, by simpa using hmarks⟩
  · rintro ⟨hkey, hd, hf, hmarks⟩
    exact ⟨hkey, hd, hf, by simpa using hmarks⟩

section passes

variable {s₀ s : MemoryStore} {cx : Context} {g : Goop} {d : WorkloadSpec} {n : Nat}

/-- In an empty ledger every condition is new. -/
theorem set?_of_isInitial {l : Ledger} (h : l.isInitial = true) (c : Condition) (now : String) :
    l.set? c now = some (l.push c now) := by
  obtain ⟨entries⟩ := l
  obtain rfl : entries = [] := List.isEmpty_iff.mp h
  rfl

/-- Where the next status write is lost, a condition that is new is not recorded, and the pass goes
on with the job as it was. -/
theorem meets_record_lost {b : Bench} {clock : Nat → Timestamp} {wl : Option StoredWorkload} {m : Nat}
    (h : Scene s₀ cx.key (some g) wl (m + 1) b.store) (hkey : g.key = .ok cx.key) {c : Condition}
    (hnew : ∀ now, ∃ l, g.ledger.set? c now = some l) {Q : Except PassError Goop → Bench → Prop}
    (hQ : ∀ b', Scene s₀ cx.key (some g) wl m b'.store → Q (.ok g) b') :
    Meets (respond clock calm) (fun _ _ => True) Q (record cx g c) b := by
  unfold record
  rw [meets_bind]
  refine meets_clock (P := fun _ _ => True) trivial ?_
  obtain ⟨l, hset⟩ := hnew (clock b.looks).toText
  simp only [hset]
  rw [meets_bind]
  obtain ⟨g₁, s₁, hwrite, h₁⟩ := h.updateStatus_lost hkey l
  refine meets_call hwrite trivial ?_
  obtain ⟨s₂, hread, h₂⟩ := h₁.get
  refine meets_call (P := fun _ _ => True) hread trivial ?_
  exact hQ _ h₂

/-- A pass over a new job whose first status write is lost leaves the job exactly as it is. -/
theorem passOver_lagging {wl : Option StoredWorkload} {m : Nat} (clock : Nat → Timestamp)
    (h : Scene s₀ cx.key (some g) wl (m + 1) s) (hg : IsNew cx d g) :
    (passOver clock calm cx s).1 = .ok .now ∧
      Scene s₀ cx.key (some g) wl m (passOver clock calm cx s).2.store := by
  suffices hmeets : Meets (respond clock calm) (fun _ _ => True)
      (fun r b => r = .ok .now ∧ Scene s₀ cx.key (some g) wl m b.store) (reconcile chain cx)
      (.new s) from hmeets.run
  unfold reconcile
  rw [meets_bind, meets_attempt]
  obtain ⟨s₁, hread, h₁⟩ := h.get
  refine meets_call (b := .new s) hread trivial ?_
  show Meets _ _ _ (Chain.run ⟨_ :: _⟩ cx g) _
  rw [Chain.run_cons, meets_bind]
  unfold start
  simp only [hg.empty, if_true]
  rw [meets_bind]
  refine meets_record_lost h₁ hg.key (fun now => ⟨_, set?_of_isInitial hg.empty _ now⟩)
    fun b' hend => ?_
  simp only [hg.empty, if_true]
  exact ⟨rfl, hend⟩

/-- Attaching the finalizer changes neither the key of a job nor what is run for it. -/
theorem plan_attached (cx : Context) (g : Goop) :
    (attached cx g).key = g.key ∧
      WorkloadSpec.plan (attached cx g) cx.settings = WorkloadSpec.plan g cx.settings := by
  unfold attached
  split
  · rcases g.addFinalizer_eq cx.settings.finalizer with h | h <;> rw [h] <;> exact ⟨rfl, rfl⟩
  · exact ⟨rfl, rfl⟩

/-- The first pass over a new job that loses nothing brings it as far as its workload. -/
theorem outcome_new (nodes : Int32) {x : Goop} (hx : IsNew cx d x) :
    ∃ x', outcome cx nodes 0 (some x) none =
        ⟨.ok (.after cx.settings.pollInterval), some x', some ⟨d, ⟨nodes, 0, 0, true⟩⟩⟩ ∧
      Stays cx deployedMarks x' := by
  obtain ⟨hx, hempty, hd, hplan⟩ := hx
  have hl : x.ledger.Lifelike := by
    rw [isInitial_eq_marks, List.isEmpty_iff] at hempty
    exact Or.inl hempty
  have hc₁ : x.ledger.Due starting.mark := .starting hempty
  -- the finalizer is attached to the job that has been started
  let x₁ := x.marked starting
  let x₂ := attached cx x₁
  have hledger : x₂.ledger = x₁.ledger := ledger_attached cx x₁
  have hl₂ : x₂.ledger.Lifelike := hledger ▸ lifelike_marked hl hc₁
  have hi₂ : x₂.ledger.isIncomplete .initialized = true := by
    rw [hledger, isIncomplete_marked hl hc₁]
    rfl
  have hd₂ : x₂.isDeletionRequested = false := (isDeletionRequested_attached cx x₁).trans hd
  have htoken : x₂.hasFinalizer cx.settings.finalizer = true := by
    cases hf : x₂.hasFinalizer cx.settings.finalizer with
    | true => rfl
    | false =>
      have hstate : x₂.ledger.isState .initialized = true := by
        rw [Ledger.isState_eq, hi₂, Bool.or_true]
      exact absurd ⟨hstate, hf, hd₂⟩ not_needsToken_attached
  obtain ⟨hkey, hplan₂⟩ := plan_attached cx x₁
  have hplan₂ : WorkloadSpec.plan x₂ cx.settings = .ok d := hplan₂.trans hplan
  -- then it is recorded that initialization is complete, and the workload is created
  have hc₂ : x₂.ledger.Due initialized.mark := .initialized hi₂
  let x₃ := x₂.marked initialized
  have hi₃ : x₃.ledger.isComplete .initialized = true := by
    rw [isComplete_marked hl₂ hc₂]
    rfl
  have houtcome : outcome cx nodes 0 (some x) none = afterRelease cx nodes 0 x₃ none := by
    show afterStart cx nodes 0 x none = _
    unfold afterStart
    rw [if_pos hempty, if_pos rfl]
    show afterToken cx nodes 0 x₂ none = _
    unfold afterToken
    rw [if_pos hi₂]
    rfl
  refine ⟨x₃.marked (created x₃), ?_, hkey.trans hx, hd₂, htoken, ?_⟩
  · have hplan₃ : WorkloadSpec.plan x₃ cx.settings = .ok d := hplan₂
    rw [houtcome, afterRelease_of_wanted (isComplete_of_ne hi₃ (by decide)) hd₂]
    simp [afterCreate, hi₃, hplan₃, afterRecord]
  · have hmarks : x.ledger.marks = [] := by
      rwa [isInitial_eq_marks, List.isEmpty_iff] at hempty
    rw [Goop.marks_marked, Goop.marks_marked, hledger, Goop.marks_marked, hmarks]
    rfl

/-- The first pass over a new job that loses nothing creates its workload, and records that. -/
theorem passOver_new (clock : Nat → Timestamp) (h : Scene s₀ cx.key (some g) none 0 s)
    (hg : IsNew cx d g) :
    (passOver clock calm cx s).1 = .ok (.after cx.settings.pollInterval) ∧
      ∃ g', Stays cx deployedMarks g' ∧
        Scene s₀ cx.key (some g') (some ⟨d, ⟨s₀.nodes, 0, 0, true⟩⟩) 0
          (passOver clock calm cx s).2.store := by
  have houtline : IsNew cx d g.outline :=
    ⟨hg.key, by simpa using hg.empty, hg.wanted, by simpa using hg.plan⟩
  have hlife : g.ledger.Lifelike := by
    have hempty := hg.empty
    rw [isInitial_eq_marks, List.isEmpty_iff] at hempty
    exact Or.inl hempty
  obtain ⟨x', houtcome, hstays⟩ := outcome_new s₀.nodes houtline
  have hsound : Sound cx.key g := ⟨hg.key, hlife⟩
  obtain ⟨hresult, o, ho, hend⟩ :=
    h.passOver (fun _ hg' => Option.some.inj hg' ▸ hsound) clock houtcome
  obtain ⟨g', rfl, hg'⟩ := Option.map_eq_some_iff.mp ho
  exact ⟨hresult, g', stays_outline.mp (hg' ▸ hstays), hend⟩

/-- A pass over a deployed job whose workload has run everywhere records that. -/
theorem passOver_ready {w : StoredWorkload} (clock : Nat → Timestamp)
    (h : Scene s₀ cx.key (some g) (some w) 0 s) (hg : Stays cx deployedMarks g)
    (hw : w.rollout.isComplete = true) :
    (passOver clock calm cx s).1 = .ok .never ∧
      ∃ g', Stays cx completedMarks g' ∧
        Scene s₀ cx.key (some g') (some w) 0 (passOver clock calm cx s).2.store := by
  have hlife : g.ledger.Lifelike :=
    Or.inr ⟨true, true, false, false, false, fun _ => rfl, hg.marks⟩
  have hdeployed : g.outline.ledger.isComplete .deployed = true := by
    rw [Goop.ledger_outline, Ledger.isComplete_outline, isComplete_eq_marks, hg.marks]
    rfl
  have hb : g.outline.ledger.isInitial = false := isInitial_of_isComplete hdeployed
  have hsecured : ¬ NeedsToken cx g.outline := not_needsToken_of_isComplete hdeployed (by decide)
  have hd : g.outline.isDeletionRequested = false := hg.wanted
  have houtcome : outcome cx s₀.nodes 0 (some g.outline) (some w) =
      ⟨.ok .never, some (g.outline.marked (completed g.outline)), some w⟩ := by
    rw [outcome_of_settled hb hsecured (isIncomplete_of_isComplete hdeployed _),
      afterRelease_of_wanted (isComplete_of_ne hdeployed (by decide)) hd,
      afterCreate_of_past (isComplete_of_ne hdeployed (by decide))]
    simp only [afterComplete, hdeployed, Bool.true_eq_false, if_false, hw, if_true]
    rfl
  have hsound : Sound cx.key g := ⟨hg.key, hlife⟩
  obtain ⟨hresult, o, ho, hend⟩ :=
    h.passOver (fun _ hg' => Option.some.inj hg' ▸ hsound) clock houtcome
  obtain ⟨g', rfl, hg'⟩ := Option.map_eq_some_iff.mp ho
  refine ⟨hresult, g', stays_outline.mp ?_, hend⟩
  rw [hg']
  refine ⟨hg.key, hg.wanted, hg.secured, ?_⟩
  rw [Goop.marks_marked, Goop.ledger_outline, Ledger.marks_outline, hg.marks]
  rfl

end passes

/-! ## From phase to phase -/

/-- A store is in a phase: it is as `s₀` but for the job `g` and its workload, which have got as far
as the phase says. -/
inductive Phase.Holds (s₀ : MemoryStore) (cx : Context) (g : Goop) (d : WorkloadSpec) (n : Nat)
    (s : MemoryStore) : Phase → Prop where
  /-- The job is as it was, and there is no workload. -/
  | lagging {m : Nat} (h : Scene s₀ cx.key (some g) none m s) : Holds s₀ cx g d n s (.lagging m)
  /-- The workload is ready on as many nodes as there were ticks, or on all of them. -/
  | deployed {t : Nat} {g' : Goop} {w : StoredWorkload}
    (h : Scene s₀ cx.key (some g') (some w) 0 s) (hg' : Stays cx deployedMarks g')
    (hspec : w.spec = d) (hw : w.rollout.Reaches n (min t n)) : Holds s₀ cx g d n s (.deployed t)
  /-- The job is completed. -/
  | completed {g' : Goop} {w : StoredWorkload} (h : Scene s₀ cx.key (some g') (some w) 0 s)
    (hg' : Stays cx completedMarks g') : Holds s₀ cx g d n s .completed

section phases

variable {s₀ s : MemoryStore} {cx : Context} {g : Goop} {d : WorkloadSpec} {n : Nat} {φ : Phase}

/-- A job that is deployed has its deployment as its current state. -/
theorem Stays.isDeployed (h : Stays cx deployedMarks g) : g.ledger.isComplete .deployed = true := by
  rw [isComplete_eq_marks, h.marks]
  rfl

/-- A job that is completed has its completion as its current state. -/
theorem Stays.isCompleted (h : Stays cx completedMarks g) :
    g.ledger.isComplete .completed = true := by
  rw [isComplete_eq_marks, h.marks]
  rfl

/-- A tick leads to the next phase. -/
theorem Phase.Holds.tick (h : φ.Holds s₀ cx g d n s) :
    φ.tick.Holds s₀ cx g d n (s.advanceRollout cx.key).2 := by
  unfold MemoryStore.advanceRollout MemoryStore.adjustRollout
  -- the workload at the key gets ready on one more node, and all else stays
  have hadvance : ∀ {g' : Goop} {w : StoredWorkload}, Scene s₀ cx.key (some g') (some w) 0 s →
      Scene s₀ cx.key (some g') (some { w with rollout := w.rollout.advance }) 0
        { s with workloads :=
          s.workloads.insert cx.key { w with rollout := w.rollout.advance } } := by
    intro g' w h
    refine ⟨h.job, if_pos rfl, h.losses, h.quiet, h.nodes, h.otherJobs, fun k' hk => ?_⟩
    exact (if_neg hk).trans (h.otherWorkloads k' hk)
  cases h with
  | lagging h =>
    rw [h.workload]
    exact .lagging h
  | deployed h hg' hspec hw =>
    rename_i t g' w
    rw [h.workload]
    refine .deployed (hadvance h) hg' hspec ?_
    have hcount : min (min t n + 1) n = min (t + 1) n := by omega
    exact hcount ▸ hw.advance
  | completed h hg' =>
    rw [h.workload]
    exact .completed (hadvance h) hg'

/-- A pass returns what the phase says, and leads to the next one; where that is the same, the pass
touches nothing. -/
theorem Phase.Holds.pass (h : φ.Holds s₀ cx g d n s) (hg : IsNew cx d g)
    (hn : s₀.nodes.toInt = n) (clock : Nat → Timestamp) :
    (passOver clock calm cx s).1 = φ.result cx n ∧
      (φ.pass n).Holds s₀ cx g d n (passOver clock calm cx s).2.store ∧
      (φ.pass n = φ → s.Untouched (passOver clock calm cx s).2.store) := by
  cases h with
  | lagging h =>
    rename_i m
    cases m with
    | zero =>
      obtain ⟨hresult, g', hg', hend⟩ := passOver_new clock h hg
      have hw : Rollout.Reaches ⟨s₀.nodes, 0, 0, true⟩ n (min 0 n) := by
        rw [Nat.zero_min]
        exact .fresh hn
      exact ⟨hresult, .deployed hend hg' rfl hw, nofun⟩
    | succ m =>
      obtain ⟨hresult, hend⟩ := passOver_lagging clock h hg
      refine ⟨hresult, .lagging hend, fun heq => ?_⟩
      exact absurd (Phase.lagging.inj heq) (Nat.succ_ne_self m).symm
  | deployed h hg' hspec hw =>
    rename_i t g' w
    by_cases ht : t < n
    · have hincomplete : w.rollout.isComplete = false := by
        rw [hw.isComplete_eq, decide_eq_false_iff_not]
        omega
      obtain ⟨hresult, huntouched, hend⟩ :=
        h.passOver_rest (.waiting hg'.isDeployed hg'.wanted hincomplete) clock
      have hnext : Phase.pass n (.deployed t) = .deployed t := if_pos ht
      rw [hnext]
      exact ⟨hresult.trans (if_pos ht).symm, .deployed hend hg' hspec hw, fun _ => huntouched⟩
    · have hcomplete : w.rollout.isComplete = true := by
        rw [hw.isComplete_eq, decide_eq_true_iff]
        omega
      obtain ⟨hresult, g₁, hg₁, hend⟩ := passOver_ready clock h hg' hcomplete
      have hnext : Phase.pass n (.deployed t) = .completed := if_neg ht
      rw [hnext]
      exact ⟨hresult.trans (if_neg ht).symm, .completed hend hg₁, nofun⟩
  | completed h hg' =>
    obtain ⟨hresult, huntouched, hend⟩ :=
      h.passOver_rest (.completed hg'.isCompleted hg'.wanted) clock
    exact ⟨hresult, .completed hend hg', fun _ => huntouched⟩

/-- Any number of acts lead to the phase that the machine counts. -/
theorem Phase.Holds.after (h : φ.Holds s₀ cx g d n s) (hg : IsNew cx d g)
    (hn : s₀.nodes.toInt = n) (acts : List Act) :
    (φ.after n acts).Holds s₀ cx g d n (Act.after cx s acts) := by
  induction acts generalizing s φ with
  | nil => exact h
  | cons a acts ih =>
    cases a with
    | pass clock => exact ih (h.pass hg hn clock).2.1
    | tick => exact ih h.tick

end phases

/-! ## Convergence -/

/-- A new job that is to stay and for which it can be told what to run, `m` status writes that are
to be lost, and `n` nodes: the first `m` passes ask to be repeated at once and leave all jobs as they
are. The next one attaches the finalizer, creates the workload for `n` nodes and records both. From
then on passes wait and change nothing until there have been `n` ticks; the first pass after that
completes the job, and the later ones change nothing any more. -/
theorem converges_on_the_tick {s : MemoryStore} {cx : Context} {g : Goop} {d : WorkloadSpec}
    {m n : Nat} (hquiet : ∀ op, s.faults op = []) (hjob : s.goops.get? cx.key = some g)
    (hg : IsNew cx d g) (hwl : s.workloads.get? cx.key = none) (hm : s.lossesLeft = m)
    (hn : s.nodes.toInt = n) (acts : List Act) (clock : Nat → Timestamp) :
    let before := Act.after cx s acts
    let result := (passOver clock calm cx before).1
    let after := (passOver clock calm cx before).2.store
    (Act.passes acts < m → result = .ok .now ∧ after.goops = s.goops) ∧
    (Act.passes acts = m → result = .ok (.after cx.settings.pollInterval) ∧
      (∃ g', after.goops.get? cx.key = some g' ∧ Stays cx deployedMarks g') ∧
      after.workloads.get? cx.key = some ⟨d, ⟨s.nodes, 0, 0, true⟩⟩) ∧
    ∀ front clock₀ since, acts = front ++ .pass clock₀ :: since → Act.passes front = m →
      (Act.ticks since < n →
        result = .ok (.after cx.settings.pollInterval) ∧ before.Untouched after) ∧
      (n ≤ Act.ticks since → result = .ok .never ∧
        (Act.HasLatePass n since → before.Untouched after) ∧
        (¬ Act.HasLatePass n since →
          (∃ g₁, before.goops.get? cx.key = some g₁ ∧ Stays cx deployedMarks g₁) ∧
          ∃ g₂, after.goops.get? cx.key = some g₂ ∧ Stays cx completedMarks g₂)) := by
  intro before result after
  have hscene := Scene.of_quiet hquiet cx.key
  rw [hjob, hwl, hm] at hscene
  have hstart : Phase.Holds s cx g d n s (.lagging m) := .lagging hscene
  have hbefore := hstart.after hg hn acts
  have hpass := hbefore.pass hg hn clock
  change result = _ ∧ Phase.Holds s cx g d n after _ ∧ (_ → before.Untouched after) at hpass
  refine ⟨fun hfew => ?_, fun hexact => ?_, fun front clock₀ since hacts hfront => ?_⟩
  · -- some status writes are still to be lost
    obtain ⟨k, hk⟩ : ∃ k, m - Act.passes acts = k + 1 := ⟨m - Act.passes acts - 1, by omega⟩
    rw [Phase.after_lagging (Nat.le_of_lt hfew), hk] at hpass
    obtain ⟨hresult, hafter, -⟩ := hpass
    refine ⟨hresult, Table.ext fun k' => ?_⟩
    cases hafter with
    | lagging h =>
      by_cases hk' : k' = cx.key
      · rw [hk', h.job, hjob]
      · exact h.otherJobs k' hk'
  · rw [Phase.after_lagging (Nat.le_of_eq hexact), hexact, Nat.sub_self] at hpass
    obtain ⟨hresult, hafter, -⟩ := hpass
    refine ⟨hresult, ?_⟩
    cases hafter with
    | deployed h hg' hspec hw =>
      rename_i g' w
      rw [Nat.zero_min] at hw
      obtain rfl := hspec
      refine ⟨⟨g', h.job, hg'⟩, h.workload.trans (congrArg some ?_)⟩
      rw [← hw.eq_fresh hn]
  · -- the acts since the workload was created lead on from there
    have hsince : Phase.after n (.lagging m) acts = Phase.after n (.deployed 0) since := by
      have hlagging := Phase.after_lagging (n := n) (Nat.le_of_eq hfront)
      rw [hfront, Nat.sub_self] at hlagging
      unfold Phase.after at hlagging ⊢
      rw [hacts, List.foldl_append, hlagging]
      rfl
    rw [hsince] at hbefore hpass
    by_cases hlate : Act.HasLatePass n since
    · obtain ⟨early, clock₁, back, rfl, hearly⟩ := hlate
      have hticks : Act.ticks early ≤ Act.ticks (early ++ .pass clock₁ :: back) := by
        unfold Act.ticks
        rw [List.countP_append]
        exact Nat.le_add_right _ _
      rw [Phase.after_latePass (by omega)] at hpass
      obtain ⟨hresult, -, huntouched⟩ := hpass
      refine ⟨fun h => absurd h (by omega), fun _ => ⟨hresult, fun _ => huntouched rfl, ?_⟩⟩
      exact fun h => absurd ⟨early, clock₁, back, rfl, hearly⟩ h
    · have hearly : ∀ early clock₁ back, since = early ++ .pass clock₁ :: back →
          0 + Act.ticks early < n := by
        intro early clock₁ back heq
        refine Decidable.byContradiction fun h => hlate ⟨early, clock₁, back, heq, ?_⟩
        omega
      rw [Phase.after_deployed hearly, Nat.zero_add] at hbefore hpass
      obtain ⟨hresult, hafter, huntouched⟩ := hpass
      refine ⟨fun h => ⟨hresult.trans (if_pos h), huntouched (if_pos h)⟩, fun h => ?_⟩
      have hlate' : ¬ Act.ticks since < n := Nat.not_lt.mpr h
      have hnext : Phase.pass n (.deployed (Act.ticks since)) = .completed := if_neg hlate'
      rw [hnext] at hafter
      refine ⟨hresult.trans (if_neg hlate'), fun h => absurd h hlate, fun _ => ⟨?_, ?_⟩⟩
      · cases hbefore with
        | deployed h hg' hspec hw => exact ⟨_, h.job, hg'⟩
      · cases hafter with
        | completed h hg' => exact ⟨_, h.job, hg'⟩

namespace SamplePass

/-- A job that names what is to be run, and has a finalizer of someone else. -/
def newcomer : Goop :=
  { job with
    metadata := { job.metadata with finalizers := some ["audit"] }
    spec := { GoopSpec.empty with image := some "job:1" } }

/-- The job is created in an empty store for two nodes, which loses the next status write. -/
def nursery : MemoryStore := ((MemoryStore.empty 2).insert newcomer "uid" noon).2.loseStatusWrites 1

/-- A pass at noon. -/
def visit : Act := .pass fun _ => noon

end SamplePass

open SamplePass in
/-- The first pass over the sample job is lost, the second one creates its workload, and after two
ticks the third one completes the job. -/
theorem sample_converges :
    (passOver (fun _ => noon) calm cx (Act.after cx nursery [visit, visit, .tick, .tick])).1 =
        .ok .never ∧
      ∃ g, (passOver (fun _ => noon) calm cx
          (Act.after cx nursery [visit, visit, .tick, .tick])).2.store.goops.get? cx.key = some g ∧
        Stays cx completedMarks g := by
  obtain ⟨d, hplan⟩ :
      ∃ d, WorkloadSpec.plan (nursery.inserted newcomer "uid" noon) cx.settings = .ok d := ⟨_, rfl⟩
  have hconverges := converges_on_the_tick (s := nursery) (n := 2) (fun _ => rfl) rfl
    ⟨rfl, rfl, rfl, hplan⟩ rfl rfl rfl [visit, visit, .tick, .tick] fun _ => noon
  obtain ⟨hresult, -, hcompleted⟩ :=
    (hconverges.2.2 [visit] (fun _ => noon) [.tick, .tick] rfl rfl).2 (Nat.le_refl 2)
  refine ⟨hresult, (hcompleted ?_).2⟩
  -- there is no pass between the ticks
  rintro ⟨front, clock, back, heq, -⟩
  have hmem : Act.pass clock ∈ [Act.tick, Act.tick] := heq ▸ List.mem_append_right _ (by simp)
  simp at hmem

end Lifecycle

end GoopOperator
