import GoopOperator.Proofs.Lifecycle.Rest

/-!
# The last passes over a job

The stages before the release have little to do with a job that is to be deleted: whatever its
ledger says, they record at most that the job was begun (`outcome_of_leaving`). Then a pass that
finds the finalizer takes it off, and the job goes away or keeps its other finalizers
(`Scene.parts`). A pass that does not find it records that it is released (`Scene.settles`).
-/

namespace GoopOperator

/-- The second job is the first one without the finalizer `token`, versions and ledgers aside. -/
structure Goop.Freed (token : String) (g g' : Goop) : Prop where
  /-- Of the metadata it lacks the finalizer, and that is all. -/
  metadata : g'.metadata = { g.metadata with
    finalizers := some (g.finalizers.filter (· ≠ token))
    resourceVersion := g'.metadata.resourceVersion }
  /-- The spec is the same. -/
  spec : g'.spec = g.spec

namespace Goop.Freed

variable {token : String} {g g' : Goop}

/-- The other finalizers are left, in their order. -/
theorem finalizers (h : g.Freed token g') : g'.finalizers = g.finalizers.filter (· ≠ token) := by
  rw [Goop.finalizers, h.metadata]
  rfl

/-- The finalizer is gone. -/
theorem hasFinalizer (h : g.Freed token g') : g'.hasFinalizer token = false := by
  rw [Goop.hasFinalizer, h.finalizers]
  simp

/-- The key is the same. -/
theorem key (h : g.Freed token g') : g'.key = g.key := by
  unfold Goop.key Goop.name
  rw [h.metadata]

/-- So is a request for the deletion. -/
theorem isDeletionRequested (h : g.Freed token g') :
    g'.isDeletionRequested = g.isDeletionRequested := by
  unfold Goop.isDeletionRequested
  rw [h.metadata]

end Goop.Freed

/-- A job has a ledger that a life leaves if it has one in outline. -/
theorem Goop.lifelike_of_outline {g : Goop} (h : g.outline.ledger.Lifelike) :
    g.ledger.Lifelike := by
  unfold Ledger.Lifelike at h ⊢
  rwa [ledger_outline, Ledger.marks_outline] at h

namespace Lifecycle

/-! ## What the stages before the release do -/

/-- The second job is what the stages before the release make of the first one: something is
recorded, and no more is said of the release than before. -/
structure Readied (g g' : Goop) : Prop where
  /-- The metadata are the same. -/
  metadata : g'.metadata = g.metadata
  /-- The spec is the same. -/
  spec : g'.spec = g.spec
  /-- The ledger is one that a life leaves. -/
  life : g'.ledger.Lifelike
  /-- Something is recorded. -/
  begun : g'.ledger.isInitial = false
  /-- The job is finalized if it was. -/
  finalized : g'.ledger.isComplete .finalized = g.ledger.isComplete .finalized

namespace Readied

variable {g g' g'' : Goop}

theorem trans (h : Readied g g') (h' : Readied g' g'') : Readied g g'' :=
  ⟨h'.metadata.trans h.metadata, h'.spec.trans h.spec, h'.life, h'.begun,
    h'.finalized.trans h.finalized⟩

/-- Recording a condition that is due and does not concern the release. -/
theorem marked {c : Condition} (hl : g.ledger.Lifelike) (hc : g.ledger.Due c.mark)
    (hf : g.ledger.isComplete .finalized = false) (hr : c.reason ≠ .finalized) :
    Readied g (g.marked c) := by
  refine ⟨rfl, rfl, lifelike_marked hl hc, isInitial_marked g c, ?_⟩
  rw [isComplete_marked hl hc, hf]
  exact decide_eq_false fun h => hr h.1

/-- A request for the deletion stays. -/
theorem isDeletionRequested (h : Readied g g') :
    g'.isDeletionRequested = g.isDeletionRequested := by
  unfold Goop.isDeletionRequested
  rw [h.metadata]

/-- The finalizers stay. -/
theorem finalizers (h : Readied g g') : g'.finalizers = g.finalizers := by
  unfold Goop.finalizers
  rw [h.metadata]

/-- So does each of them. -/
theorem hasFinalizer (h : Readied g g') (token : String) :
    g'.hasFinalizer token = g.hasFinalizer token := by
  unfold Goop.hasFinalizer
  rw [h.finalizers]

end Readied

/-- A job that is to be deleted is not to get the finalizer. -/
theorem not_needsToken_of_leaving {cx : Context} {g : Goop}
    (hd : g.isDeletionRequested = true) : ¬ NeedsToken cx g := by
  rintro ⟨-, -, hwanted⟩
  rw [hd] at hwanted
  cases hwanted

section outcomes

variable (cx : Context) (nodes : Int32) {g : Goop} (wl : Option StoredWorkload)

/-- A job that is to be deleted comes to the release, whatever its ledger says. -/
theorem outcome_of_leaving (hl : g.ledger.Lifelike) (hd : g.isDeletionRequested = true) :
    ∃ g', Readied g g' ∧ outcome cx nodes 0 (some g) wl = afterRelease cx nodes 0 g' wl := by
  obtain ⟨g₁, h₁, houtcome⟩ : ∃ g₁, Readied g g₁ ∧
      outcome cx nodes 0 (some g) wl = afterToken cx nodes 0 g₁ wl := by
    cases hb : g.ledger.isInitial with
    | true =>
      have hf : g.ledger.isComplete .finalized = false := by
        cases hf : g.ledger.isComplete .finalized with
        | false => rfl
        | true => exact absurd ((isInitial_of_isComplete hf).symm.trans hb) Bool.false_ne_true
      have hd' : (g.marked starting).isDeletionRequested = true := hd
      refine ⟨g.marked starting, .marked hl (.starting hb) hf (by decide), ?_⟩
      calc outcome cx nodes 0 (some g) wl
          = afterStart cx nodes 0 g wl := rfl
        _ = afterAttach cx nodes 0 (g.marked starting) wl := by
          rw [afterStart, if_pos hb, if_pos rfl]
        _ = afterToken cx nodes 0 (g.marked starting) wl := by
          rw [afterAttach, attached_of_not (not_needsToken_of_leaving hd')]
    | false =>
      exact ⟨g, ⟨rfl, rfl, hl, hb, rfl⟩, outcome_of_secured hb (not_needsToken_of_leaving hd)⟩
  rw [houtcome, afterToken]
  cases hi : g₁.ledger.isIncomplete .initialized with
  | true =>
    have hf : g₁.ledger.isComplete .finalized = false := isComplete_of_isIncomplete hi _
    exact ⟨g₁.marked initialized, h₁.trans (.marked h₁.life (.initialized hi) hf (by decide)),
      if_pos rfl⟩
  | false => exact ⟨g₁, h₁, if_neg Bool.false_ne_true⟩

/-- A pass that finds the finalizer on a job that is to be deleted takes it off. -/
theorem outcome_of_held (hl : g.ledger.Lifelike) (hd : g.isDeletionRequested = true)
    (hf : g.ledger.isComplete .finalized = false)
    (ht : g.hasFinalizer cx.settings.finalizer = true) :
    ∃ g', Readied g g' ∧ outcome cx nodes 0 (some g) wl =
      ⟨.ok .now, released cx g', if (released cx g').isSome then wl else none⟩ := by
  obtain ⟨g', hready, houtcome⟩ := outcome_of_leaving cx nodes wl hl hd
  refine ⟨g', hready, ?_⟩
  rw [houtcome, afterRelease, hready.finalized, hf, hready.isDeletionRequested, hd,
    hready.hasFinalizer, ht]
  rfl

/-- A pass that does not find the finalizer on a job that is to be deleted leaves the record that it
is released. -/
theorem outcome_of_freed (hl : g.ledger.Lifelike) (hd : g.isDeletionRequested = true)
    (ht : g.hasFinalizer cx.settings.finalizer = false) :
    ∃ g', g'.ledger.isComplete .finalized = true ∧
      outcome cx nodes 0 (some g) wl = ⟨.ok .never, some g', wl⟩ := by
  obtain ⟨g', hready, houtcome⟩ := outcome_of_leaving cx nodes wl hl hd
  rw [houtcome, afterRelease]
  cases hf : g'.ledger.isComplete .finalized with
  | true => exact ⟨g', hf, if_pos rfl⟩
  | false =>
    have hc : g'.ledger.Due (finalized g').mark := .finalized hready.begun hf
    refine ⟨g'.marked (finalized g'), ?_, ?_⟩
    · rw [isComplete_marked hready.life hc]
      rfl
    · rw [hready.isDeletionRequested, hd, hready.hasFinalizer, ht]
      rfl

/-- What is left of a job in outline when its finalizer is released is left of the job. -/
theorem freed_of_outline {g₁ g' : Goop} {token : String} (h : Readied g.outline g₁)
    (houtline : g'.outline = g₁.removeFinalizer token) : g.Freed token g' := by
  have hmetadata : g'.outline.metadata = { g.outline.metadata with
      finalizers := some (g.finalizers.filter (· ≠ token)) } := by
    calc g'.outline.metadata
        = (g₁.removeFinalizer token).metadata := by rw [houtline]
      _ = { g₁.metadata with finalizers := some (g₁.finalizers.filter (· ≠ token)) } := rfl
      _ = { g.outline.metadata with finalizers := some (g.finalizers.filter (· ≠ token)) } := by
        rw [h.metadata, h.finalizers]
        rfl
  have hspec : g'.outline.spec = g.outline.spec := by
    rw [houtline]
    exact h.spec
  exact ⟨congrArg (fun m => { m with resourceVersion := g'.metadata.resourceVersion }) hmetadata,
    hspec⟩

end outcomes

end Lifecycle

/-! ## Passes over a job that is to be deleted -/

section scene

open Lifecycle Pass Bench

variable {s₀ s : MemoryStore} {cx : Context} {g : Goop} {wl : Option StoredWorkload}

/-- A pass that finds the finalizer asks for another one at once. The job and its workload are gone,
if nothing else holds the job, or the job is left without the finalizer. -/
theorem Scene.parts (h : Scene s₀ cx.key (some g) wl 0 s) (hg : Sound cx.key g)
    (hd : g.isDeletionRequested = true) (hf : g.ledger.isComplete .finalized = false)
    (ht : g.hasFinalizer cx.settings.finalizer = true) (clock : Nat → Timestamp) :
    (Lifecycle.passOver clock calm cx s).1 = .ok .now ∧
      (g.finalizers.filter (· ≠ cx.settings.finalizer) = [] ∧
          Scene s₀ cx.key none none 0 (Lifecycle.passOver clock calm cx s).2.store ∨
        ∃ g', g.Freed cx.settings.finalizer g' ∧ g'.finalizers ≠ [] ∧ Sound cx.key g' ∧
          Scene s₀ cx.key (some g') wl 0 (Lifecycle.passOver clock calm cx s).2.store) := by
  have hf' : g.outline.ledger.isComplete .finalized = false := by simpa using hf
  obtain ⟨g₁, hready, houtcome⟩ := outcome_of_held cx s₀.nodes wl
    (Goop.lifelike_outline hg.life) hd hf' ht
  obtain ⟨hresult, o, ho, hend⟩ :=
    h.passOver (fun _ hg' => Option.some.inj hg' ▸ hg) clock houtcome
  refine ⟨hresult, ?_⟩
  have hfinalizers : (g₁.removeFinalizer cx.settings.finalizer).finalizers =
      g.finalizers.filter (· ≠ cx.settings.finalizer) := by
    rw [Goop.finalizers_removeFinalizer, hready.finalizers]
    rfl
  by_cases hlast : g.finalizers.filter (· ≠ cx.settings.finalizer) = []
  · have hreleased : released cx g₁ = none := if_pos (hfinalizers.trans hlast)
    rw [hreleased] at ho hend
    obtain rfl := Option.map_eq_none_iff.mp ho
    exact Or.inl ⟨hlast, hend⟩
  · have hreleased : released cx g₁ = some (g₁.removeFinalizer cx.settings.finalizer) :=
      if_neg fun hnone => hlast (hfinalizers.symm.trans hnone)
    rw [hreleased] at ho hend
    obtain ⟨g', rfl, houtline⟩ := Option.map_eq_some_iff.mp ho
    have hfreed := freed_of_outline hready houtline
    have hlife : g'.ledger.Lifelike := by
      refine Goop.lifelike_of_outline ?_
      rw [houtline]
      exact hready.life
    exact Or.inr ⟨g', hfreed, hfreed.finalizers ▸ hlast, ⟨hfreed.key.trans hg.key, hlife⟩, hend⟩

/-- A pass that does not find the finalizer leaves the job finalized, and asks for no other one. -/
theorem Scene.settles (h : Scene s₀ cx.key (some g) wl 0 s) (hg : Sound cx.key g)
    (hd : g.isDeletionRequested = true) (ht : g.hasFinalizer cx.settings.finalizer = false)
    (clock : Nat → Timestamp) :
    (Lifecycle.passOver clock calm cx s).1 = .ok .never ∧
      ∃ g', g'.ledger.isComplete .finalized = true ∧
        Scene s₀ cx.key (some g') wl 0 (Lifecycle.passOver clock calm cx s).2.store := by
  obtain ⟨g₁, hfinalized, houtcome⟩ := outcome_of_freed cx s₀.nodes wl
    (Goop.lifelike_outline hg.life) hd ht
  obtain ⟨hresult, o, ho, hend⟩ :=
    h.passOver (fun _ hg' => Option.some.inj hg' ▸ hg) clock houtcome
  obtain ⟨g', rfl, houtline⟩ := Option.map_eq_some_iff.mp ho
  refine ⟨hresult, g', ?_, hend⟩
  rw [← houtline] at hfinalized
  simpa using hfinalized

end scene

end GoopOperator
