import GoopOperator.Proofs.Lifecycle.Outcome

/-!
# Passes come to their outcomes

A pass over the default lifecycle that nothing disturbs comes to the outcome that its scene has
(`meets_reconcile`). Where no status write is to be lost and there are nodes, each call of the
pass is made in a scene that still has this outcome: a pass that begins there anew comes to the
same.

The proof goes stage by stage. `Stands` says that a pass has come to a stage, and what is left to
do there.
-/

namespace GoopOperator

/-- The call concerns a job that has a key, if it writes one. -/
def StoreCall.HasKey : StoreCall → Prop
  | .update g | .updateStatus g => ∃ k, g.key = .ok k
  | _ => True

namespace Lifecycle

open Pass Bench

/-- A job that is stored under its key, with a ledger that a life leaves. -/
structure Sound (k : ObjectKey) (g : Goop) : Prop where
  /-- The key. -/
  key : g.key = .ok k
  /-- The ledger. -/
  life : g.ledger.Lifelike

/-- A pass that begins in this store comes to `G`. -/
def Heals (s₀ : MemoryStore) (cx : Context) (G : Outcome) (s : MemoryStore) : Prop :=
  ∃ o wl, Scene s₀ cx.key o wl 0 s ∧ (∀ g, o = some g → Sound cx.key g) ∧
    outcome cx s₀.nodes 0 (o.map Goop.outline) wl = G

/-- What is shown of each call: where there is healing, a pass that begins anew comes to `G`. -/
def Visits (healing : Prop) (s₀ : MemoryStore) (cx : Context) (G : Outcome) : Effect → Bench → Prop
  | .call c, b => healing → c.HasKey ∧ Heals s₀ cx G b.store
  | _, _ => True

/-- A pass has ended with the outcome `G`. -/
def Ends (healing : Prop) (s₀ : MemoryStore) (cx : Context) (G : Outcome)
    (r : Except PassError Requeue) (b : Bench) : Prop :=
  r = G.result ∧ ∃ o n, Scene s₀ cx.key o G.workload n b.store ∧ o.map Goop.outline = G.job ∧
    (healing → n = 0)

/-- A pass has come to a stage with the job `g`, which is the one that is stored; what is left to
do there leads to `G`. -/
structure Stands (healing : Prop) (s₀ : MemoryStore) (cx : Context) (G : Outcome)
    (after : Nat → Goop → Option StoredWorkload → Outcome) (g : Goop)
    (wl : Option StoredWorkload) (n : Nat) (s : MemoryStore) : Prop where
  /-- The job is stored, with its workload. -/
  scene : Scene s₀ cx.key (some g) wl n s
  /-- It has its key and a ledger. -/
  sound : Sound cx.key g
  /-- What is left to do. -/
  goal : after n g.outline wl = G
  /-- Where there is healing, no write is lost, and a pass that begins anew comes to the same. -/
  heal : healing → n = 0 ∧ outcome cx s₀.nodes 0 (some g.outline) wl = G

/-- A stage leads on to the next one, of whose job `rest` holds, or to the end. -/
def Decides (healing : Prop) (s₀ : MemoryStore) (cx : Context) (G : Outcome)
    (after : Nat → Goop → Option StoredWorkload → Outcome) (rest : Goop → Prop)
    (r : Except PassError Decision) (b : Bench) : Prop :=
  match r with
  | .ok (.next g) => rest g ∧ ∃ wl n, Stands healing s₀ cx G after g wl n b.store
  | .ok (.stop requeue) => Ends healing s₀ cx G (.ok requeue) b
  | .error e => Ends healing s₀ cx G (.error e) b

section run

variable {healing : Prop} {s₀ : MemoryStore} {cx : Context} {G : Outcome}
  {clock : Nat → Timestamp} {b : Bench} {g : Goop} {wl : Option StoredWorkload} {n : Nat}
  {after : Nat → Goop → Option StoredWorkload → Outcome}

/-! ## Calls -/

/-- A call whose answer is known. -/
theorem meets_call {P : Effect → Bench → Prop} {c : StoreCall} {x : Except StoreError c.Answer}
    {s' : MemoryStore} {Q : Except PassError c.Answer → Bench → Prop}
    (h : b.store.answer c = (x, s')) (hP : P (.call c) b)
    (hQ : Q (x.mapError .store) ⟨s', b.calls + 1, b.looks⟩) :
    Meets (respond clock calm) P Q (call c) b := by
  refine ⟨hP, ?_⟩
  show Q ((b.store.answer c).1.mapError .store) ⟨(b.store.answer c).2, b.calls + 1, b.looks⟩
  rw [h]
  exact hQ

/-- A look at the clock. -/
theorem meets_clock {P : Effect → Bench → Prop} {Q : Except PassError Timestamp → Bench → Prop}
    (hP : P .clock b) (hQ : Q (.ok (clock b.looks)) ⟨b.store, b.calls, b.looks + 1⟩) :
    Meets (respond clock calm) P Q Pass.clock b := ⟨hP, hQ⟩

/-- Each call at a stage is made where a pass that begins anew comes to the same. -/
theorem Stands.visits (h : Stands healing s₀ cx G after g wl n b.store) {c : StoreCall}
    (hc : c.HasKey) : Visits healing s₀ cx G (.call c) b := by
  intro hhealing
  obtain ⟨rfl, hgoal⟩ := h.heal hhealing
  refine ⟨hc, some g, wl, h.scene, fun g' hg' => ?_, hgoal⟩
  obtain rfl := Option.some.inj hg'
  exact h.sound

/-- A call that leaves the scene. -/
theorem Stands.keep (h : Stands healing s₀ cx G after g wl n b.store) {s : MemoryStore}
    (hscene : Scene s₀ cx.key (some g) wl n s) : Stands healing s₀ cx G after g wl n s :=
  ⟨hscene, h.sound, h.goal, h.heal⟩

/-- The pass ends without another call. -/
theorem Stands.stops (h : Stands healing s₀ cx G after g wl n b.store)
    {r : Except PassError Requeue} (hG : ⟨r, some g.outline, wl⟩ = G) :
    Ends healing s₀ cx G r b := by
  subst hG
  exact ⟨rfl, some g, n, h.scene, rfl, fun hh => (h.heal hh).1⟩

/-- Recording a condition that is due. -/
theorem meets_record (h : Stands healing s₀ cx G after g wl n b.store) {c : Condition}
    (hdue : g.ledger.Due c.mark) {Q : Except PassError Goop → Bench → Prop}
    (hheal : healing → outcome cx s₀.nodes 0 (some (g.outline.marked c)) wl = G)
    (hQ : ∀ g' n' b', Scene s₀ cx.key (some g') wl n' b'.store → Sound cx.key g' →
      g'.outline = afterRecord n g.outline c →
      n' = n - 1 ∨ n' = n ∧ g.outline.marked c = g.outline → Q (.ok g') b') :
    Meets (respond clock calm) (Visits healing s₀ cx G) Q (record cx g c) b := by
  unfold record
  rw [meets_bind]
  refine meets_clock trivial ?_
  simp only
  cases hset : g.ledger.set? c (clock b.looks).toText with
  | none =>
    -- the ledger says so already, and no call is made
    have hsame := Goop.outline_of_set?_none hset
    refine hQ g n ⟨b.store, b.calls, b.looks + 1⟩ h.scene h.sound ?_ (Or.inr ⟨rfl, hsame⟩)
    unfold afterRecord
    split
    · exact hsame.symm
    · rfl
  | some l =>
    simp only
    rw [meets_bind]
    have hvisits : Visits healing s₀ cx G (.call (.updateStatus (g.withLedger l)))
        ⟨b.store, b.calls, b.looks + 1⟩ := fun hh => h.visits ⟨cx.key, h.sound.key⟩ hh
    cases n with
    | zero =>
      obtain ⟨g₁, s₁, hanswer, s₂, hscene⟩ := h.scene.updateStatus h.sound.key l
      refine meets_call hanswer hvisits ?_
      have houtline : (s₂.stamp (g.withLedger l)).outline = g.outline.marked c :=
        (Goop.outline_stamp _ _).trans (Goop.outline_of_set? hset)
      have hsound : Sound cx.key (s₂.stamp (g.withLedger l)) :=
        ⟨h.sound.key, (h.sound.life.set? hdue hset).1⟩
      obtain ⟨s₃, hget, hscene'⟩ := hscene.get
      refine meets_call hget (fun hh => ⟨trivial, _, wl, hscene, fun g' hg' => ?_, ?_⟩) ?_
      · obtain rfl := Option.some.inj hg'
        exact hsound
      · rw [Option.map_some, houtline]
        exact hheal hh
      · exact hQ _ 0 _ hscene' hsound houtline (Or.inl rfl)
    | succ m =>
      -- the write is lost
      obtain ⟨g₁, s₁, hanswer, hscene⟩ := h.scene.updateStatus_lost h.sound.key l
      refine meets_call hanswer hvisits ?_
      obtain ⟨s₃, hget, hscene'⟩ := hscene.get
      refine meets_call hget (fun hh => nomatch (h.heal hh).1) ?_
      exact hQ g m _ hscene' h.sound rfl (Or.inl rfl)

/-- Recording the last condition of a pass. -/
theorem meets_record_last (h : Stands healing s₀ cx G after g wl n b.store) {c : Condition}
    (hdue : g.ledger.Due c.mark) {r : Except PassError Requeue}
    (hG : ⟨r, some (afterRecord n g.outline c), wl⟩ = G)
    (hagain : healing → outcome cx s₀.nodes 0 (some (g.outline.marked c)) wl =
      ⟨r, some (g.outline.marked c), wl⟩) {Q : Except PassError Goop → Bench → Prop}
    (hQ : ∀ g' b', g'.outline = afterRecord n g.outline c → Ends healing s₀ cx G r b' →
      Q (.ok g') b') :
    Meets (respond clock calm) (Visits healing s₀ cx G) Q (record cx g c) b := by
  have hheal : healing → outcome cx s₀.nodes 0 (some (g.outline.marked c)) wl = G := by
    intro hh
    obtain ⟨rfl, -⟩ := h.heal hh
    exact (hagain hh).trans hG
  refine meets_record h hdue hheal fun g' n' b' hscene hsound houtline hn => ?_
  subst hG
  refine hQ g' b' houtline ⟨rfl, some g', n', hscene, congrArg some houtline, fun hh => ?_⟩
  obtain ⟨rfl, -⟩ := h.heal hh
  rcases hn with hn | ⟨hn, -⟩ <;> exact hn

/-- Recording a condition that is new, and going on. -/
theorem meets_record_next (after' : Nat → Goop → Option StoredWorkload → Outcome)
    (h : Stands healing s₀ cx G after g wl n b.store) {c : Condition}
    (hdue : g.ledger.Due c.mark) (hnew : g.outline.marked c ≠ g.outline)
    (hG : after' (n - 1) (afterRecord n g.outline c) wl = G)
    (hagain : healing → outcome cx s₀.nodes 0 (some (g.outline.marked c)) wl =
      after' 0 (g.outline.marked c) wl) {Q : Except PassError Goop → Bench → Prop}
    (hQ : ∀ g' b', g'.outline = afterRecord n g.outline c →
      Stands healing s₀ cx G after' g' wl (n - 1) b'.store → Q (.ok g') b') :
    Meets (respond clock calm) (Visits healing s₀ cx G) Q (record cx g c) b := by
  have hheal : healing → outcome cx s₀.nodes 0 (some (g.outline.marked c)) wl = G := by
    intro hh
    obtain ⟨rfl, -⟩ := h.heal hh
    exact (hagain hh).trans hG
  refine meets_record h hdue hheal fun g' n' b' hscene hsound houtline hn => ?_
  have hn' : n' = n - 1 := by
    rcases hn with hn | ⟨-, hsame⟩
    · exact hn
    · exact absurd hsame hnew
  subst hn'
  refine hQ g' b' houtline ⟨hscene, hsound, houtline ▸ hG, fun hh => ?_⟩
  obtain ⟨rfl, -⟩ := h.heal hh
  exact ⟨rfl, houtline ▸ hheal hh⟩

/-! ## Stages -/

/-- Starting a ledger. -/
theorem meets_start
    (h : Stands healing s₀ cx G (afterStart cx s₀.nodes) g wl n b.store) :
    Meets (respond clock calm) (Visits healing s₀ cx G)
      (Decides healing s₀ cx G (afterAttach cx s₀.nodes) fun g => g.ledger.isInitial = false)
      (start.handle cx g) b := by
  have hgoal := h.goal
  unfold afterStart at hgoal
  rw [Goop.ledger_outline, Ledger.isInitial_outline] at hgoal
  unfold start
  simp only
  split
  · rename_i hl
    rw [if_pos hl] at hgoal
    have hl' : g.outline.ledger.isInitial = true := by
      rw [Goop.ledger_outline, Ledger.isInitial_outline, hl]
    have hnew : g.outline.marked starting ≠ g.outline := by
      intro hsame
      have hbegun := isInitial_marked g.outline starting
      rw [hsame, hl'] at hbegun
      cases hbegun
    rw [meets_bind]
    -- whether the entry is there decides how the stage ends
    cases n with
    | zero =>
      refine meets_record_next (c := starting) (afterAttach cx s₀.nodes) h (.starting hl) hnew hgoal
        (fun _ => outcome_of_begun (isInitial_marked _ _)) fun g' b' houtline hstands => ?_
      have hbegun : g'.ledger.isInitial = false := by
        rw [← Ledger.isInitial_outline, ← Goop.ledger_outline, houtline]
        exact isInitial_marked _ _
      simp only
      rw [hbegun, if_neg Bool.false_ne_true]
      exact ⟨hbegun, wl, 0, hstands⟩
    | succ m =>
      refine meets_record_last (c := starting) h (.starting hl) hgoal
        (fun hh => nomatch (h.heal hh).1) fun g' b' houtline hends => ?_
      have hempty : g'.ledger.isInitial = true := by
        rw [← Ledger.isInitial_outline, ← Goop.ledger_outline, houtline]
        exact hl'
      simp only
      rw [hempty, if_pos rfl]
      exact hends
  · rename_i hl
    rw [if_neg hl] at hgoal
    exact ⟨by simpa using hl, wl, n, h.scene, h.sound, hgoal, h.heal⟩

/-- Whether the finalizer is to be attached, as the pass asks for it. -/
theorem needsToken_iff {cx : Context} {g : Goop} :
    (g.ledger.isState .initialized = true ∧ ¬ g.hasFinalizer cx.settings.finalizer = true ∧
      ¬ g.isDeletionRequested = true) ↔ NeedsToken cx g := by
  unfold NeedsToken
  simp

/-- A job needs the finalizer where its outline does. -/
theorem needsToken_outline {cx : Context} {g : Goop} :
    NeedsToken cx g.outline ↔ NeedsToken cx g := by
  unfold NeedsToken
  simp

/-- Attaching the finalizer. -/
theorem meets_attachToken
    (h : Stands healing s₀ cx G (afterAttach cx s₀.nodes) g wl n b.store)
    (hb : g.ledger.isInitial = false) {Q : Except PassError Goop → Bench → Prop}
    (hQ : ∀ g' b', ¬ NeedsToken cx g' → g'.ledger.isInitial = false →
      Stands healing s₀ cx G (afterToken cx s₀.nodes) g' wl n b'.store → Q (.ok g') b') :
    Meets (respond clock calm) (Visits healing s₀ cx G) Q (attachToken cx g) b := by
  have hb' : g.outline.ledger.isInitial = false := by
    rw [Goop.ledger_outline, Ledger.isInitial_outline, hb]
  unfold attachToken
  simp only [needsToken_iff]
  split
  · rename_i hneeds
    have hattached : attached cx g.outline = g.outline.addFinalizer cx.settings.finalizer :=
      if_pos (needsToken_outline.mpr hneeds)
    have hgoal :
        afterToken cx s₀.nodes n (g.outline.addFinalizer cx.settings.finalizer) wl = G := by
      rw [← hattached]
      exact h.goal
    have hheal : healing → n = 0 ∧
        outcome cx s₀.nodes 0 (some (g.outline.addFinalizer cx.settings.finalizer)) wl = G := by
      intro hh
      refine ⟨(h.heal hh).1, ?_⟩
      rw [← hattached, outcome_attached hb']
      exact (h.heal hh).2
    have hkey : (g.addFinalizer cx.settings.finalizer).key = .ok cx.key :=
      (Goop.key_addFinalizer _ _).trans h.sound.key
    obtain ⟨g₁, s₁, hanswer, s₂, hscene⟩ :=
      h.scene.attach h.sound.key hneeds.2.2 cx.settings.finalizer
    rw [meets_bind]
    refine meets_call hanswer (h.visits ⟨cx.key, hkey⟩) ?_
    have houtline : (s₂.stamp (g.addFinalizer cx.settings.finalizer)).outline =
        g.outline.addFinalizer cx.settings.finalizer :=
      (Goop.outline_stamp _ _).trans (Goop.outline_addFinalizer _ _)
    have hledger : (s₂.stamp (g.addFinalizer cx.settings.finalizer)).ledger = g.ledger :=
      Goop.ledger_addFinalizer _ _
    have hsound : Sound cx.key (s₂.stamp (g.addFinalizer cx.settings.finalizer)) :=
      ⟨hkey, hledger ▸ h.sound.life⟩
    -- between the write and the read a pass that begins anew finds the finalizer there
    obtain ⟨s₃, hget, hscene'⟩ := hscene.get
    refine meets_call hget (fun hh => ?_) ?_
    · obtain ⟨rfl, hagain⟩ := hheal hh
      refine ⟨trivial, _, wl, hscene, fun g' hg' => ?_, ?_⟩
      · obtain rfl := Option.some.inj hg'
        exact hsound
      · rw [Option.map_some, houtline]
        exact hagain
    · refine hQ _ _ ?_ (hledger ▸ hb) ⟨hscene', hsound, houtline ▸ hgoal, houtline ▸ hheal⟩
      rintro ⟨-, htoken, -⟩
      rw [MemoryStore.hasFinalizer_stamp, g.hasFinalizer_addFinalizer] at htoken
      cases htoken
  · rename_i hneeds
    refine hQ g b hneeds hb ⟨h.scene, h.sound, ?_, h.heal⟩
    have hsame : attached cx g.outline = g.outline :=
      attached_of_not (mt needsToken_outline.mp hneeds)
    have hgoal := h.goal
    unfold afterAttach at hgoal
    rw [hsame] at hgoal
    exact hgoal

/-- Attaching the finalizer, and recording that initialization is complete. -/
theorem meets_attachFinalizer
    (h : Stands healing s₀ cx G (afterAttach cx s₀.nodes) g wl n b.store)
    (hb : g.ledger.isInitial = false) :
    Meets (respond clock calm) (Visits healing s₀ cx G)
      (Decides healing s₀ cx G (afterRelease cx s₀.nodes)
        fun g => ¬ NeedsToken cx g ∧ g.ledger.isInitial = false)
      (attachFinalizer.handle cx g) b := by
  unfold attachFinalizer
  simp only
  rw [meets_bind]
  refine meets_attachToken h hb fun g₁ b₁ hneeds hb₁ h₁ => ?_
  have hgoal := h₁.goal
  unfold afterToken at hgoal
  rw [Goop.ledger_outline, Ledger.isIncomplete_outline] at hgoal
  simp only
  split
  · rename_i hl
    rw [if_pos hl] at hgoal
    have hl' : g₁.outline.ledger.isIncomplete .initialized = true := by
      rw [Goop.ledger_outline, Ledger.isIncomplete_outline, hl]
    have hlife := Goop.lifelike_outline h₁.sound.life
    have hneeds' : ¬ NeedsToken cx g₁.outline := mt needsToken_outline.mp hneeds
    have hdue : g₁.outline.ledger.Due initialized.mark := .initialized hl'
    have hnew : g₁.outline.marked initialized ≠ g₁.outline :=
      marked_ne hlife hdue rfl (isComplete_of_isIncomplete hl' _)
    rw [meets_bind]
    refine meets_record_next (c := initialized) (afterRelease cx s₀.nodes) h₁ (.initialized hl) hnew
      hgoal (fun _ => outcome_marked_initialized hlife hneeds' hl') fun g' b' houtline hstands => ?_
    refine ⟨⟨?_, ?_⟩, wl, n - 1, hstands⟩
    · -- the condition does not make the job need the finalizer
      intro hneeds''
      have hrecorded := needsToken_outline.mpr hneeds''
      rw [houtline] at hrecorded
      unfold afterRecord at hrecorded
      split at hrecorded
      · exact hneeds' (needsToken_of_marked hl' hrecorded)
      · exact hneeds' hrecorded
    · rw [← Ledger.isInitial_outline, ← Goop.ledger_outline, houtline]
      unfold afterRecord
      split
      · exact isInitial_marked _ _
      · rw [Goop.ledger_outline, Ledger.isInitial_outline, hb₁]
  · rename_i hl
    rw [if_neg hl] at hgoal
    exact ⟨⟨hneeds, hb₁⟩, wl, n, h₁.scene, h₁.sound, hgoal, h₁.heal⟩

/-- Releasing the finalizer. -/
theorem meets_release
    (h : Stands healing s₀ cx G (afterRelease cx s₀.nodes) g wl n b.store)
    (hneeds : ¬ NeedsToken cx g) (hb : g.ledger.isInitial = false) :
    Meets (respond clock calm) (Visits healing s₀ cx G)
      (Decides healing s₀ cx G (afterCreate cx s₀.nodes)
        fun g => ¬ NeedsToken cx g ∧ g.isDeletionRequested = false)
      ((release .nothing).handle cx g) b := by
  have hgoal := h.goal
  unfold afterRelease at hgoal
  rw [Goop.ledger_outline, Ledger.isComplete_outline, Goop.isDeletionRequested_outline,
    Goop.hasFinalizer_outline] at hgoal
  unfold release
  simp only
  split
  · rename_i hl
    rw [if_pos hl] at hgoal
    exact h.stops hgoal
  rename_i hl
  rw [if_neg hl] at hgoal
  have hl : g.ledger.isComplete .finalized = false := by simpa using hl
  split
  · rename_i hd
    have hd : g.isDeletionRequested = false := by simpa using hd
    rw [if_pos hd] at hgoal
    exact ⟨⟨hneeds, hd⟩, wl, n, h.scene, h.sound, hgoal, h.heal⟩
  rename_i hd
  have hd : g.isDeletionRequested = true := by simpa using hd
  rw [if_neg (by simp [hd])] at hgoal
  split
  · rename_i hf
    rw [if_pos hf] at hgoal
    subst hgoal
    show Meets _ _ _ (call (.update (g.removeFinalizer cx.settings.finalizer)) >>= _) b
    rw [meets_bind]
    have hvisits := h.visits (c := .update (g.removeFinalizer cx.settings.finalizer))
      ⟨cx.key, h.sound.key⟩
    by_cases hrest : (g.removeFinalizer cx.settings.finalizer).finalizers = []
    · obtain ⟨g₁, s₁, hanswer, hscene⟩ := h.scene.release_last h.sound.key hd hrest
      have hreleased : released cx g.outline = none := if_pos hrest
      refine meets_call hanswer hvisits ?_
      simp only [hreleased]
      exact ⟨rfl, none, n, hscene, rfl, fun hh => (h.heal hh).1⟩
    · obtain ⟨g₁, s₁, hanswer, s₂, hscene⟩ := h.scene.release h.sound.key hrest
      have hreleased : released cx g.outline =
          some (g.outline.removeFinalizer cx.settings.finalizer) := if_neg hrest
      refine meets_call hanswer hvisits ?_
      simp only [hreleased]
      exact ⟨rfl, _, n, hscene, rfl, fun hh => (h.heal hh).1⟩
  · rename_i hf
    rw [if_neg hf] at hgoal
    subst hgoal
    have hl' : g.outline.ledger.isComplete .finalized = false := by
      rw [Goop.ledger_outline, Ledger.isComplete_outline, hl]
    have hb' : g.outline.ledger.isInitial = false := by
      rw [Goop.ledger_outline, Ledger.isInitial_outline, hb]
    rw [meets_bind, meets_attempt]
    refine meets_record_last (c := finalized g) h (.finalized hb hl) rfl
      (fun _ => outcome_marked_finalized (Goop.lifelike_outline h.sound.life) hb' hl' 0) ?_
    intro g' b' _ hends
    exact hends

/-- Creating the workload. -/
theorem meets_create (hnodes : healing → s₀.nodes ≠ 0)
    (h : Stands healing s₀ cx G (afterCreate cx s₀.nodes) g wl n b.store)
    (hneeds : ¬ NeedsToken cx g) (hd : g.isDeletionRequested = false) :
    Meets (respond clock calm) (Visits healing s₀ cx G)
      (Decides healing s₀ cx G (afterComplete cx) fun g => g.isDeletionRequested = false)
      (create.handle cx g) b := by
  have hgoal := h.goal
  unfold afterCreate at hgoal
  rw [Goop.ledger_outline, Ledger.isComplete_outline, Goop.plan_outline] at hgoal
  have hlife := Goop.lifelike_outline h.sound.life
  unfold create
  simp only
  split
  · rename_i hl
    have hl : g.ledger.isComplete .initialized = false := by simpa using hl
    rw [if_pos hl] at hgoal
    exact ⟨hd, wl, n, h.scene, h.sound, hgoal, h.heal⟩
  rename_i hl
  have hl : g.ledger.isComplete .initialized = true := by simpa using hl
  have hl' : g.outline.ledger.isComplete .initialized = true := by
    rw [Goop.ledger_outline, Ledger.isComplete_outline, hl]
  rw [if_neg (by simp [hl])] at hgoal
  rw [meets_bind, meets_attempt]
  cases wl with
  | some w =>
    obtain ⟨s₁, hanswer, hscene⟩ := h.scene.getWorkload
    refine meets_call hanswer (h.visits trivial) ?_
    have h₁ := h.keep hscene
    have hdue : g.outline.ledger.Due (adopted g).mark := .deployed hl'
    show Meets _ _ _ (record cx g (adopted g) >>= _) _
    rw [meets_bind]
    have hnew : g.outline.marked (adopted g) ≠ g.outline :=
      marked_ne hlife hdue rfl (isComplete_of_ne hl' nofun)
    refine meets_record_next (c := adopted g) (afterComplete cx) h₁ (.deployed hl) hnew hgoal
      (fun _ => outcome_marked_of_past hlife hdue hd nofun nofun)
      fun g' b' houtline hstands => ?_
    have hd' : g'.isDeletionRequested = false := by
      rw [← Goop.isDeletionRequested_outline, houtline]
      unfold afterRecord
      split <;> exact hd
    exact ⟨hd', some w, n - 1, hstands⟩
  | none =>
    obtain ⟨s₁, hanswer, hscene⟩ := h.scene.getWorkload_none
    refine meets_call hanswer (h.visits trivial) ?_
    have h₁ := h.keep hscene
    show Meets _ _ _ (Pass.ofExcept (WorkloadSpec.plan g cx.settings) >>= _) _
    rw [meets_bind]
    cases hplan : WorkloadSpec.plan g cx.settings with
    | error e =>
      rw [hplan] at hgoal
      simp only at hgoal
      exact h₁.stops hgoal
    | ok d =>
      rw [hplan] at hgoal
      simp only at hgoal
      show Meets _ _ _ (call (.createWorkload d) >>= _) _
      rw [meets_bind]
      obtain ⟨s₂, hanswer₂, hscene₂⟩ := hscene.create h.sound.key hplan
      refine meets_call hanswer₂ (h₁.visits trivial) ?_
      simp only
      -- nothing of the new workload is ready, so it is not complete
      have hfresh : healing → (⟨s₀.nodes, 0, 0, true⟩ : Rollout).isComplete = false := by
        intro hh
        simp [Rollout.isComplete, hnodes hh]
      have hneeds' : ¬ NeedsToken cx g.outline := mt needsToken_outline.mp hneeds
      -- a pass that begins anew adopts the workload, and comes to the same
      have h₂ : Stands healing s₀ cx G (fun _ _ _ => G) g (some ⟨d, ⟨s₀.nodes, 0, 0, true⟩⟩) n
          s₂ := by
        refine ⟨hscene₂, h.sound, rfl, fun hh => ⟨(h.heal hh).1, ?_⟩⟩
        obtain ⟨rfl, -⟩ := h.heal hh
        rw [outcome_of_created hlife hneeds' hl' hd (hfresh hh)]
        exact hgoal
      rw [meets_bind]
      refine meets_record_last (c := created g) h₂ (.deployed hl) hgoal
        (fun hh => outcome_marked_created hlife hl' hd (hfresh hh)) ?_
      intro g' b' _ hends
      exact hends

/-- Looking whether the workload is complete. -/
theorem meets_complete
    (h : Stands healing s₀ cx G (fun n => afterComplete cx n) g wl n b.store)
    (hd : g.isDeletionRequested = false) :
    Meets (respond clock calm) (Visits healing s₀ cx G)
      (Decides healing s₀ cx G (fun _ g wl => ⟨.ok .never, some g, wl⟩) fun _ => True)
      (complete.handle cx g) b := by
  have hgoal := h.goal
  unfold afterComplete at hgoal
  rw [Goop.ledger_outline, Ledger.isComplete_outline] at hgoal
  have hlife := Goop.lifelike_outline h.sound.life
  unfold complete
  simp only
  split
  · rename_i hl
    have hl : g.ledger.isComplete .deployed = false := by simpa using hl
    rw [if_pos hl] at hgoal
    exact ⟨trivial, wl, n, h.scene, h.sound, hgoal, h.heal⟩
  rename_i hl
  have hl : g.ledger.isComplete .deployed = true := by simpa using hl
  have hl' : g.outline.ledger.isComplete .deployed = true := by
    rw [Goop.ledger_outline, Ledger.isComplete_outline, hl]
  rw [if_neg (by simp [hl])] at hgoal
  rw [meets_bind, meets_attempt]
  cases wl with
  | none =>
    obtain ⟨s₁, hanswer, hscene⟩ := h.scene.getWorkload_none
    refine meets_call hanswer (h.visits trivial) ?_
    have h₁ := h.keep hscene
    simp only at hgoal
    show Meets _ _ _ (record cx g (missing g) >>= _) _
    rw [meets_bind]
    refine meets_record_last (c := missing g) h₁ (.missing hl) hgoal
      (fun _ => outcome_marked_missing hlife hl' hd) ?_
    intro g' b' _ hends
    exact hends
  | some w =>
    obtain ⟨s₁, hanswer, hscene⟩ := h.scene.getWorkload
    refine meets_call hanswer (h.visits trivial) ?_
    have h₁ := h.keep hscene
    simp only at hgoal
    show Meets _ _ _ (if w.rollout.isComplete then record cx g (completed g) >>= _ else _) _
    split
    · rename_i hw
      rw [if_pos hw] at hgoal
      rw [meets_bind]
      have hnew : g.outline.marked (completed g) ≠ g.outline :=
        marked_ne hlife (.completed hl') rfl (isComplete_of_ne hl' nofun)
      refine meets_record_next (c := completed g) (fun _ g wl => ⟨.ok .never, some g, wl⟩) h₁
        (.completed hl) hnew hgoal (fun _ => outcome_marked_completed hlife hl' hd) ?_
      intro g' b' _ hstands
      exact ⟨trivial, some w, n - 1, hstands⟩
    · rename_i hw
      rw [if_neg hw] at hgoal
      exact h₁.stops hgoal

/-! ## The whole pass -/

/-- A chain comes to an outcome if its first stage decides for it, and the others from where that
one leaves off. -/
theorem meets_stages {st : Stage} {rest : List Stage} {Q : Goop → Prop}
    (hst : Meets (respond clock calm) (Visits healing s₀ cx G) (Decides healing s₀ cx G after Q)
      (st.handle cx g) b)
    (hrest : ∀ g' wl' n' b', Q g' → Stands healing s₀ cx G after g' wl' n' b'.store →
      Meets (respond clock calm) (Visits healing s₀ cx G) (Ends healing s₀ cx G)
        (Chain.run ⟨rest⟩ cx g') b') :
    Meets (respond clock calm) (Visits healing s₀ cx G) (Ends healing s₀ cx G)
      (Chain.run ⟨st :: rest⟩ cx g) b := by
  rw [Chain.run_cons, meets_bind]
  refine hst.mono fun r b' hr => ?_
  cases r with
  | error e => exact hr
  | ok decision =>
    cases decision with
    | next g' =>
      obtain ⟨hQ, wl', n', hstands⟩ := hr
      exact hrest g' wl' n' b' hQ hstands
    | stop requeue => exact hr

/-- A pass that nothing disturbs comes to its outcome, and where there is healing, each of its
calls is made where a pass that begins anew comes to the same. -/
theorem meets_reconcile (hnodes : healing → s₀.nodes ≠ 0) {o : Option Goop}
    (hscene : Scene s₀ cx.key o wl n b.store) (hsound : ∀ g, o = some g → Sound cx.key g)
    (hn : healing → n = 0) :
    Meets (respond clock calm)
      (Visits healing s₀ cx (outcome cx s₀.nodes n (o.map Goop.outline) wl))
      (Ends healing s₀ cx (outcome cx s₀.nodes n (o.map Goop.outline) wl))
      (reconcile chain cx) b := by
  unfold reconcile
  rw [meets_bind, meets_attempt]
  have hvisits : Visits healing s₀ cx (outcome cx s₀.nodes n (o.map Goop.outline) wl)
      (.call (.get cx.key)) b := by
    intro hh
    obtain rfl := hn hh
    exact ⟨trivial, o, wl, hscene, hsound, rfl⟩
  cases o with
  | none =>
    obtain ⟨s₁, hanswer, hscene₁⟩ := hscene.get_none
    exact meets_call hanswer hvisits ⟨rfl, none, n, hscene₁, rfl, hn⟩
  | some g =>
    obtain ⟨s₁, hanswer, hscene₁⟩ := hscene.get
    refine meets_call hanswer hvisits ?_
    have h : Stands healing s₀ cx _ (afterStart cx s₀.nodes) g wl n s₁ :=
      ⟨hscene₁, hsound g rfl, rfl, fun hh => ⟨hn hh, hn hh ▸ rfl⟩⟩
    refine meets_stages (meets_start h) fun g₁ wl₁ n₁ b₁ hb₁ h₁ => ?_
    refine meets_stages (meets_attachFinalizer h₁ hb₁) fun g₂ wl₂ n₂ b₂ hQ₂ h₂ => ?_
    refine meets_stages (meets_release h₂ hQ₂.1 hQ₂.2) fun g₃ wl₃ n₃ b₃ hQ₃ h₃ => ?_
    refine meets_stages (meets_create hnodes h₃ hQ₃.1 hQ₃.2) fun g₄ wl₄ n₄ b₄ hd₄ h₄ => ?_
    refine meets_stages (meets_complete h₄ hd₄) fun g₅ wl₅ n₅ b₅ _ h₅ => ?_
    -- behind the last stage a pass ends
    exact h₅.stops h₅.goal

end run

end Lifecycle

end GoopOperator
