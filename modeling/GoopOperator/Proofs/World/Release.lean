import GoopOperator.Proofs.World.LedgerGrowth

/-!
# No release without cleanup

A job that has been deployed is held by the operator's finalizer until a pass has cleaned up after
it. Three facts carry this, whatever the order of moves. A job whose initialization is complete
has the finalizer, or is to be deleted (`Reachable.secured`); a job to be deleted is not deployed,
so a job that has been deployed had the finalizer then; and only a pass that has cleaned up takes
it away (`Reachable.held`). They are put together in `cleanup_before_release`.
-/

namespace GoopOperator.World

open Lifecycle

/-! ## Moves that leave the finalizer alone -/

/-- Other clients do not take the finalizer `token` away, which is that of all passes, and users
create jobs where there is none. -/
def KeepsToken (token : String) (w : World) : Move → Prop
  | .insert g _ _ => ∀ k, g.key = .ok k → w.job? k = none
  | .edit _ f => ∀ g, g.hasFinalizer token = true → (f g).hasFinalizer token = true
  | .client (.update incoming) => ∀ k g, w.store.Fits k incoming g → g.hasFinalizer token = true →
      incoming.hasFinalizer token = true
  | .begin cx => cx.settings.finalizer = token
  | _ => True

/-- Ordinary moves that leave the finalizer alone. -/
def Guarding (token : String) (w : World) (m : Move) : Prop := w.Ordinary m ∧ w.KeepsToken token m

/-- A pass has cleaned up after the job of a unique id. -/
def CleanedUp (cleanup : Cleanup) (w : World) (k : ObjectKey) (uid : Option String) : Prop :=
  ∃ p ∈ w.passes, p.cx.key = k ∧ ∃ before during after g, p.past = after ++ (during ++ before) ∧
    CleanupReturned cleanup p.cx before during g (.ok ()) ∧ g.metadata.uid = uid

/-- Such moves create jobs where there is none. -/
theorem KeepsToken.createsAnew {token : String} {w : World} {m : Move}
    (hm : w.KeepsToken token m) : w.CreatesAnew m := by
  cases m with
  | insert g uid now => exact hm
  | _ => trivial

section release

variable {cleanup : Cleanup} {token : String} {w : World} {m : Move} {k : ObjectKey}

/-- What has been cleaned up after stays so. -/
theorem CleanedUp.apply {uid : Option String} (h : w.CleanedUp cleanup k uid) (chain : Chain)
    (m : Move) : (w.apply chain m).CleanedUp cleanup k uid := by
  obtain ⟨p, hp, hk, before, during, after, g, hpast, hc, huid⟩ := h
  obtain ⟨p', hp', hcx, t, ht⟩ := exists_past_of_apply chain m hp
  refine ⟨p', hp', hcx ▸ hk, before, during, t ++ after, g, ?_, hcx ▸ hc, huid⟩
  rw [ht, hpast, List.append_assoc]

/-- All passes work with the same finalizer. -/
theorem Reachable.same_token {chain : Chain} (hw : Reachable chain (Guarding token) w) :
    ∀ p ∈ w.passes, p.cx.settings.finalizer = token := hw.begun_as fun _ _ h => h.2

/-- A write of the metadata answers with the finalizers that were written. -/
theorem Reachable.finalizers_of_update {chain : Chain} {rules : World → Move → Prop}
    (hw : Reachable chain rules w) : ∀ p ∈ w.passes, ∀ incoming g,
      (⟨.call (.update incoming), Except.ok g⟩ : Event) ∈ p.past →
        g.finalizers = incoming.finalizers := by
  refine Reachable.invariant (P := fun w => ∀ p ∈ w.passes, ∀ incoming g,
      (⟨.call (.update incoming), Except.ok g⟩ : Event) ∈ p.past →
        g.finalizers = incoming.finalizers)
    (fun nodes p hp => nomatch hp) (fun w m _ ih hm p hp incoming g hmem => ?_) hw
  cases progress_of_apply hp with
  | stayed hp => exact ih p hp incoming g hmem
  | begun cx => cases hmem
  | answered hi hq =>
    rename_i i t q e next
    rcases List.mem_cons.mp hmem with heq | hmem
    · injection heq with he ha
      subst he
      -- the answer is the stored job with the finalizers of the one that was written
      have ha := Turn.answer_of_respond (eq_of_heq ha).symm
      rcases w.store.answer_update incoming with
        ⟨e, he, -⟩ | ⟨key, stored, s', -, -, hanswer, -⟩
      · rw [he] at ha
        cases ha
      · rw [hanswer] at ha
        rw [← Except.ok.inj ha]
        rfl
    · exact ih q (List.mem_of_getElem? hi) incoming g hmem

/-! ## The finalizer of a stored job -/

/-- The finalizer is there, or deletion is requested. -/
def Held (token : String) (g : Goop) : Prop :=
  g.hasFinalizer token = true ∨ g.isDeletionRequested = true

/-- A job without finalizers does not have this one. -/
theorem hasFinalizer_eq_false {g : Goop} (h : g.finalizers = []) :
    g.hasFinalizer token = false := by
  unfold Goop.hasFinalizer
  rw [h]
  rfl

/-- What a move does to the finalizer of a job: it stays if it was there, unless a pass takes it
away from a job that is to be deleted, after it has cleaned up. -/
theorem finalizer_of_succession (htokens : ∀ p ∈ w.passes, p.cx.settings.finalizer = token)
    (hspares : SparesLedgers m) (hkeeps : w.KeepsToken token m)
    {g : Goop} (hg : w.job? k = some g) {s' : MemoryStore} {o : Option Goop}
    (h : Succession cleanup w s' k g m o) {g' : Goop} (ho : o = some g') :
    (g.isDeletionRequested = true → g'.isDeletionRequested = true) ∧
      g'.metadata.uid = g.metadata.uid ∧
      ((g.hasFinalizer token = true → g'.hasFinalizer token = true) ∨
        g.isDeletionRequested = true ∧ w.CleanedUp cleanup k g.metadata.uid) := by
  cases h with
  | kept =>
    cases ho
    exact ⟨id, rfl, Or.inl id⟩
  | replaced hk => exact absurd (hg.symm.trans (hkeeps k hk)) (Option.some_ne_none g)
  | removed hfree => cases ho
  | marked =>
    cases ho
    exact ⟨fun _ => MemoryStore.isDeletionRequested_requested g _, rfl, Or.inl id⟩
  | edited =>
    cases ho
    exact ⟨fun hd => (hspares.deletion g).trans hd, hspares.uid g, Or.inl (hkeeps g)⟩
  | updated fits =>
    obtain rfl := MemoryStore.of_afterUpdate ho
    exact ⟨id, rfl, Or.inl (hkeeps k g fits)⟩
  | overwritten fits => exact absurd rfl hspares
  | attached hp hk =>
    obtain rfl := MemoryStore.of_afterUpdate ho
    refine ⟨id, rfl, Or.inl fun _ => ?_⟩
    rw [htokens _ hp]
    exact g.hasFinalizer_addFinalizer token
  | released hp hk hpast hc =>
    obtain rfl := MemoryStore.of_afterUpdate ho
    exact ⟨id, rfl, Or.inr ⟨hc.needs.deletion, _, hp, hk, _, _, [], g, hpast, hc, rfl⟩⟩
  | recorded hp hrest hk hread hc hl =>
    cases ho
    exact ⟨id, rfl, Or.inl id⟩

/-- A job that is held stays held, by its finalizer or by the request for its deletion. -/
theorem held_of_succession (htokens : ∀ p ∈ w.passes, p.cx.settings.finalizer = token)
    (hspares : SparesLedgers m) (hkeeps : w.KeepsToken token m)
    {g : Goop} (hg : w.job? k = some g) {s' : MemoryStore} {o : Option Goop}
    (h : Succession cleanup w s' k g m o) {g' : Goop} (ho : o = some g') (hheld : Held token g) :
    Held token g' := by
  obtain ⟨hdel, -, htoken⟩ := finalizer_of_succession htokens hspares hkeeps hg h ho
  rcases hheld with hf | hd
  · rcases htoken with hkeep | ⟨hd, -⟩
    · exact Or.inl (hkeep hf)
    · exact Or.inr (hdel hd)
  · exact Or.inr (hdel hd)

/-- A job that was held when a pass was shown it is held while the pass is under way. -/
theorem Reachable.held (hclean : cleanup.IsReadOnly)
    (hw : Reachable (cleaning cleanup) (Guarding token) w) :
    Lasting (fun _ g => Held token g) w := by
  refine Reachable.invariant (fun nodes p hp => nomatch hp) (fun w m hw ih hm => ?_) hw
  have hcoherent := hw.coherent_of_ordinary fun _ _ h => h.1
  refine ih.apply hcoherent (fun g uid now heq k hk => ?_) fun p hp hidle g hg hQ g' hg' => ?_
  · subst heq
    exact (hm.1.2 k hk).1
  · have hsuccession := succession_of_apply hclean hw hcoherent m hg
    exact held_of_succession hw.same_token hm.1.sparesLedgers hm.2 hg hsuccession hg' hQ

/-- A job in which a pass has warrant to record the end of initialization is held. -/
theorem Reachable.held_of_warrants (hclean : cleanup.IsReadOnly)
    (hw : Reachable (cleaning cleanup) (Guarding token) w) {p : PassRun} (hp : p ∈ w.passes)
    (hrest : ¬ p.IsOver) {g : Goop} (hg : w.job? p.cx.key = some g) {c : Condition}
    (hc : Warrants p.cx p.past g c) (hreason : c.reason = .initialized)
    (hstatus : c.status = .yes) :
    Held token g := by
  cases hc with
  | starting hl => cases hstatus
  | initialized hl hf =>
    have htoken := hw.same_token p hp
    rcases hf with hf | hd | ⟨during, before, g₀, g₁, hg₀, hpast⟩
    · exact Or.inl (htoken ▸ hf)
    · exact Or.inr hd
    · -- the pass has been shown the job with the finalizer that it has attached
      have hread : HasRead p.cx.key p.past g₀ := by
        rw [hpast]
        exact (hg₀.append [_, _]).append during
      have hmem : (⟨.call (.update (g₀.addFinalizer p.cx.settings.finalizer)), Except.ok g₁⟩ :
          Event) ∈ p.past := by
        rw [hpast]
        exact List.mem_append_right _ (List.mem_cons_of_mem _ List.mem_cons_self)
      have hcoherent := hw.coherent_of_ordinary fun _ _ h => h.1
      have hkey : g₀.key = .ok p.cx.key := (hcoherent.shown p hp g₀ hread.shown).1
      have hshown : Shown p.cx.key p.past g₁ :=
        ⟨_, hmem, (Goop.key_addFinalizer g₀ _).trans hkey, rfl⟩
      have hfinalizers := hw.finalizers_of_update p hp _ _ hmem
      have hheld : Held token g₁ := by
        left
        unfold Goop.hasFinalizer
        rw [hfinalizers, htoken]
        exact g₀.hasFinalizer_addFinalizer token
      exact hw.held hclean p hp (PassRun.not_isIdle hmem hrest) g₁ hshown hheld g hg
  | finalized hl hb hd hf => cases hreason
  | adopted hl hd => cases hreason
  | created hl hd => cases hreason
  | missing hl => cases hreason
  | completed hl => cases hreason

/-- A job whose initialization is complete is held. -/
theorem Reachable.secured (hclean : cleanup.IsReadOnly)
    (hw : Reachable (cleaning cleanup) (Guarding token) w) :
    ∀ k g, w.job? k = some g → g.ledger.isComplete .initialized = true → Held token g := by
  have hrules : ∀ (w : World) m, w.Guarding token m → w.Ordinary m := fun _ _ h => h.1
  refine Reachable.of_stored
    (Q := fun _ _ g => g.ledger.isComplete .initialized = true → Held token g)
    (fun w g uid now k hm _ hcomplete => ?_)
    (fun w m hw hm k g g' hg hg' ih hcomplete => ?_) hw
  · have hbegun : g.ledger.isInitial = false := isInitial_of_isComplete hcomplete
    exact absurd (hbegun.symm.trans hm.1.1) Bool.false_ne_true
  · have hcoherent := hw.coherent_of_ordinary hrules
    have hsuccession := succession_of_apply hclean hw hcoherent m hg
    obtain ⟨-, hstep⟩ :=
      ledgerStep_of_createsAnew hm.1.sparesLedgers hm.2.createsAnew hg hsuccession hg'
    refine held_of_succession hw.same_token hm.1.sparesLedgers hm.2 hg hsuccession hg' ?_
    cases hstep with
    | same hl => exact ih (hl ▸ hcomplete)
    | recorded hp hrest hk hread hc hl =>
      -- initialization is complete only where just that is recorded
      subst hk
      have hdue := hw.due hclean hrules hp hrest hg hc
      have hlife := hw.lifelike hclean hrules _ g hg
      obtain ⟨hreason, hstatus⟩ := hlife.isComplete_set? hdue hl hcomplete
      exact hw.held_of_warrants hclean hp hrest hg hc hreason hstatus

/-- A job that has been deployed has the finalizer, or has been cleaned up after. -/
theorem Reachable.guarded (hclean : cleanup.IsReadOnly)
    (hw : Reachable (cleaning cleanup) (Guarding token) w) :
    ∀ k g, w.job? k = some g → .deployed ∈ g.ledger.reasons →
      g.hasFinalizer token = true ∨ w.CleanedUp cleanup k g.metadata.uid := by
  refine Reachable.of_stored
    (Q := fun w k g => .deployed ∈ g.ledger.reasons →
      g.hasFinalizer token = true ∨ w.CleanedUp cleanup k g.metadata.uid)
    (fun w g uid now k hm _ hdeployed => ?_)
    (fun w m hw hm k g g' hg hg' ih hdeployed => ?_) hw
  · have hbegun : g.ledger.isInitial = false := isInitial_of_mem_reasons hdeployed
    exact absurd (hbegun.symm.trans hm.1.1) Bool.false_ne_true
  · have hcoherent := hw.coherent_of_ordinary fun _ _ h => h.1
    have hsuccession := succession_of_apply hclean hw hcoherent m hg
    obtain ⟨-, huid, htoken⟩ :=
      finalizer_of_succession hw.same_token hm.1.sparesLedgers hm.2 hg hsuccession hg'
    -- what held of the job before still does
    have hkeep : g.hasFinalizer token = true ∨ w.CleanedUp cleanup k g.metadata.uid →
        g'.hasFinalizer token = true ∨
          (w.apply (cleaning cleanup) m).CleanedUp cleanup k g'.metadata.uid := by
      rw [huid]
      rintro (hf | hcleaned)
      · rcases htoken with hkeep | ⟨-, hcleaned⟩
        · exact Or.inl (hkeep hf)
        · exact Or.inr (hcleaned.apply _ m)
      · exact Or.inr (hcleaned.apply _ m)
    refine hkeep ?_
    obtain ⟨-, hstep⟩ :=
      ledgerStep_of_createsAnew hm.1.sparesLedgers hm.2.createsAnew hg hsuccession hg'
    cases hstep with
    | same hl => exact ih (hl ▸ hdeployed)
    | recorded hp hrest hk hread hc hset =>
      subst hk
      rcases mem_reasons_set? hset hdeployed with hbefore | hreason
      · exact ih hbefore
      -- a job is deployed where its initialization is complete and no deletion is requested
      have hfresh : g.ledger.isComplete .initialized = true → g.isDeletionRequested = false →
          g.hasFinalizer token = true := by
        intro hl hd
        rcases hw.secured hclean _ g hg hl with hf | hd'
        · exact hf
        · rw [hd] at hd'
          cases hd'
      cases hc with
      | starting hl => cases hreason
      | initialized hl hf => cases hreason
      | finalized hl hb hd hf => cases hreason
      | adopted hl hd => exact Or.inl (hfresh hl hd)
      | created hl hd => exact Or.inl (hfresh hl hd)
      | missing hl => exact ih (mem_reasons_of_isComplete hl)
      | completed hl => cases hreason

/-- A job that has been deployed leaves its key only after it has been cleaned up after. -/
theorem Reachable.cleanedUp_of_gone (hclean : cleanup.IsReadOnly)
    (hw : Reachable (cleaning cleanup) (Guarding token) w) (hm : w.Guarding token m)
    {g : Goop} (hg : w.job? k = some g) (hdeployed : .deployed ∈ g.ledger.reasons)
    (hgone : (w.apply (cleaning cleanup) m).job? k = none) :
    w.CleanedUp cleanup k g.metadata.uid := by
  have hcoherent := hw.coherent_of_ordinary fun _ _ h => h.1
  have hsuccession := succession_of_apply hclean hw hcoherent m hg
  have hguarded := hw.guarded hclean k g hg hdeployed
  -- it is enough that the finalizer was not there
  have hmissing : g.hasFinalizer token = false → w.CleanedUp cleanup k g.metadata.uid := by
    intro hf
    rcases hguarded with hf' | hcleaned
    · rw [hf] at hf'
      cases hf'
    · exact hcleaned
  generalize ho : (w.apply (cleaning cleanup) m).job? k = o at hgone hsuccession
  cases hsuccession with
  | kept => cases hgone
  | replaced hk => cases hgone
  | removed hfree => exact hmissing (hasFinalizer_eq_false hfree)
  | marked => cases hgone
  | edited => cases hgone
  | updated fits =>
    -- no other client takes the finalizer away
    obtain ⟨-, hfree⟩ := MemoryStore.afterUpdate_eq_none hgone
    refine hmissing ?_
    cases hf : g.hasFinalizer token with
    | false => rfl
    | true =>
      have hincoming := hm.2 k g fits hf
      rw [hasFinalizer_eq_false hfree] at hincoming
      cases hincoming
  | overwritten fits => cases hgone
  | attached hp hk hi hrest =>
    -- the pass has written a job with a finalizer
    rename_i p
    obtain ⟨-, hfree⟩ := MemoryStore.afterUpdate_eq_none hgone
    have htoken := g.hasFinalizer_addFinalizer p.cx.settings.finalizer
    rw [hasFinalizer_eq_false hfree] at htoken
    cases htoken
  | released hp hk hpast hc => exact ⟨_, hp, hk, _, _, [], g, hpast, hc, rfl⟩
  | recorded hp hrest hk hread hc hl => cases hgone

/-- A job that has been deployed is at its key, or has been cleaned up after. -/
theorem Reachable.stored_or_cleanedUp (hclean : cleanup.IsReadOnly)
    (hw : Reachable (cleaning cleanup) (Guarding token) w) {g : Goop} (hg : w.job? k = some g)
    (hdeployed : .deployed ∈ g.ledger.reasons) {w' : World}
    (h : Leads (cleaning cleanup) (Guarding token) w w') :
    (∃ g', w'.job? k = some g' ∧ g'.metadata.uid = g.metadata.uid ∧
        .deployed ∈ g'.ledger.reasons) ∨ w'.CleanedUp cleanup k g.metadata.uid := by
  induction h with
  | refl => exact Or.inl ⟨g, hg, rfl, hdeployed⟩
  | tail hbefore hmove ih =>
    obtain ⟨m, hm, rfl⟩ := hmove
    rename_i w₁
    rcases ih with ⟨g₁, hg₁, huid₁, hdeployed₁⟩ | hcleaned
    · have hw₁ := hw.leads hbefore
      cases hg' : (w₁.apply (cleaning cleanup) m).job? k with
      | none =>
        have hcleaned := hw₁.cleanedUp_of_gone hclean hm hg₁ hdeployed₁ hg'
        exact Or.inr (huid₁ ▸ hcleaned.apply _ m)
      | some g' =>
        have hcoherent := hw₁.coherent_of_ordinary fun _ _ h => h.1
        have hsuccession := succession_of_apply hclean hw₁ hcoherent m hg₁
        obtain ⟨-, huid, -⟩ :=
          finalizer_of_succession hw₁.same_token hm.1.sparesLedgers hm.2 hg₁ hsuccession hg'
        refine Or.inl ⟨g', rfl, huid.trans huid₁, ?_⟩
        obtain ⟨-, hstep⟩ :=
          ledgerStep_of_createsAnew hm.1.sparesLedgers hm.2.createsAnew hg₁ hsuccession hg'
        cases hstep with
        | same hl => exact hl ▸ hdeployed₁
        | recorded hp hrest hk hread hc hl => exact mem_reasons_of_set? hl hdeployed₁
    · exact Or.inr (hcleaned.apply _ m)

/-! ## What a pass does after the cleanup -/

/-- A pass that is about to write a job without the finalizer has just cleaned up after that job. -/
theorem Reachable.cleaned_before_update (hclean : cleanup.IsReadOnly)
    (hw : Reachable (cleaning cleanup) (Guarding token) w) {p : PassRun} (hp : p ∈ w.passes)
    {g' : Goop} {next : (Effect.call (.update g')).Answer → Pass Requeue}
    (hrest : p.rest = .perform (.call (.update g')) next) (hf : g'.hasFinalizer token = false) :
    ∃ before during g, p.past = during ++ before ∧
      CleanupReturned cleanup p.cx before during g (.ok ()) ∧ g' = g.removeFinalizer token := by
  have htoken := hw.same_token p hp
  cases hw.permits hclean hp hrest with
  | reading he => cases he
  | attach hread hl hd =>
    rename_i g
    rw [htoken, g.hasFinalizer_addFinalizer token] at hf
    cases hf
  | release hh hc => exact ⟨_, _, _, hh, hc, htoken ▸ rfl⟩

/-- Where the cleanup of a job fails, the pass fails in the same way at once. -/
theorem cleanup_failure_ends {cx : Context} {before during after : History} {g : Goop}
    {e : PassError} {rest : Pass Requeue}
    (hpath : Pass.Path (reconcile (cleaning cleanup) cx) (after ++ (during ++ before)) rest)
    (hc : CleanupReturned cleanup cx before during g (.error e)) :
    after = [] ∧ rest = .done (.error e) := by
  rw [← List.append_assoc] at hpath
  have hleft := hpath.rest hc.reached
  obtain ⟨hl, hd, hf⟩ := hc.needs
  -- the stage begins with the cleanup
  have hstage : (release cleanup).handle cx g = cleanup cx g >>= fun _ => do
      let _ ← Pass.call (.update (g.removeFinalizer cx.settings.finalizer))
      return .stop .now := by
    simp [release, hl, hd, hf]
  rw [releasing, Chain.run_cons, hstage, Pass.bind_bind] at hleft
  exact Pass.path_done (hleft.rest (hc.returned.bind _))

end release

/-- Whatever the cleanup does besides writing to the store, and however the passes of the
operator, other clients, failures, lost status writes and cancellations follow each other: a pass
writes a job without the finalizer only where it has just cleaned up after that job, whose
deletion was requested and which had the finalizer; a pass whose cleanup fails ends with that
failure and calls nothing any more; and a job that has ever been deployed is not gone before a
pass has cleaned up after it. -/
theorem cleanup_before_release {cleanup : Cleanup} (hclean : cleanup.IsReadOnly) {token : String}
    {w : World} (hw : Reachable (cleaning cleanup) (Guarding token) w) :
    (∀ p ∈ w.passes, ∀ g' next, p.rest = .perform (.call (.update g')) next →
      g'.hasFinalizer token = false →
      ∃ before during g, p.past = during ++ before ∧ g' = g.removeFinalizer token ∧
        g.hasFinalizer token = true ∧ g.isDeletionRequested = true ∧
        CleanupReturned cleanup p.cx before during g (.ok ())) ∧
    (∀ p ∈ w.passes, ∀ before during after g e, p.past = after ++ (during ++ before) →
      CleanupReturned cleanup p.cx before during g (.error e) →
      after = [] ∧ p.rest = .done (.error e)) ∧
    ∀ k g, w.job? k = some g → .deployed ∈ g.ledger.reasons →
      ∀ w', Leads (cleaning cleanup) (Guarding token) w w' →
        (∀ g', w'.job? k = some g' → g'.metadata.uid ≠ g.metadata.uid) →
        w'.CleanedUp cleanup k g.metadata.uid := by
  refine ⟨fun p hp g' next hrest hf => ?_, fun p hp before during after g e hpast hc => ?_,
    fun k g hg hdeployed w' h hgone => ?_⟩
  · obtain ⟨before, during, g, hpast, hc, hg'⟩ := hw.cleaned_before_update hclean hp hrest hf
    have htoken := hw.same_token p hp
    exact ⟨before, during, g, hpast, hg', htoken ▸ hc.needs.held, hc.needs.deletion, hc⟩
  · exact cleanup_failure_ends (hpast ▸ hw.path p hp) hc
  · rcases hw.stored_or_cleanedUp hclean hg hdeployed h with ⟨g', hg', huid, -⟩ | hcleaned
    · exact absurd huid (hgone g' hg')
    · exact hcleaned

namespace Sample

/-- A cleanup that does some work outside the store. -/
def sweep : Cleanup := fun _ _ => Pass.work .null

/-- The sample job is created, and a pass over it gets as far as the workload. -/
def deployed : World := (init 1).run (cleaning sweep) (moves 14)

/-- Its deletion is requested, and another pass cleans up and releases the finalizer. -/
def goodbye : List Move :=
  .requestDeletion key noon :: .begin cx :: List.replicate 3 (.pass 1 turn)

/-- The sample world keeps the finalizer in place. -/
theorem reachable_deployed :
    Reachable (cleaning sweep) (Guarding defaultFinalizer) deployed := by
  refine ⟨1, leads_run ⟨⟨ordinary_insert 1, fun k _ => rfl⟩, ⟨trivial, rfl⟩, ?_⟩⟩
  exact allowed_replicate (fun _ => ⟨trivial, trivial⟩) _ 14

/-- So do the moves that follow. -/
theorem leads_goodbye : Leads (cleaning sweep) (Guarding defaultFinalizer) deployed
    (deployed.run (cleaning sweep) goodbye) :=
  leads_run ⟨⟨trivial, trivial⟩, ⟨trivial, rfl⟩,
    allowed_replicate (fun _ => ⟨trivial, trivial⟩) _ 3⟩

end Sample

open Sample in
/-- The sample job had been deployed and is gone, and it has been cleaned up after. -/
theorem sample_cleaned_up :
    (deployed.job? key).map (fun g => g.ledger.reasons) = some [.initialized, .deployed] ∧
      (deployed.run (cleaning sweep) goodbye).job? key = none ∧
        (deployed.run (cleaning sweep) goodbye).CleanedUp sweep key (some "uid") := by
  have hsweep : Cleanup.IsReadOnly sweep := fun _ _ => ⟨rfl, fun _ => trivial⟩
  have hgone : (deployed.run (cleaning sweep) goodbye).job? key = none := rfl
  refine ⟨rfl, hgone, ?_⟩
  obtain ⟨-, -, h⟩ := cleanup_before_release hsweep reachable_deployed
  refine h key _ rfl (by decide) _ leads_goodbye fun g' hg' => ?_
  exact absurd (hg'.symm.trans hgone) (Option.some_ne_none g')

end GoopOperator.World
