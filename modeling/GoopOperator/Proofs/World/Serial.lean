import GoopOperator.Proofs.Lifecycle.Calls
import GoopOperator.Proofs.World.Moments
import GoopOperator.Proofs.World.Release

/-!
# Passes over a job one after the other

Where a pass over a job is begun only when no other is under way (`Serial`), only that pass writes to
the ledger of the job and takes the finalizer away. So the job that a pass has in hand is stored as
the pass has read it, up to what other clients may change (`Reachable.inStep`), and a job whose
initialization is complete is held by the finalizer or is to be deleted (`Reachable.held_in_turn`).
Jobs may be created under a pass here, as long as the pass has not been shown their unique id.
-/

namespace GoopOperator

/-- What does not concern jobs leaves them. -/
theorem Turn.goops_respond {e : Effect} (he : e.concernsJob = false) (t : Turn) (s : MemoryStore) :
    (t.respond e s).2.goops = s.goops := by
  cases e with
  | clock => rfl
  | work task => rfl
  | call c =>
    unfold Turn.respond
    cases t.cut with
    | some cut => rfl
    | none =>
      cases c with
      | getWorkload key => exact (s.answer_getWorkload key).goops
      | createWorkload d => exact (s.answer_createWorkload d).goops
      | get key => cases he
      | update g => cases he
      | updateStatus g => cases he

namespace World

open Lifecycle

/-! ## Moves -/

/-- A pass over a key has been shown a job of a unique id. -/
def Seen (w : World) (k : ObjectKey) (uid : Option String) : Prop :=
  ∃ p ∈ w.passes, p.cx.key = k ∧ ∃ g, Shown k p.past g ∧ g.metadata.uid = uid

/-- Users create jobs without a history, under a unique id that no pass over their key has been shown,
and a pass over a job is begun where no other is under way. -/
def OneAtATime (w : World) : Move → Prop
  | .insert g uid _ => g.ledger.isInitial = true ∧ ∀ k, g.key = .ok k → ¬ w.Seen k (some uid)
  | .begin cx => ∀ p ∈ w.passes, p.cx.key = cx.key → p.IsOver
  | _ => True

/-- Passes over a job follow each other, and other clients leave ledgers and the finalizer `token`
alone. -/
structure Serial (token : String) (w : World) (m : Move) : Prop where
  /-- Other clients write no status. -/
  spares : SparesLedgers m
  /-- They do not take the finalizer away, and users create jobs where there is none. -/
  keepsToken : w.KeepsToken token m
  /-- Passes over a job follow each other. -/
  inTurn : w.OneAtATime m

/-- A pass may always go on. -/
theorem serial_pass (token : String) (w : World) (i : Nat) (t : Turn) :
    w.Serial token (.pass i t) := ⟨trivial, trivial, trivial⟩

section serial

variable {token : String} {w : World} {m : Move} {i : Nat} {k : ObjectKey} {p : PassRun}
  {g g' : Goop}

/-- Users create jobs without a history. -/
theorem Serial.plain (hm : w.Serial token m) : w.Plain m := by
  refine ⟨hm.spares, ?_⟩
  cases m with
  | insert g uid now => exact hm.inTurn.1
  | _ => trivial

/-- Such moves keep a world coherent. -/
theorem Reachable.coherent_in_turn (hw : Reachable chain (Serial token) w) : w.Coherent :=
  hw.coherent fun _ _ h => h.spares.keepsKeys

/-- The stored ledgers are those that lives leave. -/
theorem Reachable.grown_in_turn (hw : Reachable chain (Serial token) w) :
    ∀ k g, w.job? k = some g → g.ledger.Grown := by
  have hw' : Reachable (cleaning .nothing) (Serial token) w := hw
  exact hw'.grown isReadOnly_nothing fun _ _ h => h.plain

/-- All passes work with the same finalizer. -/
theorem Reachable.token_in_turn (hw : Reachable chain (Serial token) w) :
    ∀ p ∈ w.passes, p.cx.settings.finalizer = token := hw.begun_as fun _ _ h => h.keepsToken

/-- Two passes over the same job that are both under way are one pass. -/
theorem Reachable.solo (hw : Reachable chain (Serial token) w) :
    ∀ (i j : Nat) (p q : PassRun), w.passes[i]? = some p → w.passes[j]? = some q →
      p.cx.key = q.cx.key → ¬ p.IsOver → ¬ q.IsOver → i = j := by
  refine Reachable.invariant
    (P := fun w => ∀ (i j : Nat) (p q : PassRun), w.passes[i]? = some p → w.passes[j]? = some q →
      p.cx.key = q.cx.key → ¬ p.IsOver → ¬ q.IsOver → i = j)
    (fun nodes i j p q hi => nomatch hi) (fun w m hw ih hm i j p q hi hj hk hp hq => ?_) hw
  cases progressAt_of_apply hi with
  | stayed hi' hover =>
    cases progressAt_of_apply hj with
    | stayed hj' hover' => exact ih i j p q hi' hj' hk hp hq
    | begun hlen => exact absurd (hm.inTurn p (List.mem_of_getElem? hi') hk) hp
    | answered hj' hrest => exact ih i j p _ hi' hj' hk hp (PassRun.not_isOver hrest)
  | begun hlen =>
    cases progressAt_of_apply hj with
    | stayed hj' hover' => exact absurd (hm.inTurn q (List.mem_of_getElem? hj') hk.symm) hq
    | begun hlen' => exact hlen.trans hlen'.symm
  | answered hi' hrest =>
    cases progressAt_of_apply hj with
    | stayed hj' hover' => exact ih i j _ q hi' hj' hk (PassRun.not_isOver hrest) hq
    | answered hj' hrest' => rfl

/-! ## Unique ids -/

/-- What has been seen stays so. -/
theorem Seen.apply {uid : Option String} (h : w.Seen k uid) (chain : Chain) (m : Move) :
    (w.apply chain m).Seen k uid := by
  obtain ⟨p, hp, hk, g, ⟨e, he, hshows⟩, huid⟩ := h
  obtain ⟨p', hp', hcx, t, ht⟩ := exists_past_of_apply chain m hp
  refine ⟨p', hp', hcx ▸ hk, g, ⟨e, ?_, hshows⟩, huid⟩
  rw [ht]
  exact List.mem_append_right t he

/-- What a pass has in hand has been seen. -/
theorem seen_of_inHand (hp : p ∈ w.passes) (hg : inHand? p.cx.key p.past = some g) :
    w.Seen p.cx.key g.metadata.uid := ⟨p, hp, rfl, g, (hasRead_of_inHand hg).shown, rfl⟩

/-- A job that has been seen is not created again. -/
theorem Serial.stored_of_seen (hm : w.Serial token m) (hw : Reachable chain (Serial token) w)
    {uid : Option String} (hseen : w.Seen k uid) (hg' : (w.apply chain m).job? k = some g')
    (huid : g'.metadata.uid = uid) :
    ∃ g, w.job? k = some g ∧ g.metadata.uid = uid ∧ LedgerStep w k g g' := by
  cases hg : w.job? k with
  | none =>
    obtain ⟨g₁, uid₁, now, rfl, hk, rfl⟩ := inserted_of_apply hg hg'
    subst huid
    exact absurd hseen (hm.inTurn.2 k hk)
  | some g =>
    obtain ⟨hsame, hstep⟩ :=
      hw.ledgerStep (fun _ _ h => h.spares) hm hm.keepsToken.createsAnew hg hg'
    exact ⟨g, rfl, hsame.symm.trans huid, hstep⟩

/-- The unique id of a stored job that has a history has been seen. -/
theorem Reachable.seen (hw : Reachable chain (Serial token) w) :
    ∀ k g, w.job? k = some g → g.ledger.isInitial = false → w.Seen k g.metadata.uid := by
  refine Reachable.of_stored
    (Q := fun w k g => g.ledger.isInitial = false → w.Seen k g.metadata.uid)
    (fun w g uid now k hm _ hbegun =>
      absurd (hbegun.symm.trans hm.inTurn.1) Bool.false_ne_true)
    (fun w m hw hm k g g' hg hg' ih hbegun => ?_) hw
  obtain ⟨huid, hstep⟩ :=
    hw.ledgerStep (fun _ _ h => h.spares) hm hm.keepsToken.createsAnew hg hg'
  rw [huid]
  refine Seen.apply ?_ chain m
  cases hstep with
  | same hl => exact ih (hl ▸ hbegun)
  | recorded hp hrest hk hread hc hl => exact ⟨_, hp, hk, g, hread.shown, rfl⟩

/-! ## What a pass has in hand -/

/-- The job `g'` is what other clients may have made of `g`. -/
structure Undisturbed (token : String) (g g' : Goop) : Prop where
  /-- It is the same job. -/
  uid : g'.metadata.uid = g.metadata.uid
  /-- It has the same ledger. -/
  ledger : g'.ledger = g.ledger
  /-- It has the finalizer if it had it. -/
  held : g.hasFinalizer token = true → g'.hasFinalizer token = true

/-- What other clients may have made of what they had made. -/
theorem Undisturbed.trans {g₁ g₂ g₃ : Goop} (h : Undisturbed token g₁ g₂)
    (h' : Undisturbed token g₂ g₃) : Undisturbed token g₁ g₃ :=
  ⟨h'.uid.trans h.uid, h'.ledger.trans h.ledger, fun hf => h'.held (h.held hf)⟩

/-- While a pass stands, its job is left alone. -/
theorem Serial.undisturbed (hm : w.Serial token m) (hw : Reachable chain (Serial token) w)
    (hi : w.passes[i]? = some p) (hover : ¬ p.IsOver) (hother : ∀ t, m = .pass i t → p.IsOver)
    (hg : w.job? p.cx.key = some g) (hg' : (w.apply chain m).job? p.cx.key = some g') :
    Undisturbed token g g' := by
  have hsuccession := hw.succession hw.coherent_in_turn hg hg'
  -- another pass that writes to the job would be under way as well
  have hnone : ∀ j t q, m = .pass j t → w.passes[j]? = some q → q.cx.key = p.cx.key →
      ¬ q.IsOver → False := by
    rintro j t q rfl hj hk hq
    obtain rfl := hw.solo i j p q hi hj hk.symm hover hq
    exact hover (hother t rfl)
  generalize ho : some g' = o at hsuccession
  cases hsuccession with
  | kept =>
    cases ho
    exact ⟨rfl, rfl, id⟩
  | replaced hk => exact absurd (hg.symm.trans (hm.keepsToken _ hk)) (Option.some_ne_none g)
  | removed hfree => cases ho
  | marked =>
    cases ho
    exact ⟨rfl, rfl, id⟩
  | edited =>
    cases ho
    exact ⟨hm.spares.uid g, hm.spares.ledger g, hm.keepsToken g⟩
  | updated fits =>
    obtain rfl := MemoryStore.of_afterUpdate ho.symm
    exact ⟨rfl, rfl, hm.keepsToken _ g fits⟩
  | overwritten fits => exact absurd rfl hm.spares
  | attached hp hk hj hq => exact (hnone _ _ _ rfl hj hk hq).elim
  | released hp hk hpast hc hj hq => exact (hnone _ _ _ rfl hj hk hq).elim
  | recorded hp hq hk hread hc hl hj => exact (hnone _ _ _ rfl hj hk hq).elim

/-- The job that a pass under way has in hand is the stored one, up to what other clients may have
made of it, unless another job has taken its place. -/
theorem Reachable.inStep (hw : Reachable chain (Serial token) w) :
    ∀ p ∈ w.passes, ¬ p.IsOver → ∀ g, inHand? p.cx.key p.past = some g →
      ∀ g', w.job? p.cx.key = some g' → g'.metadata.uid = g.metadata.uid →
        Undisturbed token g g' := by
  refine Reachable.invariant
    (P := fun w => ∀ p ∈ w.passes, ¬ p.IsOver → ∀ g, inHand? p.cx.key p.past = some g →
      ∀ g', w.job? p.cx.key = some g' → g'.metadata.uid = g.metadata.uid →
        Undisturbed token g g')
    (fun nodes p hp => nomatch hp) (fun w m hw ih hm p hp hover g hg g' hg' huid => ?_) hw
  obtain ⟨i, hi⟩ := List.getElem?_of_mem hp
  cases progressAt_of_apply hi with
  | stayed hi' hother =>
    have hp' := List.mem_of_getElem? hi'
    obtain ⟨g₁, hg₁, huid₁, -⟩ := hm.stored_of_seen hw (seen_of_inHand hp' hg) hg' huid
    exact (ih p hp' hover g hg g₁ hg₁ huid₁).trans
      (hm.undisturbed hw hi' hover hother hg₁ hg')
  | begun hlen => cases hg
  | answered hi' hrest =>
    rename_i t q e next
    have hstore := store_of_answered chain t hi' hrest
    rcases inHand?_cons_cases hg with ⟨he, hg⟩ | hread
    · -- the answer does not concern jobs
      refine ih q (List.mem_of_getElem? hi') (PassRun.not_isOver hrest) g hg g' ?_ huid
      show w.store.goops.get? q.cx.key = some g'
      rw [← Turn.goops_respond he t w.store, ← hstore]
      exact hg'
    · -- the job in hand has been read now
      have hshows : Event.Shows q.cx.key g ⟨e, (t.respond e w.store).1⟩ := by
        rw [hread]
        exact ⟨rfl, rfl⟩
      rcases Turn.shows_respond hw.coherent_in_turn.keyed hshows with hstored | ⟨hnone, -⟩
      · rw [← hstore] at hstored
        obtain rfl := Option.some.inj (hstored.symm.trans hg')
        exact ⟨rfl, rfl, id⟩
      · rw [← hstore] at hnone
        exact absurd (hg'.symm.trans hnone) (Option.some_ne_none g')

/-! ## The finalizer -/

/-- Right after a pass has attached the finalizer, the job at its key has it, or is without a
history. -/
theorem Reachable.attached_now (hw : Reachable chain (Serial token) w) :
    ∀ p ∈ w.passes, ¬ p.IsOver → ∀ incoming g₁ before,
      p.past = ⟨.call (.update incoming), Except.ok g₁⟩ :: before →
      incoming.key = .ok p.cx.key → incoming.hasFinalizer token = true →
      ∀ g, w.job? p.cx.key = some g →
        g.hasFinalizer token = true ∨ g.ledger.isInitial = true := by
  refine Reachable.invariant
    (P := fun w => ∀ p ∈ w.passes, ¬ p.IsOver → ∀ incoming g₁ before,
      p.past = ⟨.call (.update incoming), Except.ok g₁⟩ :: before →
      incoming.key = .ok p.cx.key → incoming.hasFinalizer token = true →
      ∀ g, w.job? p.cx.key = some g →
        g.hasFinalizer token = true ∨ g.ledger.isInitial = true)
    (fun nodes p hp => nomatch hp)
    (fun w m hw ih hm p hp hover incoming g₁ before hpast hkey hf g' hg' => ?_) hw
  obtain ⟨i, hi⟩ := List.getElem?_of_mem hp
  cases progressAt_of_apply hi with
  | stayed hi' hother =>
    cases hg : w.job? p.cx.key with
    | none =>
      obtain ⟨g₂, uid, now, rfl, hk, rfl⟩ := inserted_of_apply hg hg'
      exact Or.inr hm.inTurn.1
    | some g =>
      have hsame := hm.undisturbed hw hi' hover hother hg hg'
      rw [hsame.ledger]
      exact (ih p (List.mem_of_getElem? hi') hover incoming g₁ before hpast hkey hf g hg).imp_left
        hsame.held
  | begun hlen => cases hpast
  | answered hi' hrest =>
    rename_i t q e next
    obtain ⟨hevent, -⟩ := List.cons.inj hpast
    have hfinalizers := (hw.apply hm).finalizers_of_update _ hp incoming g₁
      (hpast ▸ List.mem_cons_self)
    have hshows : Event.Shows q.cx.key g₁ ⟨e, (t.respond e w.store).1⟩ := by
      rw [hevent]
      exact ⟨hkey, rfl⟩
    have hstore := store_of_answered chain t hi' hrest
    rcases Turn.shows_respond hw.coherent_in_turn.keyed hshows with hstored | ⟨hnone, -⟩
    · rw [← hstore] at hstored
      obtain rfl := Option.some.inj (hstored.symm.trans hg')
      left
      unfold Goop.hasFinalizer
      rw [hfinalizers]
      exact hf
    · rw [← hstore] at hnone
      exact absurd (hg'.symm.trans hnone) (Option.some_ne_none g')

/-- A copy in which a pass has warrant to record the end of initialization is held. -/
theorem Reachable.held_of_warrants_in_turn (hw : Reachable chain (Serial token) w)
    (hp : p ∈ w.passes) {c : Condition} (hc : Warrants p.cx p.past g c)
    (hreason : c.reason = .initialized) (hstatus : c.status = .yes) : Held token g := by
  cases hc with
  | starting hl => cases hstatus
  | initialized hl hf =>
    have htoken := hw.token_in_turn p hp
    rcases hf with hf | hd | ⟨during, before, g₀, g₁, hg₀, hpast⟩
    · exact Or.inl (htoken ▸ hf)
    · exact Or.inr hd
    · -- the copy was read from the store right after the finalizer had been attached
      obtain ⟨i, hi⟩ := List.getElem?_of_mem hp
      obtain ⟨w₀, t, hmoment⟩ := hw.moment hi hpast
      obtain ⟨next, hstood⟩ := hmoment.stood
      have hp₀ := List.mem_of_getElem? hstood
      have hanswer := Turn.answer_of_respond hmoment.answer.symm
      have hstored := (w₀.store.answer_get p.cx.key).2 g hanswer
      have hshown : Shown p.cx.key (⟨.call (.update (g₀.addFinalizer p.cx.settings.finalizer)),
          Except.ok g₁⟩ :: before) g₀ := (hg₀.append [_]).shown
      have hkey := (hmoment.reached.coherent_in_turn.shown _ hp₀ g₀ hshown).1
      rcases hmoment.reached.attached_now _ hp₀ (PassRun.not_isOver rfl) _ g₁ before rfl
        ((Goop.key_addFinalizer g₀ _).trans hkey)
        (htoken ▸ g₀.hasFinalizer_addFinalizer token) g hstored with hf | hempty
      · exact Or.inl hf
      · have hbegun := isInitial_of_isIncomplete hl
        exact absurd (hbegun.symm.trans hempty) Bool.false_ne_true
  | finalized hl hb hd hf => cases hreason
  | adopted hl hd => cases hreason
  | created hl hd => cases hreason
  | missing hl => cases hreason
  | completed hl => cases hreason

/-- A job whose initialization is complete is held. -/
theorem Reachable.held_in_turn (hw : Reachable chain (Serial token) w) :
    ∀ k g, w.job? k = some g → g.ledger.isComplete .initialized = true → Held token g := by
  refine Reachable.of_stored
    (Q := fun _ _ g => g.ledger.isComplete .initialized = true → Held token g)
    (fun w g uid now k hm _ hcomplete => ?_)
    (fun w m hw hm k g g' hg hg' ih hcomplete => ?_) hw
  · have hbegun : g.ledger.isInitial = false := isInitial_of_isComplete hcomplete
    exact absurd (hbegun.symm.trans hm.inTurn.1) Bool.false_ne_true
  · have hsuccession := hw.succession hw.coherent_in_turn hg hg'
    obtain ⟨-, hstep⟩ :=
      ledgerStep_of_createsAnew hm.spares hm.keepsToken.createsAnew hg hsuccession rfl
    refine held_of_succession hw.token_in_turn hm.spares hm.keepsToken hg hsuccession rfl ?_
    cases hstep with
    | same hl => exact ih (hl ▸ hcomplete)
    | recorded hp hrest hk hread hc hl =>
      -- initialization is complete only where just that is recorded
      have hgrown := hw.grown_in_turn k g hg
      obtain ⟨-, hlast⟩ :=
        hgrown.set? ((due_of_warrants hc).imp_right fun h => ⟨h.1, h.2.1⟩) hl
      obtain ⟨hreason, hstatus⟩ := of_isComplete_of_last hlast hcomplete
      exact hw.held_of_warrants_in_turn hp hc hreason hstatus

end serial

end World

end GoopOperator
