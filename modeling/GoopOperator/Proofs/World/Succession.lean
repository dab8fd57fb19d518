import GoopOperator.Proofs.Lifecycle.Permits
import GoopOperator.Proofs.World.Coherence

/-!
# What becomes of a job

`Succession` lists what a move can make of a job that is stored, each case with what its author
knew. A pass writes only to the version that it has read, so what it knew of its copy holds of the
stored job (`succession_of_apply`).

What holds of a job once it holds, however it is written, is known of the stored job by every pass
that has been shown it (`Lasting`).
-/

namespace GoopOperator.World

open Lifecycle

variable {cleanup : Cleanup} {rules : World → Move → Prop} {w : World} {m : Move} {k : ObjectKey}

/-! ## Passes under way -/

/-- A pass asks only for what is permitted. -/
theorem Reachable.permits (hclean : cleanup.IsReadOnly)
    (hw : Reachable (cleaning cleanup) rules w) {p : PassRun} (hp : p ∈ w.passes) {e : Effect}
    {next : e.Answer → Pass Requeue} (hrest : p.rest = .perform e next) :
    Permits cleanup p.cx p.past e := by
  have hpath := hw.path p hp
  rw [hrest] at hpath
  have hfollows := hpath.follows (reconcile_follows hclean p.cx)
  rw [List.append_nil] at hfollows
  exact hfollows.1

/-! ## What becomes of a job -/

/-- What a move that makes the store `s'` makes of the job `g` at a key. -/
inductive Succession (cleanup : Cleanup) (w : World) (s' : MemoryStore) (k : ObjectKey) (g : Goop) :
    Move → Option Goop → Prop where
  /-- It stays. -/
  | kept {m : Move} : Succession cleanup w s' k g m (some g)
  /-- A user creates another job in its place. -/
  | replaced {g₁ : Goop} {uid : String} {now : Timestamp} (hk : g₁.key = .ok k) :
    Succession cleanup w s' k g (.insert g₁ uid now) (some (s'.inserted g₁ uid now))
  /-- It goes, since a user has asked for that and nothing holds it. -/
  | removed {now : Timestamp} (hfree : g.finalizers = []) :
    Succession cleanup w s' k g (.requestDeletion k now) none
  /-- Its deletion is requested. -/
  | marked {now : Timestamp} :
    Succession cleanup w s' k g (.requestDeletion k now)
      (some (s'.stamp (MemoryStore.requested g now)))
  /-- Another client edits it in place. -/
  | edited {f : Goop → Goop} : Succession cleanup w s' k g (.edit k f) (some (s'.stamp (f g)))
  /-- Another client writes its metadata and its spec. -/
  | updated {incoming : Goop} (fits : w.store.Fits k incoming g) :
    Succession cleanup w s' k g (.client (.update incoming)) (s'.afterUpdate g incoming)
  /-- Another client writes its status. -/
  | overwritten {incoming : Goop} (fits : w.store.Fits k incoming g) :
    Succession cleanup w s' k g (.client (.updateStatus incoming))
      (some (s'.stamp { g with status := incoming.status }))
  /-- A pass attaches its finalizer. -/
  | attached {i : Nat} {t : Turn} {p : PassRun} (hp : p ∈ w.passes) (hk : p.cx.key = k)
    (hi : w.passes[i]? = some p) (hrest : ¬ p.IsOver) :
    Succession cleanup w s' k g (.pass i t)
      (s'.afterUpdate g (g.addFinalizer p.cx.settings.finalizer))
  /-- A pass releases its finalizer, after it has cleaned up. -/
  | released {i : Nat} {t : Turn} {p : PassRun} {before during : History} (hp : p ∈ w.passes)
    (hk : p.cx.key = k) (hpast : p.past = during ++ before)
    (hc : CleanupReturned cleanup p.cx before during g (.ok ()))
    (hi : w.passes[i]? = some p) (hrest : ¬ p.IsOver) :
    Succession cleanup w s' k g (.pass i t)
      (s'.afterUpdate g (g.removeFinalizer p.cx.settings.finalizer))
  /-- A pass records a condition. -/
  | recorded {i : Nat} {t : Turn} {p : PassRun} {c : Condition} {now : String} {l : Ledger}
    (hp : p ∈ w.passes) (hrest : ¬ p.IsOver) (hk : p.cx.key = k) (hread : HasRead k p.past g)
    (hc : Warrants p.cx p.past g c) (hl : g.ledger.set? c now = some l)
    (hi : w.passes[i]? = some p) :
    Succession cleanup w s' k g (.pass i t) (some (s'.stamp (g.withLedger l)))

/-- What a write that a pass makes makes of the stored job. -/
theorem succession_of_written (hclean : cleanup.IsReadOnly)
    (hw : Reachable (cleaning cleanup) rules w) (hcoherent : w.Coherent) {s' : MemoryStore}
    {i : Nat} {t : Turn} {p : PassRun} {c : StoreCall}
    {next : (Effect.call c).Answer → Pass Requeue}
    (hi : w.passes[i]? = some p) (hrest : p.rest = .perform (.call c) next) {o : Option Goop}
    (hc : MemoryStore.Written w.store s' k c o) {g : Goop} (hg : w.job? k = some g) :
    Succession cleanup w s' k g (.pass i t) o := by
  have hp := List.mem_of_getElem? hi
  have hpermits := hw.permits hclean hp hrest
  have hover := PassRun.not_isOver hrest
  cases hc with
  | kept =>
    rw [show w.store.goops.get? k = some g from hg]
    exact .kept
  | updated fits old fresh =>
    rename_i incoming stored
    obtain rfl : stored = g := Option.some.inj (fits.stored_eq.symm.trans hg)
    -- the stored job is the copy that the pass has decided on
    cases hpermits with
    | reading he => cases he
    | attach hread hl hd =>
      rename_i g₁
      obtain ⟨rfl, rfl⟩ := hcoherent.eq_of_fits hp hread.shown (by simp) (by simp) fits
      exact .attached hp rfl hi hover
    | release hh hc =>
      rename_i before during g₁
      have hread : HasRead p.cx.key p.past g₁ := hh ▸ hc.read.append during
      obtain ⟨rfl, rfl⟩ := hcoherent.eq_of_fits hp hread.shown (by simp) (by simp) fits
      exact .released hp rfl hh hc hi hover
  | recorded fits fresh =>
    rename_i incoming stored
    obtain rfl : stored = g := Option.some.inj (fits.stored_eq.symm.trans hg)
    cases hpermits with
    | reading he => cases he
    | record hread hc hl =>
      rename_i g₁ c now l
      obtain ⟨rfl, rfl⟩ := hcoherent.eq_of_fits hp hread.shown (by simp) (by simp) fits
      rw [MemoryStore.withStatus_withLedger]
      exact .recorded hp hover rfl hread hc hl hi

/-- What is left of a stored job is one of its successions. -/
theorem succession_of_change (hclean : cleanup.IsReadOnly)
    (hw : Reachable (cleaning cleanup) rules w) (hcoherent : w.Coherent) {s' : MemoryStore}
    {o : Option Goop} (h : Change w s' k m o) {g : Goop} (hg : w.job? k = some g) :
    Succession cleanup w s' k g m o := by
  cases h with
  | kept => exact hg ▸ .kept
  | inserted hk fresh => exact .replaced hk
  | removed hg' hfree =>
    obtain rfl := Option.some.inj (hg'.symm.trans hg)
    exact .removed hfree
  | marked hg' fresh =>
    obtain rfl := Option.some.inj (hg'.symm.trans hg)
    exact .marked
  | edited hg' fresh =>
    obtain rfl := Option.some.inj (hg'.symm.trans hg)
    exact .edited
  | written hm hc =>
    cases hm with
    | pass hi hp ht => exact succession_of_written hclean hw hcoherent hi hp hc hg
    | client c =>
      cases hc with
      | kept =>
        rw [show w.store.goops.get? k = some g from hg]
        exact .kept
      | updated fits old fresh =>
        obtain rfl := Option.some.inj (fits.stored_eq.symm.trans hg)
        exact .updated fits
      | recorded fits fresh =>
        obtain rfl := Option.some.inj (fits.stored_eq.symm.trans hg)
        exact .overwritten fits

/-- What a move makes of a stored job. -/
theorem succession_of_apply (hclean : cleanup.IsReadOnly)
    (hw : Reachable (cleaning cleanup) rules w) (hcoherent : w.Coherent) (m : Move) {g : Goop}
    (hg : w.job? k = some g) :
    Succession cleanup w (w.apply (cleaning cleanup) m).store k g m
      ((w.apply (cleaning cleanup) m).job? k) :=
  succession_of_change hclean hw hcoherent (change_of_apply _ w m k).1 hg

/-- What a move makes of a stored job that stays, where passes run the stages of the lifecycle. -/
theorem Reachable.succession (hw : Reachable chain rules w) (hcoherent : w.Coherent) {g g' : Goop}
    (hg : w.job? k = some g) (hg' : (w.apply chain m).job? k = some g') :
    Succession .nothing w (w.apply chain m).store k g m (some g') := by
  have hw' : Reachable (cleaning .nothing) rules w := hw
  exact hg' ▸ succession_of_apply isReadOnly_nothing hw' hcoherent m hg

/-- Where there was no job, only a user puts one. -/
theorem inserted_of_apply {chain : Chain} (hnone : w.job? k = none) {g' : Goop}
    (hg' : (w.apply chain m).job? k = some g') :
    ∃ g uid now, m = .insert g uid now ∧ g.key = .ok k ∧
      g' = (w.apply chain m).store.inserted g uid now := by
  have hchange := (change_of_apply chain w m k).1
  rw [hg'] at hchange
  generalize (w.apply chain m).store = s' at hchange
  generalize ho : some g' = o at hchange
  -- every other change leaves nothing, or begins with a stored job
  cases hchange with
  | kept => exact absurd (ho.trans hnone) (Option.some_ne_none g')
  | inserted hk fresh => exact ⟨_, _, _, rfl, hk, Option.some.inj ho⟩
  | removed hg hfree => cases ho
  | marked hg fresh => exact absurd (hg.symm.trans hnone) (Option.some_ne_none _)
  | edited hg fresh => exact absurd (hg.symm.trans hnone) (Option.some_ne_none _)
  | written hm hc =>
    cases hc with
    | kept => exact absurd (ho.trans hnone) (Option.some_ne_none g')
    | updated fits old fresh =>
      exact absurd (fits.stored_eq.symm.trans hnone) (Option.some_ne_none _)
    | recorded fits fresh =>
      exact absurd (fits.stored_eq.symm.trans hnone) (Option.some_ne_none _)

/-- What holds of each job when it is created, and after a move of each job that stays if it did
before, holds of all stored jobs. -/
theorem Reachable.of_stored {chain : Chain} {Q : World → ObjectKey → Goop → Prop}
    (hnew : ∀ (w : World) g uid now k, rules w (.insert g uid now) → g.key = .ok k →
      Q (w.apply chain (.insert g uid now)) k
        ((w.apply chain (.insert g uid now)).store.inserted g uid now))
    (hstep : ∀ w m, Reachable chain rules w → rules w m → ∀ k g g', w.job? k = some g →
      (w.apply chain m).job? k = some g' → Q w k g → Q (w.apply chain m) k g')
    (hw : Reachable chain rules w) : ∀ k g, w.job? k = some g → Q w k g := by
  refine Reachable.invariant (P := fun w => ∀ k g, w.job? k = some g → Q w k g)
    (fun nodes k g hg => absurd hg (Option.some_ne_none g).symm)
    (fun w m hw ih hm k g' hg' => ?_) hw
  cases hg : w.job? k with
  | none =>
    obtain ⟨g, uid, now, rfl, hk, rfl⟩ := inserted_of_apply hg hg'
    exact hnew w g uid now k hm hk
  | some g => exact hstep w m hw hm k g g' hg hg' (ih k g hg)

/-! ## What a pass knows of the stored job -/

/-- Of each job that a pass under way has been shown and that has the property `Q`, the job at its
key still has it, if there is one. -/
def Lasting (Q : Context → Goop → Prop) (w : World) : Prop :=
  ∀ p ∈ w.passes, ¬ p.IsIdle → ∀ g, Shown p.cx.key p.past g → Q p.cx g →
    ∀ g', w.job? p.cx.key = some g' → Q p.cx g'

/-- A property lasts through a move that creates no job under a pass and keeps the property. -/
theorem Lasting.apply {chain : Chain} {Q : Context → Goop → Prop} (hw : Lasting Q w)
    (hcoherent : w.Coherent)
    (hinsert : ∀ g uid now, m = .insert g uid now → ∀ k, g.key = .ok k → w.Idle k)
    (hkeeps : ∀ p ∈ w.passes, ¬ p.IsIdle → ∀ g, w.job? p.cx.key = some g → Q p.cx g →
      ∀ g', (w.apply chain m).job? p.cx.key = some g' → Q p.cx g') :
    Lasting Q (w.apply chain m) := by
  have hold : ∀ p ∈ w.passes, ¬ p.IsIdle → ∀ g, Shown p.cx.key p.past g → Q p.cx g →
      ∀ g', (w.apply chain m).job? p.cx.key = some g' → Q p.cx g' := by
    intro p hp hidle g hg hQ g' hg'
    -- a job that is gone does not come back under a pass
    cases hbefore : w.job? p.cx.key with
    | some g₁ => exact hkeeps p hp hidle g₁ hbefore (hw p hp hidle g hg hQ g₁ hbefore) g' hg'
    | none =>
      obtain ⟨g₁, uid, now, hm, hk, -⟩ := inserted_of_apply hbefore hg'
      exact absurd (hinsert g₁ uid now hm p.cx.key hk p hp rfl) hidle
  intro p hp hidle g hg hQ g' hg'
  cases progress_of_apply hp with
  | stayed hp => exact hold p hp hidle g hg hQ g' hg'
  | begun cx => exact absurd (Or.inl rfl) hidle
  | answered hi hq =>
    rename_i i t q e next
    rcases shown_cons.mp hg with hnow | hbefore
    · -- the copy is what is stored now
      have hstore := store_of_answered chain t hi hq
      rcases Turn.shows_respond hcoherent.keyed hnow with hstored | ⟨hnone, -⟩
      · rw [← hstore] at hstored
        obtain rfl := Option.some.inj (hstored.symm.trans hg')
        exact hQ
      · rw [← hstore] at hnone
        exact absurd (hg'.symm.trans hnone) (Option.some_ne_none g')
    · have hidle : ¬ q.IsIdle := by
        obtain ⟨e, he, -⟩ := hbefore
        exact PassRun.not_isIdle he (PassRun.not_isOver hq)
      exact hold q (List.mem_of_getElem? hi) hidle g hbefore hQ g' hg'

end GoopOperator.World
