import GoopOperator.Proofs.World.LedgerGrowth
import GoopOperator.Proofs.World.Moments

/-!
# No update is lost

Versions are given once, and to one job each (`Reachable.versioned`), whatever users, passes and
other clients do. A copy of a job, from wherever it was had, is therefore a true copy for good
(`MemoryStore.TrueCopy`): a job that is stored under its version is the copy itself, in every
field. So a write that the store accepts is a write to the very job that its writer has looked at,
and it uses the version up for all other writers (`no_update_lost`).
-/

namespace GoopOperator

/-- A job under the version of another one is dated by what that is dated by. -/
theorem Goop.DatedBy.congr {g g' : Goop} {n : Nat} (h : g.DatedBy n)
    (hv : g'.metadata.resourceVersion = g.metadata.resourceVersion) : g'.DatedBy n := by
  obtain ⟨m, hm, hg⟩ := h
  exact ⟨m, hm, hv.trans hg⟩

namespace MemoryStore

/-- All versions of jobs were given by the store, each to one job. -/
structure Versioned (s : MemoryStore) : Prop where
  /-- Each job has a version that was given. -/
  dated : ∀ k g, s.goops.get? k = some g → g.DatedBy s.version
  /-- No two jobs have the same version. -/
  distinct : ∀ k k' g g', s.goops.get? k = some g → s.goops.get? k' = some g' →
    g.metadata.resourceVersion = g'.metadata.resourceVersion → k = k'

/-- The copy has a version that was given, and a job that is stored under it is the copy. -/
structure TrueCopy (s : MemoryStore) (c : Goop) : Prop where
  /-- The version was given. -/
  dated : c.DatedBy s.version
  /-- The stored job is the copy. -/
  same : ∀ k g, s.goops.get? k = some g →
    g.metadata.resourceVersion = c.metadata.resourceVersion → g = c

variable {s s' : MemoryStore} {k : ObjectKey} {g c : Goop}

/-- A stored job is a true copy of itself. -/
theorem Versioned.trueCopy (hs : s.Versioned) (hg : s.goops.get? k = some g) : s.TrueCopy g := by
  refine ⟨hs.dated k g hg, fun k' g' hg' hv => ?_⟩
  obtain rfl := hs.distinct k' k g' g hg' hg hv
  exact Option.some.inj (hg'.symm.trans hg)

/-- A job that has got a new version is a true copy, if all other jobs are as before. -/
theorem Versioned.trueCopy_stamp (hs : s.Versioned) (hversion : s.version < s'.version)
    (hothers : ∀ k g', s'.goops.get? k = some g' → s.goops.get? k = some g' ∨ g' = s'.stamp g) :
    s'.TrueCopy (s'.stamp g) := by
  refine ⟨.stamp s' g, fun k g' hg' hv => ?_⟩
  rcases hothers k g' hg' with hold | hnew
  · exact absurd hv ((hs.dated k g' hold).ne_stamp hversion g)
  · exact hnew

/-- A job that a user creates is a true copy, whether the store keeps it or not. -/
theorem Versioned.trueCopy_insert (hs : s.Versioned) (g : Goop) (uid : String) (now : Timestamp) :
    (s.insert g uid now).2.TrueCopy (s.insert g uid now).1 := by
  have hcopy : (s.insert g uid now).1 = (s.insert g uid now).2.inserted g uid now := by
    unfold insert
    simp only
    split <;> rfl
  have hversion : s.version < (s.insert g uid now).2.version := by
    unfold insert
    simp only
    split <;> exact Nat.lt_succ_self _
  rw [hcopy]
  refine hs.trueCopy_stamp hversion fun k g' hg' => ?_
  rcases s.insert_sets g uid now with ⟨-, -, hkeeps⟩ | ⟨key, s', -, rfl, hsets⟩
  · rw [hkeeps.goops] at hg'
    exact Or.inl hg'
  · rw [hsets.goops] at hg'
    split at hg'
    · exact Or.inr (Option.some.inj hg').symm
    · exact Or.inl hg'

/-- What an answer shows is a true copy. -/
theorem Versioned.trueCopy_answer {call : StoreCall} (hs : s.Versioned)
    (hafter : (s.answer call).2.Versioned)
    (h : Event.Shows k c ⟨.call call, (s.answer call).1.mapError PassError.store⟩) :
    (s.answer call).2.TrueCopy c := by
  rcases shows_answer h with hstored | ⟨hsets, -, g, -, -, rfl⟩
  · exact hafter.trueCopy hstored
  · refine hs.trueCopy_stamp hsets.version fun k' g' hg' => ?_
    rw [hsets.goops] at hg'
    split at hg'
    · cases hg'
    · exact Or.inl hg'

end MemoryStore

/-- The call writes to the job at the key. -/
def StoreCall.WritesTo (k : ObjectKey) : StoreCall → Prop
  | .update g => g.key = .ok k
  | .updateStatus g => g.key = .ok k
  | _ => False

namespace World

open Lifecycle MemoryStore

section moves

variable {chain : Chain} {rules : World → Move → Prop} {w w' : World} {m : Move} {k : ObjectKey}

/-! ## One key at a time -/

/-- The move is about the job at the key, if it is about any. -/
def Touches (w : World) (m : Move) (k : ObjectKey) : Prop :=
  match m with
  | .insert g _ _ => g.key = .ok k
  | .requestDeletion key _ => key = k
  | .edit key _ => key = k
  | m => ∃ c, w.Makes m c ∧ c.WritesTo k

/-- A move makes one call. -/
theorem Makes.unique {c c' : StoreCall} (h : w.Makes m c) (h' : w.Makes m c') : c = c' := by
  cases h with
  | client c =>
    cases h' with
    | client _ => rfl
  | pass hi hp ht =>
    cases h' with
    | pass hi' hp' ht' =>
      obtain rfl := Option.some.inj (hi.symm.trans hi')
      have heq := hp.symm.trans hp'
      injection heq with he
      exact Effect.call.inj he

/-- A move is about one job. -/
theorem Touches.unique {k' : ObjectKey} (h : w.Touches m k) (h' : w.Touches m k') : k = k' := by
  have hcall : (∃ c, w.Makes m c ∧ c.WritesTo k) → (∃ c, w.Makes m c ∧ c.WritesTo k') →
      k = k' := by
    rintro ⟨c, hc, hk⟩ ⟨c', hc', hk'⟩
    obtain rfl := hc.unique hc'
    cases c with
    | update g => exact Except.ok.inj (hk.symm.trans hk')
    | updateStatus g => exact Except.ok.inj (hk.symm.trans hk')
    | get key => exact hk.elim
    | getWorkload key => exact hk.elim
    | createWorkload d => exact hk.elim
  cases m with
  | insert g uid now => exact Except.ok.inj (Eq.trans (Eq.symm h) h')
  | requestDeletion key now => exact Eq.trans (Eq.symm h) h'
  | edit key f => exact Eq.trans (Eq.symm h) h'
  | _ => exact hcall h h'

/-- A move leaves the jobs as they are that it is not about. -/
theorem Change.kept_or_touches {s' : MemoryStore} {o : Option Goop} (h : Change w s' k m o) :
    o = w.job? k ∨ w.Touches m k := by
  have hcall : ∀ {c}, w.Makes m c → c.WritesTo k → w.Touches m k := by
    intro c hm hc
    cases hm with
    | client c => exact ⟨_, .client _, hc⟩
    | pass hi hp ht => exact ⟨_, .pass hi hp ht, hc⟩
  cases h with
  | kept => exact Or.inl rfl
  | inserted hk fresh => exact Or.inr hk
  | removed hg hfree => exact Or.inr rfl
  | marked hg fresh => exact Or.inr rfl
  | edited hg fresh => exact Or.inr rfl
  | written hm hc =>
    cases hc with
    | kept => exact Or.inl rfl
    | updated fits old fresh => exact Or.inr (hcall hm fits.key_eq)
    | recorded fits fresh => exact Or.inr (hcall hm fits.key_eq)

/-- The store after a call is what the call has left. -/
theorem store_of_makes (chain : Chain) {c : StoreCall} (h : w.Makes m c) :
    (w.apply chain m).store = (w.store.answer c).2 := by
  cases h with
  | client c => rfl
  | pass hi hp ht =>
    rw [store_of_answered chain _ hi hp]
    simp only [Turn.respond, ht]

/-! ## Versions -/

/-- Moves give each version once. -/
theorem versioned_apply (chain : Chain) (m : Move) (hw : w.store.Versioned) :
    (w.apply chain m).store.Versioned := by
  refine ⟨dated_of_apply chain m hw.dated, fun k k' g g' hg hg' hv => ?_⟩
  have hchange : ∀ k, Change w (w.apply chain m).store k m ((w.apply chain m).job? k) :=
    fun k => (change_of_apply chain w m k).1
  -- a job that the move is not about has a version from before
  have hold : ∀ {k g}, (w.apply chain m).job? k = some g → ¬ w.Touches m k →
      w.job? k = some g := by
    intro k g hg htouches
    rcases (hchange k).kept_or_touches with hkept | h
    · exact hkept.symm.trans hg
    · exact absurd h htouches
  by_cases hk : w.Touches m k
  · by_cases hk' : w.Touches m k'
    · exact hk.unique hk'
    · have hbefore' := hold hg' hk'
      rcases (hchange k).kept_or_fresh hg with hbefore | ⟨hfresh, g₁, rfl⟩
      · exact hw.distinct k k' g g' hbefore hbefore' hv
      · exact absurd hv.symm ((hw.dated k' g' hbefore').ne_stamp hfresh g₁)
  · have hbefore := hold hg hk
    rcases (hchange k').kept_or_fresh hg' with hbefore' | ⟨hfresh, g₁, rfl⟩
    · exact hw.distinct k k' g g' hbefore hbefore' hv
    · exact absurd hv ((hw.dated k g hbefore).ne_stamp hfresh g₁)

/-- Whatever is done, each version is given once. -/
theorem Reachable.versioned (hw : Reachable chain rules w) : w.store.Versioned := by
  refine Reachable.invariant (P := fun w => w.store.Versioned) (fun nodes => ?_)
    (fun w m _ ih _ => versioned_apply chain m ih) hw
  exact ⟨fun k g hg => (nomatch hg), fun k k' g g' hg => (nomatch hg)⟩

/-- A true copy stays one. -/
theorem Leads.trueCopy (h : Leads chain rules w w') {c : Goop} (hc : w.store.TrueCopy c) :
    w'.store.TrueCopy c := by
  refine ⟨hc.dated.mono h.version_le, fun k g hg hv => ?_⟩
  exact hc.same k g (h.stored_before hg (hc.dated.congr hv)) hv

/-! ## Copies -/

/-- The move gives a copy of a job to whoever makes it. -/
inductive Gives (w : World) : Move → Goop → Prop where
  /-- The answer to a user who creates a job. -/
  | created (g : Goop) (uid : String) (now : Timestamp) :
    Gives w (.insert g uid now) (w.store.insert g uid now).1
  /-- The answer to a call that reads or writes a job. -/
  | answered {m : Move} {call : StoreCall} {k : ObjectKey} {c : Goop} (hm : w.Makes m call)
    (hc : Event.Shows k c ⟨.call call, (w.store.answer call).1.mapError PassError.store⟩) :
    Gives w m c

/-- Somebody may have this copy of a job: it has been stored, or given in answer to a call. -/
inductive Copied (chain : Chain) (rules : World → Move → Prop) (w : World) (c : Goop) : Prop where
  /-- It was stored at some moment. -/
  | stored {w₀ : World} {k : ObjectKey} (h₀ : Reachable chain rules w₀)
    (hc : w₀.job? k = some c) (h : Leads chain rules w₀ w) : Copied chain rules w c
  /-- It was given by a move. -/
  | given {w₀ : World} {m : Move} (h₀ : Reachable chain rules w₀) (hm : rules w₀ m)
    (hc : w₀.Gives m c) (h : Leads chain rules (w₀.apply chain m) w) : Copied chain rules w c

/-- Whatever happens after a copy has been had, it is a true copy. -/
theorem Copied.trueCopy {c : Goop} (h : Copied chain rules w c) : w.store.TrueCopy c := by
  cases h with
  | stored h₀ hc h => exact h.trueCopy (h₀.versioned.trueCopy hc)
  | given h₀ hm hc h =>
    refine h.trueCopy ?_
    have hafter := (h₀.apply hm).versioned
    cases hc with
    | created g uid now => exact h₀.versioned.trueCopy_insert g uid now
    | answered hmakes hshows =>
      rw [store_of_makes chain hmakes] at hafter ⊢
      exact h₀.versioned.trueCopy_answer hafter hshows

/-! ## Writes -/

/-- The move writes `g`, or the status of `g`, to the job at the key, and the store accepts it. -/
inductive Writes (w : World) (m : Move) (k : ObjectKey) (g : Goop) : Prop where
  /-- The metadata and the spec. -/
  | object {after : Goop} (hm : w.Makes m (.update g)) (hk : g.key = .ok k)
    (ha : (w.store.answer (.update g)).1 = .ok after) : Writes w m k g
  /-- The status. -/
  | status {after : Goop} (hm : w.Makes m (.updateStatus g)) (hk : g.key = .ok k)
    (ha : (w.store.answer (.updateStatus g)).1 = .ok after) : Writes w m k g

/-- A write that is accepted is based on the stored job. Unless it is lost, it sets the job under a
new version, or removes it. -/
theorem Writes.sets (chain : Chain) {g : Goop} (h : w.Writes m k g) :
    ∃ stored, w.store.Fits k g stored ∧
      ((∀ g', w.Makes m (.updateStatus g') → w.store.lossesLeft = 0) →
        ∃ o, Sets w.store (w.apply chain m).store k o ∧
          ∀ g', o = some g' → ∃ g₁, g' = (w.apply chain m).store.stamp g₁) := by
  cases h with
  | object hm hk ha =>
    rw [store_of_makes chain hm]
    rcases w.store.answer_update g with ⟨e, he, -⟩ | ⟨key, stored, s', hfits, -, h, hsets⟩
    · cases he.symm.trans ha
    obtain rfl := Except.ok.inj (hfits.key_eq.symm.trans hk)
    rw [h]
    exact ⟨stored, hfits, fun _ => ⟨_, hsets, fun g' hg' => ⟨_, of_afterUpdate hg'⟩⟩⟩
  | status hm hk ha =>
    rw [store_of_makes chain hm]
    rcases w.store.answer_updateStatus g with
      ⟨e, he, -⟩ | ⟨key, stored, s', hfits, hcase⟩
    · cases he.symm.trans ha
    obtain rfl := Except.ok.inj (hfits.key_eq.symm.trans hk)
    refine ⟨stored, hfits, fun hloses => ?_⟩
    rcases hcase with ⟨hlost, -⟩ | ⟨h, hsets⟩
    · exact absurd (hloses g hm) hlost
    · rw [h]
      exact ⟨_, hsets, fun g' hg' => ⟨_, (Option.some.inj hg').symm⟩⟩

/-- After a write that is not lost, no job has the version that the write was based on. -/
theorem Writes.spent (chain : Chain) (hw : w.store.Versioned) {g : Goop} (h : w.Writes m k g)
    (hloses : ∀ g', w.Makes m (.updateStatus g') → w.store.lossesLeft = 0) :
    g.DatedBy w.store.version ∧ ∀ k' g', (w.apply chain m).job? k' = some g' →
      g'.metadata.resourceVersion ≠ g.metadata.resourceVersion := by
  obtain ⟨stored, hfits, hwrite⟩ := h.sets chain
  obtain ⟨o, hsets, ho⟩ := hwrite hloses
  have hdate : g.DatedBy w.store.version := (hw.dated k _ hfits.stored_eq).congr hfits.version
  refine ⟨hdate, fun k' g' hg' hv => ?_⟩
  rw [job?, hsets.goops] at hg'
  split at hg'
  · -- the job that is written has a new version
    obtain ⟨g₁, rfl⟩ := ho g' hg'
    exact hdate.ne_stamp hsets.version g₁ hv.symm
  · -- all others have others
    rename_i hk
    exact hk (hw.distinct k' k g' stored hg' hfits.stored_eq (hv.trans hfits.version))

/-- Whatever users, passes and other clients do, and in whatever order: if the store accepts a write
that has the version of a copy that somebody was given, then the job that is stored at that moment
is the copy, in every field. Unless it is a status write that is lost, no later write with this
version is accepted, at any key. And no two stored jobs have the same version. -/
theorem no_update_lost (hw : Reachable chain rules w) :
    (∀ m k g c, w.Writes m k g → Copied chain rules w c →
      g.metadata.resourceVersion = c.metadata.resourceVersion → w.job? k = some c) ∧
    (∀ m k g, rules w m → w.Writes m k g →
      (∀ g', w.Makes m (.updateStatus g') → w.store.lossesLeft = 0) →
      ∀ w', Leads chain rules (w.apply chain m) w' → ∀ m' k' g', w'.Writes m' k' g' →
        g'.metadata.resourceVersion ≠ g.metadata.resourceVersion) ∧
    ∀ k k' g g', w.job? k = some g → w.job? k' = some g' →
      g.metadata.resourceVersion = g'.metadata.resourceVersion → k = k' := by
  refine ⟨fun m k g c hwrites hcopied hv => ?_, fun m k g hm hwrites hloses w' hleads m' k' g'
    hwrites' hv => ?_, hw.versioned.distinct⟩
  · obtain ⟨stored, hfits, -⟩ := hwrites.sets chain
    have hsame : stored = c :=
      hcopied.trueCopy.same k stored hfits.stored_eq (hfits.version.symm.trans hv)
    exact hsame ▸ hfits.stored_eq
  · obtain ⟨hdate, hspent⟩ := hwrites.spent chain hw.versioned hloses
    obtain ⟨stored, hfits, -⟩ := hwrites'.sets chain
    have hv' : stored.metadata.resourceVersion = g.metadata.resourceVersion :=
      hfits.version.symm.trans hv
    -- what is stored then under the version was stored right after the first write
    have hdate' : stored.DatedBy (w.apply chain m).store.version :=
      (hdate.congr hv').mono (change_of_apply chain w m k).2
    exact hspent k' stored (hleads.stored_before hfits.stored_eq hdate') hv'

end moves

namespace Sample

/-- The sample job, as a user is answered who creates it. -/
def filed : Goop := ((MemoryStore.empty 1).insert job "uid" noon).1

/-- The world in which this has been answered. -/
def afterFiling : World := (init 1).apply chain (.insert job "uid" noon)

/-- Any move may lead there. -/
theorem reachable_afterFiling : Reachable chain (fun _ _ => True) afterFiling :=
  ⟨1, .single ⟨_, trivial, rfl⟩⟩

/-- A client writes the job with one finalizer more. -/
def hold : Move := .client (.update (filed.addFinalizer "hold"))

/-- Another client, with the same copy, writes a status. -/
def report : Move := .client (.updateStatus (filed.withLedger ∅))

end Sample

open Sample in
/-- Of two clients that have the copy that the creation of the sample job has given, the first one to
write finds the job as the copy has it, and the second one is refused. -/
theorem sample_update_kept :
    Reachable chain (fun _ _ => True) afterFiling ∧
      afterFiling.Writes hold key (filed.addFinalizer "hold") ∧ afterFiling.job? key = some filed ∧
      ∀ g, ¬ (afterFiling.apply chain hold).Writes report key g := by
  have hcopied : Copied chain (fun _ _ => True) afterFiling filed :=
    .given ⟨1, .refl⟩ trivial (.created job "uid" noon) .refl
  have hwrites : afterFiling.Writes hold key (filed.addFinalizer "hold") :=
    .object (.client _) rfl rfl
  have hv := filed.resourceVersion_addFinalizer "hold"
  obtain ⟨hsame, honce, -⟩ := no_update_lost reachable_afterFiling
  refine ⟨reachable_afterFiling, hwrites, hsame hold key _ filed hwrites hcopied hv, fun g h => ?_⟩
  refine honce hold key _ trivial hwrites (fun _ _ => rfl) _ .refl report key g h ?_
  cases h with
  | object hm hk ha => exact StoreCall.noConfusion (hm.unique (.client _))
  | status hm hk ha =>
    rw [StoreCall.updateStatus.inj (hm.unique (.client _)), hv]
    rfl

end World

end GoopOperator
