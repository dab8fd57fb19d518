import GoopOperator.Proofs.World.Basic

/-!
# What a copy of a job says about the stored one

A pass works on copies. `Shown` says that a pass has been answered a copy of the job at a key: by
a read, or by a write of its own. `World.Coherent` ties the copies to the store: a copy that has
the version of the stored job is the stored job. It holds of every reachable world
(`Reachable.coherent`), and it is what makes a write that the store accepts a write to the job
that its writer has looked at (`Coherent.eq_of_fits`).
-/

namespace GoopOperator

/-! ## Versions -/

/-- Different numbers have different texts. -/
theorem versionText_inj {m n : Nat} (h : toString m = toString n) : m = n := by
  -- the digits are the text, and the number can be read off them
  have hdigits : Nat.toDigits 10 m = Nat.toDigits 10 n := by
    rw [← Nat.toList_repr, ← Nat.toList_repr]
    exact congrArg String.toList h
  rw [← @Nat.ofDigitChars_ten_toDigits m, hdigits, Nat.ofDigitChars_ten_toDigits]

/-- The version of a job is one of the first `n`. -/
def Goop.DatedBy (g : Goop) (n : Nat) : Prop :=
  ∃ m, m ≤ n ∧ g.metadata.resourceVersion = some (toString m)

namespace Goop.DatedBy

/-- Later there are more versions. -/
theorem mono {g : Goop} {n n' : Nat} (h : g.DatedBy n) (hn : n ≤ n') : g.DatedBy n' := by
  obtain ⟨m, hm, hg⟩ := h
  exact ⟨m, Nat.le_trans hm hn, hg⟩

/-- A job under the last version of a store. -/
theorem stamp (s : MemoryStore) (g : Goop) : (s.stamp g).DatedBy s.version :=
  ⟨s.version, Nat.le_refl _, rfl⟩

/-- A new version is none of the old ones. -/
theorem ne_stamp {g : Goop} {s : MemoryStore} {n : Nat} (h : g.DatedBy n) (hn : n < s.version)
    (g' : Goop) : g.metadata.resourceVersion ≠ (s.stamp g').metadata.resourceVersion := by
  obtain ⟨m, hm, hg⟩ := h
  rw [hg]
  intro heq
  have := versionText_inj (Option.some.inj heq)
  omega

end Goop.DatedBy

/-! ## Copies -/

/-- An answer that shows the job at a key. -/
def Event.Shows (k : ObjectKey) (g : Goop) : Event → Prop
  | ⟨.call (.get key), a⟩ => key = k ∧ a = .ok g
  | ⟨.call (.update incoming), a⟩ => incoming.key = .ok k ∧ a = .ok g
  | ⟨.call (.updateStatus incoming), a⟩ => incoming.key = .ok k ∧ a = .ok g
  | _ => False

/-- The job at a key has been shown by an answer. -/
def Shown (k : ObjectKey) (h : History) (g : Goop) : Prop := ∃ e ∈ h, e.Shows k g

/-- What has been read has been shown. -/
theorem HasRead.shown {k : ObjectKey} {h : History} {g : Goop} (hg : HasRead k h g) :
    Shown k h g := ⟨_, hg, rfl, rfl⟩

/-- What has been shown now, or before. -/
theorem shown_cons {k : ObjectKey} {e : Event} {h : History} {g : Goop} :
    Shown k (e :: h) g ↔ e.Shows k g ∨ Shown k h g := by
  unfold Shown
  simp

namespace MemoryStore

/-- What an answer shows is stored, unless the call has removed it; then the answer shows it for the
last time, under a version that is new. -/
theorem shows_answer {s : MemoryStore} {c : StoreCall} {k : ObjectKey} {g : Goop}
    (h : Event.Shows k g ⟨.call c, (s.answer c).1.mapError PassError.store⟩) :
    (s.answer c).2.goops.get? k = some g ∨
      Sets s (s.answer c).2 k none ∧ ∃ g₀ g₁, s.goops.get? k = some g₀ ∧ g₁.key = g₀.key ∧
        g = (s.answer c).2.stamp g₁ := by
  have hok : ∀ r : Except StoreError Goop, r.mapError PassError.store = .ok g → r = .ok g := by
    intro r hr
    cases r with
    | error e => cases hr
    | ok g' => exact congrArg Except.ok (Except.ok.inj hr)
  cases c with
  | get key =>
    obtain ⟨rfl, ha⟩ := h
    obtain ⟨hkeeps, hg⟩ := s.answer_get key
    left
    rw [hkeeps.goops]
    exact hg g (hok _ ha)
  | update incoming =>
    obtain ⟨hkey, ha⟩ := h
    have ha := hok _ ha
    rcases s.answer_update incoming with ⟨e, he, -⟩ | ⟨key, g', s', hfits, -, hanswer, hsets⟩
    · rw [he] at ha
      cases ha
    · obtain rfl : key = k := Except.ok.inj (hfits.key_eq.symm.trans hkey)
      rw [hanswer] at ha ⊢
      obtain rfl := Except.ok.inj ha
      cases ho : s'.afterUpdate g' incoming with
      | none => exact Or.inr ⟨ho ▸ hsets, g', merged g' incoming, hfits.stored_eq, rfl, rfl⟩
      | some after =>
        obtain rfl := of_afterUpdate ho
        left
        rw [hsets.goops, if_pos rfl, ho]
  | updateStatus incoming =>
    obtain ⟨hkey, ha⟩ := h
    have ha := hok _ ha
    left
    rcases s.answer_updateStatus incoming with
      ⟨e, he, -⟩ | ⟨key, g', s', hfits, ⟨-, hanswer, hkeeps⟩ | ⟨hanswer, hsets⟩⟩
    · rw [he] at ha
      cases ha
    · obtain rfl : key = k := Except.ok.inj (hfits.key_eq.symm.trans hkey)
      rw [hanswer] at ha ⊢
      obtain rfl := Except.ok.inj ha
      rw [hkeeps.goops]
      exact hfits.stored_eq
    · obtain rfl : key = k := Except.ok.inj (hfits.key_eq.symm.trans hkey)
      rw [hanswer] at ha ⊢
      obtain rfl := Except.ok.inj ha
      rw [hsets.goops, if_pos rfl]
  | getWorkload key => exact h.elim
  | createWorkload d => exact h.elim

end MemoryStore

/-- What a turn shows is stored, unless the call has removed it. -/
theorem Turn.shows_respond {t : Turn} {e : Effect} {s : MemoryStore} {k : ObjectKey} {g : Goop}
    (keyed : ∀ k g, s.goops.get? k = some g → g.key = .ok k)
    (h : Event.Shows k g ⟨e, (t.respond e s).1⟩) :
    (t.respond e s).2.goops.get? k = some g ∨
      ((t.respond e s).2.goops.get? k = none ∧ g.key = .ok k ∧
        g.DatedBy (t.respond e s).2.version) := by
  cases e with
  | clock => exact h.elim
  | work task => exact h.elim
  | call c =>
    unfold Turn.respond at h ⊢
    cases hcut : t.cut with
    | none =>
      simp only [hcut] at h ⊢
      rcases MemoryStore.shows_answer h with hstored | ⟨hsets, g₀, g₁, hg₀, hkey, rfl⟩
      · exact Or.inl hstored
      · exact Or.inr ⟨(hsets.goops k).trans (if_pos rfl), hkey.trans (keyed k g₀ hg₀), .stamp _ _⟩
    | some cut =>
      -- a call that is cut off shows nothing
      simp only [hcut] at h
      cases c with
      | getWorkload key => exact h.elim
      | createWorkload d => exact h.elim
      | get key => exact nomatch h.2
      | update incoming => exact nomatch h.2
      | updateStatus incoming => exact nomatch h.2

/-! ## Coherence -/

namespace World

/-- Jobs are stored under their own keys, versions are those given so far, and a copy of the
version of the stored job is the stored job. -/
structure Coherent (w : World) : Prop where
  /-- Each job is stored at its own key. -/
  keyed : ∀ k g, w.job? k = some g → g.key = .ok k
  /-- Each job has a version that was given. -/
  dated : ∀ k g, w.job? k = some g → g.DatedBy w.store.version
  /-- Each copy has a version that was given, and is the stored job if that has the same one. -/
  shown : ∀ p ∈ w.passes, ∀ g, Shown p.cx.key p.past g →
    g.key = .ok p.cx.key ∧ g.DatedBy w.store.version ∧
      ∀ g', w.job? p.cx.key = some g' →
        g.metadata.resourceVersion = g'.metadata.resourceVersion → g = g'

/-- The move leaves each job its key. -/
def KeepsKeys : Move → Prop
  | .edit _ f => ∀ g, (f g).key = g.key
  | _ => True

/-- What is stored after a move was stored before it, or is stored under a version that is new. -/
theorem Change.kept_or_fresh {w : World} {s' : MemoryStore} {k : ObjectKey} {m : Move}
    {o : Option Goop} (h : Change w s' k m o) {g : Goop} (hg : o = some g) :
    w.job? k = some g ∨ w.store.version < s'.version ∧ ∃ g', g = s'.stamp g' := by
  cases h with
  | kept => exact Or.inl hg
  | removed => cases hg
  | inserted hk fresh =>
    cases hg
    exact Or.inr ⟨fresh, _, rfl⟩
  | marked hs fresh =>
    cases hg
    exact Or.inr ⟨fresh, _, rfl⟩
  | edited hs fresh =>
    cases hg
    exact Or.inr ⟨fresh, _, rfl⟩
  | written hm hc =>
    cases hc with
    | kept => exact Or.inl hg
    | updated fits old fresh =>
      unfold MemoryStore.afterUpdate at hg
      split at hg
      · cases hg
      · cases hg
        exact Or.inr ⟨fresh, _, rfl⟩
    | recorded fits fresh =>
      cases hg
      exact Or.inr ⟨fresh, _, rfl⟩

/-- A move leaves jobs at their own keys. -/
theorem Change.keyed {w : World} {s' : MemoryStore} {k : ObjectKey} {m : Move} {o : Option Goop}
    (h : Change w s' k m o) (hm : KeepsKeys m) (hw : ∀ k g, w.job? k = some g → g.key = .ok k)
    {g : Goop} (hg : o = some g) : g.key = .ok k := by
  cases h with
  | kept => exact hw k g hg
  | removed => cases hg
  | inserted hk fresh =>
    cases hg
    exact hk
  | marked hs fresh =>
    cases hg
    have hkey := hw k _ hs
    exact hkey
  | edited hs fresh =>
    cases hg
    exact (hm _).trans (hw k _ hs)
  | written hm hc =>
    cases hc with
    | kept => exact hw k g hg
    | updated fits old fresh =>
      unfold MemoryStore.afterUpdate at hg
      split at hg
      · cases hg
      · cases hg
        have hkey := hw k _ fits.stored_eq
        exact hkey
    | recorded fits fresh =>
      cases hg
      have hkey := hw k _ fits.stored_eq
      exact hkey

/-- Moves give the jobs no other versions than the store has given. -/
theorem dated_of_apply (chain : Chain) {w : World} (m : Move)
    (hw : ∀ k g, w.job? k = some g → g.DatedBy w.store.version) :
    ∀ k g, (w.apply chain m).job? k = some g → g.DatedBy (w.apply chain m).store.version := by
  intro k g hg
  obtain ⟨hchange, hversion⟩ := change_of_apply chain w m k
  rcases hchange.kept_or_fresh hg with hold | ⟨-, g', rfl⟩
  · exact (hw k g hold).mono hversion
  · exact .stamp _ _

/-- A move that leaves each job its key keeps a world coherent. -/
theorem Coherent.apply {chain : Chain} {w : World} {m : Move} (hw : w.Coherent)
    (hm : KeepsKeys m) : (w.apply chain m).Coherent := by
  have hchange := fun k => (change_of_apply chain w m k).1
  have hversion := (change_of_apply chain w m ⟨"", ""⟩).2
  have hkeyed : ∀ k g, (w.apply chain m).job? k = some g → g.key = .ok k :=
    fun k g hg => (hchange k).keyed hm hw.keyed hg
  have hdated := dated_of_apply chain m hw.dated
  -- a copy from before the move: the stored job is the one of before, or has a new version
  have hold : ∀ p ∈ w.passes, ∀ g, Shown p.cx.key p.past g →
      g.key = .ok p.cx.key ∧ g.DatedBy (w.apply chain m).store.version ∧
        ∀ g', (w.apply chain m).job? p.cx.key = some g' →
          g.metadata.resourceVersion = g'.metadata.resourceVersion → g = g' := by
    intro p hp g hg
    obtain ⟨hkey, hdate, hsame⟩ := hw.shown p hp g hg
    refine ⟨hkey, hdate.mono hversion, fun g' hg' hv => ?_⟩
    rcases (hchange p.cx.key).kept_or_fresh hg' with hbefore | ⟨hlt, g'', rfl⟩
    · exact hsame g' hbefore hv
    · exact absurd hv (hdate.ne_stamp hlt g'')
  refine ⟨hkeyed, hdated, fun p hp g hg => ?_⟩
  cases progress_of_apply hp with
  | stayed hp => exact hold p hp g hg
  | begun cx =>
    obtain ⟨e, he, -⟩ := hg
    cases he
  | answered hi hq =>
    rename_i i t q e next
    rcases shown_cons.mp hg with hnow | hbefore
    · -- a new copy is what is stored now, unless the job has gone
      have hstore := store_of_answered chain t hi hq
      rcases Turn.shows_respond hw.keyed hnow with hstored | ⟨hnone, hkey, hdate⟩
      · rw [← hstore] at hstored
        refine ⟨hkeyed _ _ hstored, hdated _ _ hstored, fun g' hg' _ => ?_⟩
        exact Option.some.inj (hstored.symm.trans hg')
      · rw [← hstore] at hnone hdate
        exact ⟨hkey, hdate, fun g' hg' _ => nomatch hnone.symm.trans hg'⟩
    · exact hold q (List.mem_of_getElem? hi) g hbefore

/-- An empty store is coherent. -/
theorem coherent_init (nodes : Int32) : (init nodes).Coherent := by
  have hnone : ∀ k g, (init nodes).job? k ≠ some g := fun k g hg => Option.some_ne_none g hg.symm
  refine ⟨fun k g hg => absurd hg (hnone k g), fun k g hg => absurd hg (hnone k g), ?_⟩
  intro p hp
  cases hp

/-- A world that is reached by moves that leave each job its key is coherent. -/
theorem Reachable.coherent {chain : Chain} {rules : World → Move → Prop} {w : World}
    (hw : Reachable chain rules w) (hrules : ∀ w m, rules w m → KeepsKeys m) : w.Coherent :=
  Reachable.invariant coherent_init (fun _ _ _ ih hm => ih.apply (hrules _ _ hm)) hw

/-- A write of a copy that a pass has been shown fits the stored job only where it is the copy. -/
theorem Coherent.eq_of_fits {w : World} (hw : w.Coherent) {p : PassRun} (hp : p ∈ w.passes)
    {g incoming stored : Goop} (hg : Shown p.cx.key p.past g) (hkey : incoming.key = g.key)
    (hversion : incoming.metadata.resourceVersion = g.metadata.resourceVersion) {k : ObjectKey}
    (hfits : w.store.Fits k incoming stored) : k = p.cx.key ∧ stored = g := by
  obtain ⟨hgkey, -, hsame⟩ := hw.shown p hp g hg
  have hk : k = p.cx.key :=
    Except.ok.inj (hfits.key_eq.symm.trans (hkey.trans hgkey))
  subst hk
  exact ⟨rfl, (hsame stored hfits.stored_eq (hversion.symm.trans hfits.version)).symm⟩

end World

end GoopOperator
