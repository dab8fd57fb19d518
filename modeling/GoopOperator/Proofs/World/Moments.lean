import GoopOperator.Proofs.Store.Workloads
import GoopOperator.Proofs.World.Coherence

/-!
# Moments of a run

A pass keeps its number, and each answer in its history was given at some moment of the run:
`Reachable.moment` finds the world in which that was. What a pass has been shown before and what
is stored after such a moment under the same version was stored at the moment
(`Leads.stored_before`).

`Resettled` says what a move leaves of the workload at a key.
-/

namespace GoopOperator.World

variable {chain : Chain} {rules : World → Move → Prop} {w w' : World} {m : Move} {i : Nat}
  {k : ObjectKey}

/-! ## Numbered passes -/

/-- Where the pass number `i` after a move comes from. -/
inductive ProgressAt (chain : Chain) (w : World) (i : Nat) : Move → PassRun → Prop where
  /-- It stands as it stood. -/
  | stayed {m : Move} {p : PassRun} (hi : w.passes[i]? = some p)
    (hm : ∀ t, m = .pass i t → p.IsOver) : ProgressAt chain w i m p
  /-- It is begun. -/
  | begun {cx : Context} (hi : i = w.passes.length) :
    ProgressAt chain w i (.begin cx) (.start chain cx)
  /-- It has been answered what it asked for. -/
  | answered {t : Turn} {p : PassRun} {e : Effect} {next : e.Answer → Pass Requeue}
    (hi : w.passes[i]? = some p) (hp : p.rest = .perform e next) :
    ProgressAt chain w i (.pass i t)
      ⟨p.cx, ⟨e, (t.respond e w.store).1⟩ :: p.past, next (t.respond e w.store).1⟩

/-- Where each numbered pass after a move comes from. -/
theorem progressAt_of_apply {p : PassRun} (hp : (w.apply chain m).passes[i]? = some p) :
    ProgressAt chain w i m p := by
  cases m with
  | begin cx =>
    change (w.passes ++ [PassRun.start chain cx])[i]? = some p at hp
    rcases Nat.lt_trichotomy i w.passes.length with hlt | heq | hgt
    · rw [List.getElem?_append_left hlt] at hp
      exact .stayed hp fun _ heq => Move.noConfusion heq
    · subst heq
      rw [List.getElem?_concat_length] at hp
      obtain rfl := Option.some.inj hp
      exact .begun rfl
    · rw [List.getElem?_eq_none (by simp; omega)] at hp
      cases hp
  | pass j t =>
    change (w.proceed j t).passes[i]? = some p at hp
    unfold proceed at hp
    cases hj : w.passes[j]? with
    | none =>
      rw [hj] at hp
      refine .stayed hp fun t' heq => ?_
      injection heq with hij
      subst hij
      cases hj.symm.trans hp
    | some q =>
      rw [hj] at hp
      change (w.passes.set j (q.proceed t w.store).1)[i]? = some p at hp
      by_cases hij : j = i
      · subst hij
        rw [List.getElem?_set_self (List.getElem?_eq_some_iff.mp hj).1] at hp
        obtain rfl := Option.some.inj hp
        unfold PassRun.proceed
        cases hq : q.rest with
        | done r => exact .stayed hj fun _ _ => ⟨r, hq⟩
        | perform e next => exact .answered hj hq
      · rw [List.getElem?_set_ne hij] at hp
        refine .stayed hp fun t' heq => ?_
        injection heq with hji
        exact absurd hji hij
  | _ => exact .stayed hp fun _ heq => Move.noConfusion heq

/-! ## Moments -/

/-- In the world `w₀`, from which `w` comes, the pass number `i` over `cx` had the history `before`,
and got the answer `x` in the turn `t`. -/
structure Moment (chain : Chain) (rules : World → Move → Prop) (w : World) (i : Nat) (cx : Context)
    (before : History) (x : Event) (w₀ : World) (t : Turn) : Prop where
  /-- This world was reached. -/
  reached : Reachable chain rules w₀
  /-- The pass stood at the request. -/
  stood : ∃ next, w₀.passes[i]? = some ⟨cx, before, .perform x.effect next⟩
  /-- The turn was allowed. -/
  allowed : rules w₀ (.pass i t)
  /-- It gave this answer. -/
  answer : x.answer = (t.respond x.effect w₀.store).1
  /-- Other moves followed. -/
  leads : Leads chain rules (w₀.apply chain (.pass i t)) w

/-- Every answer to a pass was given at some moment. -/
theorem Reachable.moment (hw : Reachable chain rules w) {p : PassRun}
    (hi : w.passes[i]? = some p) {during before : History} {x : Event}
    (hpast : p.past = during ++ x :: before) :
    ∃ w₀ t, Moment chain rules w i p.cx before x w₀ t := by
  refine Reachable.invariant (P := fun w => ∀ p during, w.passes[i]? = some p →
    p.past = during ++ x :: before → ∃ w₀ t, Moment chain rules w i p.cx before x w₀ t)
    (fun nodes p during hi => nomatch hi) (fun w m hw ih hm p during hi hpast => ?_) hw p during hi
    hpast
  -- what was a moment of the world before is one of the world after
  have hold : ∀ {cx : Context}, (∃ w₀ t, Moment chain rules w i cx before x w₀ t) →
      ∃ w₀ t, Moment chain rules (w.apply chain m) i cx before x w₀ t := by
    rintro cx ⟨w₀, t, hmoment⟩
    exact ⟨w₀, t, { hmoment with leads := hmoment.leads.tail ⟨m, hm, rfl⟩ }⟩
  cases progressAt_of_apply hi with
  | stayed hi' hover => exact hold (ih p during hi' hpast)
  | begun hi' => simp [PassRun.start] at hpast
  | answered hi' hq =>
    rename_i t q e next
    cases during with
    | nil =>
      obtain ⟨rfl, rfl⟩ := List.cons.inj hpast
      refine ⟨w, t, hw, ⟨next, ?_⟩, hm, rfl, .refl⟩
      rw [hi', ← hq]
    | cons y during =>
      obtain ⟨-, hpast'⟩ := List.cons.inj hpast
      exact hold (ih q during hi' hpast')

/-- Versions only go up. -/
theorem Leads.version_le (h : Leads chain rules w w') : w.store.version ≤ w'.store.version := by
  refine h.invariant (P := fun w' => w.store.version ≤ w'.store.version) (Nat.le_refl _) ?_
  intro w₁ m ih _
  exact Nat.le_trans ih (change_of_apply chain w₁ m ⟨"", ""⟩).2

/-- What is stored later under a version that had been given was stored then. -/
theorem Leads.stored_before (h : Leads chain rules w w') {g : Goop} (hg : w'.job? k = some g)
    (hdate : g.DatedBy w.store.version) : w.job? k = some g := by
  induction h with
  | refl => exact hg
  | tail hbefore hmove ih =>
    obtain ⟨m, hm, rfl⟩ := hmove
    rename_i w₁
    rcases (change_of_apply chain w₁ m k).1.kept_or_fresh hg with hkept | ⟨hfresh, g', rfl⟩
    · exact ih hkept
    · have hold := hdate.mono (Leads.version_le hbefore)
      exact absurd rfl (hold.ne_stamp hfresh g')

/-- What a pass has read was stored at some moment. -/
theorem Reachable.of_read {Q : ObjectKey → Goop → Prop}
    (hQ : ∀ w, Reachable chain rules w → ∀ k g, w.job? k = some g → Q k g)
    (hw : Reachable chain rules w) {p : PassRun} (hp : p ∈ w.passes) {g : Goop}
    (hg : HasRead p.cx.key p.past g) : Q p.cx.key g := by
  obtain ⟨i, hi⟩ := List.getElem?_of_mem hp
  obtain ⟨during, before, hpast⟩ := List.append_of_mem hg
  obtain ⟨w₀, t, hmoment⟩ := hw.moment hi hpast
  have hanswer := Turn.answer_of_respond hmoment.answer.symm
  exact hQ w₀ hmoment.reached _ g ((w₀.store.answer_get p.cx.key).2 g hanswer)

/-! ## What a move does to a workload -/

/-- The workload at a key. -/
def workload? (w : World) (k : ObjectKey) : Option StoredWorkload := w.store.workloads.get? k

/-- What a move that makes the store `s'` leaves of the workload at a key. -/
inductive Resettled (w : World) (s' : MemoryStore) (k : ObjectKey) :
    Move → Option StoredWorkload → Prop where
  /-- The workload stays, and so does the job, if there is one. -/
  | kept {m : Move} (hjob : s'.goops.get? k = none → w.job? k = none) :
    Resettled w s' k m (w.workload? k)
  /-- It goes away with the job. -/
  | purged {m : Move} (hjob : s'.goops.get? k = none) : Resettled w s' k m none
  /-- It goes away by itself. -/
  | deleted (hjobs : s'.goops = w.store.goops) : Resettled w s' k (.deleteWorkload k) none
  /-- The cluster reports how far it has got. -/
  | adjusted {wl : StoredWorkload} {f : Rollout → Rollout} (hwl : w.workload? k = some wl)
    (hjobs : s'.goops = w.store.goops) :
    Resettled w s' k (.adjustRollout k f) (some { wl with rollout := f wl.rollout })
  /-- It is created where there was none, and its owner is there. -/
  | created {m : Move} {d : WorkloadSpec} (hm : w.Makes m (.createWorkload d)) (hk : d.key = k)
    (hnone : w.workload? k = none) (howner : d.owner.all (w.store.isOwner k) = true)
    (hjobs : s'.goops = w.store.goops) :
    Resettled w s' k m (some ⟨d, ⟨w.store.nodes, 0, 0, true⟩⟩)

/-- What a call leaves of a workload. -/
theorem resettled_of_placed {s' : MemoryStore} {c : StoreCall} (hm : w.Makes m c)
    {o : Option StoredWorkload} (h : MemoryStore.Placed w.store s' k c o) :
    Resettled w s' k m o := by
  cases h with
  | kept hjob => exact .kept hjob
  | purged hjob => exact .purged hjob
  | created hk hnone howner hjobs => exact .created hm hk hnone howner hjobs

/-- What a move leaves of the workload at each key. -/
theorem resettled_of_apply (chain : Chain) (w : World) (m : Move) (k : ObjectKey) :
    Resettled w (w.apply chain m).store k m ((w.apply chain m).workload? k) := by
  -- most moves put no job away and leave all workloads
  have hkept : ∀ s' : MemoryStore, s'.workloads = w.store.workloads →
      (s'.goops.get? k = none → w.job? k = none) → Resettled w s' k m (s'.workloads.get? k) := by
    intro s' hworkloads hjob
    rw [hworkloads]
    exact .kept hjob
  have hsame : Resettled w w.store k m (w.store.workloads.get? k) := hkept _ rfl id
  cases m with
  | insert g uid now =>
    show Resettled w (w.store.insert g uid now).2 k _ ((w.store.insert g uid now).2.workloads.get? k)
    unfold MemoryStore.insert
    simp only
    split
    · exact hkept _ rfl fun h => Table.get?_eq_none_of_insert h
    · exact hkept _ rfl id
  | requestDeletion key now =>
    show Resettled w (w.store.requestDeletion key now).2 k _
      ((w.store.requestDeletion key now).2.workloads.get? k)
    unfold MemoryStore.requestDeletion
    split
    · exact hsame
    split
    · show Resettled w _ k _ (if k = key then none else w.store.workloads.get? k)
      split
      · rename_i hk
        exact .purged (if_pos hk)
      · rename_i hk
        exact .kept fun h => (if_neg hk).symm.trans h
    · exact hkept _ rfl fun h => Table.get?_eq_none_of_insert h
  | edit key f =>
    show Resettled w (w.store.edit key f).2 k _ ((w.store.edit key f).2.workloads.get? k)
    unfold MemoryStore.edit
    simp only
    split
    · exact hkept _ rfl fun h => Table.get?_eq_none_of_insert h
    · exact hkept _ rfl id
  | client c => exact resettled_of_placed (.client c) (w.store.placed_answer k c)
  | deleteWorkload key =>
    show Resettled w _ k _ (if k = key then none else w.store.workloads.get? k)
    split
    · rename_i hk
      subst hk
      exact .deleted rfl
    · exact .kept id
  | adjustRollout key f =>
    show Resettled w (w.store.adjustRollout key f).2 k _
      ((w.store.adjustRollout key f).2.workloads.get? k)
    unfold MemoryStore.adjustRollout
    split
    · exact hsame
    · rename_i wl hwl
      simp only [Table.get?_insert]
      split
      · rename_i hk
        subst hk
        exact .adjusted hwl rfl
      · exact .kept id
  | queueFault op e => exact hkept _ rfl id
  | loseStatusWrites n => exact hkept _ rfl id
  | begin cx => exact hsame
  | pass i t =>
    show Resettled w (w.proceed i t).store k _ ((w.proceed i t).store.workloads.get? k)
    unfold proceed
    cases hi : w.passes[i]? with
    | none => exact hsame
    | some p =>
      simp only
      unfold PassRun.proceed
      cases hp : p.rest with
      | done r => exact hsame
      | perform e next =>
        cases e with
        | clock => exact hsame
        | work task => exact hsame
        | call c =>
          simp only [Turn.respond]
          cases ht : t.cut with
          | some cut => exact hsame
          | none => exact resettled_of_placed (.pass hi hp ht) (w.store.placed_answer k c)

end GoopOperator.World
