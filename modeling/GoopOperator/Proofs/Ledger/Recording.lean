import GoopOperator.Proofs.Ledger.Lifeline

/-!
# Recording in any ledger

A ledger comes from the cluster, so it may be any list of conditions. Whatever it is, recording a
condition either starts a new entry behind the others or renews the last entry of the condition's
type in its place (`Ledger.Becomes`, `becomes_after`). All that recording does is read off that:
little changes, what was recorded is the latest of its type, and recording it again changes nothing
(`recording_is_faithful`).

What was recorded last need not be the current state: the theorem says exactly when it is.
-/

namespace GoopOperator

/-- Two conditions say the same, whenever their statuses last changed. -/
structure Condition.SaysAs (x c : Condition) : Prop where
  /-- They speak of the same aspect. -/
  type : x.type = c.type
  /-- They belong to the same lifecycle state. -/
  reason : x.reason = c.reason
  /-- They hold alike. -/
  status : x.status = c.status
  /-- They have the same message. -/
  message : x.message = c.message

theorem Condition.SaysAs.symm {x c : Condition} (h : x.SaysAs c) : c.SaysAs x :=
  ⟨h.type.symm, h.reason.symm, h.status.symm, h.message.symm⟩

theorem Condition.SaysAs.trans {x c d : Condition} (h : x.SaysAs c) (h' : c.SaysAs d) : x.SaysAs d :=
  ⟨h.type.trans h'.type, h.reason.trans h'.reason, h.status.trans h'.status,
    h.message.trans h'.message⟩

namespace Ledger

/-- The ledger after a condition is recorded, whether that changes it or not. -/
def after (l : Ledger) (c : Condition) (now : String) : Ledger := (l.set? c now).getD l

/-- The last entry of a type stands at this place. -/
structure LastAt (l : Ledger) (t : ConditionType) (i : Nat) : Prop where
  /-- An entry of the type. -/
  here : ∃ x, l.entries[i]? = some x ∧ x.type = t
  /-- There is none behind it. -/
  behind : ∀ j y, i < j → l.entries[j]? = some y → y.type ≠ t

/-- An entry of the ledger is not the entry of another ledger at its place. -/
def DiffersAt (l l' : Ledger) (i : Nat) : Prop :=
  ∃ x, l.entries[i]? = some x ∧ l'.entries[i]? ≠ some x

/-- What the last entry of a type becomes where a condition of its reason is recorded. -/
def entryAfter (old c : Condition) (now : String) : Condition :=
  if old.status = c.status ∧ old.message = c.message then old else renewed old c now

/-- What becomes of a ledger in which a condition is recorded. -/
inductive Becomes (l : Ledger) (c : Condition) (now : String) : Ledger → Prop where
  /-- The last entry of the type, if there is one, has another reason: a new entry is started. -/
  | started (h : ∀ old, l.latest? c.type = some old → old.reason ≠ c.reason) :
    Becomes l c now (l.push c now)
  /-- The last entry of the type has the same reason: it is renewed in its place. -/
  | renewed {front back : List Condition} {old : Condition} (hl : l.entries = front ++ old :: back)
    (htype : old.type = c.type) (hreason : old.reason = c.reason)
    (hback : ∀ y ∈ back, y.type ≠ c.type) :
    Becomes l c now ⟨front ++ entryAfter old c now :: back⟩

/-! ## The last entry of a type -/

section latest

variable {l : Ledger} {t : ConditionType} {x : Condition} {front back : List Condition}

/-- The latest entry of a type is the last of the entries that have the type. -/
theorem latest?_eq_getLast? (l : Ledger) (t : ConditionType) :
    l.latest? t = (l.entries.filter fun x => x.type = t).getLast? := by
  unfold latest?
  rw [← List.head?_reverse, ← List.filter_reverse, List.head?_filter]

/-- An entry behind which none has its type is the latest of its type. -/
theorem latest?_split (hx : x.type = t) (hback : ∀ y ∈ back, y.type ≠ t) :
    latest? ⟨front ++ x :: back⟩ t = some x := by
  have hnone : back.filter (fun y => y.type = t) = [] :=
    List.filter_eq_nil_iff.mpr fun y hy => by simpa using hback y hy
  simp [latest?_eq_getLast?, hx, hnone]

/-- An entry of another type makes no difference to the latest of a type. -/
theorem latest?_split_of_ne (hx : x.type ≠ t) :
    latest? ⟨front ++ x :: back⟩ t = latest? ⟨front ++ back⟩ t := by
  simp [latest?_eq_getLast?, hx]

/-- A new entry is the latest of its type. -/
theorem latest?_push (l : Ledger) (c : Condition) (now : String) :
    (l.push c now).latest? c.type = some { c with lastTransition := some now } :=
  latest?_split rfl fun _ hy => nomatch hy

/-- A new entry leaves the latest of another type. -/
theorem latest?_push_of_ne {c : Condition} (ht : t ≠ c.type) (now : String) :
    (l.push c now).latest? t = l.latest? t := by
  have hsplit : (l.push c now).latest? t = latest? ⟨l.entries ++ []⟩ t := latest?_split_of_ne ht.symm
  rwa [List.append_nil] at hsplit

/-- No two places are those of the last entry of a type. -/
theorem LastAt.unique {i j : Nat} (hi : l.LastAt t i) (hj : l.LastAt t j) : i = j := by
  obtain ⟨x, hx, hxt⟩ := hi.here
  obtain ⟨y, hy, hyt⟩ := hj.here
  rcases Nat.lt_trichotomy i j with hlt | heq | hlt
  · exact absurd hyt (hi.behind j y hlt hy)
  · exact heq
  · exact absurd hxt (hj.behind i x hlt hx)

/-- An entry behind which none has its type stands where the last of its type does. -/
theorem lastAt_split (hl : l.entries = front ++ x :: back) (hx : x.type = t)
    (hback : ∀ y ∈ back, y.type ≠ t) : l.LastAt t front.length := by
  refine ⟨⟨x, by simp [hl], hx⟩, fun j y hj hy => ?_⟩
  rw [hl, List.getElem?_append_right (Nat.le_of_lt hj)] at hy
  obtain ⟨k, hk⟩ := Nat.exists_eq_add_of_lt hj
  have hplace : j - front.length = k + 1 := by omega
  rw [hplace, List.getElem?_cons_succ] at hy
  exact hback y (List.mem_of_getElem? hy)

end latest

/-! ## What becomes of a ledger -/

section becomes

variable {l l' : Ledger} {c : Condition} {now : String}

/-- The entry that takes the place of one of the same type and reason says what was recorded. -/
theorem entryAfter_saysAs {old : Condition} (htype : old.type = c.type)
    (hreason : old.reason = c.reason) (now : String) : (entryAfter old c now).SaysAs c := by
  unfold entryAfter
  split
  · rename_i hsame
    exact ⟨htype, hreason, hsame.1, hsame.2⟩
  · exact ⟨htype, hreason, rfl, rfl⟩

/-- Where something is recorded, the ledger becomes one of these. -/
theorem becomes_after (l : Ledger) (c : Condition) (now : String) : Becomes l c now (l.after c now) := by
  unfold after
  cases hlatest : l.latest? c.type with
  | none =>
    have hset : l.set? c now = some (l.push c now) := by
      unfold set?
      rw [hlatest]
    rw [hset]
    exact .started fun old hold => nomatch hlatest.symm.trans hold
  | some old =>
    rw [set?_of_latest? now hlatest]
    by_cases hreason : old.reason = c.reason
    · obtain ⟨hold, front, back, hl, hback⟩ := split_of_find?_reverse hlatest
      have htype : old.type = c.type := of_decide_eq_true hold
      have hother : ∀ y ∈ back, y.type ≠ c.type := fun y hy =>
        of_decide_eq_false (Bool.eq_false_iff.mpr (List.any_eq_false.mp hback y hy))
      have hbecomes : Becomes l c now ⟨front ++ entryAfter old c now :: back⟩ :=
        .renewed hl htype hreason hother
      rw [if_neg (not_not_intro hreason)]
      unfold entryAfter at hbecomes
      -- a condition that the entry says already leaves the entry, and so the ledger
      split
      · rename_i hsame
        rw [if_pos hsame, ← hl] at hbecomes
        exact hbecomes
      · rename_i hnew
        rw [if_neg hnew] at hbecomes
        rw [hl, replaceLast_append_cons front hold hback]
        exact hbecomes
    · rw [if_pos hreason]
      refine .started fun x hx => ?_
      obtain rfl := Option.some.inj (hlatest.symm.trans hx)
      exact hreason

/-- The sequence of types and reasons grows at its end, by one at most. -/
theorem Becomes.kinds (h : Becomes l c now l') : l.kinds <+: l'.kinds ∧ l'.size ≤ l.size + 1 := by
  cases h with
  | started h =>
    refine ⟨⟨[c.mark.kind], ?_⟩, ?_⟩
    · simp [Ledger.kinds, Ledger.marks, push, Condition.mark]
    · simp [size, push]
  | @renewed front back old hl htype hreason hback =>
    have hsaid := entryAfter_saysAs htype hreason now
    have hkind : (entryAfter old c now).mark.kind = old.mark.kind := by
      simp [Condition.mark, Mark.kind, hsaid.type, hsaid.reason, htype, hreason]
    constructor
    · simp [Ledger.kinds, Ledger.marks, hl, hkind]
    · simp [size, hl]

/-- An entry that differs afterwards is the last one of the type. -/
theorem Becomes.lastAt (h : Becomes l c now l') {i : Nat} (hi : l.DiffersAt l' i) :
    l.LastAt c.type i := by
  obtain ⟨x, hx, hdiffers⟩ := hi
  cases h with
  | started h =>
    have hlt : i < l.entries.length := (List.getElem?_eq_some_iff.mp hx).1
    refine absurd ?_ hdiffers
    rw [push, List.getElem?_append_left hlt]
    exact hx
  | @renewed front back old hl htype hreason hback =>
    have hplace : i = front.length := by
      refine Decidable.byContradiction fun hne => hdiffers ?_
      rw [← hx, hl]
      grind
    exact hplace ▸ lastAt_split hl htype hback

/-- What was recorded is the latest of its type. -/
theorem Becomes.latest?_said (h : Becomes l c now l') :
    ∃ x, l'.latest? c.type = some x ∧ x.SaysAs c := by
  cases h with
  | started h => exact ⟨_, latest?_push l c now, rfl, rfl, rfl, rfl⟩
  | renewed hl htype hreason hback =>
    have hsaid := entryAfter_saysAs htype hreason now
    exact ⟨_, latest?_split hsaid.type hback, hsaid⟩

/-- The latest of another type stays. -/
theorem Becomes.latest?_of_ne (h : Becomes l c now l') {t : ConditionType} (ht : t ≠ c.type) :
    l'.latest? t = l.latest? t := by
  cases h with
  | started h => exact latest?_push_of_ne ht now
  | @renewed front back old hl htype hreason hback =>
    have hsaid := entryAfter_saysAs htype hreason now
    have hbefore : old.type ≠ t := fun h => ht (h.symm.trans htype)
    have hafter : (entryAfter old c now).type ≠ t := fun h => ht (h.symm.trans hsaid.type)
    have hentries : l = ⟨front ++ old :: back⟩ := congrArg Ledger.mk hl
    rw [hentries, latest?_split_of_ne hafter, latest?_split_of_ne hbefore]

/-- What was recorded is the current state exactly where the last entry of its type was, or had another
reason, or was not there. -/
theorem Becomes.current?_iff (h : Becomes l c now l') :
    (∃ x, l'.current? = some x ∧ x.SaysAs c) ↔
      l.latest? c.type = none ∨ l.latest? c.type = l.current? ∨
        ∃ old, l.latest? c.type = some old ∧ old.reason ≠ c.reason := by
  cases h with
  | started h =>
    have hcurrent : (l.push c now).current? = some { c with lastTransition := some now } := by
      simp [current?, push]
    refine ⟨fun _ => ?_, fun _ => ⟨_, hcurrent, rfl, rfl, rfl, rfl⟩⟩
    cases hlatest : l.latest? c.type with
    | none => exact .inl rfl
    | some old => exact .inr (.inr ⟨old, rfl, h old hlatest⟩)
  | @renewed front back old hl htype hreason hback =>
    have hsaid := entryAfter_saysAs htype hreason now
    have hlatest : l.latest? c.type = some old := by
      have hsplit : latest? ⟨front ++ old :: back⟩ c.type = some old := latest?_split htype hback
      rwa [← hl] at hsplit
    rw [hlatest]
    cases hlast : back.getLast? with
    | none =>
      -- the entry is the last of all
      obtain rfl := List.getLast?_eq_none_iff.mp hlast
      have hcurrent : current? ⟨front ++ [entryAfter old c now]⟩ = some (entryAfter old c now) := by
        simp [current?]
      have hbefore : l.current? = some old := by simp [current?, hl]
      exact ⟨fun _ => .inr (.inl hbefore.symm), fun _ => ⟨_, hcurrent, hsaid⟩⟩
    | some y =>
      -- an entry of the other type is behind it, and stays the current state
      have hother : y.type ≠ c.type := hback y (List.mem_of_getLast? hlast)
      have hcurrent (x : Condition) : current? ⟨front ++ x :: back⟩ = some y := by
        simp [current?, List.getLast?_append, List.getLast?_cons, hlast]
      have hbefore : l.current? = some y := by
        have hsplit := hcurrent old
        rwa [← hl] at hsplit
      rw [hcurrent, hbefore]
      constructor
      · rintro ⟨x, hx, hxsaid⟩
        obtain rfl := Option.some.inj hx
        exact absurd hxsaid.type hother
      · rintro (hnone | hsame | ⟨x, hx, hne⟩)
        · cases hnone
        · obtain rfl := Option.some.inj hsame
          exact absurd htype hother
        · obtain rfl := Option.some.inj hx
          exact absurd hreason hne

/-- Nothing is recorded exactly where the ledger stays as it is. -/
theorem set?_eq_none_iff : l.set? c now = none ↔ l.after c now = l := by
  constructor
  · intro h
    rw [after, h, Option.getD_none]
  · intro hsame
    cases h : l.set? c now with
    | none => rfl
    | some l' =>
      rw [after, h, Option.getD_some] at hsame
      subst hsame
      -- a new entry makes the ledger longer, and a renewed one is not the old one
      rcases entries_set? h with hpush | ⟨i, old, x, hi, -, hx, -, hset⟩
      · simp at hpush
      · have hnew : l'.entries[i]? = some x := by
          rw [hset, List.getElem?_set_self (List.getElem?_eq_some_iff.mp hi).1]
        exact absurd (Option.some.inj (hnew.symm.trans hi)) hx

/-- Nothing is recorded exactly where the latest entry of the type says it already. -/
theorem set?_eq_none_iff_said :
    l.set? c now = none ↔ ∃ old, l.latest? c.type = some old ∧ old.SaysAs c := by
  cases hlatest : l.latest? c.type with
  | none =>
    unfold set?
    rw [hlatest]
    exact ⟨nofun, nofun⟩
  | some old =>
    rw [set?_of_latest? now hlatest]
    constructor
    · intro h
      split at h
      · cases h
      rename_i hreason
      split at h
      · rename_i hsame
        exact ⟨old, rfl, type_of_latest? hlatest, Decidable.not_not.mp hreason, hsame.1, hsame.2⟩
      · cases h
    · rintro ⟨old', hold', hsaid⟩
      obtain rfl := Option.some.inj hold'
      rw [if_neg (not_not_intro hsaid.reason), if_pos ⟨hsaid.status, hsaid.message⟩]

/-- What has been recorded is not recorded again, whenever that is tried. -/
theorem set?_after (l : Ledger) (c : Condition) (now later : String) :
    (l.after c now).set? c later = none :=
  set?_eq_none_iff_said.mpr (becomes_after l c now).latest?_said

end becomes

/-- Recording a condition in any ledger changes it as little as is needed. The types and reasons grow
at their end, by one at most. At most one entry becomes another one, and that is the last of the
condition's type. What was recorded is the latest of its type, and the latest of any other type stays.
Nothing is recorded exactly where the ledger stays, and what was recorded is not recorded again. It is
the current state exactly where the last entry of its type was that before, or had another reason, or
was not there. -/
theorem recording_is_faithful (l : Ledger) (c : Condition) (now : String) :
    (l.kinds <+: (l.after c now).kinds ∧ (l.after c now).size ≤ l.size + 1) ∧
      (∀ i, l.DiffersAt (l.after c now) i → l.LastAt c.type i ∧
        ∀ j, l.DiffersAt (l.after c now) j → j = i) ∧
      (∃ x, (l.after c now).latest? c.type = some x ∧ x.SaysAs c) ∧
      (∀ t, t ≠ c.type → (l.after c now).latest? t = l.latest? t) ∧
      (l.set? c now = none ↔ l.after c now = l) ∧
      (∀ later, (l.after c now).set? c later = none ∧
        (l.after c now).after c later = l.after c now) ∧
      ((∃ x, (l.after c now).current? = some x ∧ x.SaysAs c) ↔
        l.latest? c.type = none ∨ l.latest? c.type = l.current? ∨
          ∃ old, l.latest? c.type = some old ∧ old.reason ≠ c.reason) := by
  have h := becomes_after l c now
  refine ⟨h.kinds, fun i hi => ⟨h.lastAt hi, fun j hj => (h.lastAt hj).unique (h.lastAt hi)⟩,
    h.latest?_said, fun t ht => h.latest?_of_ne ht, set?_eq_none_iff, fun later => ?_, h.current?_iff⟩
  have hagain := set?_after l c now later
  exact ⟨hagain, set?_eq_none_iff.mp hagain⟩

/-! ### A sample -/

namespace SampleLedger

/-- A ledger that no job leaves: a reason stands in it twice, and no entry has a time. -/
def odd : Ledger := ⟨[.available .yes .deployed "adopted", .degraded .yes .deployed "lost"]⟩

/-- A condition of the type and the reason of its first entry. -/
def regained : Condition := .available .unknown .deployed "found"

end SampleLedger

open SampleLedger in
/-- The first entry is renewed in its place; the second one stays behind it, and so the current state
is not what was recorded. -/
theorem sample_renewed :
    (odd.after regained "noon").entries = [⟨.available, .unknown, .deployed, "found", some "noon"⟩,
        .degraded .yes .deployed "lost"] ∧
      (odd.DiffersAt (odd.after regained "noon") 0 ∧ odd.LastAt .available 0) ∧
      (odd.after regained "noon").latest? .degraded = odd.latest? .degraded ∧
      (odd.after regained "noon").set? regained "dusk" = none ∧
      ¬ ∃ x, (odd.after regained "noon").current? = some x ∧ x.SaysAs regained := by
  obtain ⟨-, hplace, -, hother, -, hagain, hcurrent⟩ := recording_is_faithful odd regained "noon"
  have hdiffers : odd.DiffersAt (odd.after regained "noon") 0 := ⟨_, rfl, by decide⟩
  refine ⟨by decide, ⟨hdiffers, (hplace 0 hdiffers).1⟩, hother _ (by decide), (hagain "dusk").1, ?_⟩
  rw [hcurrent]
  rintro (hnone | hsame | ⟨old, hold, hreason⟩)
  · cases hnone
  · exact absurd hsame (by decide)
  · obtain rfl := Option.some.inj hold
    exact hreason rfl

end Ledger

end GoopOperator
