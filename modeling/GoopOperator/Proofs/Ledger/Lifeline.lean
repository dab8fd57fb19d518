import GoopOperator.Ledger

/-!
# The ledgers that a job's life leaves

What a ledger says, apart from messages and times, is the list of its `Mark`s. `Ledger.Lifelike`
describes the marks that the life of a job can leave, and `Ledger.Due` the marks that may be
recorded next. Recording a mark that is due leaves a lifelike ledger whose last entry is that mark
(`Lifelike.set?`, `life_record`), and whatever is recorded, the sequence of types and
reasons grows at its end by one at most (`kinds_set?`).
-/

namespace GoopOperator

/-- What a condition says, without its message and its time. -/
structure Mark where
  /-- The aspect that it speaks of. -/
  type : ConditionType
  /-- Whether it holds. -/
  status : ConditionStatus
  /-- The lifecycle state that it belongs to. -/
  reason : Reason
  deriving DecidableEq

/-- What a condition says. -/
def Condition.mark (c : Condition) : Mark := ⟨c.type, c.status, c.reason⟩

/-- The type and the reason of a mark. -/
def Mark.kind (m : Mark) : ConditionType × Reason := (m.type, m.reason)

/-- What the entries of a ledger say. -/
def Ledger.marks (l : Ledger) : List Mark := l.entries.map Condition.mark

/-- The types and reasons of the entries of a ledger. -/
def Ledger.kinds (l : Ledger) : List (ConditionType × Reason) := l.marks.map Mark.kind

/-- The marks after `m` is recorded. -/
def Mark.record (m : Mark) (marks : List Mark) : List Mark :=
  match marks.reverse.find? fun x => x.type = m.type with
  | some old =>
    if old.reason = m.reason then replaceLast (fun x => x.type = m.type) m marks else marks ++ [m]
  | none => marks ++ [m]

/-! ## Recording through marks -/

/-- Replacing before or after a map is the same where the map keeps what is looked for. -/
theorem map_replaceLast {p : α → Bool} {q : β → Bool} (f : α → β) (h : ∀ a, q (f a) = p a) (x : α)
    (xs : List α) : (replaceLast p x xs).map f = replaceLast q (f x) (xs.map f) := by
  have hany : ∀ ys : List α, (ys.map f).any q = ys.any p := by
    intro ys
    rw [List.any_map]
    congr 1
    funext a
    exact h a
  induction xs with
  | nil => rfl
  | cons a rest ih =>
    simp only [List.map_cons, replaceLast, hany, h]
    split
    · rw [List.map_cons, ih]
    · split <;> rfl

/-- What stands before and behind the last item that satisfies `p`. -/
theorem split_of_find?_reverse {p : α → Bool} {a : α} {xs : List α}
    (h : xs.reverse.find? p = some a) :
    p a = true ∧ ∃ front back, xs = front ++ a :: back ∧ back.any p = false := by
  obtain ⟨ha, before, behind, hsplit, hnone⟩ := List.find?_eq_some_iff_append.mp h
  refine ⟨ha, behind.reverse, before.reverse, ?_, ?_⟩
  · have := congrArg List.reverse hsplit
    simpa using this
  · rw [List.any_eq_false]
    intro x hx
    simpa using hnone x (List.mem_reverse.mp hx)

/-- Where the last item that satisfies `p` is `x`, replacing it by `x` changes nothing. -/
theorem replaceLast_self {p : α → Bool} {x : α} {xs : List α}
    (h : xs.reverse.find? p = some x) : replaceLast p x xs = xs := by
  obtain ⟨hx, front, back, rfl, hback⟩ := split_of_find?_reverse h
  exact replaceLast_append_cons front hx hback

/-- Replacing the last item that satisfies `p` changes the list at one place. -/
theorem exists_replaceLast_eq_set {p : α → Bool} {a : α} {xs : List α}
    (h : xs.reverse.find? p = some a) :
    ∃ i, xs[i]? = some a ∧ ∀ x, replaceLast p x xs = xs.set i x := by
  obtain ⟨ha, front, back, rfl, hback⟩ := split_of_find?_reverse h
  refine ⟨front.length, by simp, fun x => ?_⟩
  rw [replaceLast_append_cons front ha hback]
  simp

/-- The last entry of a type, seen through marks. -/
theorem find?_marks (l : Ledger) (t : ConditionType) :
    (l.marks.reverse.find? fun x => x.type = t) = (l.latest? t).map Condition.mark := by
  rw [Ledger.marks, ← List.map_reverse, List.find?_map]
  rfl

/-- The last entry of a type has that type. -/
theorem type_of_latest? {l : Ledger} {t : ConditionType} {old : Condition}
    (h : l.latest? t = some old) : old.type = t := by
  simpa using List.find?_some (show l.entries.reverse.find? (fun x => x.type = t) = some old from h)

/-- Recording where the last entry of the type is known. -/
theorem set?_of_latest? {l : Ledger} {c old : Condition} (now : String)
    (h : l.latest? c.type = some old) :
    l.set? c now =
      if old.reason ≠ c.reason then some (l.push c now)
      else if old.status = c.status ∧ old.message = c.message then none
      else some ⟨replaceLast (fun x => x.type = c.type) (Ledger.renewed old c now) l.entries⟩ := by
  unfold Ledger.set?
  rw [h]

/-- Recording a condition records its mark. -/
theorem marks_set? {l l' : Ledger} {c : Condition} {now : String} (h : l.set? c now = some l') :
    l'.marks = c.mark.record l.marks := by
  have hpush : (l.push c now).marks = l.marks ++ [c.mark] := by
    rw [Ledger.marks, Ledger.push, List.map_append]
    rfl
  have hfind := find?_marks l c.mark.type
  unfold Mark.record
  rw [hfind]
  cases hlatest : l.latest? c.type with
  | none =>
    rw [show l.latest? c.mark.type = none from hlatest]
    unfold Ledger.set? at h
    rw [hlatest] at h
    obtain rfl := Option.some.inj h
    exact hpush
  | some old =>
    rw [show l.latest? c.mark.type = some old from hlatest, Option.map_some]
    rw [set?_of_latest? now hlatest] at h
    have htype := type_of_latest? hlatest
    -- an entry with the same reason is renewed in its place, any other is followed by the new one
    by_cases hreason : old.reason = c.reason
    · rw [if_neg (not_not_intro hreason)] at h
      have hm : old.mark.reason = c.mark.reason := hreason
      split at h
      · cases h
      · obtain rfl := Option.some.inj h
        simp only [hm, if_true]
        have hmark : (Ledger.renewed old c now).mark = c.mark := by
          simp [Condition.mark, Ledger.renewed, htype, hreason]
        have hmap := map_replaceLast (p := fun x => x.type = c.type)
          (q := fun x => x.type = c.mark.type) Condition.mark (fun _ => rfl)
          (Ledger.renewed old c now) l.entries
        rw [hmark] at hmap
        exact hmap
    · rw [if_pos hreason] at h
      have hm : old.mark.reason ≠ c.mark.reason := hreason
      obtain rfl := Option.some.inj h
      simp only [hm, if_false]
      exact hpush

/-- A condition that changes nothing has its mark in the ledger already. -/
theorem record_marks_of_set?_none {l : Ledger} {c : Condition} {now : String}
    (h : l.set? c now = none) : c.mark.record l.marks = l.marks := by
  have hfind := find?_marks l c.mark.type
  cases hlatest : l.latest? c.type with
  | none =>
    unfold Ledger.set? at h
    rw [hlatest] at h
    cases h
  | some old =>
    rw [show l.latest? c.mark.type = some old from hlatest, Option.map_some] at hfind
    rw [set?_of_latest? now hlatest] at h
    split at h
    · cases h
    · rename_i hreason
      split at h
      · rename_i hsame
        have hmark : old.mark = c.mark := by
          simp [Condition.mark, type_of_latest? hlatest, Decidable.not_not.mp hreason, hsame.1]
        rw [hmark] at hfind
        unfold Mark.record
        rw [hfind]
        simp only [if_true]
        exact replaceLast_self hfind
      · cases h

/-- Whatever is recorded, the sequence of types and reasons grows at its end, by one at most. -/
theorem kinds_set? {l l' : Ledger} {c : Condition} {now : String} (h : l.set? c now = some l') :
    l'.kinds = l.kinds ∨ l'.kinds = l.kinds ++ [c.mark.kind] := by
  have hpush : (l.marks ++ [c.mark]).map Mark.kind = l.kinds ++ [c.mark.kind] := by
    rw [List.map_append]
    rfl
  unfold Ledger.kinds
  rw [marks_set? h]
  unfold Mark.record
  split
  · rename_i old hfind
    split
    · rename_i hreason
      -- the mark that gives way is of the same type and reason
      left
      have htype : old.type = c.mark.type := by simpa using List.find?_some hfind
      have hkind : c.mark.kind = old.kind := by simp [Mark.kind, htype, hreason]
      have hmap := map_replaceLast (p := fun x => x.type = c.mark.type)
        (q := fun x => x.1 = c.mark.type) Mark.kind (fun _ => rfl) c.mark l.marks
      rw [hmap, hkind]
      refine replaceLast_self ?_
      rw [← List.map_reverse, List.find?_map]
      exact (congrArg (Option.map Mark.kind) hfind)
    · exact Or.inr hpush
  · exact Or.inr hpush

/-! ## The life of a job -/

/-- The marks that a life leaves: the job was initialized, perhaps only begun to be; then deployed,
perhaps found without its workload, and completed; and finalized at any point. -/
def Mark.life (ready deployed missing completed finalized : Bool) : List Mark :=
  ⟨.available, if ready then .yes else .unknown, .initialized⟩ ::
    ((if deployed then
        ⟨.available, .yes, .deployed⟩ ::
          ((if missing then [⟨.degraded, .yes, .deployed⟩] else []) ++
            (if completed then [⟨.available, .yes, .completed⟩] else []))
      else []) ++
      (if finalized then [⟨.degraded, .yes, .finalized⟩] else []))

/-- The ledger is one that the life of a job can leave: it is empty, or its marks are those of a
life in which nothing was deployed before the job was ready. -/
def Ledger.Lifelike (l : Ledger) : Prop :=
  l.marks = [] ∨ ∃ ready deployed missing completed finalized,
    (deployed = true → ready = true) ∧
      l.marks = Mark.life ready deployed missing completed finalized

/-- The ledger is one that the life of a job leaves, or says that the job was finalized before
anything else. -/
def Ledger.Grown (l : Ledger) : Prop :=
  l.Lifelike ∨ l.marks = [⟨.degraded, .yes, .finalized⟩]

/-- The marks that a pass may record in a ledger. -/
inductive Ledger.Due (l : Ledger) : Mark → Prop where
  /-- Nothing has been recorded. -/
  | starting (h : l.isInitial = true) : Due l ⟨.available, .unknown, .initialized⟩
  /-- Initialization has begun. -/
  | initialized (h : l.isIncomplete .initialized = true) :
    Due l ⟨.available, .yes, .initialized⟩
  /-- Initialization is complete. -/
  | deployed (h : l.isComplete .initialized = true) : Due l ⟨.available, .yes, .deployed⟩
  /-- The workload has been created. -/
  | missing (h : l.isComplete .deployed = true) : Due l ⟨.degraded, .yes, .deployed⟩
  /-- The workload has been created. -/
  | completed (h : l.isComplete .deployed = true) : Due l ⟨.available, .yes, .completed⟩
  /-- Something has been recorded, and not yet that the finalizer is released. -/
  | finalized (h : l.isInitial = false) (h' : l.isComplete .finalized = false) :
    Due l ⟨.degraded, .yes, .finalized⟩

/-! ### The last mark -/

/-- The last mark is what the current state says. -/
theorem getLast?_marks (l : Ledger) : l.marks.getLast? = l.current?.map Condition.mark := by
  rw [Ledger.marks, List.getLast?_map]
  rfl

/-- Whether nothing has been recorded, seen through marks. -/
theorem isInitial_eq_marks (l : Ledger) : l.isInitial = l.marks.isEmpty := by
  rw [Ledger.marks, List.isEmpty_map]
  rfl

/-- Whether a state holds, seen through marks. -/
theorem isComplete_eq_marks (l : Ledger) (r : Reason) :
    l.isComplete r = l.marks.getLast?.any fun m => m.reason = r ∧ m.status = .yes := by
  rw [getLast?_marks, Option.any_map]
  rfl

/-- Whether a state does not hold yet, seen through marks. -/
theorem isIncomplete_eq_marks (l : Ledger) (r : Reason) :
    l.isIncomplete r = l.marks.getLast?.any fun m => m.reason = r ∧ m.status ≠ .yes := by
  rw [getLast?_marks, Option.any_map]
  rfl

/-- The current entry where a state is complete. -/
theorem current?_of_isComplete {l : Ledger} {r : Reason} (h : l.isComplete r = true) :
    ∃ c, l.current? = some c ∧ c.reason = r ∧ c.status = .yes := by
  unfold Ledger.isComplete at h
  cases hc : l.current? with
  | none =>
    rw [hc] at h
    cases h
  | some c =>
    rw [hc] at h
    exact ⟨c, rfl, by simpa using h⟩

/-- Where a state is complete, something has been recorded. -/
theorem isInitial_of_isComplete {l : Ledger} {r : Reason} (h : l.isComplete r = true) :
    l.isInitial = false := by
  obtain ⟨c, hc, -⟩ := current?_of_isComplete h
  unfold Ledger.isInitial
  rw [List.isEmpty_eq_false_iff]
  exact List.ne_nil_of_mem (List.mem_of_getLast? hc)

/-- Where a state is incomplete, something has been recorded. -/
theorem isInitial_of_isIncomplete {l : Ledger} {r : Reason} (h : l.isIncomplete r = true) :
    l.isInitial = false := by
  rw [isIncomplete_eq_marks] at h
  rw [isInitial_eq_marks, List.isEmpty_eq_false_iff]
  intro hnil
  rw [hnil] at h
  cases h

/-- Where a state is complete, none is incomplete. -/
theorem isIncomplete_of_isComplete {l : Ledger} {r : Reason} (h : l.isComplete r = true)
    (r' : Reason) : l.isIncomplete r' = false := by
  obtain ⟨c, hc, -, hstatus⟩ := current?_of_isComplete h
  unfold Ledger.isIncomplete
  rw [hc]
  simp [hstatus]

/-- Where a state is incomplete, none is complete. -/
theorem isComplete_of_isIncomplete {l : Ledger} {r : Reason} (h : l.isIncomplete r = true)
    (r' : Reason) : l.isComplete r' = false := by
  cases hc : l.isComplete r' with
  | false => rfl
  | true => exact absurd ((isIncomplete_of_isComplete hc r).symm.trans h) Bool.false_ne_true

/-- Where a state is complete, no other one is. -/
theorem isComplete_of_ne {l : Ledger} {r r' : Reason} (h : l.isComplete r = true) (hr : r ≠ r') :
    l.isComplete r' = false := by
  obtain ⟨c, hc, rfl, -⟩ := current?_of_isComplete h
  unfold Ledger.isComplete
  rw [hc]
  simp [hr]

/-- A life in which initialization is incomplete has got no further. -/
theorem life_of_isIncomplete_initialized : ∀ r d m c f : Bool,
    ((Mark.life r d m c f).getLast?.any fun x => x.reason = .initialized ∧ x.status ≠ .yes) = true →
      Mark.life r d m c f = Mark.life false false false false false := by
  decide

/-- A life in which initialization is the last that was completed. -/
theorem life_of_isComplete_initialized : ∀ r d m c f : Bool,
    ((Mark.life r d m c f).getLast?.any fun x => x.reason = .initialized ∧ x.status = .yes) = true →
      Mark.life r d m c f = Mark.life true false false false false := by
  decide

/-- A life in which deployment is the last that was completed. -/
theorem life_of_isComplete_deployed : ∀ r d m c f : Bool, (d = true → r = true) →
    ((Mark.life r d m c f).getLast?.any fun x => x.reason = .deployed ∧ x.status = .yes) = true →
      Mark.life r d m c f = Mark.life true true m false false := by
  decide

/-- A life that has not been finalized. -/
theorem life_of_not_isComplete_finalized : ∀ r d m c f : Bool,
    ((Mark.life r d m c f).getLast?.any fun x => x.reason = .finalized ∧ x.status = .yes) = false →
      f = false := by
  decide

/-- The states in which a life can stand. -/
theorem life_states : ∀ r d m c f : Bool,
    let last := (Mark.life r d m c f).getLast?
    (last.any fun x => x.reason = .initialized ∧ x.status ≠ .yes) = true ∨
      (last.any fun x => x.reason = .initialized ∧ x.status = .yes) = true ∨
      (last.any fun x => x.reason = .deployed ∧ x.status = .yes) = true ∨
      (last.any fun x => x.reason = .completed ∧ x.status = .yes) = true ∨
      (last.any fun x => x.reason = .finalized ∧ x.status = .yes) = true := by
  decide

/-- The states in which a ledger can be in which something has been recorded. -/
theorem Ledger.Lifelike.state {l : Ledger} (hl : l.Lifelike) (hb : l.isInitial = false) :
    l.isIncomplete .initialized = true ∨ l.isComplete .initialized = true ∨
      l.isComplete .deployed = true ∨ l.isComplete .completed = true ∨
      l.isComplete .finalized = true := by
  rw [isInitial_eq_marks] at hb
  rw [isIncomplete_eq_marks, isComplete_eq_marks, isComplete_eq_marks, isComplete_eq_marks,
    isComplete_eq_marks]
  rcases hl with h | ⟨r, d, m, c, f, -, h⟩
  · rw [h] at hb
    cases hb
  · rw [h]
    exact life_states r d m c f

/-! ### Recording what is due -/

/-- Recording that the workload of a deployed job is missing. -/
theorem record_missing_life : ∀ m : Bool,
    Mark.record ⟨.degraded, .yes, .deployed⟩ (Mark.life true true m false false) =
      Mark.life true true true false false := by
  decide

/-- Recording that a deployed job is complete. -/
theorem record_completed_life : ∀ m : Bool,
    Mark.record ⟨.available, .yes, .completed⟩ (Mark.life true true m false false) =
      Mark.life true true m true false := by
  decide

/-- Recording that the finalizer of a job is released. -/
theorem record_finalized_life : ∀ r d m c : Bool,
    Mark.record ⟨.degraded, .yes, .finalized⟩ (Mark.life r d m c false) =
      Mark.life r d m c true := by
  decide

/-- The last mark of a life that has been completed. -/
theorem getLast?_life_completed : ∀ m : Bool,
    (Mark.life true true m true false).getLast? = some ⟨.available, .yes, .completed⟩ := by
  decide

/-- The last mark of a life that has been finalized. -/
theorem getLast?_life_finalized : ∀ r d m c : Bool,
    (Mark.life r d m c true).getLast? = some ⟨.degraded, .yes, .finalized⟩ := by
  decide

/-- A mark that is due leaves the marks of a life, of which it is the last. -/
theorem life_record {l : Ledger} (hl : l.Lifelike) {x : Mark} (hx : l.Due x) :
    (∃ r d m c f, (d = true → r = true) ∧ x.record l.marks = Mark.life r d m c f) ∧
      (x.record l.marks).getLast? = some x := by
  -- what makes a mark due leaves one life, or the lives that differ in one flag
  cases hx with
  | starting h =>
    rw [isInitial_eq_marks, List.isEmpty_iff] at h
    rw [h]
    exact ⟨⟨false, false, false, false, false, by decide, rfl⟩, rfl⟩
  | initialized h =>
    rw [isIncomplete_eq_marks] at h
    rcases hl with hl | ⟨r, d, m, c, f, -, hl⟩
    · simp [hl] at h
    · rw [hl, life_of_isIncomplete_initialized r d m c f (hl ▸ h)]
      exact ⟨⟨true, false, false, false, false, by decide, by decide⟩, by decide⟩
  | deployed h =>
    rw [isComplete_eq_marks] at h
    rcases hl with hl | ⟨r, d, m, c, f, -, hl⟩
    · simp [hl] at h
    · rw [hl, life_of_isComplete_initialized r d m c f (hl ▸ h)]
      exact ⟨⟨true, true, false, false, false, by decide, by decide⟩, by decide⟩
  | missing h =>
    rw [isComplete_eq_marks] at h
    rcases hl with hl | ⟨r, d, m, c, f, hdr, hl⟩
    · simp [hl] at h
    · rw [hl, life_of_isComplete_deployed r d m c f hdr (hl ▸ h), record_missing_life]
      exact ⟨⟨true, true, true, false, false, by decide, rfl⟩, by decide⟩
  | completed h =>
    rw [isComplete_eq_marks] at h
    rcases hl with hl | ⟨r, d, m, c, f, hdr, hl⟩
    · simp [hl] at h
    · rw [hl, life_of_isComplete_deployed r d m c f hdr (hl ▸ h), record_completed_life]
      exact ⟨⟨true, true, m, true, false, by decide, rfl⟩, getLast?_life_completed m⟩
  | finalized h h' =>
    rw [isInitial_eq_marks] at h
    rw [isComplete_eq_marks] at h'
    rcases hl with hl | ⟨r, d, m, c, f, hdr, hl⟩
    · simp [hl] at h
    · obtain rfl := life_of_not_isComplete_finalized r d m c f (hl ▸ h')
      rw [hl, record_finalized_life]
      exact ⟨⟨r, d, m, c, true, hdr, rfl⟩, getLast?_life_finalized r d m c⟩

/-- Recording a condition that is due leaves a lifelike ledger, whose current state it is. -/
theorem Ledger.Lifelike.set? {l l' : Ledger} {c : Condition} {now : String} (hl : l.Lifelike)
    (hc : l.Due c.mark) (h : l.set? c now = some l') :
    l'.Lifelike ∧ l'.marks.getLast? = some c.mark := by
  obtain ⟨hlife, hlast⟩ := life_record hl hc
  rw [← marks_set? h] at hlife hlast
  exact ⟨Or.inr hlife, hlast⟩

/-- In a ledger that says that the job was finalized before anything else nothing is due. -/
theorem not_due_of_finalized {l : Ledger} (hl : l.marks = [⟨.degraded, .yes, .finalized⟩])
    {m : Mark} : ¬ l.Due m := by
  intro hdue
  cases hdue with
  | starting h => simp [isInitial_eq_marks, hl] at h
  | initialized h => simp [isIncomplete_eq_marks, hl] at h
  | deployed h => simp [isComplete_eq_marks, hl] at h
  | missing h => simp [isComplete_eq_marks, hl] at h
  | completed h => simp [isComplete_eq_marks, hl] at h
  | finalized h h' => simp [isComplete_eq_marks, hl] at h'

/-- Recording what is due, or that a job without a history is finalized, leaves a ledger of this kind,
whose current state it is. -/
theorem Ledger.Grown.set? {l l' : Ledger} {c : Condition} {now : String} (hl : l.Grown)
    (hc : l.Due c.mark ∨ l.isInitial = true ∧ c.mark = ⟨.degraded, .yes, .finalized⟩)
    (h : l.set? c now = some l') : l'.Grown ∧ l'.marks.getLast? = some c.mark := by
  rcases hc with hc | ⟨hempty, hc⟩
  · rcases hl with hl | hl
    · exact (hl.set? hc h).imp_left Or.inl
    · exact absurd hc (not_due_of_finalized hl)
  · rw [isInitial_eq_marks, List.isEmpty_iff] at hempty
    have hmarks : l'.marks = [⟨.degraded, .yes, .finalized⟩] := by
      rw [marks_set? h, hempty, hc]
      rfl
    exact ⟨Or.inr hmarks, by rw [hmarks, hc]; rfl⟩

/-- Where initialization is the last that was completed, nothing else has been recorded. -/
theorem Ledger.Grown.marks_of_initialized {l : Ledger} (hl : l.Grown)
    (h : l.isComplete .initialized = true) : l.marks = [⟨.available, .yes, .initialized⟩] := by
  rw [isComplete_eq_marks] at h
  rcases hl with (hl | ⟨r, d, m, c, f, -, hl⟩) | hl
  · simp [hl] at h
  · rw [hl, life_of_isComplete_initialized r d m c f (hl ▸ h)]
    rfl
  · simp [hl] at h

/-- A state that is complete is that of the last mark. -/
theorem of_isComplete_of_last {l : Ledger} {c : Condition} (hlast : l.marks.getLast? = some c.mark)
    {r : Reason} (hr : l.isComplete r = true) : c.reason = r ∧ c.status = .yes := by
  rw [isComplete_eq_marks, hlast] at hr
  simpa [Condition.mark] using hr

/-- After a condition that is due is recorded, the state that is complete is its own. -/
theorem Ledger.Lifelike.isComplete_set? {l l' : Ledger} {c : Condition} {now : String}
    (hl : l.Lifelike) (hc : l.Due c.mark) (h : l.set? c now = some l') {r : Reason}
    (hr : l'.isComplete r = true) : c.reason = r ∧ c.status = .yes :=
  of_isComplete_of_last (hl.set? hc h).2 hr

/-- The reasons of a ledger are those of its marks. -/
theorem reasons_eq_kinds (l : Ledger) : l.reasons = l.kinds.map Prod.snd := by
  unfold Ledger.reasons Ledger.kinds Ledger.marks
  rw [List.map_map, List.map_map]
  rfl

/-- Recording a condition adds no reason but its own. -/
theorem mem_reasons_set? {l l' : Ledger} {c : Condition} {now : String} (h : l.set? c now = some l')
    {r : Reason} (hr : r ∈ l'.reasons) : r ∈ l.reasons ∨ r = c.reason := by
  rw [reasons_eq_kinds] at hr ⊢
  rcases kinds_set? h with heq | heq
  · rw [heq] at hr
    exact Or.inl hr
  · rw [heq, List.map_append, List.mem_append] at hr
    exact hr.imp id fun h => List.mem_singleton.mp h

/-- Where nothing has been recorded there is no reason. -/
theorem isInitial_of_mem_reasons {l : Ledger} {r : Reason} (h : r ∈ l.reasons) :
    l.isInitial = false := by
  unfold Ledger.isInitial
  rw [List.isEmpty_eq_false_iff]
  intro hempty
  rw [Ledger.reasons, hempty] at h
  cases h

/-- Recording a condition takes no reason away. -/
theorem mem_reasons_of_set? {l l' : Ledger} {c : Condition} {now : String}
    (h : l.set? c now = some l') {r : Reason} (hr : r ∈ l.reasons) : r ∈ l'.reasons := by
  rw [reasons_eq_kinds] at hr ⊢
  rcases kinds_set? h with heq | heq
  · rw [heq]
    exact hr
  · rw [heq, List.map_append]
    exact List.mem_append_left _ hr

/-- What recording a condition does to the entries: a new one, or another one in place of an old one
of the same reason, which says what was recorded. -/
theorem entries_set? {l l' : Ledger} {c : Condition} {now : String} (h : l.set? c now = some l') :
    l'.entries = l.entries ++ [{ c with lastTransition := some now }] ∨
      ∃ i old x, l.entries[i]? = some old ∧ old.reason = c.reason ∧ x ≠ old ∧ x.mark = c.mark ∧
        l'.entries = l.entries.set i x := by
  cases hlatest : l.latest? c.type with
  | none =>
    unfold Ledger.set? at h
    rw [hlatest] at h
    obtain rfl := Option.some.inj h
    exact Or.inl rfl
  | some old =>
    rw [set?_of_latest? now hlatest] at h
    split at h
    · obtain rfl := Option.some.inj h
      exact Or.inl rfl
    · rename_i hreason
      have hreason := Decidable.not_not.mp hreason
      split at h
      · cases h
      · rename_i hnew
        obtain rfl := Option.some.inj h
        obtain ⟨i, hi, hset⟩ := exists_replaceLast_eq_set hlatest
        refine Or.inr ⟨i, old, _, hi, hreason, fun hsame => hnew ?_, ?_, hset _⟩
        · rw [← hsame]
          exact ⟨rfl, rfl⟩
        · simp [Condition.mark, Ledger.renewed, type_of_latest? hlatest, hreason]

/-- An entry that is there after a condition has been recorded, and was not before, says what was
recorded. -/
theorem mark_of_new_entry {l l' : Ledger} {c x : Condition} {now : String}
    (h : l.set? c now = some l') (hx : x ∈ l'.entries) (hnew : x ∉ l.entries) :
    x.mark = c.mark := by
  rcases entries_set? h with hpush | ⟨i, old, y, -, -, -, hmark, hset⟩
  · rw [hpush] at hx
    rcases List.mem_append.mp hx with hx | hx
    · exact absurd hx hnew
    · obtain rfl := List.mem_singleton.mp hx
      rfl
  · rw [hset] at hx
    rcases List.mem_or_eq_of_mem_set hx with hx | rfl
    · exact absurd hx hnew
    · exact hmark

/-- From the ledgers before and after, the reason of what was recorded can be told. -/
theorem reason_unique_of_set? {l l' : Ledger} {c c' : Condition} {now now' : String}
    (h : l.set? c now = some l') (h' : l.set? c' now' = some l') : c.reason = c'.reason := by
  rcases entries_set? h with hpush | ⟨i, old, x, hi, hreason, hx, -, hset⟩
  · rcases entries_set? h' with hpush' | ⟨i', old', x', -, -, -, -, hset'⟩
    · have hlast := List.append_cancel_left (hpush.symm.trans hpush')
      have hentry := congrArg Condition.reason (List.head_eq_of_cons_eq hlast)
      exact hentry
    · have hlength := congrArg List.length (hpush.symm.trans hset')
      simp at hlength
  · rcases entries_set? h' with hpush' | ⟨i', old', x', hi', hreason', -, -, hset'⟩
    · have hlength := congrArg List.length (hpush'.symm.trans hset)
      simp at hlength
    · -- both have changed the same place, where the same entry stood
      have hplace : i' = i := by
        refine Decidable.byContradiction fun hne => ?_
        have hkept : l'.entries[i]? = some old := by
          rw [hset', List.getElem?_set_ne hne]
          exact hi
        rw [hset, List.getElem?_set_self (List.getElem?_eq_some_iff.mp hi).1] at hkept
        exact hx (Option.some.inj hkept)
      subst hplace
      obtain rfl := Option.some.inj (hi.symm.trans hi')
      exact hreason.symm.trans hreason'

/-- The reason of the current state is among the reasons. -/
theorem mem_reasons_of_isComplete {l : Ledger} {r : Reason} (h : l.isComplete r = true) :
    r ∈ l.reasons := by
  obtain ⟨c, hc, hr, -⟩ := current?_of_isComplete h
  exact List.mem_map.mpr ⟨c, List.mem_of_getLast? hc, hr⟩

/-- What replaces the last item that satisfies `p` is the last one then. -/
theorem find?_replaceLast {p : α → Bool} {a x : α} {xs : List α}
    (h : xs.reverse.find? p = some a) (hx : p x = true) :
    (replaceLast p x xs).reverse.find? p = some x := by
  obtain ⟨ha, front, back, rfl, hback⟩ := split_of_find?_reverse h
  rw [replaceLast_append_cons front ha hback]
  simp only [List.reverse_append, List.reverse_cons, List.append_assoc]
  rw [List.find?_append, List.find?_eq_none.mpr]
  · simp [hx]
  · intro y hy
    exact List.any_eq_false.mp hback y (List.mem_reverse.mp hy)

/-- The last mark of its type is the one that was recorded. -/
theorem find?_record (m : Mark) (marks : List Mark) :
    ((m.record marks).reverse.find? fun x => x.type = m.type) = some m := by
  have hpush : ((marks ++ [m]).reverse.find? fun x => x.type = m.type) = some m := by
    simp
  unfold Mark.record
  split
  · rename_i old hfind
    split
    · -- the last mark of the type gives way
      exact find?_replaceLast hfind (by simp)
    · exact hpush
  · exact hpush

/-- Recording a mark again changes nothing. -/
theorem Mark.record_record (m : Mark) (marks : List Mark) :
    m.record (m.record marks) = m.record marks := by
  have hfind := find?_record m marks
  generalize m.record marks = recorded at hfind
  unfold Mark.record
  rw [hfind]
  simp only [if_true]
  exact replaceLast_self hfind

/-- Recording leaves at least one mark. -/
theorem Mark.record_ne_nil (m : Mark) (marks : List Mark) : m.record marks ≠ [] := by
  unfold Mark.record
  split
  · rename_i old hfind
    split
    · intro h
      have hlength := congrArg List.length h
      rw [length_replaceLast] at hlength
      rw [List.length_eq_zero_iff.mp hlength] at hfind
      cases hfind
    · simp
  · simp

/-- A ledger in which something has been recorded is not empty. -/
theorem isInitial_set? {l l' : Ledger} {c : Condition} {now : String} (h : l.set? c now = some l') :
    l'.isInitial = false := by
  rw [isInitial_eq_marks, marks_set? h, List.isEmpty_eq_false_iff]
  exact Mark.record_ne_nil _ _

/-- Recording a condition again changes nothing, whenever that is. -/
theorem set?_again {l l' : Ledger} {c : Condition} {now : String} (h : l.set? c now = some l')
    (now' : String) : l'.set? c now' = none := by
  have hagain : ∀ x : Condition, l'.latest? c.type = some x → x.reason = c.reason →
      x.status = c.status → x.message = c.message → l'.set? c now' = none := by
    intro x hx hreason hstatus hmessage
    rw [set?_of_latest? now' hx, if_neg (not_not_intro hreason), if_pos ⟨hstatus, hmessage⟩]
  have hpush : l' = l.push c now → l'.set? c now' = none := by
    rintro rfl
    refine hagain { c with lastTransition := some now } ?_ rfl rfl rfl
    simp [Ledger.latest?, Ledger.push]
  cases hlatest : l.latest? c.type with
  | none =>
    unfold Ledger.set? at h
    rw [hlatest] at h
    exact hpush (Option.some.inj h).symm
  | some old =>
    rw [set?_of_latest? now hlatest] at h
    split at h
    · exact hpush (Option.some.inj h).symm
    · rename_i hreason
      split at h
      · cases h
      · obtain rfl := Option.some.inj h
        -- the entry that is renewed keeps its type and its reason
        have htype : old.type = c.type := type_of_latest? hlatest
        have hrenewed : (Ledger.renewed old c now).type = c.type := htype
        exact hagain _ (find?_replaceLast hlatest (by simp [hrenewed]))
          (Decidable.not_not.mp hreason) rfl rfl

/-- Whether a condition changes anything does not depend on the time. -/
theorem set?_none_anytime {l : Ledger} {c : Condition} {now : String} (h : l.set? c now = none)
    (now' : String) : l.set? c now' = none := by
  cases hlatest : l.latest? c.type with
  | none =>
    unfold Ledger.set? at h
    rw [hlatest] at h
    cases h
  | some old =>
    rw [set?_of_latest? now hlatest] at h
    rw [set?_of_latest? now' hlatest]
    split at h
    · cases h
    · rename_i hreason
      split at h
      · rename_i hsame
        rw [if_neg hreason, if_pos hsame]
      · cases h

end GoopOperator
