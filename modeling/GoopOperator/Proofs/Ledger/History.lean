import GoopOperator.Proofs.Ledger.Recording
import Mathlib.Data.List.SplitBy

/-!
# The history in a ledger

A ledger that was empty at first is the history of what has been recorded in it, in short form. The
recordings of each type fall into runs of the same reason; the ledger has one entry for each run, in the
order in which the runs began, and the entry says how its run ended and when it turned to that
(`ledger_is_history`).

The proof takes one recording after the other. The runs of its type grow by it as the ledger does: a new
run begins where a new entry is started, and the last run becomes longer where the last entry of the type
is renewed (`Tells.after`).
-/

namespace GoopOperator

/-! ## Runs -/

section splitBy

variable {r : α → α → Bool} {xs : List α} {x y : α}

/-- An item that is not related to the one before it is in a group of its own. -/
theorem splitBy_concat_of_not (h : ∀ y ∈ xs.getLast?, r y x = false) :
    (xs ++ [x]).splitBy r = xs.splitBy r ++ [[x]] := by
  rw [List.splitBy_append_cons [] h, List.splitBy_of_isChain (List.cons_ne_nil x []) (.singleton x)]

/-- An item that is related to the one before it is in the group of that. -/
theorem splitBy_concat {groups : List (List α)} {group : List α}
    (hxs : xs.splitBy r = groups ++ [group]) (hy : group.getLast? = some y) (h : r y x = true) :
    (xs ++ [x]).splitBy r = groups ++ [group ++ [x]] := by
  obtain ⟨hflatten, hnil, hchain, hjoints⟩ := List.splitBy_eq_iff.mp hxs
  rw [List.splitBy_eq_iff]
  refine ⟨by simp [hflatten], ?_, fun m hm => ?_, ?_⟩
  · simp only [List.mem_append, List.mem_singleton, not_or] at hnil ⊢
    exact ⟨hnil.1, by simp⟩
  · rcases List.mem_append.mp hm with hm | hm
    · exact hchain m (List.mem_append_left _ hm)
    · obtain rfl := List.mem_singleton.mp hm
      refine List.isChain_append.mpr ⟨hchain group (by simp), .singleton x, fun z hz w hw => ?_⟩
      obtain rfl := Option.some.inj (hy.symm.trans hz)
      obtain rfl := Option.some.inj hw
      exact h
  · -- the group begins as before, so the joint in front of it stays
    obtain ⟨hgroups, -, hjoint⟩ := List.isChain_append.mp hjoints
    refine List.isChain_append.mpr ⟨hgroups, .singleton _, fun z hz w hw => ?_⟩
    obtain rfl := Option.some.inj hw
    obtain ⟨hz', hgroup, hrel⟩ := hjoint z hz group rfl
    exact ⟨hz', by simp, by rwa [List.head_append_of_ne_nil hgroup]⟩

end splitBy

/-- A condition that is recorded, and when. -/
structure Recording where
  /-- The condition. -/
  condition : Condition
  /-- The time. -/
  now : String
  deriving DecidableEq

/-- Some recordings with their positions among all. -/
abbrev Run := List (Recording × Nat)

/-- The recordings of a type, with their positions. -/
def recordingsOf (t : ConditionType) (calls : List Recording) : Run :=
  calls.zipIdx.filter fun x => x.1.condition.type = t

/-- The maximal runs of the same reason among the recordings of a type. -/
def runsOf (t : ConditionType) (calls : List Recording) : List Run :=
  (recordingsOf t calls).splitBy fun x y => x.1.condition.reason = y.1.condition.reason

namespace Run

/-- The last recording of a run whose status is not that of the one before it in the run; the first of
all, if there is none. -/
def turn? (run : Run) : Option (Recording × Nat) :=
  ((run.zip run.tail).filter fun p => p.1.1.condition.status ≠ p.2.1.condition.status).getLast?.map
    (·.2) <|> run.head?

/-- The entry of a run: its type and its reason, what the last recording of it says besides, and the
time at which it turned to that. -/
def entry? (run : Run) : Option Condition := do
  let first ← run.head?
  let last ← run.getLast?
  let turn ← run.turn?
  return {
    type := first.1.condition.type
    reason := first.1.condition.reason
    status := last.1.condition.status
    message := last.1.condition.message
    lastTransition := some turn.1.now }

/-- Of two runs the first one begins before the second. -/
def Precedes (a b : Run) : Prop := ∀ x ∈ a.head?, ∀ y ∈ b.head?, x.2 < y.2

/-- Whether a run is one of recordings of a type. -/
def isOf (t : ConditionType) (run : Run) : Bool := run.head?.any fun x => x.1.condition.type = t

end Run

/-- The ledger after some recordings in an empty one, one after the other. -/
def Ledger.replay (calls : List Recording) : Ledger :=
  calls.foldl (fun l x => l.after x.condition x.now) ∅

/-! ## One more recording -/

section concat

variable {calls : List Recording} {x : Recording} {t : ConditionType}

/-- One more recording is made last. -/
theorem replay_concat (calls : List Recording) (x : Recording) :
    Ledger.replay (calls ++ [x]) = (Ledger.replay calls).after x.condition x.now := by
  simp [Ledger.replay]

/-- One more recording of a type comes after the others. -/
theorem recordingsOf_concat (h : x.condition.type = t) :
    recordingsOf t (calls ++ [x]) = recordingsOf t calls ++ [(x, calls.length)] := by
  simp [recordingsOf, List.zipIdx_append, h]

/-- One more recording of another type makes no difference to the recordings of a type. -/
theorem recordingsOf_concat_of_ne (h : x.condition.type ≠ t) :
    recordingsOf t (calls ++ [x]) = recordingsOf t calls := by
  simp [recordingsOf, List.zipIdx_append, h]

/-- The last recording of a type is the last of the type's last run. -/
theorem getLast?_recordingsOf {front : List Run} {run : Run} {y : Recording × Nat}
    (hruns : runsOf t calls = front ++ [run]) (hy : run.getLast? = some y) :
    (recordingsOf t calls).getLast? = some y := by
  have hflatten : (runsOf t calls).flatten = recordingsOf t calls := List.flatten_splitBy _ _
  rw [← hflatten, hruns, List.flatten_append, List.getLast?_append]
  simp [hy]

/-- One more recording of another type makes no difference to the runs of a type. -/
theorem runsOf_concat_of_ne (h : x.condition.type ≠ t) :
    runsOf t (calls ++ [x]) = runsOf t calls := by
  rw [runsOf, recordingsOf_concat_of_ne h, runsOf]

/-- One more recording of another reason than the last of its type begins a run. -/
theorem runsOf_concat_new (hlast : ∀ y ∈ (recordingsOf x.condition.type calls).getLast?,
      y.1.condition.reason ≠ x.condition.reason) :
    runsOf x.condition.type (calls ++ [x]) =
      runsOf x.condition.type calls ++ [[(x, calls.length)]] := by
  rw [runsOf, recordingsOf_concat rfl, splitBy_concat_of_not fun y hy => by simpa using hlast y hy,
    runsOf]

/-- One more recording of the reason of the last of its type makes the last run longer. -/
theorem runsOf_concat_same {front : List Run} {run : Run} {y : Recording × Nat}
    (hruns : runsOf x.condition.type calls = front ++ [run]) (hy : run.getLast? = some y)
    (hreason : y.1.condition.reason = x.condition.reason) :
    runsOf x.condition.type (calls ++ [x]) = front ++ [run ++ [(x, calls.length)]] := by
  rw [runsOf, recordingsOf_concat rfl]
  exact splitBy_concat hruns hy (by simpa using hreason)

/-- The latest entry of a type says what was recorded of the type last, and there is one if there was
such a recording. -/
theorem latest?_replay (t : ConditionType) (calls : List Recording) :
    match (recordingsOf t calls).getLast? with
    | none => (Ledger.replay calls).latest? t = none
    | some y => ∃ old, (Ledger.replay calls).latest? t = some old ∧ old.SaysAs y.1.condition := by
  induction calls using List.reverseRecOn with
  | nil => rfl
  | append_singleton calls x ih =>
    have hbecomes := Ledger.becomes_after (Ledger.replay calls) x.condition x.now
    rw [replay_concat]
    by_cases ht : x.condition.type = t
    · subst ht
      rw [recordingsOf_concat rfl, List.getLast?_concat]
      exact hbecomes.latest?_said
    · rw [recordingsOf_concat_of_ne ht, hbecomes.latest?_of_ne (Ne.symm ht)]
      exact ih

/-- What was recorded of a type last, seen from its latest entry. -/
theorem exists_recording_of_latest? {old : Condition}
    (h : (Ledger.replay calls).latest? t = some old) :
    ∃ y, (recordingsOf t calls).getLast? = some y ∧ old.SaysAs y.1.condition := by
  have hlatest := latest?_replay t calls
  cases hy : (recordingsOf t calls).getLast? with
  | none =>
    rw [hy] at hlatest
    exact nomatch h.symm.trans hlatest
  | some y =>
    rw [hy] at hlatest
    obtain ⟨old', hold', hsaid⟩ := hlatest
    obtain rfl := Option.some.inj (h.symm.trans hold')
    exact ⟨y, rfl, hsaid⟩

end concat

/-! ## The entry of a run -/

section entry

variable {run : Run} {x y : Recording × Nat} {old : Condition}

/-- A run with an entry has a first and a last recording; the entry tells the type and the reason of the
first and the status of the last, and has a time. -/
theorem Run.of_entry? (h : run.entry? = some old) :
    ∃ first last, run.head? = some first ∧ run.getLast? = some last ∧
      old.type = first.1.condition.type ∧ old.reason = first.1.condition.reason ∧
      old.status = last.1.condition.status ∧ old.lastTransition ≠ none := by
  unfold Run.entry? at h
  simp only [Option.bind_eq_bind, Option.bind_eq_some_iff, Option.pure_def] at h
  obtain ⟨first, hfirst, last, hlast, turn, hturn, hold⟩ := h
  obtain rfl := Option.some.inj hold
  exact ⟨first, last, hfirst, hlast, rfl, rfl, rfl, nofun⟩

/-- The pairs of neighbours in a run that has become longer. -/
theorem zip_tail_concat (hy : run.getLast? = some y) (x : Recording × Nat) :
    (run ++ [x]).zip (run ++ [x]).tail = run.zip run.tail ++ [(y, x)] := by
  induction run with
  | nil => cases hy
  | cons a rest ih =>
    cases rest with
    | nil =>
      obtain rfl := Option.some.inj hy
      rfl
    | cons b rest =>
      rw [List.getLast?_cons_cons] at hy
      have hrest := ih hy
      simp only [List.cons_append, List.tail_cons, List.zip_cons_cons] at hrest ⊢
      rw [hrest]

/-- A run that has become longer turns where its last two recordings differ in their status, or where it
did before. -/
theorem Run.turn?_concat (hy : run.getLast? = some y) (x : Recording × Nat) :
    Run.turn? (run ++ [x]) =
      if y.1.condition.status ≠ x.1.condition.status then some x else run.turn? := by
  have hhead : (run ++ [x]).head? = run.head? := by
    cases run with
    | nil => cases hy
    | cons a rest => rfl
  unfold Run.turn?
  rw [zip_tail_concat hy x, List.filter_append, hhead]
  split
  · rename_i hne
    simp [hne]
  · rename_i hsame
    simp [Decidable.not_not.mp hsame]

/-- The entry of a run that has become longer by one more recording of its type and reason is the entry
that it had, renewed. -/
theorem Run.entry?_concat (h : run.entry? = some old) (htype : old.type = x.1.condition.type)
    (hreason : old.reason = x.1.condition.reason) :
    Run.entry? (run ++ [x]) = some (Ledger.entryAfter old x.1.condition x.1.now) := by
  unfold Run.entry? at h
  simp only [Option.bind_eq_bind, Option.bind_eq_some_iff, Option.pure_def] at h
  obtain ⟨first, hfirst, last, hlast, turn, hturn, hold⟩ := h
  obtain rfl := Option.some.inj hold
  have hhead : (run ++ [x]).head? = some first := by
    rw [List.head?_append, hfirst, Option.some_or]
  unfold Run.entry?
  rw [hhead, List.getLast?_concat, Run.turn?_concat hlast, hturn]
  by_cases hstatus : last.1.condition.status = x.1.condition.status
  · by_cases hmessage : last.1.condition.message = x.1.condition.message
    · simp [Ledger.entryAfter, hstatus, hmessage]
    · simp [Ledger.entryAfter, Ledger.renewed, hstatus, hmessage]
  · simp [Ledger.entryAfter, Ledger.renewed, hstatus]

end entry

/-! ## The runs that a ledger tells -/

/-- A ledger tells the runs of some recordings: all the maximal ones, in the order in which they began,
each by its entry. -/
structure Tells (l : Ledger) (calls : List Recording) (runs : List Run) : Prop where
  /-- They are the maximal runs of each type. -/
  ofType : ∀ t, runs.filter (Run.isOf t) = runsOf t calls
  /-- They are in order. -/
  ordered : runs.Pairwise Run.Precedes
  /-- They began among the recordings. -/
  bounded : ∀ run ∈ runs, ∀ x ∈ run.head?, x.2 < calls.length
  /-- The ledger has an entry for each. -/
  entries : l.entries.map some = runs.map Run.entry?

section tells

variable {l : Ledger} {calls : List Recording} {runs : List Run} {x : Recording} {t : ConditionType}

/-- Whether runs begin in order depends on their first recordings alone. -/
theorem precedes_iff : runs.Pairwise Run.Precedes ↔
    (runs.map List.head?).Pairwise fun a b => ∀ x ∈ a, ∀ y ∈ b, x.2 < y.2 := by
  rw [List.pairwise_map]
  rfl

/-- Each run has an entry. -/
theorem Tells.exists_entry (h : Tells l calls runs) {run : Run} (hrun : run ∈ runs) :
    ∃ old, run.entry? = some old := by
  have hmem : run.entry? ∈ l.entries.map some := h.entries ▸ List.mem_map_of_mem hrun
  obtain ⟨old, -, hold⟩ := List.mem_map.mp hmem
  exact ⟨old, hold.symm⟩

/-- The entries of a type are those of the runs of the type. -/
theorem map_some_filter {entries : List Condition} (h : entries.map some = runs.map Run.entry?)
    (t : ConditionType) : (entries.filter fun y => y.type = t).map some =
      (runs.filter (Run.isOf t)).map Run.entry? := by
  induction runs generalizing entries with
  | nil =>
    obtain rfl : entries = [] := by simpa using h
    rfl
  | cons run runs ih =>
    cases entries with
    | nil => cases h
    | cons old entries =>
      rw [List.map_cons, List.map_cons] at h
      obtain ⟨hold, h⟩ := List.cons.inj h
      -- the entry has the type of its run
      obtain ⟨first, -, hfirst, -, htype, -⟩ := Run.of_entry? hold.symm
      have hrest := ih h
      by_cases ht : first.1.condition.type = t
      · simp [Run.isOf, hfirst, htype, ht, hold, hrest]
      · simp [Run.isOf, hfirst, htype, ht, hrest]

/-- The latest entry of a type is that of the last run of the type. -/
theorem Tells.latest? (h : Tells l calls runs) (t : ConditionType) :
    l.latest? t = (runsOf t calls).getLast?.bind Run.entry? := by
  have hlast := congrArg List.getLast? (map_some_filter h.entries t)
  rw [List.getLast?_map, List.getLast?_map] at hlast
  rw [← h.ofType t, Ledger.latest?_eq_getLast?]
  cases hfilter : (runs.filter (Run.isOf t)).getLast? with
  | none =>
    rw [hfilter] at hlast
    simpa using hlast
  | some run =>
    rw [hfilter] at hlast
    obtain ⟨old, hold, hentry⟩ := Option.map_eq_some_iff.mp hlast
    rw [hold, Option.bind_some, hentry]

/-- A run that has not begun yet is the last one in order. -/
theorem Tells.ordered_concat (h : Tells l calls runs) (x : Recording) :
    (runs ++ [[(x, calls.length)]]).Pairwise Run.Precedes := by
  refine List.pairwise_append.mpr ⟨h.ordered, List.pairwise_singleton _ _, fun run hrun new hnew => ?_⟩
  obtain rfl := List.mem_singleton.mp hnew
  intro y hy z hz
  obtain rfl := Option.some.inj hz
  exact h.bounded run hrun y hy

/-- A new entry tells a run that begins with what is recorded. -/
theorem Tells.started (h : Tells l calls runs)
    (hlast : ∀ y ∈ (recordingsOf x.condition.type calls).getLast?,
      y.1.condition.reason ≠ x.condition.reason) :
    Tells (l.push x.condition x.now) (calls ++ [x]) (runs ++ [[(x, calls.length)]]) := by
  refine ⟨fun t => ?_, h.ordered_concat x, fun run hrun y hy => ?_, ?_⟩
  · rw [List.filter_append, h.ofType t]
    by_cases ht : x.condition.type = t
    · subst ht
      rw [runsOf_concat_new hlast]
      simp [Run.isOf]
    · rw [runsOf_concat_of_ne ht]
      simp [Run.isOf, ht]
  · rw [List.length_append]
    rcases List.mem_append.mp hrun with hrun | hrun
    · exact Nat.lt_succ_of_lt (h.bounded run hrun y hy)
    · obtain rfl := List.mem_singleton.mp hrun
      obtain rfl := Option.some.inj hy
      exact Nat.lt_succ_self _
  · rw [Ledger.push, List.map_append, List.map_append, h.entries]
    rfl

/-- The entries before and behind one of them are those of the runs before and behind its run. -/
theorem Tells.split {front back : List Condition} {old : Condition} (h : Tells l calls runs)
    (hl : l.entries = front ++ old :: back) :
    ∃ before run behind, runs = before ++ run :: behind ∧ before.map Run.entry? = front.map some ∧
      run.entry? = some old ∧ behind.map Run.entry? = back.map some := by
  have hentries := h.entries
  rw [hl, List.map_append, List.map_cons] at hentries
  obtain ⟨before, rest, hruns, hbefore, hrest⟩ := List.map_eq_append_iff.mp hentries.symm
  obtain ⟨run, behind, rfl, hrun, hbehind⟩ := List.map_eq_cons_iff.mp hrest
  exact ⟨before, run, behind, hruns, hbefore, hrun, hbehind⟩

/-- Where no entry has a type, none of their runs has. -/
theorem filter_isOf_eq_nil {back : List Condition} (hentries : runs.map Run.entry? = back.map some)
    (hback : ∀ y ∈ back, y.type ≠ t) : runs.filter (Run.isOf t) = [] := by
  have hnone : back.filter (fun y => y.type = t) = [] :=
    List.filter_eq_nil_iff.mpr fun y hy => by simpa using hback y hy
  have hsame := map_some_filter hentries.symm t
  rw [hnone] at hsame
  exact List.map_eq_nil_iff.mp hsame.symm

/-- A renewed entry tells its run with what is recorded at the end. -/
theorem Tells.renewed {front back : List Condition} {old : Condition} (h : Tells l calls runs)
    (hl : l.entries = front ++ old :: back) (htype : old.type = x.condition.type)
    (hreason : old.reason = x.condition.reason) (hback : ∀ y ∈ back, y.type ≠ x.condition.type)
    (hlast : ∀ y ∈ (recordingsOf x.condition.type calls).getLast?,
      y.1.condition.reason = x.condition.reason) :
    ∃ runs', Tells ⟨front ++ Ledger.entryAfter old x.condition x.now :: back⟩ (calls ++ [x]) runs' := by
  obtain ⟨before, run, behind, rfl, hbefore, hrun, hbehind⟩ := h.split hl
  obtain ⟨first, last, hfirst, hend, hold, -⟩ := Run.of_entry? hrun
  -- the longer run begins as before, so its type and its place among the others stay
  have hhead : (run ++ [(x, calls.length)]).head? = run.head? := by
    rw [List.head?_append, hfirst, Option.some_or]
  have hof (t : ConditionType) : Run.isOf t (run ++ [(x, calls.length)]) = Run.isOf t run := by
    rw [Run.isOf, Run.isOf, hhead]
  have hrunOf (t : ConditionType) : Run.isOf t run = decide (x.condition.type = t) := by
    rw [Run.isOf, hfirst, Option.any_some, ← hold, htype]
  refine ⟨before ++ (run ++ [(x, calls.length)]) :: behind, fun t => ?_, ?_, fun other hmem y hy => ?_,
    ?_⟩
  · have hbefore := h.ofType t
    rw [List.filter_append, List.filter_cons, hrunOf] at hbefore
    rw [List.filter_append, List.filter_cons, hof, hrunOf]
    by_cases ht : x.condition.type = t
    · subst ht
      simp only [decide_true, if_true, filter_isOf_eq_nil hbehind hback] at hbefore ⊢
      have hy := getLast?_recordingsOf hbefore.symm hend
      exact (runsOf_concat_same hbefore.symm hend (hlast last hy)).symm
    · simp only [decide_eq_false ht, Bool.false_eq_true, if_false] at hbefore ⊢
      rwa [runsOf_concat_of_ne ht]
  · have hordered := precedes_iff.mp h.ordered
    rw [precedes_iff]
    rw [List.map_append, List.map_cons] at hordered ⊢
    rwa [hhead]
  · rw [List.length_append]
    refine Nat.lt_succ_of_lt ?_
    rcases List.mem_append.mp hmem with hmem | hmem
    · exact h.bounded other (List.mem_append_left _ hmem) y hy
    · rcases List.mem_cons.mp hmem with rfl | hmem
      · exact h.bounded run (by simp) y (hhead ▸ hy)
      · exact h.bounded other (by simp [hmem]) y hy
  · have hentry := Run.entry?_concat (x := (x, calls.length)) hrun htype hreason
    rw [List.map_append, List.map_cons, List.map_append, List.map_cons, hbefore, hbehind, hentry]

/-- One more recording is told as well. -/
theorem Tells.after (h : Tells (Ledger.replay calls) calls runs) (x : Recording) :
    ∃ runs', Tells (Ledger.replay (calls ++ [x])) (calls ++ [x]) runs' := by
  have hbecomes := Ledger.becomes_after (Ledger.replay calls) x.condition x.now
  rw [replay_concat]
  generalize (Ledger.replay calls).after x.condition x.now = l' at hbecomes
  have hlatest := latest?_replay x.condition.type calls
  cases hbecomes with
  | started hnew =>
    refine ⟨_, h.started fun y hy => ?_⟩
    rw [hy] at hlatest
    obtain ⟨old, hold, hsaid⟩ := hlatest
    exact fun heq => hnew old hold (hsaid.reason.trans heq)
  | @renewed front back old hl htype hreason hback =>
    refine h.renewed hl htype hreason hback fun y hy => ?_
    rw [hy] at hlatest
    obtain ⟨old', hold', hsaid⟩ := hlatest
    have hold : (Ledger.replay calls).latest? x.condition.type = some old := by
      have hsplit : Ledger.latest? ⟨front ++ old :: back⟩ x.condition.type = some old :=
        Ledger.latest?_split htype hback
      rwa [← hl] at hsplit
    obtain rfl := Option.some.inj (hold.symm.trans hold')
    exact hsaid.reason.symm.trans hreason

/-- A ledger that was empty at first tells the runs of all that has been recorded in it. -/
theorem exists_tells (calls : List Recording) : ∃ runs, Tells (Ledger.replay calls) calls runs := by
  induction calls using List.reverseRecOn with
  | nil => exact ⟨[], fun t => rfl, .nil, fun run hrun => (nomatch hrun), rfl⟩
  | append_singleton calls x ih =>
    obtain ⟨runs, hruns⟩ := ih
    exact hruns.after x

/-- The runs are those of the one type and those of the other. -/
theorem Tells.perm (h : Tells l calls runs) :
    (runsOf .available calls ++ runsOf .degraded calls).Perm runs := by
  have hother : runs.filter (Run.isOf .degraded) = runs.filter fun run => !run.isOf .available := by
    refine List.filter_congr fun run hrun => ?_
    obtain ⟨old, hold⟩ := h.exists_entry hrun
    obtain ⟨first, -, hfirst, -⟩ := Run.of_entry? hold
    rw [Run.isOf, Run.isOf, hfirst]
    cases htype : first.1.condition.type <;> simp [htype]
  rw [← h.ofType, ← h.ofType, hother]
  exact List.filter_append_perm _ runs

end tells

/-! ## The history -/

/-- A ledger that was empty at first is the history of what has been recorded in it. It has exactly one
entry for each maximal run of the same reason among the recordings of a type, in the order in which the
runs began; the entry is what the run comes to. The latest entry of a type is that of the type's last
run. A recording changes nothing exactly where it says the same as the one of its type before it. -/
theorem ledger_is_history (calls : List Recording) :
    (∃ runs : List Run, (runsOf .available calls ++ runsOf .degraded calls).Perm runs ∧
        runs.Pairwise Run.Precedes ∧
        (Ledger.replay calls).entries.map some = runs.map Run.entry?) ∧
      (∀ t, (Ledger.replay calls).latest? t = (runsOf t calls).getLast?.bind Run.entry?) ∧
      ∀ before x after, calls = before ++ x :: after →
        ((Ledger.replay before).set? x.condition x.now = none ↔
          ∃ y, (recordingsOf x.condition.type before).getLast? = some y ∧
            y.1.condition.SaysAs x.condition) := by
  obtain ⟨runs, hruns⟩ := exists_tells calls
  refine ⟨⟨runs, hruns.perm, hruns.ordered, hruns.entries⟩, hruns.latest?, fun before x after _ => ?_⟩
  rw [Ledger.set?_eq_none_iff_said]
  constructor
  · rintro ⟨old, hold, hsaid⟩
    obtain ⟨y, hy, hold⟩ := exists_recording_of_latest? hold
    exact ⟨y, hy, hold.symm.trans hsaid⟩
  · rintro ⟨y, hy, hsaid⟩
    have hlatest := latest?_replay x.condition.type before
    rw [hy] at hlatest
    obtain ⟨old, hold, hsame⟩ := hlatest
    exact ⟨old, hold, hsame.trans hsaid⟩

/-! ### A sample -/

namespace SampleHistory

/-- Recordings of both types by turns: the first run changes its status and then its message, one call
says what has been said, and the reason of the first run comes back behind another. -/
def calls : List Recording :=
  [⟨.available .no .deployed "started", "t0"⟩, ⟨.degraded .no .deployed "fine", "t1"⟩,
    ⟨.available .yes .deployed "started", "t2"⟩, ⟨.available .yes .deployed "ready", "t3"⟩,
    ⟨.degraded .no .deployed "fine", "t4"⟩, ⟨.available .no .completed "done", "t5"⟩,
    ⟨.available .no .deployed "again", "t6"⟩]

end SampleHistory

open SampleHistory in
/-- There are three runs of the one type and one of the other. The entry of the first run has the time
at which its status changed and the message that came later; the fifth call changes nothing. -/
theorem sample_history :
    (Ledger.replay calls).entries = [⟨.available, .yes, .deployed, "ready", some "t2"⟩,
        ⟨.degraded, .no, .deployed, "fine", some "t1"⟩,
        ⟨.available, .no, .completed, "done", some "t5"⟩,
        ⟨.available, .no, .deployed, "again", some "t6"⟩] ∧
      (Ledger.replay calls).latest? .degraded = (runsOf .degraded calls).getLast?.bind Run.entry? ∧
      (Ledger.replay (calls.take 4)).set? (.degraded .no .deployed "fine") "t4" = none := by
  obtain ⟨-, hlatest, hcall⟩ := ledger_is_history calls
  refine ⟨by decide, hlatest .degraded, ?_⟩
  exact (hcall (calls.take 4) ⟨.degraded .no .deployed "fine", "t4"⟩ (calls.drop 5) rfl).mpr
    ⟨(⟨.degraded .no .deployed "fine", "t1"⟩, 1), by decide, rfl, rfl, rfl, rfl⟩

end GoopOperator
