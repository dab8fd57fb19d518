import GoopOperator.Text.Blank

/-!
# Texts that were put together

`pieces` cuts a text as the lists of the core library are split (`pieces_eq_splitOnP`), so it undoes
what puts pieces together with a separator between them. Words are what is left of the pieces: a text
that was made of words with gaps between them falls apart into these words again (`words_spaced`), and
a text without words is blank (`words_eq_nil_iff`).
-/

namespace GoopOperator.Text

/-- A text that is not empty has a first character. -/
theorem exists_toList_eq_cons {text : String} (h : text ≠ "") : ∃ c cs, text.toList = c :: cs :=
  List.exists_cons_of_ne_nil fun hnil => h (String.toList_eq_nil_iff.mp hnil)

/-! ## Pieces -/

section pieces

variable {sep : Char → Bool} {cs : List Char}

/-- Cutting a text into pieces is splitting the list of its characters. -/
theorem pieces_eq_splitOnP (sep : Char → Bool) (cs : List Char) :
    pieces sep cs = cs.splitOnP sep := by
  induction cs with
  | nil => simp [pieces]
  | cons c rest ih =>
    unfold pieces
    rw [ih, List.splitOnP_cons_eq_if_modifyHead]
    cases hc : sep c with
    | true => simp
    | false =>
      cases hrest : rest.splitOnP sep with
      | nil => exact absurd hrest (List.splitOnP_ne_nil sep rest)
      | cons p ps => simp

/-- A text without a separator is its own piece. -/
theorem pieces_eq_singleton (h : ∀ c ∈ cs, sep c = false) : pieces sep cs = [cs] := by
  rw [pieces_eq_splitOnP, List.splitOnP_eq_singleton h]

/-- At a separator a text can be cut first. -/
theorem pieces_append_cons {c : Char} (hc : sep c = true) (front back : List Char) :
    pieces sep (front ++ c :: back) = pieces sep front ++ pieces sep back := by
  simp only [pieces_eq_splitOnP]
  exact List.splitOnP_append_cons front back hc

/-- A text falls apart into two pieces exactly where one separator stands between them. -/
theorem pieces_eq_pair_iff {d : Char} {front back : List Char} :
    pieces (· == d) cs = [front, back] ↔ cs = front ++ d :: back ∧ d ∉ front ∧ d ∉ back := by
  constructor
  · intro h
    have hfree : ∀ p ∈ [front, back], d ∉ p := fun p hp hd => by
      have hnone := sep_eq_false_of_mem_pieces (· == d) cs p (h ▸ hp) d hd
      exact Bool.false_ne_true (hnone.symm.trans (beq_self_eq_true d))
    refine ⟨?_, hfree front (by simp), hfree back (by simp)⟩
    have hjoined : [d].intercalate (cs.splitOn d) = cs := List.intercalate_splitOn d
    rw [List.splitOn, ← pieces_eq_splitOnP, h] at hjoined
    simpa [List.intercalate] using hjoined.symm
  · rintro ⟨rfl, hfront, hback⟩
    have hfree {p : List Char} (hp : d ∉ p) : ∀ c ∈ p, (c == d) = false := fun c hc =>
      beq_false_of_ne fun h => hp (h ▸ hc)
    have hcut : pieces (· == d) (front ++ d :: back) = pieces (· == d) front ++ pieces (· == d) back :=
      pieces_append_cons (by simp) front back
    rw [hcut, pieces_eq_singleton (hfree hfront), pieces_eq_singleton (hfree hback)]
    rfl

/-- Pieces that were joined by a separator which stands in none of them are found again. -/
theorem pieces_intercalate {d : Char} {ps : List (List Char)} (hne : ps ≠ [])
    (h : ∀ p ∈ ps, d ∉ p) : pieces (· == d) ([d].intercalate ps) = ps := by
  rw [pieces_eq_splitOnP]
  exact List.splitOn_intercalate d h hne

/-- Behind the last separator stands the last piece. -/
theorem getLastD_pieces {c : Char} (hc : sep c = true) (front : List Char) {back : List Char}
    (hback : ∀ x ∈ back, sep x = false) : (pieces sep (front ++ c :: back)).getLastD [] = back := by
  rw [pieces_append_cons hc, pieces_eq_singleton hback]
  simp

/-- Separators in front of a text only make empty pieces. -/
theorem filter_pieces_append {gap : List Char} (hgap : ∀ c ∈ gap, sep c = true) (cs : List Char) :
    (pieces sep (gap ++ cs)).filter (· ≠ []) = (pieces sep cs).filter (· ≠ []) := by
  induction gap with
  | nil => rfl
  | cons c gap ih =>
    have hcut : pieces sep (c :: (gap ++ cs)) = [] :: pieces sep (gap ++ cs) :=
      pieces_append_cons (hgap c List.mem_cons_self) [] (gap ++ cs)
    rw [List.cons_append, hcut, List.filter_cons_of_neg (by simp)]
    exact ih fun d hd => hgap d (List.mem_cons_of_mem c hd)

/-- A character of a text is a separator, or stands in one of the pieces. -/
theorem sep_or_mem_pieces (sep : Char → Bool) {cs : List Char} {c : Char} (hc : c ∈ cs) :
    sep c = true ∨ ∃ p ∈ pieces sep cs, c ∈ p := by
  induction cs with
  | nil => cases hc
  | cons d rest ih =>
    unfold pieces
    split
    · rename_i hd
      rcases List.mem_cons.1 hc with rfl | hc
      · exact .inl hd
      · exact (ih hc).imp id fun ⟨p, hp, hcp⟩ => ⟨p, List.mem_cons_of_mem _ hp, hcp⟩
    · rename_i hnone
      rcases List.mem_cons.1 hc with rfl | hc
      · exact .inr ⟨_, List.mem_cons_self, List.mem_cons_self⟩
      · exact (ih hc).imp id fun ⟨p, hp, _⟩ => by simp [hnone] at hp
    · rename_i p ps _ hps
      rcases List.mem_cons.1 hc with rfl | hc
      · exact .inr ⟨_, List.mem_cons_self, List.mem_cons_self⟩
      · refine (ih hc).imp id fun ⟨q, hq, hcq⟩ => ?_
        rw [hps] at hq
        rcases List.mem_cons.1 hq with rfl | hq
        · exact ⟨_, List.mem_cons_self, List.mem_cons_of_mem _ hcq⟩
        · exact ⟨q, List.mem_cons_of_mem _ hq, hcq⟩

end pieces

/-! ## Words -/

/-- A word: some characters, none of them blank. -/
structure IsWord (word : String) : Prop where
  /-- There are some. -/
  nonempty : word ≠ ""
  /-- None of them is blank. -/
  solid : ∀ c ∈ word.toList, isBlank c = false

/-- What stands between two words: some characters, all of them blank. -/
structure IsGap (gap : String) : Prop where
  /-- There are some. -/
  nonempty : gap ≠ ""
  /-- All of them are blank. -/
  blank : ∀ c ∈ gap.toList, isBlank c = true

instance (word : String) : Decidable (IsWord word) :=
  decidable_of_iff (word ≠ "" ∧ word.toList.all (!isBlank ·) = true)
    ⟨fun h => ⟨h.1, by simpa using h.2⟩, fun h => ⟨h.nonempty, by simpa using h.solid⟩⟩

instance (gap : String) : Decidable (IsGap gap) :=
  decidable_of_iff (gap ≠ "" ∧ gap.toList.all isBlank = true)
    ⟨fun h => ⟨h.1, by simpa using h.2⟩, fun h => ⟨h.nonempty, by simpa using h.blank⟩⟩

/-- A word and the words after it, each with the gap before it. -/
def spaced (first : String) : List (String × String) → String
  | [] => first
  | (gap, word) :: rest => first ++ gap ++ spaced word rest

section words

variable {word gap text : String}

/-- The words of a text are words. -/
theorem isWord_of_mem_words (h : word ∈ words text) : IsWord word :=
  ⟨ne_empty_of_mem_words h, isBlank_eq_false_of_mem_words h⟩

/-- A word has itself as its only word. -/
theorem words_word (hword : IsWord word) : words word = [word] := by
  obtain ⟨c, cs, hchars⟩ := exists_toList_eq_cons hword.nonempty
  unfold words
  rw [pieces_eq_singleton hword.solid, List.filter_cons_of_pos (by simp [hchars])]
  simp

/-- The gap behind a word ends it. -/
theorem words_append_gap (hword : IsWord word) (hgap : IsGap gap) (rest : String) :
    words (word ++ gap ++ rest) = word :: words rest := by
  -- the first blank of the gap cuts the text, and the others make empty pieces
  obtain ⟨c, blanks, hchars⟩ := exists_toList_eq_cons hgap.nonempty
  have hblank : ∀ d ∈ c :: blanks, isBlank d = true := hchars ▸ hgap.blank
  have hc : isBlank c = true := hblank c List.mem_cons_self
  have htext : (word ++ gap ++ rest).toList = word.toList ++ c :: (blanks ++ rest.toList) := by
    simp [hchars]
  have hfirst := words_word hword
  unfold words at hfirst ⊢
  rw [htext, pieces_append_cons hc, List.filter_append, List.map_append, hfirst,
    filter_pieces_append fun d hd => hblank d (List.mem_cons_of_mem c hd)]
  rfl

/-- Words with gaps between them are read back, whatever the gaps are. -/
theorem words_spaced {first : String} {rest : List (String × String)} (hfirst : IsWord first)
    (hrest : ∀ p ∈ rest, IsGap p.1 ∧ IsWord p.2) :
    words (spaced first rest) = first :: rest.map (·.2) := by
  induction rest generalizing first with
  | nil => exact words_word hfirst
  | cons p rest ih =>
    obtain ⟨hgap, hword⟩ := hrest p List.mem_cons_self
    have hback := ih hword fun q hq => hrest q (List.mem_cons_of_mem p hq)
    rw [spaced, words_append_gap hfirst hgap, hback, List.map_cons]

/-- A text has no words exactly where it is blank. -/
theorem words_eq_nil_iff : words text = [] ↔ ∀ c ∈ text.toList, isBlank c = true := by
  unfold words
  rw [List.map_eq_nil_iff]
  constructor
  · intro h c hc
    rcases sep_or_mem_pieces isBlank hc with hblank | ⟨p, hp, hcp⟩
    · exact hblank
    · exact absurd (List.ne_nil_of_mem hcp) (by simpa using List.filter_eq_nil_iff.mp h p hp)
  · intro h
    have hnone := filter_pieces_append h []
    rwa [List.append_nil] at hnone

end words

end GoopOperator.Text
