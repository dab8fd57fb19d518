/-!
# Blank characters

The characters with the Unicode property `White_Space`, and the two ways in which the operator cuts
text at them: `words` takes the runs between blanks, `dropBlanks` what follows the leading ones. The
statements say what `words` answers: no word is empty, and no word holds a blank.
-/

namespace GoopOperator.Text

/-- The characters of the Unicode property `White_Space`. -/
def isBlank (c : Char) : Bool :=
  let n := c.toNat
  (9 ≤ n && n ≤ 13) || n == 0x20 || n == 0x85 || n == 0xA0 || n == 0x1680 ||
  (0x2000 ≤ n && n ≤ 0x200A) || n == 0x2028 || n == 0x2029 || n == 0x202F || n == 0x205F ||
  n == 0x3000

/-- The maximal pieces of a text without a character of `sep`, the empty ones included; there is one
piece more than there are separators. -/
def pieces (sep : Char → Bool) : List Char → List (List Char)
  | [] => [[]]
  | c :: rest =>
    match sep c, pieces sep rest with
    | true, ps => [] :: ps
    | false, [] => [[c]]
    | false, p :: ps => (c :: p) :: ps

/-- No piece holds a separator. -/
theorem sep_eq_false_of_mem_pieces (sep : Char → Bool) (cs p : List Char) (h : p ∈ pieces sep cs) :
    ∀ c ∈ p, sep c = false := by
  induction cs generalizing p with
  | nil => simp_all [pieces]
  | cons c rest ih =>
    unfold pieces at h
    split at h
    · rcases List.mem_cons.1 h with rfl | h
      · simp
      · exact ih p h
    · simp_all
    · rename_i q qs hc hps
      rcases List.mem_cons.1 h with rfl | h
      · intro x hx
        rcases List.mem_cons.1 hx with rfl | hx
        · exact hc
        · exact ih q (hps ▸ List.mem_cons_self) x hx
      · exact ih p (hps ▸ List.mem_cons_of_mem q h)

/-- The words of a text: its maximal runs of characters that are not blank. -/
def words (text : String) : List String :=
  ((pieces isBlank text.toList).filter (· ≠ [])).map String.ofList

/-- No word is empty. -/
theorem ne_empty_of_mem_words {text word : String} (h : word ∈ words text) : word ≠ "" := by
  obtain ⟨p, hp, rfl⟩ := List.mem_map.1 h
  intro he
  have : p ≠ [] := by simpa using (List.mem_filter.1 hp).2
  exact this (by simpa using congrArg String.toList he)

/-- No word holds a blank. -/
theorem isBlank_eq_false_of_mem_words {text word : String} (h : word ∈ words text) :
    ∀ c ∈ word.toList, isBlank c = false := by
  obtain ⟨p, hp, rfl⟩ := List.mem_map.1 h
  rw [String.toList_ofList]
  exact sep_eq_false_of_mem_pieces isBlank _ p (List.mem_filter.1 hp).1

/-- A text without its leading blanks. -/
def dropBlanks (cs : List Char) : List Char :=
  cs.dropWhile isBlank

end GoopOperator.Text
