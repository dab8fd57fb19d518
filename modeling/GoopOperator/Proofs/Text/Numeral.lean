import GoopOperator.Text.Numeral

/-!
# The numerals of natural numbers

What readers of numbers use of the digits that a number is written with: they are digits, the first of
several is no zero, and of digits alone a reader takes all. The reader of settings and options takes
exactly the numerals up to its limit (`readNumeral_eq_ok_iff`).
-/

namespace GoopOperator.Text

/-- The digits of a positive number do not begin with a zero. -/
theorem head?_toDigits {n : Nat} (h : 0 < n) : (Nat.toDigits 10 n).head? ≠ some '0' := by
  induction n using Nat.strongRecOn with
  | ind n ih =>
    by_cases hsmall : n < 10
    · have hdigit : ∀ m < 10, 0 < m → some (Nat.digitChar m) ≠ some '0' := by decide
      rw [Nat.toDigits_of_lt_base hsmall]
      exact hdigit n hsmall h
    · have hhead : (Nat.toDigits 10 n).head? = (Nat.toDigits 10 (n / 10)).head? := by
        rw [Nat.toDigits_of_base_le (by decide) (by omega)]
        cases hmore : Nat.toDigits 10 (n / 10) with
        | nil => exact absurd hmore Nat.toDigits_ne_nil
        | cons c cs => rfl
      rw [hhead]
      exact ih (n / 10) (by omega) (by omega)

/-- The digits of a natural number are digits. -/
theorem isDigit_toDigits (n : Nat) : ∀ c ∈ Nat.toDigits 10 n, c.isDigit = true :=
  fun _ hc => Nat.isDigit_of_mem_toDigits (by decide) (by decide) hc

/-- Of digits alone all are taken. -/
theorem takeWhile_isDigit {ds : List Char} (h : ∀ c ∈ ds, c.isDigit = true) :
    ds.takeWhile Char.isDigit = ds := by
  have htake : (ds ++ []).takeWhile Char.isDigit = ds ++ [].takeWhile Char.isDigit :=
    List.takeWhile_append_of_pos h
  rwa [List.append_nil, List.takeWhile_nil, List.append_nil] at htake

/-- Of digits alone none are left. -/
theorem dropWhile_isDigit {ds : List Char} (h : ∀ c ∈ ds, c.isDigit = true) :
    ds.dropWhile Char.isDigit = [] := by
  have hdrop : (ds ++ []).dropWhile Char.isDigit = [].dropWhile Char.isDigit :=
    List.dropWhile_append_of_pos h
  rwa [List.append_nil, List.dropWhile_nil] at hdrop

/-! ## Numerals with a sign -/

/-- Some digits write a number, whether zeros stand before it or not. -/
structure AreDigitsOf (n : Nat) (digits : List Char) : Prop where
  /-- There are some. -/
  nonempty : digits ≠ []
  /-- They are digits. -/
  digit : ∀ c ∈ digits, c.isDigit = true
  /-- They write the number. -/
  value : Nat.ofDigitChars 10 digits 0 = n

/-- A text is a decimal numeral of a number, with a plus sign before its digits or without one. -/
inductive IsNumeralOf (n : Nat) (text : String) : Prop where
  /-- Digits alone. -/
  | plain (h : AreDigitsOf n text.toList)
  /-- Digits behind a plus sign. -/
  | signed {digits : List Char} (htext : text.toList = '+' :: digits) (h : AreDigitsOf n digits)

section numeral

variable {limit n : Nat} {text : String}

/-- More digits make no smaller number. -/
theorem le_ofDigitChars (value : Nat) (digits : List Char) :
    value ≤ Nat.ofDigitChars 10 digits value := by
  induction digits generalizing value with
  | nil => exact Nat.le_refl value
  | cons c rest ih =>
    rw [Nat.ofDigitChars_cons]
    have hnext := ih (10 * value + (c.toNat - '0'.toNat))
    omega

/-- Reading takes digits alone, and these up to the limit. -/
theorem readDigits_eq_ok_iff {value : Nat} (hvalue : value ≤ limit) (cs : List Char) :
    readDigits limit value cs = .ok n ↔
      (∀ c ∈ cs, c.isDigit = true) ∧ Nat.ofDigitChars 10 cs value = n ∧ n ≤ limit := by
  induction cs generalizing value with
  | nil =>
    rw [readDigits, Nat.ofDigitChars_nil, Except.ok.injEq]
    constructor
    · rintro rfl
      exact ⟨List.forall_mem_nil _, rfl, hvalue⟩
    · exact fun h => h.2.1
  | cons c rest ih =>
    rw [readDigits, Nat.ofDigitChars_cons, List.forall_mem_cons]
    by_cases hc : c.isDigit = true
    · rw [if_pos hc, Nat.mul_comm value 10]
      by_cases hnext : 10 * value + (c.toNat - '0'.toNat) ≤ limit
      · rw [if_pos hnext, ih hnext]
        simp only [hc, true_and]
      · -- the number passes the limit, and so does what more digits make of it
        rw [if_neg hnext]
        simp only [reduceCtorEq, false_iff]
        rintro ⟨-, hn, hle⟩
        exact hnext (Nat.le_trans (le_ofDigitChars _ rest) (hn ▸ hle))
    · rw [if_neg hc]
      simp only [reduceCtorEq, false_iff]
      exact fun h => hc h.1.1

/-- What is read from digits, if there are any. -/
theorem readDigits_zero_eq_ok_iff {digits : List Char} (h : digits ≠ []) :
    readDigits limit 0 digits = .ok n ↔ AreDigitsOf n digits ∧ n ≤ limit := by
  rw [readDigits_eq_ok_iff (Nat.zero_le limit)]
  exact ⟨fun ⟨hdigit, hvalue, hle⟩ => ⟨⟨h, hdigit, hvalue⟩, hle⟩,
    fun ⟨hof, hle⟩ => ⟨hof.digit, hof.value, hle⟩⟩

/-- No digits begin with a plus sign. -/
theorem not_areDigitsOf_plus {rest : List Char} : ¬ AreDigitsOf n ('+' :: rest) := fun h =>
  Bool.false_ne_true (h.digit '+' List.mem_cons_self)

/-- A text is a numeral in one of two ways. -/
theorem isNumeralOf_iff : IsNumeralOf n text ↔
    AreDigitsOf n text.toList ∨ ∃ digits, text.toList = '+' :: digits ∧ AreDigitsOf n digits := by
  constructor
  · rintro (h | ⟨htext, h⟩)
    · exact .inl h
    · exact .inr ⟨_, htext, h⟩
  · rintro (h | ⟨digits, htext, h⟩)
    · exact .plain h
    · exact .signed htext h

/-- A text is read as a number exactly where it is a numeral of it, and the limit allows it. -/
theorem readNumeral_eq_ok_iff : readNumeral limit text = .ok n ↔ IsNumeralOf n text ∧ n ≤ limit := by
  rw [isNumeralOf_iff]
  unfold readNumeral
  split
  · -- there is nothing to read
    rename_i htext
    rw [htext]
    exact ⟨nofun, fun ⟨h, _⟩ => h.elim (fun h => absurd rfl h.nonempty) nofun⟩
  · -- there is a sign and nothing behind it
    rename_i htext
    rw [htext]
    refine ⟨nofun, fun ⟨h, _⟩ => h.elim (absurd · not_areDigitsOf_plus) ?_⟩
    rintro ⟨digits, hdigits, h⟩
    exact absurd (List.cons.inj hdigits).2.symm h.nonempty
  · -- the sign is no digit, so the digits are those behind it
    rename_i digits hmore htext
    rw [htext, readDigits_zero_eq_ok_iff hmore]
    simp [not_areDigitsOf_plus]
  · rename_i hnone hplus hsigned
    have hunsigned : ¬ ∃ digits, text.toList = '+' :: digits ∧ AreDigitsOf n digits :=
      fun ⟨digits, htext, _⟩ => hsigned digits htext
    rw [readDigits_zero_eq_ok_iff hnone, or_iff_left hunsigned]

/-- A number is written as a numeral of it. -/
theorem isNumeralOf_toString (n : Nat) : IsNumeralOf n (toString n) := by
  have htext : (toString n).toList = Nat.toDigits 10 n := Nat.toList_repr
  refine .plain ?_
  rw [htext]
  exact ⟨Nat.toDigits_ne_nil, isDigit_toDigits n, Nat.ofDigitChars_ten_toDigits⟩

end numeral

end GoopOperator.Text
