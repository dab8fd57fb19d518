import GoopOperator.Proofs.Text.Numeral
import GoopOperator.Time.Timestamp

/-!
# Time stamps are read back

Of every stamp, of whatever year, the second that it falls in is read back from the text that is
written of it (`Timestamp.ofText?_toText`): a field of the stamp is read up to the separator after it,
and the final `Z` shifts nothing.
-/

namespace GoopOperator.Timestamp

open Text

/-! ## Numbers -/

/-- Zeros before a number do not change its value. -/
theorem ofDigitChars_padded (width n : Nat) : Nat.ofDigitChars 10 (padded width n) 0 = n := by
  unfold padded
  rw [Nat.ofDigitChars_append, Nat.ofDigitChars_replicate_zero, Nat.mul_zero]
  exact Nat.ofDigitChars_ten_toDigits

/-- A padded number holds digits only. -/
theorem isDigit_padded (width n : Nat) : ∀ c ∈ padded width n, c.isDigit = true := by
  intro c hc
  rcases List.mem_append.1 hc with hc | hc
  · rw [List.eq_of_mem_replicate hc]
    rfl
  · exact isDigit_toDigits n c hc

/-- A padded number is not empty. -/
theorem padded_ne_nil (width n : Nat) : padded width n ≠ [] :=
  List.append_ne_nil_of_right_ne_nil _ Nat.toDigits_ne_nil

/-- A padded number begins with a digit. -/
theorem padded_eq_cons (width n : Nat) : ∃ c cs, padded width n = c :: cs ∧ c.isDigit = true := by
  cases hds : padded width n with
  | nil => exact absurd hds (padded_ne_nil width n)
  | cons c cs => exact ⟨c, cs, rfl, isDigit_padded width n c (hds ▸ List.mem_cons_self)⟩

/-- A number that fits is padded to the width. -/
theorem length_padded_le {width n : Nat} (hwidth : 0 < width) (h : n < Nat.pow 10 width) :
    (padded width n).length ≤ width := by
  have hlen := (Nat.length_toDigits_le_iff (by decide) hwidth).2 h
  simp only [padded, List.length_append, List.length_replicate]
  omega

/-- A digit is no blank. -/
theorem isBlank_of_isDigit {c : Char} (h : c.isDigit = true) : isBlank c = false := by
  simp only [Char.isDigit, Bool.and_eq_true, decide_eq_true_eq, ge_iff_le, UInt32.le_iff_toNat_le]
    at h
  obtain ⟨hlow, hhigh⟩ := h
  have hlow : 48 ≤ c.toNat := hlow
  have hhigh : c.toNat ≤ 57 := hhigh
  simp only [isBlank]
  grind

/-- Digits have no blanks before them. -/
theorem dropBlanks_digits {ds : List Char} (hds : ∀ c ∈ ds, c.isDigit = true) (hne : ds ≠ [])
    (rest : List Char) : dropBlanks (ds ++ rest) = ds ++ rest := by
  match ds, hne with
  | c :: cs, _ =>
    have hblank := isBlank_of_isDigit (hds c List.mem_cons_self)
    exact List.dropWhile_cons_of_neg (by simp [hblank])

/-- Digits are read up to a character that is none. -/
theorem number?_append {most : Nat} {ds : List Char} (hds : ∀ c ∈ ds, c.isDigit = true)
    (hne : ds ≠ []) (hlen : ds.length ≤ most) {c : Char} (hc : c.isDigit = false)
    (rest : List Char) :
    number? most (ds ++ c :: rest) = some (Nat.ofDigitChars 10 ds 0, c :: rest) := by
  have htake : ((ds ++ c :: rest).take most).takeWhile Char.isDigit = ds := by
    have hnone : ((c :: rest).take (most - ds.length)).takeWhile Char.isDigit = [] := by
      cases most - ds.length with
      | zero => rfl
      | succ n => exact List.takeWhile_cons_of_neg (by simp [hc])
    rw [List.take_append, List.take_of_length_le hlen, List.takeWhile_append_of_pos hds, hnone,
      List.append_nil]
  simp only [number?, dropBlanks_digits hds hne, htake, if_neg hne, List.drop_left]

/-- A padded number that fits is read up to a character that is no digit. -/
theorem number?_padded {width n : Nat} (hwidth : 0 < width) (h : n < Nat.pow 10 width) {c : Char}
    (hc : c.isDigit = false) (rest : List Char) :
    number? width (padded width n ++ c :: rest) = some (n, c :: rest) := by
  rw [number?_append (isDigit_padded width n) (padded_ne_nil width n) (length_padded_le hwidth h) hc,
    ofDigitChars_padded]

/-- A separator is read where it stands. -/
theorem separator?_cons {c : Char} (hc : isBlank c = false) (rest : List Char) :
    separator? c (c :: rest) = some rest := by
  have hdrop : dropBlanks (c :: rest) = c :: rest := List.dropWhile_cons_of_neg (by simp [hc])
  simp [separator?, hdrop]

/-! ## Fields -/

/-- A number with a sign before it is read as a year. -/
theorem year?_signed (n : Nat) (rest : List Char) :
    year? ('-' :: padded 4 n ++ '-' :: rest) = some (-(n : Int), '-' :: rest) ∧
      year? ('+' :: padded 4 n ++ '-' :: rest) = some ((n : Int), '-' :: rest) := by
  have hhead : (padded 4 n ++ '-' :: rest).head?.any Char.isDigit = true := by
    obtain ⟨c, cs, hds, hc⟩ := padded_eq_cons 4 n
    simpa [hds] using hc
  have hread : number? (padded 4 n ++ '-' :: rest).length (padded 4 n ++ '-' :: rest) =
      some (n, '-' :: rest) := by
    rw [number?_append (isDigit_padded 4 n) (padded_ne_nil 4 n) (by simp) rfl, ofDigitChars_padded]
  have hminus : dropBlanks ('-' :: (padded 4 n ++ '-' :: rest)) =
      '-' :: (padded 4 n ++ '-' :: rest) := rfl
  have hplus : dropBlanks ('+' :: (padded 4 n ++ '-' :: rest)) =
      '+' :: (padded 4 n ++ '-' :: rest) := rfl
  constructor
  · simp only [List.cons_append, year?, hminus, hhead, hread, if_true, Option.map_some]
    congr 2
    omega
  · simp only [List.cons_append, year?, hplus, hhead, hread, if_true, Option.map_some]
    congr 2
    omega

/-- A year is read back. -/
theorem year?_yearChars (year : Int) (rest : List Char) :
    year? (yearChars year ++ '-' :: rest) = some (year, '-' :: rest) := by
  unfold yearChars
  split
  · have habs : -(year.natAbs : Int) = year := by omega
    rw [(year?_signed _ _).1, habs]
  · split
    · have habs : (year.natAbs : Int) = year := by omega
      rw [(year?_signed _ _).2, habs]
    · have habs : (year.natAbs : Int) = year := by omega
      have hread := number?_padded (by decide : 0 < 4) (by omega : year.natAbs < 10000)
        (by decide : '-'.isDigit = false) rest
      have hdrop := dropBlanks_digits (isDigit_padded 4 year.natAbs) (padded_ne_nil 4 year.natAbs)
        ('-' :: rest)
      obtain ⟨c, cs, hds, hc⟩ := padded_eq_cons 4 year.natAbs
      unfold year?
      rw [hdrop, hds]
      rw [hds] at hread
      split
      · rename_i heq
        cases heq
        cases hc
      · rename_i heq
        cases heq
        cases hc
      · rw [hread]
        exact congrArg (fun y : Int => some (y, '-' :: rest)) habs

/-- A day is read back. -/
theorem date?_chars (d : Date) {c : Char} (hc : c.isDigit = false) (rest : List Char) :
    date? (yearChars d.year ++ '-' :: padded 2 d.month ++ '-' :: padded 2 d.day ++ c :: rest) =
      some (d, c :: rest) := by
  obtain ⟨-, -, -, hmonth, -, hday⟩ := d.valid
  have hdays : daysInMonth d.year d.month ≤ 31 := by
    unfold daysInMonth
    split
    · split <;> decide
    · split <;> decide
  have hsame : Date.of? d.year d.month d.day = some d := dif_pos d.valid
  simp only [List.append_assoc, List.cons_append, date?, year?_yearChars, Option.bind_eq_bind,
    Option.bind_some, separator?_cons (by decide : isBlank '-' = false),
    number?_padded (by decide : 0 < 2) (by omega : d.month < 100)
      (by decide : '-'.isDigit = false),
    number?_padded (by decide : 0 < 2) (by omega : d.day < 100) hc, hsame]
  rfl

/-! ## Stamps -/

/-- A stamp of universal time is not shifted. -/
theorem shift?_zero (t : Timestamp) : shift? t 0 = some t := by
  obtain ⟨hhour, hminute, -⟩ := t.valid
  have hclock : (((t.hour * 60 + t.minute : Nat) : Int) - 0) % 1440 = (t.hour * 60 + t.minute : Nat) := by
    omega
  have hsame : of? t.date t.hour t.minute t.second = some t := dif_pos t.valid
  have hh : (t.hour * 60 + t.minute) / 60 = t.hour := by omega
  have hm : (t.hour * 60 + t.minute) % 60 = t.minute := by omega
  unfold shift?
  simp only [hclock, Int.toNat_natCast, hh, hm]
  rw [if_neg (by omega), if_neg (by omega)]
  exact hsame

/-- A stamp is read back from its text, but for what has passed of its second. -/
theorem ofText?_toText (t : Timestamp) : ofText? t.toText = some t.whole := by
  obtain ⟨hhour, hminute, hsecond, -⟩ := t.valid
  have hsame : of? t.date t.hour t.minute ⟨t.second.number, 0⟩ = some t.whole := dif_pos t.whole.valid
  have hdate : date? t.chars = some (t.date, 'T' :: (padded 2 t.hour ++ ':' ::
      (padded 2 t.minute ++ ':' :: (padded 2 t.second.number ++ ['Z'])))) := by
    rw [← date?_chars t.date (by decide : 'T'.isDigit = false)]
    simp [chars]
  unfold ofText? toText
  rw [String.toList_ofList, hdate]
  simp only [Option.bind_eq_bind, Option.bind_some,
    separator?_cons (by decide : isBlank ':' = false),
    number?_padded (by decide : 0 < 2) (by omega : t.hour < 100) (by decide : ':'.isDigit = false),
    number?_padded (by decide : 0 < 2) (by omega : t.minute < 100)
      (by decide : ':'.isDigit = false),
    number?_padded (by decide : 0 < 2) (by omega : t.second.number < 100)
      (by decide : 'Z'.isDigit = false)]
  show (of? t.date t.hour t.minute ⟨t.second.number, 0⟩).bind (fun clock => shift? clock 0) =
    some t.whole
  rw [hsame]
  exact shift?_zero t.whole

/-- At the beginning of its second a stamp is read back as it is. -/
theorem whole_eq {t : Timestamp} (h : t.second.nanos = 0) : t.whole = t := by
  obtain ⟨date, hour, minute, ⟨number, nanos⟩, valid⟩ := t
  cases h
  rfl

/-- What has been read back is read back as it is. -/
@[simp] theorem whole_whole (t : Timestamp) : t.whole.whole = t.whole := rfl

end GoopOperator.Timestamp
