import GoopOperator.Api.Server

/-!
# Reading UTF-8 back

A text is what is read from its bytes in UTF-8 (`decode_bytes`). Character by character: the first byte
says how many more there are and which of them may come next, and each of these adds six bits.
-/

namespace GoopOperator.Text.Utf8

/-! ## One byte -/

section byte

variable {start : Nat} {byte : UInt8} {rest : List UInt8} {p : Partial} {n : Nat}

/-- A byte that is a character. -/
theorem decodeFrom_single (hbyte : byte.toNat = n) (hn : n < 0x80) :
    decodeFrom start none (byte :: rest) =
      (decodeFrom (start + 1) none rest).map (Char.ofNat n :: ·) := by
  simp [decodeFrom, first?, hbyte, hn]

/-- A byte that begins a character. -/
theorem decodeFrom_begin (hbyte : byte.toNat = n) (hfirst : first? n = some (.inr p)) :
    decodeFrom start none (byte :: rest) = decodeFrom start (some p) rest := by
  simp [decodeFrom, hbyte, hfirst]

/-- A byte that goes on with a character. -/
theorem decodeFrom_more (hbyte : byte.toNat = n % 0x40 + 0x80) (hleast : p.least ≤ n % 0x40 + 0x80)
    (hgreatest : n % 0x40 + 0x80 ≤ p.greatest) (howed : 1 < p.owed) :
    decodeFrom start (some p) (byte :: rest) = decodeFrom start
      (some ⟨p.owed - 1, 0x80, 0xBF, p.bits * 0x40 + n % 0x40, p.seen + 1⟩) rest := by
  have hbits : (n % 0x40 + 0x80) % 0x40 = n % 0x40 := by omega
  simp only [decodeFrom, hbyte, hbits, hleast, hgreatest, and_self, if_true,
    if_neg (Nat.not_le.mpr howed)]

/-- A byte that ends a character. -/
theorem decodeFrom_last (hbyte : byte.toNat = n % 0x40 + 0x80) (hleast : p.least ≤ n % 0x40 + 0x80)
    (hgreatest : n % 0x40 + 0x80 ≤ p.greatest) (howed : p.owed = 1) :
    decodeFrom start (some p) (byte :: rest) = (decodeFrom (start + p.seen + 1) none rest).map
      (Char.ofNat (p.bits * 0x40 + n % 0x40) :: ·) := by
  have hbits : (n % 0x40 + 0x80) % 0x40 = n % 0x40 := by omega
  simp only [decodeFrom, hbyte, hbits, hleast, hgreatest, howed, and_self, if_true, Nat.le_refl]

/-- A small number as a byte. -/
theorem toNat_byte (hn : n < 0x100) : (UInt8.ofNat n).toNat = n := by
  rw [UInt8.toNat_ofNat']
  exact Nat.mod_eq_of_lt hn

end byte

/-! ## Characters -/

section character

variable {v : Nat}

/-- The first of two bytes. -/
theorem first?_two (hlow : 0x80 ≤ v) (hhigh : v < 0x800) :
    first? (v / 64 % 32 + 192) = some (.inr ⟨1, 0x80, 0xBF, v / 64, 1⟩) := by
  have hbits : (v / 64 % 32 + 192) % 0x20 = v / 64 := by omega
  unfold first?
  rw [if_neg (by omega), if_pos (by omega), hbits]

/-- The first of three bytes: the second one is not too small, and of no surrogate. -/
theorem first?_three (hlow : 0x800 ≤ v) (hhigh : v < 0x10000) (hvalid : v < 0xD800 ∨ 0xDFFF < v) :
    ∃ least greatest,
      first? (v / 4096 % 16 + 224) = some (.inr ⟨2, least, greatest, v / 4096, 1⟩) ∧
      least ≤ v / 64 % 0x40 + 0x80 ∧ v / 64 % 0x40 + 0x80 ≤ greatest := by
  have hbits : (v / 4096 % 16 + 224) % 0x10 = v / 4096 := by omega
  unfold first?
  rw [if_neg (by omega), if_neg (by omega)]
  by_cases hzero : v / 4096 = 0
  · refine ⟨0xA0, 0xBF, ?_, by omega, by omega⟩
    rw [if_pos (by omega), hzero]
  · rw [if_neg (by omega)]
    by_cases hsurrogate : v / 4096 = 0xD
    · refine ⟨0x80, 0x9F, ?_, by omega, by omega⟩
      rw [if_pos (by omega), hsurrogate]
    · refine ⟨0x80, 0xBF, ?_, by omega, by omega⟩
      rw [if_neg (by omega), if_pos (by omega), hbits]

/-- The first of four bytes: the second one is neither too small nor too great. -/
theorem first?_four (hlow : 0x10000 ≤ v) (hhigh : v < 0x110000) :
    ∃ least greatest,
      first? (v / 262144 % 8 + 240) = some (.inr ⟨3, least, greatest, v / 262144, 1⟩) ∧
      least ≤ v / 4096 % 0x40 + 0x80 ∧ v / 4096 % 0x40 + 0x80 ≤ greatest := by
  have hbits : (v / 262144 % 8 + 240) % 8 = v / 262144 := by omega
  unfold first?
  rw [if_neg (by omega), if_neg (by omega), if_neg (by omega), if_neg (by omega), if_neg (by omega)]
  by_cases hzero : v / 262144 = 0
  · refine ⟨0x90, 0xBF, ?_, by omega, by omega⟩
    rw [if_pos (by omega), hzero]
  · rw [if_neg (by omega)]
    by_cases hlast : v / 262144 = 4
    · refine ⟨0x80, 0x8F, ?_, by omega, by omega⟩
      rw [if_neg (by omega), if_pos (by omega), hlast]
    · refine ⟨0x80, 0xBF, ?_, by omega, by omega⟩
      rw [if_pos (by omega), hbits]

/-- A later byte of a character, of which nothing more is known. -/
theorem later_byte (n : Nat) :
    (UInt8.ofNat (n % 0x40 + 0x80)).toNat = n % 0x40 + 0x80 ∧ n % 0x40 + 0x80 ≤ 0xBF := by
  have hn : n % 0x40 + 0x80 ≤ 0xBF := by omega
  exact ⟨toNat_byte (by omega), hn⟩

end character

/-- A character is read from its bytes. -/
theorem decodeFrom_char (c : Char) (start : Nat) (rest : List UInt8) :
    ∃ next, decodeFrom start none (String.utf8EncodeChar c ++ rest) =
      (decodeFrom next none rest).map (c :: ·) := by
  have hc : Char.ofNat c.val.toNat = c := Char.ofNat_toNat c
  have hvalid : c.val.toNat < 0xD800 ∨ 0xDFFF < c.val.toNat ∧ c.val.toNat < 0x110000 := c.valid
  generalize hv : c.val.toNat = v at hc hvalid
  have hleast (n : Nat) : 0x80 ≤ n % 0x40 + 0x80 := Nat.le_add_left _ _
  unfold String.utf8EncodeChar
  simp only [hv]
  split
  · refine ⟨start + 1, ?_⟩
    rw [List.singleton_append, decodeFrom_single (toNat_byte (by omega)) (by omega), hc]
  split
  · have hfirst := first?_two (v := v) (by omega) (by omega)
    have hall : v / 64 * 0x40 + v % 0x40 = v := by omega
    refine ⟨start + 1 + 1, ?_⟩
    rw [List.cons_append, List.singleton_append, decodeFrom_begin (toNat_byte (by omega)) hfirst,
      decodeFrom_last (later_byte v).1 (hleast v) (later_byte v).2 rfl]
    simp only [hall, hc]
  split
  · obtain ⟨least, greatest, hfirst, hsecond, hsecond'⟩ :=
      first?_three (v := v) (by omega) (by omega) (by omega)
    have hall : (v / 4096 * 0x40 + v / 64 % 0x40) * 0x40 + v % 0x40 = v := by omega
    refine ⟨start + 2 + 1, ?_⟩
    rw [List.cons_append, List.cons_append, List.singleton_append,
      decodeFrom_begin (toNat_byte (by omega)) hfirst,
      decodeFrom_more (later_byte (v / 64)).1 hsecond hsecond' (by simp),
      decodeFrom_last (later_byte v).1 (hleast v) (later_byte v).2 rfl]
    simp only [hall, hc]
  · obtain ⟨least, greatest, hfirst, hsecond, hsecond'⟩ :=
      first?_four (v := v) (by omega) (by omega)
    have hall :
        ((v / 262144 * 0x40 + v / 4096 % 0x40) * 0x40 + v / 64 % 0x40) * 0x40 + v % 0x40 = v := by
      omega
    refine ⟨start + 3 + 1, ?_⟩
    rw [List.cons_append, List.cons_append, List.cons_append, List.singleton_append,
      decodeFrom_begin (toNat_byte (by omega)) hfirst,
      decodeFrom_more (later_byte (v / 4096)).1 hsecond hsecond' (by simp),
      decodeFrom_more (later_byte (v / 64)).1 (hleast _) (later_byte (v / 64)).2 (by simp),
      decodeFrom_last (later_byte v).1 (hleast v) (later_byte v).2 rfl]
    simp only [hall, hc]

/-! ## Texts -/

/-- Characters are read from their bytes. -/
theorem decodeFrom_chars (cs : List Char) (start : Nat) :
    decodeFrom start none (cs.flatMap String.utf8EncodeChar) = .ok cs := by
  induction cs generalizing start with
  | nil => rfl
  | cons c cs ih =>
    obtain ⟨next, hnext⟩ := decodeFrom_char c start (cs.flatMap String.utf8EncodeChar)
    rw [List.flatMap_cons, hnext, ih]
    rfl

/-- The bytes of an array, from an index on, after those that have been gone through. -/
theorem toList_loop (a : ByteArray) (i : Nat) (done : List UInt8) :
    ByteArray.toList.loop a i done = done.reverse ++ a.data.toList.drop i := by
  induction i, done using ByteArray.toList.loop.induct a with
  | case1 i done hi ih =>
    have hlt : i < a.data.toList.length := by simpa using hi
    have hget : a.get! i = a.data.toList[i] := by
      rw [Array.getElem_toList]
      exact getElem!_pos a.data i (by simpa using hi)
    rw [ByteArray.toList.loop, if_pos hi, ih, List.drop_eq_getElem_cons hlt, hget]
    simp
  | case2 i done hi =>
    have hle : a.data.toList.length ≤ i := by simpa using hi
    rw [ByteArray.toList.loop, if_neg hi, List.drop_eq_nil_of_le hle, List.append_nil]

/-- The bytes of a text are those of its characters. -/
theorem bytes_eq (text : String) : Api.bytes text = text.toList.flatMap String.utf8EncodeChar := by
  have hdata : text.toUTF8.data.toList = text.toList.flatMap String.utf8EncodeChar := by
    rw [String.toUTF8_eq_toByteArray, ← String.ofList_toList (s := text), String.toByteArray_ofList,
      String.toList_ofList, List.utf8Encode, List.toList_data_toByteArray]
  unfold Api.bytes ByteArray.toList
  rw [toList_loop, hdata]
  rfl

/-- A text is read from its bytes. -/
theorem decode_bytes (text : String) : decode (Api.bytes text) = .ok text := by
  unfold decode
  rw [bytes_eq, decodeFrom_chars]
  exact congrArg Except.ok (String.ofList_toList)

example : decode [0xF0, 0x9F, 0x8E, 0x89] = .ok "🎉" := rfl

end GoopOperator.Text.Utf8
