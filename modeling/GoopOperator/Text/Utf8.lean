/-!
# UTF-8, with the place where it breaks off

Bytes are read as UTF-8 one character at a time. Where that fails, the answer says from which byte on
and how many bytes of a character had been seen, or that the input ended inside a character.
-/

namespace GoopOperator.Text.Utf8

/-- Where and how a byte sequence stops being UTF-8. -/
structure Malformed where
  /-- The index of the first byte of the character that cannot be read. -/
  start : Nat
  /-- The number of bytes that no character begins with; `none` where the input ends inside one. -/
  length : Option Nat
  deriving DecidableEq, Repr

/-- The wording of a break. -/
def Malformed.message (m : Malformed) : String :=
  match m.length with
  | some n =>
    "invalid utf-8 sequence of " ++ toString n ++ " bytes from index " ++ toString m.start
  | none => "incomplete utf-8 byte sequence from index " ++ toString m.start

/-- A character of which the first bytes have been read. -/
structure Partial where
  /-- The bytes still owed, one at least. -/
  owed : Nat
  /-- The least value of the next byte. -/
  least : Nat
  /-- The greatest value of the next byte. -/
  greatest : Nat
  /-- The bits read so far. -/
  bits : Nat
  /-- The number of bytes read so far. -/
  seen : Nat
  deriving DecidableEq, Repr

/-- What a character's first byte begins, if it begins any. -/
def first? (b : Nat) : Option (Char ⊕ Partial) :=
  if b < 0x80 then some (.inl (Char.ofNat b))
  else if 0xC2 ≤ b ∧ b ≤ 0xDF then some (.inr ⟨1, 0x80, 0xBF, b % 0x20, 1⟩)
  else if b = 0xE0 then some (.inr ⟨2, 0xA0, 0xBF, 0, 1⟩)
  else if b = 0xED then some (.inr ⟨2, 0x80, 0x9F, 0xD, 1⟩)
  else if 0xE1 ≤ b ∧ b ≤ 0xEF then some (.inr ⟨2, 0x80, 0xBF, b % 0x10, 1⟩)
  else if b = 0xF0 then some (.inr ⟨3, 0x90, 0xBF, 0, 1⟩)
  else if 0xF1 ≤ b ∧ b ≤ 0xF3 then some (.inr ⟨3, 0x80, 0xBF, b % 8, 1⟩)
  else if b = 0xF4 then some (.inr ⟨3, 0x80, 0x8F, 4, 1⟩)
  else none

/-- The characters of `bytes`, the first of which starts at index `start`; `begun` is what has been
read of it already. -/
def decodeFrom (start : Nat) (begun : Option Partial) :
    List UInt8 → Except Malformed (List Char)
  | [] => if begun.isSome then .error ⟨start, none⟩ else .ok []
  | byte :: rest =>
    let b := byte.toNat
    match begun with
    | none =>
      match first? b with
      | none => .error ⟨start, some 1⟩
      | some (.inl c) => (decodeFrom (start + 1) none rest).map (c :: ·)
      | some (.inr p) => decodeFrom start (some p) rest
    | some p =>
      if p.least ≤ b ∧ b ≤ p.greatest then
        let bits := p.bits * 0x40 + b % 0x40
        if p.owed ≤ 1 then
          (decodeFrom (start + p.seen + 1) none rest).map (Char.ofNat bits :: ·)
        else
          decodeFrom start (some ⟨p.owed - 1, 0x80, 0xBF, bits, p.seen + 1⟩) rest
      else .error ⟨start, some p.seen⟩

/-- The text that a byte sequence writes in UTF-8. -/
def decode (bytes : List UInt8) : Except Malformed String :=
  (decodeFrom 0 none bytes).map String.ofList

end GoopOperator.Text.Utf8
