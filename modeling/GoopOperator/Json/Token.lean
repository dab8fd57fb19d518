import GoopOperator.Json.Basic

/-!
# The tokens of a JSON text

A JSON text is cut into tokens by one step per character: `Scan` is what the characters so far have
begun, `Scan.step` reads one more. Numbers and words take the longest run of the characters that they
are made of, and are checked as a whole when it ends. A string collects its text; one that escapes
half of a surrogate pair becomes a token without text.
-/

namespace GoopOperator.Json

/-- A token. -/
inductive Token where
  /-- One of the six structural characters. -/
  | mark (c : Char)
  /-- The literal `null`, a truth value or a number. -/
  | scalar (value : Json)
  /-- A string; `none` where its escapes do not write a text. -/
  | string (text : Option String)

/-- A number that is no integer, after its whole part: a fraction, an exponent, or both. -/
def isFractional : List Char → Bool
  | '.' :: rest =>
    let tail := rest.dropWhile Char.isDigit
    rest.head?.any Char.isDigit && (tail.isEmpty || isExponent tail)
  | rest => isExponent rest
where
  /-- An exponent: its letter, a sign if wanted, and digits. -/
  isExponent : List Char → Bool
    | e :: rest =>
      let digits := match rest with
        | '+' :: ds => ds
        | '-' :: ds => ds
        | ds => ds
      (e == 'e' || e == 'E') && !digits.isEmpty && digits.all Char.isDigit
    | [] => false

/-- The number that a run of digits, signs, points and exponent letters writes, if it is one. -/
def number? (run : List Char) : Option Json :=
  let negative := run.head? == some '-'
  let body := if negative then run.drop 1 else run
  let whole := body.takeWhile Char.isDigit
  let tail := body.dropWhile Char.isDigit
  if whole = [] ∨ (whole.head? = some '0' ∧ whole ≠ ['0']) then none
  else if tail.isEmpty then
    -- the integers have one zero only
    if negative ∧ whole = ['0'] then some (.real (String.ofList run))
    else
      let n : Int := Nat.ofDigitChars 10 whole 0
      some (.int (if negative then -n else n))
  else if isFractional tail then some (.real (String.ofList run))
  else none

/-- The literal that a run of small letters writes, if it is one. -/
def word? (run : List Char) : Option Json :=
  if run = ['t', 'r', 'u', 'e'] then some (.bool true)
  else if run = ['f', 'a', 'l', 's', 'e'] then some (.bool false)
  else if run = ['n', 'u', 'l', 'l'] then some .null
  else none

/-- The text of a string of which the first characters have been read. -/
structure Quote where
  /-- The characters read, the last one first. -/
  reversed : List Char
  /-- The first half of a surrogate pair whose second half has to come next. -/
  half : Option Nat
  /-- Whether the escapes write a text so far. -/
  readable : Bool

/-- A string of which nothing has been read. -/
def Quote.opened : Quote := ⟨[], none, true⟩

/-- The string with one more character. -/
def Quote.push (q : Quote) (c : Char) : Quote :=
  ⟨c :: q.reversed, none, q.readable && q.half.isNone⟩

/-- The string with one more escaped UTF-16 unit. -/
def Quote.pushUnit (q : Quote) (u : Nat) : Quote :=
  let isHigh := 0xD800 ≤ u && u ≤ 0xDBFF
  let isLow := 0xDC00 ≤ u && u ≤ 0xDFFF
  match q.half with
  | some h =>
    if isLow then
      -- each half carries ten bits of what the character is above 0x10000
      ⟨Char.ofNat (0x10000 + (h - 0xD800) * 0x400 + (u - 0xDC00)) :: q.reversed, none, q.readable⟩
    else ⟨q.reversed, if isHigh then some u else none, false⟩
  | none =>
    if isHigh then ⟨q.reversed, some u, q.readable⟩
    else if isLow then ⟨q.reversed, none, false⟩
    else ⟨Char.ofNat u :: q.reversed, none, q.readable⟩

/-- The token of a string that ends here. -/
def Quote.token (q : Quote) : Token :=
  .string (if q.readable ∧ q.half = none then some (String.ofList q.reversed.reverse) else none)

/-- What the characters read so far have begun. -/
inductive Scan where
  /-- Nothing. -/
  | between
  /-- A run of small letters, the last one first. -/
  | word (reversed : List Char)
  /-- A run of the characters of numbers, the last one first. -/
  | number (reversed : List Char)
  /-- A string. -/
  | string (q : Quote)
  /-- An escape in a string. -/
  | escape (q : Quote)
  /-- A numbered escape in a string: the value of the digits read and how many are to come. -/
  | unit (q : Quote) (value owed : Nat)

/-- Whether a number can go on with this character. -/
def isNumeric (c : Char) : Bool :=
  c.isDigit || c == '-' || c == '+' || c == '.' || c == 'e' || c == 'E'

/-- The value of a hexadecimal digit of either case. -/
def hexValue? (c : Char) : Option Nat :=
  if c.isDigit then some (c.toNat - '0'.toNat)
  else if 'a' ≤ c ∧ c ≤ 'f' then some (c.toNat - 'a'.toNat + 10)
  else if 'A' ≤ c ∧ c ≤ 'F' then some (c.toNat - 'A'.toNat + 10)
  else none

/-- The character that a one-letter escape writes. -/
def shortEscape? (c : Char) : Option Char :=
  match c with
  | '"' => some '"'
  | '\\' => some '\\'
  | '/' => some '/'
  | 'b' => some (Char.ofNat 8)
  | 'f' => some (Char.ofNat 12)
  | 'n' => some '\n'
  | 'r' => some '\r'
  | 't' => some '\t'
  | _ => none

/-- Reads one character where nothing has been begun. -/
def begin? (c : Char) : Option (List Token × Scan) :=
  if c = ' ' ∨ c = '\t' ∨ c = '\n' ∨ c = '\r' then some ([], .between)
  else if c = '\x7b' ∨ c = '\x7d' ∨ c = '[' ∨ c = ']' ∨ c = ',' ∨ c = ':' then
    some ([.mark c], .between)
  else if c = '"' then some ([], .string .opened)
  else if c.isDigit ∨ c = '-' then some ([], .number [c])
  else if c.isLower then some ([], .word [c])
  else none

/-- Reads one character after a run that may end here. -/
def afterRun? (ended : Option Json) (c : Char) : Option (List Token × Scan) := do
  let value ← ended
  let (tokens, scan) ← begin? c
  return (.scalar value :: tokens, scan)

/-- Reads one character: the tokens that it ends, and what has been begun after it. -/
def Scan.step (scan : Scan) (c : Char) : Option (List Token × Scan) :=
  match scan with
  | .between => begin? c
  | .word run =>
    if c.isLower then some ([], .word (c :: run)) else afterRun? (word? run.reverse) c
  | .number run =>
    if isNumeric c then some ([], .number (c :: run)) else afterRun? (number? run.reverse) c
  | .string q =>
    if c = '"' then some ([q.token], .between)
    else if c = '\\' then some ([], .escape q)
    else if c.toNat < 0x20 then none
    else some ([], .string (q.push c))
  | .escape q =>
    if c = 'u' then some ([], .unit q 0 4)
    else (shortEscape? c).map fun x => ([], .string (q.push x))
  | .unit q value owed =>
    (hexValue? c).map fun d =>
      let value := value * 16 + d
      if owed ≤ 1 then ([], .string (q.pushUnit value)) else ([], .unit q value (owed - 1))

/-- The tokens that the end of the text ends. -/
def Scan.finish : Scan → Option (List Token)
  | .between => some []
  | .word run => (word? run.reverse).map fun v => [.scalar v]
  | .number run => (number? run.reverse).map fun v => [.scalar v]
  | _ => none

/-- One step of the cut, on the tokens found (the last one first) and what has been begun. -/
def cutStep (state : List Token × Scan) (c : Char) : Option (List Token × Scan) :=
  (state.2.step c).map fun (tokens, scan) => (tokens.reverse ++ state.1, scan)

/-- The tokens of a text. -/
def tokens? (cs : List Char) : Option (List Token) := do
  let (found, scan) ← cs.foldlM cutStep ([], .between)
  let last ← scan.finish
  return found.reverse ++ last

end GoopOperator.Json
