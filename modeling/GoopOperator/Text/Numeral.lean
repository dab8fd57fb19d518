/-!
# Decimal numerals in settings and options

A numeral is a run of ASCII digits, with one plus sign before it if wanted, whose value is at most a
given limit. The first character that goes wrong decides the error.
-/

namespace GoopOperator.Text

/-- Why a text is no numeral below a limit. -/
inductive NumeralError where
  /-- There is nothing to read. -/
  | empty
  /-- A character is no digit. -/
  | invalidDigit
  /-- The value passes the limit. -/
  | tooLarge
  deriving DecidableEq, Repr

/-- The wording of each error. -/
def NumeralError.message : NumeralError → String
  | .empty => "cannot parse integer from empty string"
  | .invalidDigit => "invalid digit found in string"
  | .tooLarge => "number too large to fit in target type"

/-- The greatest number of seconds that a setting can hold. -/
def maxWord : Nat := 18446744073709551615

/-- Reads digits after those that gave `value`. -/
def readDigits (limit : Nat) : Nat → List Char → Except NumeralError Nat
  | value, [] => .ok value
  | value, c :: rest =>
    if c.isDigit then
      let next := value * 10 + (c.toNat - '0'.toNat)
      if next ≤ limit then readDigits limit next rest else .error .tooLarge
    else .error .invalidDigit

/-- The value of a numeral that is at most `limit`. -/
def readNumeral (limit : Nat) (text : String) : Except NumeralError Nat :=
  match text.toList with
  | [] => .error .empty
  | ['+'] => .error .invalidDigit
  | '+' :: digits => readDigits limit 0 digits
  | digits => readDigits limit 0 digits

end GoopOperator.Text
