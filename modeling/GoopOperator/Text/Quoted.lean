import GoopOperator.Text.Unseen

/-!
# Quoted text in messages

A message that repeats text it could not read puts it between double quotes, so that the reader sees
where it starts and ends. The quote and the backslash are escaped, the usual control characters have
their letters, and a character without a visible shape is named by its number.
-/

namespace GoopOperator.Text

/-- A character's number in lower-case hexadecimal digits, without leading zeros. -/
def hexNumber (n : Nat) : List Char :=
  Nat.toDigits 16 n

/-- How a quoted text shows one character. -/
def quotedChar (c : Char) : List Char :=
  match c with
  | '"' => ['\\', '"']
  | '\\' => ['\\', '\\']
  | '\t' => ['\\', 't']
  | '\n' => ['\\', 'n']
  | '\r' => ['\\', 'r']
  | c =>
    if c.toNat = 0 then ['\\', '0']
    else if isUnseen c then ['\\', 'u', '\x7b'] ++ hexNumber c.toNat ++ ['\x7d']
    else [c]

/-- A text between double quotes, every character shown as `quotedChar` says. -/
def quoted (text : String) : String :=
  String.ofList ('"' :: text.toList.flatMap quotedChar ++ ['"'])

end GoopOperator.Text
