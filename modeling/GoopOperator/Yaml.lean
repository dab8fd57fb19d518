import GoopOperator.Json.Printer

/-!
# YAML

Writes a value as a YAML block: a member to a line, two spaces deeper for an object in it, and a hyphen
before each item of a list, which stands as deep as the name of the list. Texts stand without quotes
unless they would read as something else. The texts of a manifest have no line breaks, and no colon or
number sign next to a space, so these need no quotes either.
-/

namespace GoopOperator.Yaml

/-- The words that stand for something other than themselves. -/
def reserved : List String :=
  ["", "~", "null", "true", "false", "yes", "no", "on", "off", "y", "n"]

/-- A text on one line. -/
def textScalar (s : String) : String :=
  if reserved.contains s.toLower then "'" ++ s ++ "'" else s

/-- A value that stands on one line, if the value is one. -/
def scalar? : Json → Option String
  | .arr [] => some "[]"
  | .obj [] => some "\x7b\x7d"
  | .arr _ | .obj _ => none
  | .str s => some (textScalar s)
  | v => some v.compact

/-- Puts a hyphen before the first of some lines, and spaces before the others. -/
def hyphenated : List String → List String
  | [] => []
  | line :: rest => ("- " ++ line) :: rest.map ("  " ++ ·)

mutual

/-- The lines of a value. -/
def lines : Json → List String
  | .obj (m :: rest) => memberLines (m :: rest)
  | .arr (v :: rest) => itemLines (v :: rest)
  | v => (scalar? v).toList

/-- The lines of the members of an object. -/
def memberLines : List (String × Json) → List String
  | [] => []
  | (name, v) :: rest =>
    (match v with
      | .obj (m :: ms) => (name ++ ":") :: (memberLines (m :: ms)).map ("  " ++ ·)
      | .arr (x :: xs) => (name ++ ":") :: itemLines (x :: xs)
      | v => (scalar? v).toList.map fun s => name ++ ": " ++ s) ++ memberLines rest

/-- The lines of the items of a list. -/
def itemLines : List Json → List String
  | [] => []
  | v :: rest => hyphenated (lines v) ++ itemLines rest

end

/-- The text of a value, every line ended. -/
def text (v : Json) : String := String.join ((lines v).map (· ++ "\n"))

end GoopOperator.Yaml
