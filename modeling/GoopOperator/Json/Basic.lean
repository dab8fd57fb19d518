import GoopOperator.StringMap

/-!
# JSON values

A value as RFC 8259 writes it. The members of an object keep their order and their repetitions,
because a reader of a record has to see both. Integers are exact; any other number keeps the text
that wrote it, since no resource holds one.
-/

namespace GoopOperator

/-- A JSON value. -/
inductive Json where
  /-- The literal `null`. -/
  | null
  /-- A truth value. -/
  | bool (value : Bool)
  /-- A number written as an integer. -/
  | int (value : Int)
  /-- Any other number (one with a fraction, an exponent, or a minus sign before zero), as
  written. -/
  | real (literal : String)
  /-- A string. -/
  | str (text : String)
  /-- An array. -/
  | arr (items : List Json)
  /-- An object, with its members in order and repetitions kept. -/
  | obj (members : List (String × Json))
  /-- A string, or an object with a member name, that escapes half of a surrogate pair: well-formed
  JSON that stands for no text. It may stand where nobody looks at it. -/
  | unreadable

namespace Json

mutual

/-- Whether two values are the same. -/
def decEq : (a b : Json) → Decidable (a = b)
  | .null, .null => isTrue rfl
  | .bool a, .bool b => decidable_of_iff (a = b) (by simp)
  | .int a, .int b => decidable_of_iff (a = b) (by simp)
  | .real a, .real b => decidable_of_iff (a = b) (by simp)
  | .str a, .str b => decidable_of_iff (a = b) (by simp)
  | .arr a, .arr b =>
    match decEqItems a b with
    | isTrue h => isTrue (by rw [h])
    | isFalse h => isFalse (by simpa using h)
  | .obj a, .obj b =>
    match decEqMembers a b with
    | isTrue h => isTrue (by rw [h])
    | isFalse h => isFalse (by simpa using h)
  | .unreadable, .unreadable => isTrue rfl
  | .null, .bool _ | .null, .int _ | .null, .real _ | .null, .str _ | .null, .arr _
  | .null, .obj _ | .null, .unreadable
  | .bool _, .null | .bool _, .int _ | .bool _, .real _ | .bool _, .str _ | .bool _, .arr _
  | .bool _, .obj _ | .bool _, .unreadable
  | .int _, .null | .int _, .bool _ | .int _, .real _ | .int _, .str _ | .int _, .arr _
  | .int _, .obj _ | .int _, .unreadable
  | .real _, .null | .real _, .bool _ | .real _, .int _ | .real _, .str _ | .real _, .arr _
  | .real _, .obj _ | .real _, .unreadable
  | .str _, .null | .str _, .bool _ | .str _, .int _ | .str _, .real _ | .str _, .arr _
  | .str _, .obj _ | .str _, .unreadable
  | .arr _, .null | .arr _, .bool _ | .arr _, .int _ | .arr _, .real _ | .arr _, .str _
  | .arr _, .obj _ | .arr _, .unreadable
  | .obj _, .null | .obj _, .bool _ | .obj _, .int _ | .obj _, .real _ | .obj _, .str _
  | .obj _, .arr _ | .obj _, .unreadable
  | .unreadable, .null | .unreadable, .bool _ | .unreadable, .int _ | .unreadable, .real _
  | .unreadable, .str _ | .unreadable, .arr _ | .unreadable, .obj _ => isFalse (by simp)

/-- Whether two arrays hold the same items. -/
def decEqItems : (a b : List Json) → Decidable (a = b)
  | [], [] => isTrue rfl
  | [], _ :: _ | _ :: _, [] => isFalse (by simp)
  | a :: as, b :: bs =>
    match decEq a b, decEqItems as bs with
    | isTrue h, isTrue hs => isTrue (by rw [h, hs])
    | isFalse h, _ => isFalse (by simp [h])
    | _, isFalse hs => isFalse (by simp [hs])

/-- Whether two objects hold the same members. -/
def decEqMembers : (a b : List (String × Json)) → Decidable (a = b)
  | [], [] => isTrue rfl
  | [], _ :: _ | _ :: _, [] => isFalse (by simp)
  | (m, a) :: as, (n, b) :: bs =>
    match decEq a b, decEqMembers as bs with
    | isTrue h, isTrue hs => decidable_of_iff (m = n) (by simp [h, hs])
    | isFalse h, _ => isFalse (by simp [h])
    | _, isFalse hs => isFalse (by simp [hs])

end

instance : DecidableEq Json := decEq

/-- The member of an optional field: none where the field is absent. -/
def memberIfSome (name : String) (write : α → Json) : Option α → List (String × Json)
  | none => []
  | some x => [(name, write x)]

/-- An optional value, absence written `null`. -/
def orNull (write : α → Json) : Option α → Json
  | none => .null
  | some x => write x

/-- A list of texts. -/
def texts (xs : List String) : Json := .arr (xs.map .str)

/-! ## Canonical values -/

mutual

/-- The value with the members of every object in the order of their names, the last of several
members of one name alone kept. -/
def canonical : Json → Json
  | .arr items => .arr (canonicalItems items)
  | .obj members => .obj (canonicalMembers members [])
  | other => other

/-- The items of an array, each made canonical. -/
def canonicalItems : List Json → List Json
  | [] => []
  | v :: rest => canonical v :: canonicalItems rest

/-- The members of an object, made canonical and put among those of `sorted`. -/
def canonicalMembers : List (String × Json) → List (String × Json) → List (String × Json)
  | [], sorted => sorted
  | (name, v) :: rest, sorted => canonicalMembers rest (insertEntry name (canonical v) sorted)

end

end Json

end GoopOperator
