import GoopOperator.Json.Basic

/-!
# Records in JSON

How the values of a resource are read. A record of the operator's own is an object, of which members
with unknown names are ignored and a known name may stand once only, or an array that holds the fields
in the order of their declaration. A record of the cluster's (`lastMember`) is an object only, in which
the last member of a name counts and `null` means absence.

Readers answer `none` for a value that is refused.
-/

namespace GoopOperator.Json

/-! ## Single values -/

/-- Reads a string. -/
def text? : Json → Option String
  | .str s => some s
  | _ => none

/-- Reads a truth value. -/
def bool? : Json → Option Bool
  | .bool b => some b
  | _ => none

/-- Reads an integer of at least `least` and less than `bound`. -/
def intWithin? (least bound : Int) : Json → Option Int
  | .int n => if least ≤ n ∧ n < bound then some n else none
  | _ => none

/-- Reads an integer of 32 bits. -/
def int32? (v : Json) : Option Int32 :=
  (intWithin? (-2147483648) 2147483648 v).map Int32.ofInt

/-- Reads an integer of 64 bits. -/
def int64? (v : Json) : Option Int64 :=
  (intWithin? (-9223372036854775808) 9223372036854775808 v).map Int64.ofInt

/-- Reads an array, each item by `item?`. -/
def list? (item? : Json → Option α) : Json → Option (List α)
  | .arr items => items.mapM item?
  | _ => none

/-- Reads a value for which `null` stands for absence. -/
def nullable? (read? : Json → Option α) : Json → Option (Option α)
  | .null => some none
  | v => (read? v).map some

/-- Reads one of some names, written as a string or as the only member of an object, with the value
`null`. -/
def oneOf? (names : List (String × α)) : Json → Option α
  | .str s => names.lookup s
  | .obj [(s, .null)] => names.lookup s
  | _ => none

/-! ## The fields of a record -/

/-- How one field of a record is written. -/
inductive Slot where
  /-- With this value. -/
  | written (value : Json)
  /-- Not at all, in an object. -/
  | missing
  /-- Not at all, in an array that ends before it. -/
  | cut
  deriving DecidableEq

/-- The fields of a record with the given names, one slot for each name. -/
def slots? (names : List String) : Json → Option (List Slot)
  | .obj members =>
    if names.all fun n => (members.filter (·.1 = n)).length ≤ 1 then
      some (names.map fun n => (members.lookup n).elim .missing .written)
    else none
  | .arr items =>
    if items.length ≤ names.length then
      some (items.map .written ++ List.replicate (names.length - items.length) .cut)
    else none
  | _ => none

namespace Slot

/-- Reads a field that has to be written. -/
def required? (read? : Json → Option α) : Slot → Option α
  | .written v => read? v
  | _ => none

/-- Reads a field that has a value where it is not written. -/
def defaulted? (otherwise : α) (read? : Json → Option α) : Slot → Option α
  | .written v => read? v
  | _ => some otherwise

/-- Reads a field that may be absent or `null` in an object; an array has to hold it. -/
def optional? (read? : Json → Option α) : Slot → Option (Option α)
  | .written v => nullable? read? v
  | .missing => some none
  | .cut => none

/-- Reads a field that may be absent or `null` in either form of the record. -/
def omittable? (read? : Json → Option α) : Slot → Option (Option α)
  | .written v => nullable? read? v
  | _ => some none

end Slot

/-! ## Objects of the cluster -/

/-- The members of an object. -/
def members? : Json → Option (List (String × Json))
  | .obj members => some members
  | _ => none

/-- The value of the last member of a name; absent where there is none or it is `null`. Every member
of the name has to be readable. -/
def lastMember? (members : List (String × Json)) (name : String) (read? : Json → Option α) :
    Option (Option α) :=
  members.foldlM (fun found m => if m.1 = name then nullable? read? m.2 else some found) none

end GoopOperator.Json
