import GoopOperator.Json.Token

/-!
# Reading JSON

The tokens of a text are read by one step each, on a stack of the arrays and objects that are open.
Any depth of nesting is read; nothing but one value may stand in the text.
-/

namespace GoopOperator.Json

/-- An array or object that is open, with what stands in it already, the last one first. -/
inductive Frame where
  /-- An array. -/
  | items (reversed : List Json)
  /-- An object, with the name of the member that is being read. A name is `none` where its escapes
  do not write a text. -/
  | members (reversed : List (Option String × Json)) (name : Option String)

/-- What may come next. -/
inductive Place where
  /-- A value. -/
  | value
  /-- The first item of an array, or its end. -/
  | firstItem
  /-- The first member's name of an object (given by what stands around it), or its end. -/
  | firstName
  /-- A member's name, after those read already. -/
  | name (reversed : List (Option String × Json))
  /-- The colon after a member's name. -/
  | colon (reversed : List (Option String × Json)) (name : Option String)
  /-- A comma or the end, in the array or object on top of the stack. -/
  | next
  /-- Nothing: the value is complete. -/
  | nothing (value : Json)

/-- A value of which the first tokens have been read. -/
structure Reading where
  /-- The arrays and objects that are open, the innermost first. -/
  stack : List Frame
  /-- What may come next. -/
  place : Place

/-- The object with the given members, if all their names are texts. -/
def object (members : List (Option String × Json)) : Json :=
  match members.mapM fun (name, v) => name.map fun n => (n, v) with
  | some readable => .obj readable
  | none => .unreadable

/-- The reading after a complete value. -/
def complete (value : Json) : List Frame → Reading
  | [] => ⟨[], .nothing value⟩
  | .items done :: outer => ⟨.items (value :: done) :: outer, .next⟩
  | .members done name :: outer => ⟨.members ((name, value) :: done) none :: outer, .next⟩

/-- Reads a token where a value has to begin. -/
def Reading.value? (stack : List Frame) : Token → Option Reading
  | .scalar value => some (complete value stack)
  | .string (some text) => some (complete (.str text) stack)
  | .string none => some (complete .unreadable stack)
  | .mark '[' => some ⟨.items [] :: stack, .firstItem⟩
  | .mark '\x7b' => some ⟨stack, .firstName⟩
  | .mark _ => none

/-- Reads one token. -/
def Reading.step (r : Reading) (t : Token) : Option Reading :=
  match r.place, t, r.stack with
  | .value, t, stack => Reading.value? stack t
  -- an array is on the stack from its bracket on, an object from a colon to what ends the member
  | .firstItem, .mark ']', .items _ :: outer => some (complete (.arr []) outer)
  | .firstItem, t, stack => Reading.value? stack t
  | .firstName, .mark '\x7d', stack => some (complete (.obj []) stack)
  | .firstName, .string name, stack => some ⟨stack, .colon [] name⟩
  | .name done, .string name, stack => some ⟨stack, .colon done name⟩
  | .colon done name, .mark ':', stack => some ⟨.members done name :: stack, .value⟩
  | .next, .mark ',', .items done :: outer => some ⟨.items done :: outer, .value⟩
  | .next, .mark ']', .items done :: outer => some (complete (.arr done.reverse) outer)
  | .next, .mark ',', .members done _ :: outer => some ⟨outer, .name done⟩
  | .next, .mark '\x7d', .members done _ :: outer => some (complete (object done.reverse) outer)
  | _, _, _ => none

/-- The value that a list of tokens writes. -/
def ofTokens? (ts : List Token) : Option Json := do
  match (← ts.foldlM Reading.step ⟨[], .value⟩).place with
  | .nothing value => some value
  | _ => none

/-- The value that a text writes, if it is a JSON text. The depth of nesting has no bound here, where a
reader with one, of 127 levels say, refuses a deeper text that it does not skip. Of all that the operator
reads and keeps, only the field sets of managed fields may be nested so deep. -/
def parse? (text : String) : Option Json :=
  tokens? text.toList >>= ofTokens?

end GoopOperator.Json
