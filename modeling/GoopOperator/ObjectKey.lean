import GoopOperator.Text.Blank
import GoopOperator.Text.Quoted

/-!
# Object keys

The namespaced identity of a `Goop` and of the workload it owns. A key is shown as
`namespace/name`; `ofText` reads that form back, and accepts no text in which the slash is missing,
repeated, first or last.
-/

namespace GoopOperator

/-- A namespace and a name in it. -/
structure ObjectKey where
  /-- The namespace. -/
  ns : String
  /-- The name. -/
  name : String
  deriving DecidableEq

/-- Why there is no key. -/
inductive KeyError where
  /-- The text does not have the form of a key. -/
  | invalid (text : String)
  /-- The object of this name has no namespace. -/
  | missingNamespace (name : String)
  deriving DecidableEq

/-- The wording of each error. -/
def KeyError.message : KeyError → String
  | .invalid text => "invalid object key " ++ Text.quoted text ++ " (expect <namespace>/<name>)"
  | .missingNamespace name => "object " ++ name ++ " has no namespace; Goop is namespaced"

namespace ObjectKey

/-- The text of a key. -/
def toText (k : ObjectKey) : String := k.ns ++ "/" ++ k.name

instance : ToString ObjectKey := ⟨toText⟩

/-- Reads a key: two texts without a slash, neither of them empty, and one slash between them. -/
def ofText (text : String) : Except KeyError ObjectKey :=
  match Text.pieces (· == '/') text.toList with
  | [c :: ns, d :: name] => .ok ⟨String.ofList (c :: ns), String.ofList (d :: name)⟩
  | _ => .error (.invalid text)

/-- The order of keys: by namespace, then by name, code point by code point. -/
def before (a b : ObjectKey) : Bool :=
  a.ns < b.ns ∨ (a.ns = b.ns ∧ a.name < b.name)

/-- The keys in their order. -/
def sort (keys : List ObjectKey) : List ObjectKey :=
  keys.mergeSort fun a b => !b.before a

end ObjectKey

end GoopOperator
