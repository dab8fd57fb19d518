import GoopOperator.Text.Blank

/-!
# Image references

An image reference is a path with an optional tag and an optional digest,
`host:5000/name:tag@digest`. Only the last segment of the path can carry a tag.
-/

namespace GoopOperator.Image

/-- The last segment of the path of a reference, with its tag but without a digest. -/
def lastSegment (reference : List Char) : List Char :=
  (Text.pieces (· == '/') (reference.takeWhile (· ≠ '@'))).getLastD []

/-- The tag of a reference, if it names one. -/
def tag? (reference : String) : Option String :=
  match (lastSegment reference.toList).dropWhile (· ≠ ':') with
  | ':' :: c :: tag => some (String.ofList (c :: tag))
  | _ => none

end GoopOperator.Image
