/-!
# Request targets

A request names its object by a path, which a question mark ends, and a query. Names are put into a
path as they are, so a target is checked before it is sent: some characters may not stand in it, it
may not be too long, and a number sign ends it.
-/

namespace GoopOperator.Api

/-- Why a target cannot be sent. -/
inductive TargetError where
  /-- A character may not stand where it does. -/
  | invalidCharacter
  /-- The target is too long. -/
  | tooLong
  deriving DecidableEq

/-- The wording of each error. -/
def TargetError.message : TargetError → String
  | .invalidCharacter => "invalid uri character"
  | .tooLong => "uri too long"

/-- The greatest number of bytes of a target. -/
def maxTargetBytes : Nat := 65534

/-- Whether a character may stand in a query. -/
def inQuery (c : Char) : Bool :=
  let n := c.toNat
  n = 0x21 || (0x24 ≤ n && n ≤ 0x3B) || n = 0x3D || 0x3F ≤ n

/-- Whether a character may stand in a path. -/
def inPath (c : Char) : Bool :=
  c = '"' || (inQuery c && c ≠ '?' && c ≠ '\x60')

/-- The target from a place in its query on, up to a number sign. -/
def sendQuery : List Char → Except TargetError (List Char)
  | [] => .ok []
  | '#' :: _ => .ok []
  | c :: rest => if inQuery c then (sendQuery rest).map (c :: ·) else .error .invalidCharacter

/-- The target from a place in its path on, up to a number sign. -/
def sendPath : List Char → Except TargetError (List Char)
  | [] => .ok []
  | '#' :: _ => .ok []
  | '?' :: rest => (sendQuery rest).map ('?' :: ·)
  | c :: rest => if inPath c then (sendPath rest).map (c :: ·) else .error .invalidCharacter

/-- The target as it is sent. -/
def sendTarget (target : String) : Except TargetError String :=
  if maxTargetBytes < target.utf8ByteSize then .error .tooLong
  else (sendPath target.toList).map String.ofList

end GoopOperator.Api
