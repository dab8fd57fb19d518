import GoopOperator.Condition

/-!
# The condition ledger

The status log of a `Goop`. Its last entry is the current lifecycle state. Recording a condition
(`set?`) renews the last entry of the condition's type where that has the same reason, and starts a
new entry otherwise; nothing is reordered or dropped.
-/

namespace GoopOperator

/-! ## Replacing the last of some entries -/

/-- The list with `x` in place of the last item that satisfies `p`. -/
def replaceLast (p : α → Bool) (x : α) : List α → List α
  | [] => []
  | a :: rest =>
    if rest.any p then a :: replaceLast p x rest else if p a then x :: rest else a :: rest

/-- The item that gives way is the last one that satisfies `p`. -/
theorem replaceLast_append_cons {p : α → Bool} {x a : α} (front : List α) {back : List α}
    (ha : p a = true) (hback : back.any p = false) :
    replaceLast p x (front ++ a :: back) = front ++ x :: back := by
  induction front with
  | nil => simp [replaceLast, ha, hback]
  | cons b front ih => simp [replaceLast, ha, ih]

/-- Replacing keeps the length. -/
theorem length_replaceLast (p : α → Bool) (x : α) (xs : List α) :
    (replaceLast p x xs).length = xs.length := by
  induction xs with
  | nil => rfl
  | cons a rest ih =>
    unfold replaceLast
    split
    · simp [ih]
    · split <;> simp

/-! ## The ledger -/

/-- The status log of a `Goop`. -/
structure Ledger where
  /-- The entries, in the order in which they were started. -/
  entries : List Condition
  deriving DecidableEq

namespace Ledger

/-- The ledger without entries. -/
def empty : Ledger := ⟨[]⟩

instance : EmptyCollection Ledger := ⟨empty⟩

/-- The number of entries. -/
def size (l : Ledger) : Nat := l.entries.length

/-- Whether nothing has been recorded. -/
def isInitial (l : Ledger) : Bool := l.entries.isEmpty

/-- The last entry: the current lifecycle state. -/
def current? (l : Ledger) : Option Condition := l.entries.getLast?

/-- The last entry of a type. -/
def latest? (l : Ledger) (type : ConditionType) : Option Condition :=
  l.entries.reverse.find? fun c => c.type = type

/-- Whether the current state has this reason. -/
def isState (l : Ledger) (reason : Reason) : Bool :=
  l.current?.any fun c => c.reason = reason

/-- Whether the current state has this reason and holds. -/
def isComplete (l : Ledger) (reason : Reason) : Bool :=
  l.current?.any fun c => c.reason = reason ∧ c.status = .yes

/-- Whether the current state has this reason and does not hold yet. -/
def isIncomplete (l : Ledger) (reason : Reason) : Bool :=
  l.current?.any fun c => c.reason = reason ∧ c.status ≠ .yes

/-- The reasons of the entries, in their order. -/
def reasons (l : Ledger) : List Reason := l.entries.map (·.reason)

/-- The current state is complete or incomplete. -/
theorem isState_eq (l : Ledger) (reason : Reason) :
    l.isState reason = (l.isComplete reason || l.isIncomplete reason) := by
  unfold isState isComplete isIncomplete
  cases l.current? with
  | none => rfl
  | some c => by_cases hr : c.reason = reason <;> by_cases hs : c.status = .yes <;> simp [hr, hs]

/-- The entry that replaces `old` where `c`, of the same type and reason, is recorded at time `now`:
the time changes with the status, or where there is none yet. -/
def renewed (old c : Condition) (now : String) : Condition :=
  { old with
    status := c.status
    message := c.message
    lastTransition :=
      if old.status ≠ c.status ∨ old.lastTransition = none then some now else old.lastTransition }

/-- The ledger with a new entry. -/
def push (l : Ledger) (c : Condition) (now : String) : Ledger :=
  ⟨l.entries ++ [{ c with lastTransition := some now }]⟩

/-- The ledger after `c` is recorded at time `now`; none where it already says exactly this. -/
def set? (l : Ledger) (c : Condition) (now : String) : Option Ledger :=
  match l.latest? c.type with
  | some old =>
    if old.reason ≠ c.reason then some (l.push c now)
    else if old.status = c.status ∧ old.message = c.message then none
    else some ⟨replaceLast (·.type = c.type) (renewed old c now) l.entries⟩
  | none => some (l.push c now)

/-- Writes a ledger. -/
def toJson (l : Ledger) : Json := .arr (l.entries.map Condition.toJson)

/-- Reads a ledger. -/
def ofJson? (v : Json) : Option Ledger :=
  (Json.list? Condition.ofJson? v).map .mk

end Ledger

end GoopOperator
