import GoopOperator.ObjectKey

/-!
# Tables of objects

What a store holds at each key. A table is given by what it answers, so that two tables with the same
answers are the same table.
-/

namespace GoopOperator

/-- What a store holds at each key. -/
structure Table (α : Type) where
  /-- The object at a key, if there is one. -/
  get? : ObjectKey → Option α

namespace Table

/-- Two tables with the same answers are the same. -/
@[ext] theorem ext {a b : Table α} (h : ∀ k, a.get? k = b.get? k) : a = b := by
  cases a; cases b; congr; funext k; exact h k

/-- The table without objects. -/
def empty : Table α := ⟨fun _ => none⟩

instance : EmptyCollection (Table α) := ⟨empty⟩

/-- The table with an object at a key, in place of what was there. -/
def insert (t : Table α) (key : ObjectKey) (x : α) : Table α :=
  ⟨fun k => if k = key then some x else t.get? k⟩

/-- The table without what was at a key. -/
def erase (t : Table α) (key : ObjectKey) : Table α :=
  ⟨fun k => if k = key then none else t.get? k⟩

/-- Whether there is an object at a key. -/
def contains (t : Table α) (key : ObjectKey) : Bool := (t.get? key).isSome

@[simp] theorem get?_empty (k : ObjectKey) : (∅ : Table α).get? k = none := rfl

@[simp] theorem get?_insert (t : Table α) (key k : ObjectKey) (x : α) :
    (t.insert key x).get? k = if k = key then some x else t.get? k := rfl

@[simp] theorem get?_erase (t : Table α) (key k : ObjectKey) :
    (t.erase key).get? k = if k = key then none else t.get? k := rfl

end Table

end GoopOperator
