/-!
# Tables

A table holds values under names, at most one under each. Putting a value under a name forgets the
value that was there.
-/

namespace TensorGraph

structure Table (α : Type) where
  entries : List (String × α)
  deriving DecidableEq

namespace Table

variable {α : Type}

def empty : Table α := ⟨[]⟩

def size (t : Table α) : Nat := t.entries.length

def get? (t : Table α) (name : String) : Option α := t.entries.lookup name

/-- Puts a value under a name. -/
def insert (t : Table α) (name : String) (value : α) : Table α :=
  ⟨(name, value) :: t.entries.filter (·.1 ≠ name)⟩

@[simp] theorem get?_empty (name : String) : (empty : Table α).get? name = none := rfl

theorem get?_insert (t : Table α) (name other : String) (value : α) :
    (t.insert name value).get? other = if other = name then some value else t.get? other := by
  by_cases h : other = name
  · simp [get?, insert, h]
  · have hother : (other == name) = false := beq_eq_false_iff_ne.2 h
    simp only [get?, insert, List.lookup_cons, hother, if_neg h]
    induction t.entries with
    | nil => rfl
    | cons entry rest ih =>
      rw [List.filter_cons]
      split
      · rw [List.lookup_cons, List.lookup_cons, ih]
      · rename_i hkey
        have hne : (other == entry.1) = false := by
          have : entry.1 = name := by simpa using hkey
          rw [this]
          exact hother
        rw [ih, List.lookup_cons, hne]

theorem insert_insert (t : Table α) (name : String) (first second : α) :
    (t.insert name first).insert name second = t.insert name second := by
  simp [insert]

end Table

end TensorGraph
