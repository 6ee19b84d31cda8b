import Mathlib
import TensorGraph.Proofs.Tensor.Lookup
import TensorGraph.Tensor.Column

/-!
# The extent of a tensor

The shape of a tensor and its data come from two walks through the literal and are put side by side
unchecked. They fit all the same: the sizes of the axes multiply to the number of elements, which is
the number of leaves, and the data are of the type that the tensor says.
-/

namespace TensorGraph.Proofs
open Literal Tensor

/-- Only the last axis can be empty: a sequence that has items goes on in them. -/
lemma ne_zero_of_mem_dropLast {l : Literal} {s : Shape} (h : l.HasShape s) :
    ∀ size ∈ s.dropLast, size ≠ 0 := by
  induction h with
  | scalar x => simp
  | empty => simp
  | sequence items inner nonempty agree ih =>
    intro size hsize
    obtain ⟨item, hitem⟩ := List.exists_mem_of_ne_nil items nonempty
    cases inner with
    | nil => simp at hsize
    | cons next inner =>
      rw [List.dropLast_cons_cons, List.mem_cons] at hsize
      rcases hsize with rfl | hinner
      · exact mt List.length_eq_zero_iff.1 nonempty
      · exact ih item hitem size hinner

/-! ### Data under a tag -/

lemma type_column (t : Tensor) : t.column.type = t.type := by
  obtain ⟨type, s, data⟩ := t
  cases type <;> rfl

lemma length_column (t : Tensor) : t.column.length = t.numElements := by
  obtain ⟨type, s, data⟩ := t
  cases type <;> rfl

lemma at?_column (t : Tensor) (offset : Nat) : t.column.at? offset = t.at? offset := by
  obtain ⟨type, s, data⟩ := t
  cases type <;> rfl

lemma ofLeaves_eq_ok (t : Tensor) {leaves : List Scalar}
    (h : t.type.storeAll 0 leaves = .ok t.data) :
    Column.ofLeaves leaves t.type = .ok t.column := by
  obtain ⟨type, s, data⟩ := t
  cases type <;> simp only [Column.ofLeaves, h] <;> rfl

lemma isSome_at?_iff (t : Tensor) (offset : Nat) :
    (t.at? offset).isSome = true ↔ offset < t.numElements := by
  rw [Tensor.at?, Option.isSome_map, isSome_getElem?]
  exact Iff.rfl

/-- How the shape of a tensor, its data and the leaves that it was built from fit together. -/
structure Fitting (literal : Literal) (t : Tensor) : Prop where
  leaves : literal.leaves.length = t.numElements
  sizes : t.shape.prod = t.numElements
  scalar : t.shape = [] → t.numElements = 1
  stored : Column.ofLeaves literal.leaves t.type = .ok t.column
  type : t.column.type = t.type
  length : t.column.length = t.numElements
  element : ∀ offset, t.column.at? offset = t.at? offset
  found : ∀ offset, (t.column.at? offset).isSome = true ↔ offset < t.numElements
  axes : ∀ size ∈ t.shape.dropLast, size ≠ 0

/-- The parts of every tensor that is built from a literal fit together. -/
theorem fitting_ofLiteral {literal : Literal} {type? : Option ElementType} {t : Tensor}
    (h : ofLiteral literal type? = .ok t) : Fitting literal t := by
  obtain ⟨hshape, -, -, hdata⟩ := ofLiteral_eq_ok h
  have hsizes : t.shape.prod = t.numElements := (length_data h).symm
  constructor
  case leaves => exact hdata.length_eq
  case sizes => exact hsizes
  case scalar =>
    intro hscalar
    rw [← hsizes, hscalar, List.prod_nil]
  case stored => exact ofLeaves_eq_ok t (storeAll_eq_ok_iff.2 hdata)
  case type => exact type_column t
  case length => exact length_column t
  case element => exact at?_column t
  case found =>
    intro offset
    rw [at?_column, isSome_at?_iff]
  case axes => exact ne_zero_of_mem_dropLast hshape

/-- Two rows of three empty sequences. -/
def emptyCells : Literal :=
  .sequence (List.replicate 2 (.sequence (List.replicate 3 (.sequence []))))

theorem fitting_emptyCells : ∃ t, ofLiteral emptyCells (some .string) = .ok t ∧
    t.shape = [2, 3, 0] ∧ t.column = .string [] ∧ Fitting emptyCells t := by
  obtain ⟨t, ht, hshape, hcolumn⟩ : ∃ t, ofLiteral emptyCells (some .string) = .ok t ∧
      t.shape = [2, 3, 0] ∧ t.column = .string [] := ⟨_, rfl, rfl, rfl⟩
  exact ⟨t, ht, hshape, hcolumn, fitting_ofLiteral ht⟩

end TensorGraph.Proofs
