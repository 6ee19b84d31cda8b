import Mathlib
import TensorGraph.Proofs.Shape.RowMajor
import TensorGraph.Tensor.PrintedByOffset

/-!
# Coordinates in order

All coordinates of a shape in row-major order are all coordinates in lexicographic order. The one at
place `k` has the offset `k`, and dividing `k` by the strides gives it back. Coordinates count from
0 here, and one more makes the index of an element.
-/

namespace TensorGraph.Proofs
open Shape

lemma mem_coordinates_iff (s : Shape) (w : List Nat) :
    w ∈ s.coordinates ↔ List.Forall₂ (· < ·) w s := by
  induction s generalizing w with
  | nil => simp [coordinates]
  | cons size inner ih =>
    simp only [coordinates, List.mem_flatMap, List.mem_range, List.mem_map, ih,
      List.forall₂_cons_right_iff]
    constructor
    · rintro ⟨i, hi, rest, hrest, rfl⟩
      exact ⟨i, rest, hi, hrest, rfl⟩
    · rintro ⟨i, rest, hi, hrest, rfl⟩
      exact ⟨i, hi, rest, hrest, rfl⟩

lemma length_coordinates (s : Shape) : s.coordinates.length = s.numElements := by
  induction s with
  | nil => rfl
  | cons size inner ih =>
    rw [coordinates, length_flatMap_of_forall _ (w := numElements inner), List.length_range]
    · rfl
    · intro i _
      rw [List.length_map, ih]

/-- The coordinates come in lexicographic order, and so none comes twice. -/
theorem pairwise_coordinates (s : Shape) : s.coordinates.Pairwise (· < ·) := by
  induction s with
  | nil => simp [coordinates]
  | cons size inner ih =>
    rw [coordinates, List.pairwise_flatMap]
    constructor
    · intro i _
      refine ih.map _ fun a b hab => ?_
      exact List.cons_lt_cons_iff.2 (.inr ⟨rfl, hab⟩)
    · refine List.pairwise_lt_range.imp fun hlt a ha b hb => ?_
      obtain ⟨_, -, rfl⟩ := List.mem_map.1 ha
      obtain ⟨_, -, rfl⟩ := List.mem_map.1 hb
      exact List.cons_lt_cons_iff.2 (.inl hlt)

/-- The first axis of the coordinate at a place is the number of its block, the rest the place in
the block. -/
lemma getElem?_coordinates_cons {size : Nat} {inner : Shape} {k : Nat}
    (h : k < numElements (size :: inner)) :
    (coordinates (size :: inner))[k]? =
      inner.coordinates[k % inner.numElements]?.map (k / inner.numElements :: ·) := by
  obtain ⟨hpos, hblock⟩ := block_of_lt_numElements h
  have hlength : ∀ i ∈ List.range size,
      (inner.coordinates.map (i :: ·)).length = numElements inner := by
    intro i _
    rw [List.length_map, length_coordinates]
  have hsplit : k = k / numElements inner * numElements inner + k % numElements inner :=
    (Nat.div_add_mod' k _).symm
  conv_lhs => rw [hsplit]
  rw [coordinates, getElem?_flatMap _ hlength _ (Nat.mod_lt k hpos), List.getElem?_range hblock,
    Option.bind_some, List.getElem?_map]

/-- The coordinate at place `k` is the index with the offset `k`. -/
theorem covers_of_getElem?_coordinates {s : Shape} {k : Nat} {w : List Nat}
    (h : s.coordinates[k]? = some w) :
    Covers s (w.map (· + 1)) ∧ (accumulate ((w.map (· + 1)).zip s)).1 = k := by
  induction s generalizing k w with
  | nil =>
    have hk : k < 1 := (List.getElem?_eq_some_iff.1 h).1
    rw [Nat.lt_one_iff.1 hk] at h ⊢
    cases h
    exact ⟨.nil, rfl⟩
  | cons size inner ih =>
    have hk : k < numElements (size :: inner) := by
      rw [← length_coordinates]
      exact (List.getElem?_eq_some_iff.1 h).1
    rw [getElem?_coordinates_cons hk] at h
    obtain ⟨rest, hrest, rfl⟩ := Option.map_eq_some_iff.1 h
    obtain ⟨hcovers, hoffset⟩ := ih hrest
    refine ⟨.cons ⟨Nat.le_add_left 1 _, (block_of_lt_numElements hk).2⟩ hcovers, ?_⟩
    rw [List.map_cons, accumulate_cons hcovers.length_eq, hoffset, Nat.add_sub_cancel,
      Nat.div_add_mod']

/-! ### Coordinates from numbers -/

lemma outwardStrides_cons (size : Nat) (inner : Shape) :
    outwardStrides (size :: inner) = strides (size :: inner) := by
  induction inner generalizing size with
  | nil => rfl
  | cons next inner ih =>
    have hfound : outwardStrides (size :: next :: inner) =
        (outwardStrides (next :: inner)).headD 1 * next :: outwardStrides (next :: inner) := rfl
    rw [hfound, ih]
    exact congrArg (· :: strides (next :: inner)) (Nat.mul_comm _ _)

/-- No stride that is divided by is zero, and the quotients are the coordinate. -/
theorem coordinate?_strides {s : Shape} {k : Nat} (h : k < s.numElements) :
    coordinate? s.strides k = s.coordinates[k]? := by
  induction s generalizing k with
  | nil =>
    rw [Nat.lt_one_iff.1 h]
    rfl
  | cons size inner ih =>
    obtain ⟨hpos, -⟩ := block_of_lt_numElements h
    rw [strides, coordinate?, if_neg hpos.ne', ih (Nat.mod_lt k hpos), getElem?_coordinates_cons h]

/-! ### Axes that stand before others -/

lemma numElements_append (s u : Shape) : numElements (s ++ u) = s.numElements * u.numElements := by
  induction s with
  | nil => exact (Nat.one_mul _).symm
  | cons size inner ih =>
    have hcons : numElements (size :: inner ++ u) = size * numElements (inner ++ u) := rfl
    rw [hcons, ih]
    exact (Nat.mul_assoc _ _ _).symm

lemma Covers.append {s u : Shape} {a b : List Nat} (ha : Covers s a) (hb : Covers u b) :
    Covers (s ++ u) (a ++ b) := List.rel_append ha hb

/-- The outer coordinates count blocks of as many elements as the inner axes have. -/
theorem accumulate_append {s u : Shape} {a b : List Nat} (ha : Covers s a) (hb : Covers u b) :
    (accumulate ((a ++ b).zip (s ++ u))).1 =
      (accumulate (a.zip s)).1 * u.numElements + (accumulate (b.zip u)).1 := by
  induction ha with
  | nil => simp [accumulate]
  | @cons v size rest inner hv hrest ih =>
    have hlength : (rest ++ b).length = (inner ++ u).length := (Covers.append hrest hb).length_eq
    rw [List.cons_append, List.cons_append, accumulate_cons hlength, ih,
      accumulate_cons hrest.length_eq, numElements_append, Nat.add_mul, Nat.mul_assoc,
      Nat.add_assoc]

end TensorGraph.Proofs
