import Mathlib
import TensorGraph.Proofs.Literal.Regular

/-!
# Row-major order

The offset of an index inside a shape is below the number of elements, and the leaf of a regular
literal at that offset is the one reached by descending along the index. Descending is by
position, so each coordinate, which counts from 1, is taken down by one.
-/

namespace TensorGraph.Proofs
open Literal Shape

/-- The index has one coordinate for each axis, and each lies within the size of its axis. -/
def Covers (s : Shape) (index : List Nat) : Prop :=
  List.Forall₂ (fun value size => 1 ≤ value ∧ value ≤ size) index s

instance (s : Shape) (index : List Nat) : Decidable (Covers s index) :=
  inferInstanceAs (Decidable (List.Forall₂ _ _ _))

lemma covers_iff (s : Shape) (index : List Nat) : Covers s index ↔
    index.length = s.length ∧ ∀ pair ∈ index.zip s, 1 ≤ pair.1 ∧ pair.1 ≤ pair.2 := by
  rw [Covers, List.forall₂_iff_zip]
  simp only [Prod.forall]

lemma firstOutside_eq_none_iff (axis : Nat) (pairs : List (Nat × Nat)) :
    firstOutside axis pairs = none ↔ ∀ pair ∈ pairs, 1 ≤ pair.1 ∧ pair.1 ≤ pair.2 := by
  induction pairs generalizing axis with
  | nil => simp [firstOutside]
  | cons pair rest ih =>
    obtain ⟨value, size⟩ := pair
    rw [firstOutside, List.forall_mem_cons, ← ih (axis + 1)]
    split
    · simp only [reduceCtorEq, false_iff]
      omega
    · have hin : 1 ≤ value ∧ value ≤ size := by omega
      simp only [hin, true_and]

theorem offset_eq_ok_iff (s : Shape) (index : List Nat) (k : Nat) :
    s.offset index = .ok k ↔ Covers s index ∧ (accumulate (index.zip s)).1 = k := by
  rw [covers_iff, offset]
  by_cases hlen : index.length = s.length
  · rw [if_neg (not_not.2 hlen), ← firstOutside_eq_none_iff 0]
    cases h : firstOutside 0 (index.zip s) <;> simp [h, hlen]
  · simp [hlen]

lemma accumulate_snd (s : Shape) (index : List Nat) (h : index.length = s.length) :
    (accumulate (index.zip s)).2 = s.numElements := by
  induction s generalizing index with
  | nil => rw [List.zip_nil_right]; rfl
  | cons size inner ih =>
    obtain _ | ⟨value, rest⟩ := index
    · simp at h
    · rw [List.zip_cons_cons, accumulate]
      simp only [ih rest (by simpa using h)]
      exact Nat.mul_comm _ _

lemma accumulate_cons {value size : Nat} {inner : Shape} {rest : List Nat}
    (h : rest.length = inner.length) :
    (accumulate ((value :: rest).zip (size :: inner))).1 =
      (value - 1) * inner.numElements + (accumulate (rest.zip inner)).1 := by
  rw [List.zip_cons_cons, accumulate]
  simp only [accumulate_snd inner rest h]
  exact Nat.add_comm _ _

/-- In blocks of one width, all of an earlier block comes before a later one. -/
lemma block_lt {i j r w : Nat} (hi : i < j) (hr : r < w) : i * w + r < j * w := by
  calc i * w + r < i * w + w := Nat.add_lt_add_left hr _
    _ = (i + 1) * w := (Nat.succ_mul _ _).symm
    _ ≤ j * w := Nat.mul_le_mul_right _ hi

theorem accumulate_lt {s : Shape} {index : List Nat} (h : Covers s index) :
    (accumulate (index.zip s)).1 < s.numElements := by
  induction h with
  | nil => exact Nat.one_pos
  | @cons value size rest inner hv hrest ih =>
    rw [accumulate_cons hrest.length_eq]
    have hposition : value - 1 < size := by omega
    exact block_lt hposition ih

/-- An offset lies in one of the blocks that the outermost axis counts, and these are not empty. -/
lemma block_of_lt_numElements {size k : Nat} {inner : Shape} (h : k < numElements (size :: inner)) :
    0 < inner.numElements ∧ k / inner.numElements < size := by
  have hlt : k < size * numElements inner := h
  have hpos : 0 < numElements inner := Nat.pos_of_mul_pos_left (Nat.zero_lt_of_lt hlt)
  exact ⟨hpos, (Nat.div_lt_iff_lt_mul hpos).2 hlt⟩

/-- Every offset below the number of elements is the offset of an index. -/
theorem exists_covers_accumulate {s : Shape} {k : Nat} (h : k < s.numElements) :
    ∃ index, Covers s index ∧ (accumulate (index.zip s)).1 = k := by
  induction s generalizing k with
  | nil =>
    have hk : k = 0 := Nat.lt_one_iff.1 h
    exact ⟨[], .nil, hk.symm⟩
  | cons size inner ih =>
    obtain ⟨hpos, hsize⟩ := block_of_lt_numElements h
    obtain ⟨rest, hrest, hoffset⟩ := ih (Nat.mod_lt k hpos)
    refine ⟨(k / numElements inner + 1) :: rest, .cons ⟨Nat.le_add_left 1 _, hsize⟩ hrest, ?_⟩
    rw [accumulate_cons hrest.length_eq, hoffset, Nat.add_sub_cancel, Nat.mul_comm,
      Nat.div_add_mod]

/-- Blocks of one width: the item at `i * w + j` is item `j` of block `i`. -/
lemma getElem?_flatMap {α β : Type} {f : α → List β} {w : Nat} (items : List α)
    (h : ∀ x ∈ items, (f x).length = w) (i : Nat) {j : Nat} (hj : j < w) :
    (items.flatMap f)[i * w + j]? = items[i]?.bind fun x => (f x)[j]? := by
  induction items generalizing i with
  | nil => simp
  | cons x xs ih =>
    have hx := h x (by simp)
    rw [List.flatMap_cons]
    cases i with
    | zero =>
      rw [Nat.zero_mul, Nat.zero_add, List.getElem?_append_left (by omega)]
      rfl
    | succ i =>
      have hoff : (i + 1) * w + j - (f x).length = i * w + j := by
        rw [hx, Nat.succ_mul]
        omega
      rw [List.getElem?_append_right (by rw [hx, Nat.succ_mul]; omega), hoff,
        ih (fun y hy => h y (by simp [hy]))]
      rfl

/-- The leaf at the offset of a covered index is the one that the index leads to. -/
theorem leaves_getElem?_accumulate {l : Literal} {s : Shape} (hl : l.HasShape s)
    {index : List Nat} (h : Covers s index) :
    l.leaves[(accumulate (index.zip s)).1]? = l.at? (index.map (· - 1)) := by
  induction hl generalizing index with
  | scalar x =>
    cases h
    rfl
  | empty =>
    obtain _ | ⟨hv, -⟩ := h
    omega
  | sequence items inner hne agree ih =>
    obtain _ | @⟨value, _, rest, _, hv, hrest⟩ := h
    rw [accumulate_cons hrest.length_eq, Literal.leaves, leavesAll_eq_flatMap,
      getElem?_flatMap items (fun item hitem => length_leaves (agree item hitem)) _
        (accumulate_lt hrest), List.map_cons, Literal.at?]
    cases hitem : items[value - 1]? with
    | none => rfl
    | some item => exact ih item (List.mem_of_getElem? hitem) hrest

/-- The scalar that an index leads to in a tabulated literal is the one that was put there. -/
theorem at?_tabulate {s : Shape} {index : List Nat} (h : Covers s index)
    (f : List Nat → Scalar) :
    (tabulate s f).at? (index.map (· - 1)) = some (f (index.map (· - 1))) := by
  induction h generalizing f with
  | nil => rfl
  | @cons value size rest inner hv _ ih =>
    have hlt : value - 1 < size := by omega
    rw [tabulate, List.map_cons, Literal.at?, List.getElem?_map, List.getElem?_range hlt]
    exact ih fun path => f ((value - 1) :: path)

end TensorGraph.Proofs
