import Mathlib
import TensorGraph.Proofs.Shape.Coordinates

/-!
# Slabs of printed tensors

A tensor is cut into matrices, one for each coordinate of the axes before the last two. Matrix
number `k` stands under coordinate number `k`, and the offset of an index tells the place of its
element in the matrix. So all elements, in order, are those of all matrices, row after row.
-/

namespace TensorGraph.Proofs
open Shape

/-! ### Pieces of one size -/

section Pieces

variable {α : Type} {size count : Nat} {xs : List α}

lemma length_take_drop {start : Nat} (h : start + size ≤ xs.length) :
    ((xs.drop start).take size).length = size := by
  rw [List.length_take_of_le]
  rw [List.length_drop]
  omega

lemma getElem?_of_take_drop {start j : Nat} {x : α}
    (h : ((xs.drop start).take size)[j]? = some x) : j < size ∧ xs[start + j]? = some x := by
  rw [List.getElem?_take] at h
  split at h
  · rename_i hj
    rw [List.getElem?_drop] at h
    exact ⟨hj, h⟩
  · cases h

lemma length_pieces (size count : Nat) (xs : List α) : (pieces size count xs).length = count := by
  induction count generalizing xs with
  | zero => rfl
  | succ count ih => rw [pieces, List.length_cons, ih]

lemma getElem?_pieces (size : Nat) (xs : List α) {k : Nat} (hk : k < count) :
    (pieces size count xs)[k]? = some ((xs.drop (k * size)).take size) := by
  induction count generalizing xs k with
  | zero => omega
  | succ count ih =>
    rw [pieces]
    cases k with
    | zero => rw [Nat.zero_mul, List.drop_zero, List.getElem?_cons_zero]
    | succ k =>
      rw [List.getElem?_cons_succ, ih _ (Nat.lt_of_succ_lt_succ hk), List.drop_drop, Nat.succ_mul,
        Nat.add_comm]

lemma length_of_mem_pieces (h : xs.length = count * size) :
    ∀ piece ∈ pieces size count xs, piece.length = size := by
  induction count generalizing xs with
  | zero => simp [pieces]
  | succ count ih =>
    rw [Nat.succ_mul] at h
    rw [pieces, List.forall_mem_cons]
    exact ⟨List.length_take_of_le (by omega), ih (by rw [List.length_drop]; omega)⟩

lemma flatten_pieces (h : xs.length = count * size) : (pieces size count xs).flatten = xs := by
  induction count generalizing xs with
  | zero =>
    rw [Nat.zero_mul, List.length_eq_zero_iff] at h
    rw [h]
    rfl
  | succ count ih =>
    rw [Nat.succ_mul] at h
    rw [pieces, List.flatten_cons, ih (by rw [List.length_drop]; omega), List.take_append_drop]

/-- An item of a piece is known by the number of the piece and its place in it. -/
lemma getElem?_of_getElem?_pieces {k j : Nat} {piece : List α} {x : α}
    (hpiece : (pieces size count xs)[k]? = some piece) (hx : piece[j]? = some x) :
    k < count ∧ j < size ∧ xs[k * size + j]? = some x := by
  have hk : k < count := by
    rw [← length_pieces size count xs]
    exact (List.getElem?_eq_some_iff.1 hpiece).1
  rw [getElem?_pieces size xs hk] at hpiece
  cases hpiece
  exact ⟨hk, getElem?_of_take_drop hx⟩

end Pieces

/-! ### The matrices of a shape -/

/-- How a shape is printed: the axes `batch` number matrices of `rows` rows and `cols` columns. A
scalar is a matrix of one element, and a vector a single column. -/
inductive Layout : (s batch : Shape) → (rows cols : Nat) → Prop where
  | scalar : Layout [] [] 1 1
  | vector (length : Nat) : Layout [length] [] length 1
  | stacked (batch : Shape) (rows cols : Nat) : Layout (batch ++ [rows, cols]) batch rows cols

/-- The index of the element in row `r` and column `c` of the matrix with the coordinate `w`. Rows,
columns and the coordinate count from 0, an index from 1. -/
def printedIndex (s : Shape) (w : List Nat) (r c : Nat) : List Nat :=
  match s with
  | [] => []
  | [_] => [r + 1]
  | _ => w.map (· + 1) ++ [r + 1, c + 1]

lemma exists_layout (s : Shape) : ∃ batch rows cols, Layout s batch rows cols := by
  rcases s.eq_nil_or_concat' with rfl | ⟨outer, cols, rfl⟩
  · exact ⟨[], 1, 1, .scalar⟩
  · rcases outer.eq_nil_or_concat' with rfl | ⟨batch, rows, rfl⟩
    · exact ⟨[], cols, 1, .vector cols⟩
    · refine ⟨batch, rows, cols, ?_⟩
      rw [List.append_assoc]
      exact .stacked batch rows cols

lemma matrices_stacked (batch : Shape) (rows cols : Nat) :
    matrices (batch ++ [rows, cols]) = (batch, rows, cols) := by
  induction batch with
  | nil => rfl
  | cons size rest ih =>
    cases rest with
    | nil => rfl
    | cons next rest =>
      have hstep : matrices (size :: next :: rest ++ [rows, cols]) =
          (size :: (matrices (next :: rest ++ [rows, cols])).1,
            (matrices (next :: rest ++ [rows, cols])).2) := by
        cases rest <;> rfl
      rw [hstep, ih]

lemma printedIndex_stacked (batch : Shape) (rows cols : Nat) (w : List Nat) (r c : Nat) :
    printedIndex (batch ++ [rows, cols]) w r c = w.map (· + 1) ++ [r + 1, c + 1] := by
  obtain _ | ⟨_, _ | ⟨_, _⟩⟩ := batch <;> rfl

lemma heading_matrix (rows cols : Nat) :
    Slab.heading [rows, cols] [] = s!"<{rows}x{cols}>" := String.append_empty

lemma heading_stacked {batch : Shape} (hbatch : batch ≠ []) (rows cols : Nat) {w : List Nat}
    (hw : w ≠ []) : Slab.heading (batch ++ [rows, cols]) w =
      s!"<{rows}x{cols}>" ++ Irregularity.bracketed w := by
  have hnamed : Slab.heading (batch ++ [rows, cols]) w =
      s!"<{(matrices (batch ++ [rows, cols])).2.1}x{(matrices (batch ++ [rows, cols])).2.2}>" ++
        if w.isEmpty then "" else Irregularity.bracketed w := by
    obtain _ | ⟨_, _ | ⟨_, _⟩⟩ := batch <;> rfl
  rw [hnamed, matrices_stacked, if_neg (by simpa using hw)]

section Layout

variable {s batch : Shape} {rows cols : Nat} (h : Layout s batch rows cols)
include h

lemma Layout.matrices_eq : s.matrices = (batch, rows, cols) := by
  cases h with
  | scalar => rfl
  | vector length => rfl
  | stacked => exact matrices_stacked batch rows cols

lemma Layout.numElements_eq : s.numElements = batch.numElements * (rows * cols) := by
  cases h with
  | scalar => rfl
  | vector length => exact (Nat.one_mul _).symm
  | stacked =>
    rw [numElements_append]
    simp [numElements]

/-- The element in row `r` and column `c` of matrix number `k` stands behind `k` whole matrices and
`r` whole rows. -/
theorem Layout.offset_printedIndex {k : Nat} {w : List Nat} (hw : batch.coordinates[k]? = some w)
    {r c : Nat} (hr : r < rows) (hc : c < cols) :
    s.offset (printedIndex s w r c) = .ok (k * (rows * cols) + (r * cols + c)) := by
  obtain ⟨hcovers, hoffset⟩ := covers_of_getElem?_coordinates hw
  rw [offset_eq_ok_iff]
  cases h with
  | scalar =>
    have hk : k < 1 := (List.getElem?_eq_some_iff.1 hw).1
    refine ⟨.nil, ?_⟩
    simp only [printedIndex, List.zip_nil_left, accumulate]
    omega
  | vector length =>
    have hk : k < 1 := (List.getElem?_eq_some_iff.1 hw).1
    have hk : k = 0 := by omega
    have hc : c = 0 := by omega
    refine ⟨.cons ⟨Nat.le_add_left 1 r, hr⟩ .nil, ?_⟩
    simp [printedIndex, accumulate, hk, hc]
  | stacked =>
    have hinner : Covers [rows, cols] [r + 1, c + 1] :=
      .cons ⟨Nat.le_add_left 1 r, hr⟩ (.cons ⟨Nat.le_add_left 1 c, hc⟩ .nil)
    have hplace : (accumulate ([r + 1, c + 1].zip [rows, cols])).1 = r * cols + c := by
      simp [accumulate, Nat.add_comm]
    rw [printedIndex_stacked]
    refine ⟨hcovers.append hinner, ?_⟩
    rw [accumulate_append hcovers hinner, hoffset, hplace]
    simp [numElements]

lemma Layout.heading_eq (hbatch : batch ≠ []) {w : List Nat} (hw : w ∈ batch.coordinates) :
    Slab.heading s w = s!"<{rows}x{cols}>" ++ Irregularity.bracketed w := by
  have hne : w ≠ [] := by
    rintro rfl
    cases (mem_coordinates_iff _ _).1 hw
    exact hbatch rfl
  cases h with
  | scalar => exact absurd rfl hbatch
  | vector length => exact absurd rfl hbatch
  | stacked => exact heading_stacked hbatch rows cols hne

/-! ### Slabs -/

variable {α : Type}

/-- Slab number `k` is matrix number `k` of the elements under coordinate number `k`. -/
lemma Layout.getElem?_slabs (xs : List α) (k : Nat) : (s.slabs xs)[k]? =
    batch.coordinates[k]?.map fun w =>
      ⟨w, pieces cols rows ((xs.drop (k * (rows * cols))).take (rows * cols))⟩ := by
  simp only [slabs, h.matrices_eq, List.getElem?_map]
  cases hw : batch.coordinates[k]? with
  | none =>
    have hlength : batch.coordinates.length ≤ k := List.getElem?_eq_none_iff.1 hw
    rw [List.getElem?_eq_none (by rw [List.length_zip]; omega)]
    rfl
  | some w =>
    have hk : k < batch.coordinates.length := (List.getElem?_eq_some_iff.1 hw).1
    have hmatrix : (batch.coordinates.zip (pieces (rows * cols) batch.coordinates.length xs))[k]? =
        some (w, (xs.drop (k * (rows * cols))).take (rows * cols)) :=
      List.getElem?_zip_eq_some.2 ⟨hw, getElem?_pieces _ xs hk⟩
    rw [hmatrix]
    rfl

lemma Layout.map_coordinate_slabs (xs : List α) :
    (s.slabs xs).map Slab.coordinate = batch.coordinates := by
  apply List.ext_getElem?
  intro k
  rw [List.getElem?_map, h.getElem?_slabs, Option.map_map]
  exact Option.map_id'

/-- Matrix number `k` lies within the elements. -/
lemma Layout.matrix_le {xs : List α} (hxs : xs.length = s.numElements) {k : Nat}
    (hk : k < batch.numElements) : k * (rows * cols) + rows * cols ≤ xs.length := by
  rw [hxs, h.numElements_eq, ← Nat.succ_mul]
  exact Nat.mul_le_mul_right _ hk

lemma Layout.length_matrix {xs : List α} (hxs : xs.length = s.numElements) {k : Nat}
    (hk : k < batch.numElements) :
    ((xs.drop (k * (rows * cols))).take (rows * cols)).length = rows * cols :=
  length_take_drop (h.matrix_le hxs hk)

/-- The elements of all slabs, row after row, are all elements in order. -/
theorem Layout.flatMap_slabs {xs : List α} (hxs : xs.length = s.numElements) :
    ((s.slabs xs).flatMap fun slab => slab.rows.flatten) = xs := by
  have hmatrices : ((s.slabs xs).map fun slab => slab.rows.flatten) =
      pieces (rows * cols) batch.numElements xs := by
    apply List.ext_getElem?
    intro k
    rw [List.getElem?_map, h.getElem?_slabs, Option.map_map]
    cases hw : batch.coordinates[k]? with
    | none =>
      have hlength : batch.coordinates.length ≤ k := List.getElem?_eq_none_iff.1 hw
      rw [length_coordinates] at hlength
      rw [List.getElem?_eq_none (by rwa [length_pieces])]
      rfl
    | some w =>
      have hk : k < batch.numElements := by
        rw [← length_coordinates]
        exact (List.getElem?_eq_some_iff.1 hw).1
      rw [getElem?_pieces _ _ hk]
      exact congrArg some (flatten_pieces (h.length_matrix hxs hk))
  rw [List.flatMap_def, hmatrices, flatten_pieces (hxs.trans h.numElements_eq)]

/-- A slab has its number, and from it its coordinate and its rows. -/
lemma Layout.exists_number {xs : List α} {slab : Slab α} (hslab : slab ∈ s.slabs xs) :
    ∃ k < batch.numElements, batch.coordinates[k]? = some slab.coordinate ∧
      slab.rows = pieces cols rows ((xs.drop (k * (rows * cols))).take (rows * cols)) := by
  obtain ⟨k, hk⟩ := List.mem_iff_getElem?.1 hslab
  rw [h.getElem?_slabs] at hk
  obtain ⟨w, hw, rfl⟩ := Option.map_eq_some_iff.1 hk
  refine ⟨k, ?_, hw, rfl⟩
  rw [← length_coordinates]
  exact (List.getElem?_eq_some_iff.1 hw).1

end Layout

end TensorGraph.Proofs
