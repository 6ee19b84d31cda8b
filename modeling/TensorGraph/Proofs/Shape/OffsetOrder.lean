import Mathlib
import TensorGraph.Proofs.Shape.RowMajor

/-!
# The order of offsets

Taking offsets is an isomorphism from the indices that a shape covers, in lexicographic order, onto
the numbers below the number of elements. The offset is the sum of the positions on the axes, each
weighted by the stride of its axis. An index that the shape does not cover is refused for its length
or for its outermost coordinate that is outside.
-/

namespace TensorGraph.Proofs
open Shape

/-- The weights of the axes as they are found from the innermost one outward: each axis weighs as
much as the next one does, times the size of that one. -/
inductive Weights : Shape → List Nat → Prop where
  | scalar : Weights [] []
  | innermost (size : Nat) : Weights [size] [1]
  | outer (size next weight : Nat) (inner : Shape) (rest : List Nat)
    (found : Weights (next :: inner) (weight :: rest)) :
    Weights (size :: next :: inner) (weight * next :: weight :: rest)

/-- The coordinate of the axis is outside, and those of all axes around it are inside. -/
structure OutermostOutside (s : Shape) (index : List Nat) (axis value size : Nat) : Prop where
  coordinate : index[axis]? = some value
  axisSize : s[axis]? = some size
  outside : value < 1 ∨ size < value
  around : ∀ outer < axis, ∀ v z, index[outer]? = some v → s[outer]? = some z → 1 ≤ v ∧ v ≤ z

/-- The positions on the axes, which count from 0, weighted and summed up. -/
def weightedSum (weights index : List Nat) : Nat :=
  ((index.zip weights).map fun (value, weight) => (value - 1) * weight).sum

theorem weights_strides (s : Shape) : Weights s s.strides := by
  induction s with
  | nil => exact .scalar
  | cons size inner ih =>
    cases inner with
    | nil => exact .innermost size
    | cons next inner =>
      have hnext : numElements (next :: inner) = numElements inner * next := Nat.mul_comm _ _
      rw [strides, hnext]
      exact .outer size next (numElements inner) inner _ ih

lemma accumulate_eq_weightedSum {s : Shape} {index : List Nat} (h : index.length = s.length) :
    (accumulate (index.zip s)).1 = weightedSum s.strides index := by
  induction s generalizing index with
  | nil =>
    rw [List.length_eq_zero_iff.1 h]
    rfl
  | cons size inner ih =>
    obtain ⟨value, rest, rfl⟩ := List.exists_cons_of_length_eq_add_one h
    have hrest : rest.length = inner.length := by simpa using h
    rw [accumulate_cons hrest, ih hrest]
    rfl

/-! ### Refusals -/

lemma firstOutside_eq_some_iff (axis : Nat) (pairs : List (Nat × Nat)) (e : IndexError) :
    firstOutside axis pairs = some e ↔ ∃ d value size, pairs[d]? = some (value, size) ∧
      (value < 1 ∨ size < value) ∧
      (∀ d' < d, ∀ v z, pairs[d']? = some (v, z) → 1 ≤ v ∧ v ≤ z) ∧
      e = .outOfRange (axis + d) value size := by
  induction pairs generalizing axis with
  | nil => simp [firstOutside]
  | cons pair rest ih =>
    obtain ⟨value, size⟩ := pair
    rw [firstOutside]
    by_cases hout : value < 1 ∨ size < value
    · rw [if_pos hout, Option.some.injEq]
      constructor
      · rintro rfl
        exact ⟨0, value, size, rfl, hout, by simp, rfl⟩
      · rintro ⟨_ | d, value', size', hpair, -, hinside, rfl⟩
        · cases hpair
          rfl
        · have hfirst := hinside 0 (Nat.succ_pos d) value size rfl
          omega
    · rw [if_neg hout, ih (axis + 1)]
      constructor
      · rintro ⟨d, value', size', hpair, hout', hinside, rfl⟩
        refine ⟨d + 1, value', size', hpair, hout', ?_, by rw [Nat.add_right_comm, Nat.add_assoc]⟩
        rintro (_ | d') hd' v z hvz
        · cases hvz
          omega
        · exact hinside d' (Nat.lt_of_succ_lt_succ hd') v z hvz
      · rintro ⟨_ | d, value', size', hpair, hout', hinside, rfl⟩
        · cases hpair
          exact absurd hout' hout
        · exact ⟨d, value', size', hpair, hout',
            fun d' hd' => hinside (d' + 1) (Nat.succ_lt_succ hd'),
            by rw [Nat.add_right_comm, Nat.add_assoc]⟩

lemma offset_eq_error_iff_of_length {s : Shape} {index : List Nat}
    (h : index.length = s.length) (e : IndexError) :
    s.offset index = .error e ↔ firstOutside 0 (index.zip s) = some e := by
  rw [offset, if_neg (not_not.2 h)]
  cases hfirst : firstOutside 0 (index.zip s) <;> simp [hfirst]

lemma offset_eq_error_of_length {s : Shape} {index : List Nat} (h : index.length ≠ s.length) :
    s.offset index = .error (.arity s.length index.length) := by
  rw [offset, if_pos h]

theorem offset_eq_arity_iff (s : Shape) (index : List Nat) (rank found : Nat) :
    s.offset index = .error (.arity rank found) ↔
      index.length ≠ s.length ∧ rank = s.length ∧ found = index.length := by
  by_cases hlen : index.length = s.length
  · rw [offset_eq_error_iff_of_length hlen, firstOutside_eq_some_iff]
    simp [hlen]
  · rw [offset_eq_error_of_length hlen]
    simp [hlen, eq_comm]

theorem offset_eq_outOfRange_iff (s : Shape) (index : List Nat) (axis value size : Nat) :
    s.offset index = .error (.outOfRange axis value size) ↔
      index.length = s.length ∧ OutermostOutside s index axis value size := by
  by_cases hlen : index.length = s.length
  · rw [offset_eq_error_iff_of_length hlen, firstOutside_eq_some_iff, and_iff_right hlen]
    simp only [List.getElem?_zip_eq_some, Nat.zero_add, IndexError.outOfRange.injEq]
    constructor
    · rintro ⟨_, _, _, ⟨hvalue, hsize⟩, hout, hinside, rfl, rfl, rfl⟩
      exact ⟨hvalue, hsize, hout, fun d hd v z hv hz => hinside d hd v z ⟨hv, hz⟩⟩
    · rintro ⟨hvalue, hsize, hout, hinside⟩
      exact ⟨axis, value, size, ⟨hvalue, hsize⟩, hout,
        fun d hd v z hvz => hinside d hd v z hvz.1 hvz.2, rfl, rfl, rfl⟩
  · rw [offset_eq_error_of_length hlen]
    simp [hlen]

/-! ### Order -/

/-- The outermost coordinate that differs decides: the offsets of all indices inside it span less
than one step of its axis. -/
theorem accumulate_lt_accumulate {s : Shape} {a b : List Nat} (ha : Covers s a) (hb : Covers s b)
    (h : a < b) : (accumulate (a.zip s)).1 < (accumulate (b.zip s)).1 := by
  induction ha generalizing b with
  | nil =>
    cases hb
    exact absurd h (List.lt_irrefl [])
  | @cons v size rest inner hv hrest ih =>
    obtain _ | @⟨w, _, other, _, hw, hother⟩ := hb
    rw [accumulate_cons hrest.length_eq, accumulate_cons hother.length_eq]
    rcases List.cons_lt_cons_iff.1 h with hlt | ⟨rfl, hlt⟩
    · have hposition : v - 1 < w - 1 := by omega
      apply Nat.lt_of_lt_of_le (block_lt hposition (accumulate_lt hrest))
      exact Nat.le_add_right _ _
    · exact Nat.add_lt_add_left (ih hother hlt) _

theorem accumulate_lt_accumulate_iff {s : Shape} {a b : List Nat} (ha : Covers s a)
    (hb : Covers s b) : (accumulate (a.zip s)).1 < (accumulate (b.zip s)).1 ↔ a < b := by
  refine ⟨fun h => ?_, accumulate_lt_accumulate ha hb⟩
  rcases lt_trichotomy a b with hlt | rfl | hgt
  · exact hlt
  · exact absurd h (lt_irrefl _)
  · exact absurd h (accumulate_lt_accumulate hb ha hgt).asymm

lemma index_unique {s : Shape} {a b : List Nat} (ha : Covers s a) (hb : Covers s b)
    (h : (accumulate (a.zip s)).1 = (accumulate (b.zip s)).1) : a = b := by
  have hle : ¬a < b := fun hlt => (accumulate_lt_accumulate ha hb hlt).ne h
  have hge : ¬b < a := fun hlt => (accumulate_lt_accumulate hb ha hlt).ne' h
  exact le_antisymm (not_lt.1 hge) (not_lt.1 hle)

/-- What the offsets of a shape are and when they are refused. -/
structure OffsetLaws (s : Shape) : Prop where
  arity : ∀ index rank found, s.offset index = .error (.arity rank found) ↔
    index.length ≠ s.length ∧ rank = s.length ∧ found = index.length
  outOfRange : ∀ index axis value size, s.offset index = .error (.outOfRange axis value size) ↔
    index.length = s.length ∧ OutermostOutside s index axis value size
  weights : Weights s s.strides
  weighted : ∀ index k, s.offset index = .ok k ↔
    Covers s index ∧ k = weightedSum s.strides index
  below : ∀ index k, s.offset index = .ok k → k < s.numElements
  bijective : ∀ k < s.numElements, ∃! index, s.offset index = .ok k
  increasing : ∀ a b i j, s.offset a = .ok i → s.offset b = .ok j → (i < j ↔ a < b)

/-- Offsets are lawful in every shape, whatever its rank and however many of its sizes are zero. -/
theorem offsetLaws (s : Shape) : OffsetLaws s where
  arity := offset_eq_arity_iff s
  outOfRange := offset_eq_outOfRange_iff s
  weights := weights_strides s
  weighted index k := by
    rw [offset_eq_ok_iff]
    refine and_congr_right fun h => ?_
    rw [accumulate_eq_weightedSum h.length_eq, eq_comm]
  below index k h := by
    obtain ⟨hcovers, rfl⟩ := (offset_eq_ok_iff s index k).1 h
    exact accumulate_lt hcovers
  bijective k hk := by
    obtain ⟨index, hcovers, hoffset⟩ := exists_covers_accumulate hk
    refine ⟨index, (offset_eq_ok_iff s index k).2 ⟨hcovers, hoffset⟩, fun other hother => ?_⟩
    obtain ⟨hother, hk⟩ := (offset_eq_ok_iff s other k).1 hother
    exact index_unique hother hcovers (hk.trans hoffset.symm)
  increasing a b i j ha hb := by
    obtain ⟨hcovers, rfl⟩ := (offset_eq_ok_iff s a i).1 ha
    obtain ⟨hcovers', rfl⟩ := (offset_eq_ok_iff s b j).1 hb
    exact accumulate_lt_accumulate_iff hcovers hcovers'

end TensorGraph.Proofs
