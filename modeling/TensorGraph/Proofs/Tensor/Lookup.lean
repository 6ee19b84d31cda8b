import Mathlib
import TensorGraph.Tensor.Basic
import TensorGraph.Proofs.Binary.Reading
import TensorGraph.Proofs.Outcome
import TensorGraph.Proofs.Shape.RowMajor

/-!
# Element lookup

What is looked up in the tensor of a literal is the leaf that the index leads to, converted to the
element type. Shape inference, flattening and the offset arithmetic agree for every literal.
-/

namespace TensorGraph.Proofs
open Literal Tensor

/-- `found` is what a tensor of the type gives back for the leaf `leaf` that it was built from. -/
inductive Holds : ElementType → (leaf found : Scalar) → Prop where
  | int32 (v : Int64) : Holds .int32 (.integer v) (.integer v)
  | int64 (v : Int64) : Holds .int64 (.integer v) (.integer v)
  | float64 (x : Binary64) : Holds .float64 (.real x) (.real x)
  | string (s : String) : Holds .string (.text s) (.text s)
  | bool (b : Bool) : Holds .bool (.boolean b) (.boolean b)
  | complex (z : Complex) : Holds .complex128 (.complex z) (.complex z)
  | integerSingle (v : Int64) (x : Binary64) (exact : reading x = readingOfInt v.toInt) :
    Holds .float32 (.integer v) (.real x)
  | integerDouble (v : Int64) (x : Binary64) (exact : reading x = readingOfInt v.toInt) :
    Holds .float64 (.integer v) (.real x)
  | integerComplex (v : Int64) (x : Binary64) (exact : reading x = readingOfInt v.toInt) :
    Holds .complex128 (.integer v) (.complex ⟨x, .zero⟩)
  | realSingle (x y : Binary64) (rounded : reading y = reading (x.round .single)) :
    Holds .float32 (.real x) (.real y)
  | realComplex (x : Binary64) : Holds .complex128 (.real x) (.complex ⟨x, .zero⟩)

lemma toInt32?_toInt64 (v : Int32) : toInt32? v.toInt64 = some v := by
  simp only [toInt32?, Int32.toInt32_toInt64, if_true]

lemma toInt64_of_toInt32? {v : Int64} {w : Int32} (h : toInt32? v = some w) : w.toInt64 = v := by
  simp only [toInt32?, Option.ite_none_right_eq_some, Option.some.injEq] at h
  obtain ⟨hv, rfl⟩ := h
  exact hv

lemma eq_round_of_toSingle? {x : Binary64} {y : Binary32} (h : toSingle? x = some y) :
    y = x.round .single := by
  simp only [toSingle?, Option.ite_none_right_eq_some, Option.some.injEq] at h
  exact h.2.symm

theorem holds_of_store? {type : ElementType} {leaf : Scalar} {x : type.Element}
    (h : type.store? leaf = some x) : Holds type leaf (type.load x) := by
  cases type <;> cases leaf <;> simp only [ElementType.store?, Option.some.injEq, reduceCtorEq] at h
  case int32.integer v =>
    rw [← toInt64_of_toInt32? h]
    exact .int32 _
  case int64.integer v => exact h ▸ .int64 v
  case float32.integer v =>
    exact .integerSingle v _ ((reading_widen x).trans (reading_of_toBinary? h))
  case float32.real v =>
    rw [eq_round_of_toSingle? h]
    exact .realSingle v _ (reading_widen _)
  case float64.integer v => exact .integerDouble v x (reading_of_toBinary? h)
  case float64.real v => exact h ▸ .float64 v
  case string.text s => exact h ▸ .string s
  case bool.boolean b => exact h ▸ .bool b
  case complex128.integer v =>
    obtain ⟨re, hre, rfl⟩ := Option.map_eq_some_iff.1 h
    exact .integerComplex v re (reading_of_toBinary? hre)
  case complex128.real v => exact h ▸ .realComplex v
  case complex128.complex z => exact h ▸ .complex z

lemma storeAll_eq_ok_iff {type : ElementType} {i : Nat} {leaves : List Scalar}
    {xs : List type.Element} : type.storeAll i leaves = .ok xs ↔
      List.Forall₂ (fun leaf x => type.store? leaf = some x) leaves xs := by
  induction leaves generalizing i xs with
  | nil => simp [ElementType.storeAll, eq_comm]
  | cons leaf rest ih =>
    rw [ElementType.storeAll, List.forall₂_cons_left_iff]
    cases hstore : type.store? leaf with
    | none => simp
    | some x =>
      constructor
      · intro h
        obtain ⟨ys, hys, rfl⟩ := map_eq_ok_iff.1 h
        exact ⟨x, ys, rfl, ih.1 hys, rfl⟩
      · rintro ⟨y, ys, hy, hys, rfl⟩
        cases hy
        exact map_eq_ok_iff.2 ⟨ys, ih.2 hys, rfl⟩

/-- All that is known of a tensor that was built: its shape is that of the literal, its type is the
one asked for or inferred, and its elements store the leaves in order. -/
theorem ofLiteral_eq_ok {literal : Literal} {type? : Option ElementType} {t : Tensor}
    (h : ofLiteral literal type? = .ok t) :
    literal.HasShape t.shape ∧
      (∀ type, type? = some type → t.type = type) ∧
      (type? = none → literal.inferType = .ok t.type) ∧
      List.Forall₂ (fun leaf x => t.type.store? leaf = some x) literal.leaves t.data := by
  obtain ⟨s, hs, h⟩ := bind_eq_ok_iff.1 h
  have hshape := hasShape_of_shape _ _ (mapError_eq_ok_iff.1 hs)
  cases type? with
  | none =>
    obtain ⟨type, htype, h⟩ := bind_eq_ok_iff.1 h
    obtain ⟨data, hdata, h⟩ := bind_eq_ok_iff.1 h
    cases h
    exact ⟨hshape, by simp, fun _ => mapError_eq_ok_iff.1 htype,
      storeAll_eq_ok_iff.1 (mapError_eq_ok_iff.1 hdata)⟩
  | some asked =>
    obtain ⟨type, htype, h⟩ := bind_eq_ok_iff.1 h
    obtain ⟨data, hdata, h⟩ := bind_eq_ok_iff.1 h
    cases htype
    cases h
    exact ⟨hshape, by simp, by simp, storeAll_eq_ok_iff.1 (mapError_eq_ok_iff.1 hdata)⟩

/-- The tensor of a literal under a given type is known by its shape and its elements. -/
lemma ofLiteral_eq_ok_of_forall₂ {literal : Literal} {type : ElementType} {s : Shape}
    {data : List type.Element} (hshape : literal.HasShape s)
    (hdata : List.Forall₂ (fun leaf x => type.store? leaf = some x) literal.leaves data) :
    ofLiteral literal (some type) = .ok ⟨type, s, data⟩ := by
  have hs : literal.shape = .ok s := shape_eq_ok_iff.2 hshape
  have hstored : type.storeAll 0 literal.leaves = .ok data := storeAll_eq_ok_iff.2 hdata
  simp only [ofLiteral, hs, hstored, Except.mapError, ok_bind]
  rfl

lemma length_data {literal : Literal} {type? : Option ElementType} {t : Tensor}
    (h : ofLiteral literal type? = .ok t) : t.data.length = t.shape.numElements := by
  obtain ⟨hshape, -, -, hdata⟩ := ofLiteral_eq_ok h
  rw [← hdata.length_eq, length_leaves hshape]

lemma get_eq_ok_iff (t : Tensor) (index : List Nat) (x : Scalar) : t.get index = .ok x ↔
    ∃ offset, t.shape.offset index = .ok offset ∧ t.at? offset = some x := by
  rw [Tensor.get, bind_eq_ok_iff]
  refine exists_congr fun offset => and_congr_right fun _ => ?_
  cases t.at? offset <;> simp

/-- Lookup succeeds exactly at the indices that the shape covers, and gives back the leaf that the
index leads to. An offset that was found always lies within the data. -/
theorem get_ofLiteral {literal : Literal} {type? : Option ElementType} {t : Tensor}
    (h : ofLiteral literal type? = .ok t) (index : List Nat) :
    ((∃ x, t.get index = .ok x) ↔ Covers t.shape index) ∧
      (Covers t.shape index → ∃ leaf x, literal.at? (index.map (· - 1)) = some leaf ∧
        t.get index = .ok x ∧ Holds t.type leaf x) ∧
      ∀ offset, t.shape.offset index = .ok offset → ∃ x, t.at? offset = some x := by
  obtain ⟨hshape, -, -, hdata⟩ := ofLiteral_eq_ok h
  have hfound : ∀ offset, t.shape.offset index = .ok offset → ∃ leaf x,
      literal.at? (index.map (· - 1)) = some leaf ∧ t.at? offset = some x ∧
        Holds t.type leaf x := by
    intro offset hoff
    obtain ⟨hc, rfl⟩ := (offset_eq_ok_iff _ _ _).1 hoff
    have hlt : (Shape.accumulate (index.zip t.shape)).1 < literal.leaves.length := by
      rw [length_leaves hshape]
      exact accumulate_lt hc
    obtain ⟨hlen, hstored⟩ := List.forall₂_iff_get.1 hdata
    refine ⟨_, _, ?_, ?_, holds_of_store? (hstored _ hlt (hlen ▸ hlt))⟩
    · rw [← leaves_getElem?_accumulate hshape hc, List.getElem?_eq_getElem hlt]
      rfl
    · rw [Tensor.at?, List.getElem?_eq_getElem (hlen ▸ hlt)]
      rfl
  have hcovered : Covers t.shape index → ∃ leaf x,
      literal.at? (index.map (· - 1)) = some leaf ∧ t.get index = .ok x ∧ Holds t.type leaf x := by
    intro hc
    have hoff := (offset_eq_ok_iff t.shape index _).2 ⟨hc, rfl⟩
    obtain ⟨leaf, x, hleaf, hx, hholds⟩ := hfound _ hoff
    exact ⟨leaf, x, hleaf, (get_eq_ok_iff t index x).2 ⟨_, hoff, hx⟩, hholds⟩
  refine ⟨⟨?_, ?_⟩, hcovered, ?_⟩
  · rintro ⟨x, hx⟩
    obtain ⟨offset, hoff, -⟩ := (get_eq_ok_iff t index x).1 hx
    exact ((offset_eq_ok_iff _ _ _).1 hoff).1
  · intro hc
    obtain ⟨-, x, -, hx, -⟩ := hcovered hc
    exact ⟨x, hx⟩
  · intro offset hoff
    obtain ⟨-, x, -, hx, -⟩ := hfound offset hoff
    exact ⟨x, hx⟩

def threeByTwo : Literal :=
  .sequence [.sequence [.scalar (.integer 1), .scalar (.integer 2)],
    .sequence [.scalar (.integer 3), .scalar (.integer 4)],
    .sequence [.scalar (.integer 5), .scalar (.integer 16777216)]]

theorem get_threeByTwo :
    ∃ t, ofLiteral threeByTwo (some .float32) = .ok t ∧ Covers t.shape [3, 2] ∧
      ∃ x, t.get [3, 2] = .ok x ∧ Holds t.type (.integer 16777216) x := by
  obtain ⟨t, ht, hc⟩ : ∃ t, ofLiteral threeByTwo (some .float32) = .ok t ∧
      Covers t.shape [3, 2] := ⟨_, rfl, by decide⟩
  obtain ⟨leaf, x, hleaf, hx, hholds⟩ := (get_ofLiteral ht [3, 2]).2.1 hc
  cases hleaf
  exact ⟨t, ht, hc, x, hx, hholds⟩

end TensorGraph.Proofs
