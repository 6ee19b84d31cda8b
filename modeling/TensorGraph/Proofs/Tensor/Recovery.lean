import Mathlib
import TensorGraph.Proofs.Binary.Quiet
import TensorGraph.Proofs.Tensor.Lookup

/-!
# Tensors recovered from their elements

The elements that lookup finds in a tensor, nested as the shape says, make up a literal. The tensor
of that literal under the same type is the one that was looked at, down to its stored elements: what
is read from a tensor converts back to what is stored in it.
-/

namespace TensorGraph.Proofs
open Literal Shape Tensor

/-- The literal has the shape of the tensor, and at each coordinate the element that lookup finds
there. Coordinates count from 1 and positions in a literal from 0. -/
structure Shows (l : Literal) (t : Tensor) : Prop where
  shape : l.HasShape t.shape
  element : ∀ index, Covers t.shape index →
    ∃ x, t.get index = .ok x ∧ l.at? (index.map (· - 1)) = some x

/-- A single that was stored is no NaN, or a quiet one. -/
lemma quiet_of_store? {leaf : Scalar} {x : Binary32}
    (h : ElementType.float32.store? leaf = some x) : Quiet x := by
  cases leaf with
  | integer v => exact quiet_of_reading (reading_of_toBinary? h)
  | real v => exact quiet_of_toSingle? h
  | text | boolean | complex => cases h

/-- What was stored in a tensor of the type is read from it as a leaf that is stored as the same
element, bit for bit. Of the types whose elements do not read as they are, `int32` widens to an
integer in its range, and `float32` to a double that rounds to it. -/
theorem store?_load {type : ElementType} {leaf : Scalar} {x : type.Element}
    (h : type.store? leaf = some x) : type.store? (type.load x) = some x := by
  cases type with
  | int32 => exact toInt32?_toInt64 x
  | float32 => exact toSingle?_round (quiet_of_store? h)
  | int64 | float64 | string | bool | complex128 => rfl

/-- Flattening a literal that shows the tensor gives the elements in the order of the data. -/
lemma Shows.leaves_getElem? {l : Literal} {t : Tensor} (h : Shows l t) {k : Nat}
    (hk : k < t.shape.numElements) : l.leaves[k]? = t.at? k := by
  obtain ⟨index, hcovers, rfl⟩ := exists_covers_accumulate hk
  obtain ⟨x, hx, hl⟩ := h.element index hcovers
  obtain ⟨offset, hoffset, hat⟩ := (get_eq_ok_iff t index x).1 hx
  obtain ⟨-, rfl⟩ := (offset_eq_ok_iff _ _ _).1 hoffset
  rw [leaves_getElem?_accumulate h.shape hcovers, hl, hat]

lemma Shows.forall₂_leaves {l : Literal} {t : Tensor} (h : Shows l t)
    (hlength : t.data.length = t.shape.numElements)
    (hstored : ∀ x ∈ t.data, t.type.store? (t.type.load x) = some x) :
    List.Forall₂ (fun leaf x => t.type.store? leaf = some x) l.leaves t.data := by
  have hleaves : l.leaves.length = t.shape.numElements := length_leaves h.shape
  refine List.forall₂_iff_get.2 ⟨hleaves.trans hlength.symm, fun k hk hk' => ?_⟩
  have hat : l.leaves[k]? = t.at? k := h.leaves_getElem? (hleaves ▸ hk)
  rw [Tensor.at?, List.getElem?_eq_getElem hk, List.getElem?_eq_getElem hk', Option.map_some,
    Option.some.injEq] at hat
  rw [List.get_eq_getElem, List.get_eq_getElem, hat]
  exact hstored _ (List.getElem_mem hk')

/-- Coordinates are taken to positions and back. -/
lemma map_succ_map_pred {s : Shape} {index : List Nat} (h : Covers s index) :
    (index.map (· - 1)).map (· + 1) = index := by
  induction h with
  | nil => rfl
  | cons hv _ ih => rw [List.map_cons, List.map_cons, ih, Nat.sub_add_cancel hv.1]

/-- The elements of a tensor, nested as its shape says. Lookup fails nowhere inside the shape. -/
def nested (t : Tensor) : Literal :=
  tabulate t.shape fun path => (t.get (path.map (· + 1))).toOption.getD (.boolean false)

/-- The shape comes from a literal, so no axis but the last one is empty, and the nested elements
have that shape again. -/
lemma shows_nested {literal : Literal} {t : Tensor} (hshape : literal.HasShape t.shape)
    (hfound : ∀ index, Covers t.shape index → ∃ x, t.get index = .ok x) : Shows (nested t) t where
  shape := hasShape_tabulate hshape _
  element index hcovers := by
    obtain ⟨x, hx⟩ := hfound index hcovers
    refine ⟨x, hx, ?_⟩
    rw [nested, at?_tabulate hcovers, map_succ_map_pred hcovers, hx]
    rfl

/-- The nested elements of a tensor that was built from a literal show it, and the tensor of every
literal that shows it, under the same type, is the tensor itself. -/
theorem ofLiteral_of_shows {literal : Literal} {type? : Option ElementType} {t : Tensor}
    (h : ofLiteral literal type? = .ok t) :
    Shows (nested t) t ∧ ∀ l, Shows l t → ofLiteral l (some t.type) = .ok t := by
  obtain ⟨hshape, -, -, hdata⟩ := ofLiteral_eq_ok h
  refine ⟨shows_nested hshape fun index => (get_ofLiteral h index).1.2, fun l hl => ?_⟩
  refine ofLiteral_eq_ok_of_forall₂ hl.shape (hl.forall₂_leaves (length_data h) fun x hx => ?_)
  obtain ⟨leaf, -, hleaf⟩ := exists_of_mem_right hdata x hx
  exact store?_load hleaf

/-- A NaN with a sign and a payload and an infinity, then the smallest positive number and the
integer `2 ^ 24`. -/
def singles : Literal :=
  .sequence [.sequence [.scalar (.real (.ofWord .double 0xfff8000020000000)),
      .scalar (ElementType.float32.load (.number true 2139095040))],
    .sequence [.scalar (ElementType.float32.load (.number false 1)), .scalar (.integer 16777216)]]

theorem ofLiteral_nested_singles : ∃ t, ofLiteral singles (some .float32) = .ok t ∧
    ofLiteral (nested t) (some .float32) = .ok t := by
  have hshape : singles.HasShape [2, 2] := shape_eq_ok_iff.1 rfl
  have hnumber : ∀ (s : Bool) i, ElementType.float32.store?
      (ElementType.float32.load (.number s i)) = some (.number s i) :=
    fun s i => toSingle?_round (quiet_of_isNaN_eq_false rfl)
  have hstored : List.Forall₂ (fun leaf x => ElementType.float32.store? leaf = some x)
      singles.leaves [.ofWord .single 0xffc00001, .number true 2139095040, .number false 1,
        .number false 1266679808] :=
    .cons rfl (.cons (hnumber _ _) (.cons (hnumber _ _) (.cons rfl .nil)))
  have ht := ofLiteral_eq_ok_of_forall₂ hshape hstored
  obtain ⟨hnested, hshown⟩ := ofLiteral_of_shows ht
  exact ⟨_, ht, hshown _ hnested⟩

end TensorGraph.Proofs
