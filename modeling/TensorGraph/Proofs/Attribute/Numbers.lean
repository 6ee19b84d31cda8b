import Mathlib
import TensorGraph.Proofs.Attribute.Encode
import TensorGraph.Proofs.Tensor.Lookup

/-!
# Numbers in attributes and in tensors

An attribute that is encoded under an explicit width holds what a tensor of that element type
stores, number by number. So a list is encoded if each of its numbers is encoded alone, and if the
flat literal of the numbers makes a tensor, and all three hold the same numbers.
-/

namespace TensorGraph.Proofs
open TensorGraph.Attribute Tensor

/-- The widths that attributes have for numbers. -/
inductive Width where
  | int32 | int64 | float32

namespace Width

def type : Width → ElementType
  | .int32 => .int32
  | .int64 => .int64
  | .float32 => .float32

def scalarEncoding : Width → Encoding
  | .int32 => .int32
  | .int64 => .int64
  | .float32 => .float32

def listEncoding : Width → Encoding
  | .int32 => .int32List
  | .int64 => .int64List
  | .float32 => .float32List

def scalar : (w : Width) → w.type.Element → Encoded
  | .int32 => .int32
  | .int64 => .int64
  | .float32 => .float32

/-- A list attribute of the width with its recorded length. -/
def list : (w : Width) → List w.type.Element → Nat → Encoded
  | .int32 => .int32List
  | .int64 => .int64List
  | .float32 => .float32List

lemma isSupported_scalarEncoding (w : Width) : w.scalarEncoding.isSupported = true := by
  cases w <;> rfl

lemma isSupported_listEncoding (w : Width) : w.listEncoding.isSupported = true := by
  cases w <;> rfl

lemma count?_list (w : Width) (xs : List w.type.Element) (length : Nat) :
    (w.list xs length).count? = some length := by
  cases w <;> rfl

end Width

/-- How numbers of one kind are given: as the value of an attribute, as a list of them, and as a
leaf of a literal. -/
structure Supply (α : Type) where
  value : α → Value
  values : List α → Value
  leaf : α → Scalar

def integers : Supply Int64 := ⟨.integer, .integers, .integer⟩

def reals : Supply Binary64 := ⟨.real, .reals, .real⟩

section Numbers

variable {α : Type}

/-- The number as an attribute that is tagged with the width. -/
def encodeAlone (attr : String) (declared : Option Kind) (w : Width) (s : Supply α) (x : α) :
    Except EncodeError Encoded :=
  outcome (encode attr ⟨s.value x, some w.scalarEncoding⟩ declared)

/-- The numbers as a list attribute that is tagged with the width. -/
def encodeList (attr : String) (declared : Option Kind) (w : Width) (s : Supply α) (xs : List α) :
    Except EncodeError Encoded :=
  outcome (encode attr ⟨s.values xs, some w.listEncoding⟩ declared)

/-- The numbers as a tensor of rank 1 whose type is the width. -/
def storeFlat (w : Width) (s : Supply α) (xs : List α) : Except TensorError Tensor :=
  ofLiteral (.sequence (xs.map fun x => .scalar (s.leaf x))) (some w.type)

/-- The three uses of numbers succeed together and hold the same numbers, and the length that the
list attribute records is the number of them. A list that is refused is refused for one of its
numbers, which would be refused alone. -/
structure Agree (attr : String) (declared : Option Kind) (w : Width) (s : Supply α) (xs : List α) :
    Prop where
  elementwise : (∃ e, encodeList attr declared w s xs = .ok e) ↔
    ∀ x ∈ xs, ∃ e, encodeAlone attr declared w s x = .ok e
  tensor : (∃ e, encodeList attr declared w s xs = .ok e) ↔ ∃ t, storeFlat w s xs = .ok t
  held : ∀ e, encodeList attr declared w s xs = .ok e → ∃ numbers : List w.type.Element,
    e = w.list numbers xs.length ∧ numbers.length = xs.length ∧ e.count? = some xs.length ∧
      List.Forall₂ (fun x number => encodeAlone attr declared w s x = .ok (w.scalar number))
        xs numbers ∧
      storeFlat w s xs = .ok ⟨w.type, [xs.length], numbers⟩
  refused : ∀ error, encodeList attr declared w s xs = .error error →
    error = .mismatch attr w.listEncoding (s.values xs).form ∧
      ∃ x ∈ xs, encodeAlone attr declared w s x =
        .error (.mismatch attr w.scalarEncoding (s.value x).form)

/-- Attributes of the width represent what tensors of its type store. -/
structure Shared (w : Width) (s : Supply α) : Prop where
  scalar : ∀ x, w.scalarEncoding.represent? (s.value x) = (w.type.store? (s.leaf x)).map w.scalar
  list : ∀ xs, w.listEncoding.represent? (s.values xs) =
    (xs.mapM fun x => w.type.store? (s.leaf x)).map fun numbers => w.list numbers xs.length

lemma shared_integers (w : Width) : Shared w integers where
  scalar x := by cases w <;> rfl
  list xs := by
    cases w with
    | int32 => rfl
    | int64 =>
      have hall : xs.mapM (fun x => ElementType.int64.store? (integers.leaf x)) = some xs :=
        mapM_eq_some_iff.2 (List.forall₂_same.2 fun x _ => rfl)
      exact congrArg (Option.map fun numbers => Encoded.int64List numbers xs.length) hall.symm
    | float32 => rfl

lemma shared_reals : Shared .float32 reals where
  scalar _ := rfl
  list _ := rfl

variable {attr : String} {declared : Option Kind} {w : Width} {s : Supply α}

lemma Shared.encodeAlone_eq (h : Shared w s) (x : α) : encodeAlone attr declared w s x =
    match w.type.store? (s.leaf x) with
    | some number => .ok (w.scalar number)
    | none => .error (.mismatch attr w.scalarEncoding (s.value x).form) := by
  rw [encodeAlone, outcome_encode_explicit _ _ w.isSupported_scalarEncoding, h.scalar]
  cases w.type.store? (s.leaf x) <;> rfl

lemma Shared.encodeList_eq (h : Shared w s) (xs : List α) : encodeList attr declared w s xs =
    match xs.mapM fun x => w.type.store? (s.leaf x) with
    | some numbers => .ok (w.list numbers xs.length)
    | none => .error (.mismatch attr w.listEncoding (s.values xs).form) := by
  rw [encodeList, outcome_encode_explicit _ _ w.isSupported_listEncoding, h.list]
  cases xs.mapM fun x => w.type.store? (s.leaf x) <;> rfl

lemma Shared.encodeAlone_eq_ok_iff (h : Shared w s) {x : α} {e : Encoded} :
    encodeAlone attr declared w s x = .ok e ↔
      ∃ number, w.type.store? (s.leaf x) = some number ∧ w.scalar number = e := by
  rw [h.encodeAlone_eq]
  cases w.type.store? (s.leaf x) <;> simp

lemma Shared.encodeList_eq_ok_iff (h : Shared w s) {xs : List α} {e : Encoded} :
    encodeList attr declared w s xs = .ok e ↔ ∃ numbers,
      List.Forall₂ (fun x number => w.type.store? (s.leaf x) = some number) xs numbers ∧
        w.list numbers xs.length = e := by
  rw [h.encodeList_eq]
  simp only [← mapM_eq_some_iff]
  cases xs.mapM fun x => w.type.store? (s.leaf x) <;> simp

lemma hasShape_flat (xs : List α) (leaf : α → Scalar) :
    (Literal.sequence (xs.map fun x => .scalar (leaf x))).HasShape [xs.length] := by
  cases xs with
  | nil => exact .empty
  | cons x rest =>
    have hitems := Literal.HasShape.sequence ((x :: rest).map fun x => .scalar (leaf x)) [] (by simp)
      (List.forall_mem_map.2 fun x _ => .scalar (leaf x))
    rwa [List.length_map] at hitems

lemma leaves_flat (xs : List α) (leaf : α → Scalar) :
    (Literal.sequence (xs.map fun x => .scalar (leaf x))).leaves = xs.map leaf := by
  rw [Literal.leaves, Literal.leavesAll_eq_flatMap, List.flatMap_map, List.map_eq_flatMap]
  rfl

lemma storeFlat_eq_ok_iff {xs : List α} {t : Tensor} : storeFlat w s xs = .ok t ↔ ∃ numbers,
    List.Forall₂ (fun x number => w.type.store? (s.leaf x) = some number) xs numbers ∧
      (⟨w.type, [xs.length], numbers⟩ : Tensor) = t := by
  have hflat := hasShape_flat xs s.leaf
  constructor
  · intro h
    obtain ⟨hshape, hasked, -, hdata⟩ := ofLiteral_eq_ok h
    obtain ⟨type, shape, data⟩ := t
    have htype : type = w.type := hasked _ rfl
    have hsame : Except.ok shape = .ok [xs.length] :=
      (shape_eq_ok_iff.2 hshape).symm.trans (shape_eq_ok_iff.2 hflat)
    cases htype
    cases hsame
    rw [leaves_flat, List.forall₂_map_left_iff] at hdata
    exact ⟨data, hdata, rfl⟩
  · rintro ⟨numbers, hnumbers, rfl⟩
    refine ofLiteral_eq_ok_of_forall₂ hflat ?_
    rwa [leaves_flat, List.forall₂_map_left_iff]

lemma exists_and_eq_iff {β γ : Type} {P : β → Prop} {f : β → γ} :
    (∃ c b, P b ∧ f b = c) ↔ ∃ b, P b := by
  rw [exists_comm]
  simp only [exists_and_left, exists_eq', and_true]

/-- Where attributes represent what tensors store, the three uses agree on every list. -/
lemma Shared.agree (h : Shared w s) (attr : String) (declared : Option Kind) (xs : List α) :
    Agree attr declared w s xs where
  elementwise := by
    simp only [h.encodeList_eq_ok_iff, h.encodeAlone_eq_ok_iff, exists_and_eq_iff,
      exists_forall₂_iff]
  tensor := by simp only [h.encodeList_eq_ok_iff, storeFlat_eq_ok_iff, exists_and_eq_iff]
  held := by
    intro e he
    obtain ⟨numbers, hnumbers, rfl⟩ := h.encodeList_eq_ok_iff.1 he
    refine ⟨numbers, rfl, hnumbers.length_eq.symm, w.count?_list numbers xs.length,
      hnumbers.imp fun x number hx => ?_, ?_⟩
    · exact h.encodeAlone_eq_ok_iff.2 ⟨number, hx, rfl⟩
    · exact storeFlat_eq_ok_iff.2 ⟨numbers, hnumbers, rfl⟩
  refused := by
    intro error herror
    rw [h.encodeList_eq] at herror
    split at herror
    · cases herror
    · rename_i hnone
      cases herror
      obtain ⟨x, hx, hstore⟩ := mapM_eq_none_iff.1 hnone
      refine ⟨rfl, x, hx, ?_⟩
      rw [h.encodeAlone_eq, hstore]

end Numbers

/-- Integers under each width, and reals under single precision, are converted alike in scalar
attributes, list attributes and tensors, whatever the attribute is called and declared as. -/
theorem numbers_agree (attr : String) (declared : Option Kind) :
    (∀ w xs, Agree attr declared w integers xs) ∧ ∀ xs, Agree attr declared .float32 reals xs :=
  ⟨fun w => (shared_integers w).agree attr declared, shared_reals.agree attr declared⟩

end TensorGraph.Proofs
