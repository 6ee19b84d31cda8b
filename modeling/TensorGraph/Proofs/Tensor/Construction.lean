import Mathlib
import TensorGraph.Proofs.Binary.Nearest
import TensorGraph.Proofs.Tensor.Inference
import TensorGraph.Proofs.Tensor.Lookup

/-!
# Which literals make tensors

A tensor is built from a literal exactly if the literal is regular, its leaves have a common type or
a type is given, and every leaf fits that type. Otherwise the first of these that fails decides the
error, at the first leaf where it does.
-/

namespace TensorGraph.Proofs
open Tensor

/-! ### Leaves that fit a type -/

/-- A tensor of the type can hold the leaf. Integers fit only as they are, and reals fit single
precision unless they overflow. -/
def Fits : ElementType → Scalar → Prop
  | .int32, .integer v => -2 ^ 31 ≤ v.toInt ∧ v.toInt < 2 ^ 31
  | .int64, .integer _ => True
  | .float32, .integer v => ∃ x : Binary32, reading x = readingOfInt v.toInt
  | .float32, .real x => ¬Overflows x
  | .float64, .integer v => ∃ x : Binary64, reading x = readingOfInt v.toInt
  | .float64, .real _ => True
  | .string, .text _ => True
  | .bool, .boolean _ => True
  | .complex128, .complex _ => True
  | .complex128, .integer v => ∃ x : Binary64, reading x = readingOfInt v.toInt
  | .complex128, .real _ => True
  | _, _ => False

lemma isSome_toInt32?_iff (v : Int64) :
    (toInt32? v).isSome = true ↔ -2 ^ 31 ≤ v.toInt ∧ v.toInt < 2 ^ 31 := by
  have hround : v.toInt32.toInt64 = v ↔ v.toInt.bmod (2 ^ 32) = v.toInt := by
    rw [← Int64.toInt_inj, Int32.toInt_toInt64, Int64.toInt_toInt32]
  have hbounds : v.toInt.bmod (2 ^ 32) = v.toInt ↔ -2 ^ 31 ≤ v.toInt ∧ v.toInt < 2 ^ 31 := by
    rw [Int.bmod]
    omega
  rw [← hbounds, ← hround]
  simp only [toInt32?]
  split <;> simp_all

lemma isSome_toBinary?_iff {f : Format} (v : Int64) :
    (toBinary? f v).isSome = true ↔ ∃ x : Binary f, reading x = readingOfInt v.toInt := by
  rw [Option.isSome_iff_exists]
  exact exists_congr fun x => toBinary?_eq_some_iff

lemma isSome_toSingle?_iff (x : Binary64) : (toSingle? x).isSome = true ↔ ¬Overflows x := by
  rw [← toSingle?_eq_none_iff, Option.isSome_iff_ne_none]

theorem isSome_store?_iff (type : ElementType) (leaf : Scalar) :
    (type.store? leaf).isSome = true ↔ Fits type leaf := by
  cases type <;> cases leaf
  case int32.integer v => exact isSome_toInt32?_iff v
  case float32.integer v => exact isSome_toBinary?_iff v
  case float64.integer v => exact isSome_toBinary?_iff v
  case float32.real x => exact isSome_toSingle?_iff x
  case complex128.integer v =>
    rw [ElementType.store?, Option.isSome_map]
    exact isSome_toBinary?_iff v
  all_goals simp [ElementType.store?, Fits]

end TensorGraph.Proofs
