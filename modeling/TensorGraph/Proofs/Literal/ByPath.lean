import Mathlib
import TensorGraph.Shape.RegularByPath

/-!
# Shapes along a path

The path that is kept on the way leads to the literal that is looked at. So it is what it was once a
literal has a shape, and an irregularity is reported at the place where it is.
-/

namespace TensorGraph.Proofs
open Literal

/-- An outcome inside the literal that `path` leads to, with the path as it is kept. -/
def along {α : Type} (path : List Nat) : Except Irregularity α → Except Irregularity (α × List Nat)
  | .error e => .error { e with path := path ++ e.path }
  | .ok a => .ok (a, path)

lemma along_within {α : Type} (path : List Nat) (i : Nat) (e : Irregularity) :
    along path (.error (e.within i) : Except Irregularity α) =
      .error { e with path := path ++ [i] ++ e.path } := by
  rw [along, Irregularity.within, List.append_assoc]
  rfl

mutual

/-- The path goes in unchanged and comes out unchanged: what one item puts at its end it takes off
again, and no item behind an irregular one is looked at. -/
theorem shapeFrom_eq_along (path : List Nat) : (l : Literal) →
    shapeFrom path l = along path l.shape
  | .scalar _ => by simp only [shapeFrom, Literal.shape, along]
  | .sequence [] => by
    simp only [shapeFrom, itemsFrom, Literal.shape, along]
    rfl
  | .sequence (item :: rest) => by
    have hfirst := shapeFrom_eq_along (path ++ [0]) item
    simp only [shapeFrom, itemsFrom, Literal.shape, hfirst]
    cases item.shape with
    | error e => rw [along_within, along]
    | ok expected =>
      simp only [along, List.dropLast_concat, itemsFrom_eq_along path expected 1 rest]
      cases agree expected 1 rest <;> rfl

theorem itemsFrom_eq_along (path : List Nat) (expected : Shape) (i : Nat) :
    (items : List Literal) → itemsFrom path (some expected) i items =
      along path ((agree expected i items).map fun _ => some expected)
  | [] => by
    simp only [itemsFrom, agree]
    rfl
  | item :: rest => by
    have hitem := shapeFrom_eq_along (path ++ [i]) item
    simp only [itemsFrom, agree, hitem]
    cases item.shape with
    | error e =>
      simp only [Except.map]
      rw [along_within, along]
    | ok found =>
      by_cases h : expected = found
      · simp only [along, List.dropLast_concat, if_pos h]
        exact itemsFrom_eq_along path expected (i + 1) rest
      · simp only [along, if_neg h]
        rfl

end

/-- Along the path the same shape is found, and the same irregularity at the same place. -/
theorem shapeByPath_eq_shape (l : Literal) : shapeByPath l = l.shape := by
  rw [shapeByPath, shapeFrom_eq_along]
  cases l.shape <;> rfl

end TensorGraph.Proofs
