import Mathlib
import TensorGraph.Shape.Regular

/-!
# Regular literals

The shape that is found for a literal is the one it has in the sense of `Literal.HasShape`, and
the number of its leaves is the product of the sizes of that shape.
-/

namespace TensorGraph.Proofs
open Literal

mutual

theorem hasShape_of_shape : (l : Literal) → (s : Shape) → l.shape = .ok s → l.HasShape s
  | .scalar x, s, h => by
    simp only [Literal.shape, Except.ok.injEq] at h
    exact h ▸ .scalar x
  | .sequence [], s, h => by
    simp only [Literal.shape, Except.ok.injEq] at h
    exact h ▸ .empty
  | .sequence (item :: rest), s, h => by
    simp only [Literal.shape] at h
    split at h
    · cases h
    · rename_i inner hitem
      split at h
      · cases h
      · rename_i hrest
        cases h
        have hfirst := hasShape_of_shape item inner hitem
        have hothers := forall_hasShape_of_agree rest inner 1 hrest
        exact .sequence (item :: rest) inner (by simp)
          (List.forall_mem_cons.2 ⟨hfirst, hothers⟩)

theorem forall_hasShape_of_agree : (items : List Literal) → (s : Shape) → (i : Nat) →
    agree s i items = .ok () → ∀ item ∈ items, item.HasShape s
  | [], _, _, _ => by simp
  | item :: rest, s, i, h => by
    simp only [agree] at h
    split at h
    · cases h
    · rename_i found hitem
      split at h
      · rename_i heq
        have hfirst := hasShape_of_shape item found hitem
        have hothers := forall_hasShape_of_agree rest s (i + 1) h
        exact List.forall_mem_cons.2 ⟨heq ▸ hfirst, hothers⟩
      · cases h

end

lemma agree_eq_ok {items : List Literal} {s : Shape} (h : ∀ item ∈ items, item.shape = .ok s)
    (i : Nat) : agree s i items = .ok () := by
  induction items generalizing i with
  | nil => simp only [agree]
  | cons item rest ih =>
    rw [List.forall_mem_cons] at h
    simp only [agree, h.1, if_true, ih h.2]

/-- The shape that a literal has is found. -/
theorem shape_eq_ok_iff {l : Literal} {s : Shape} : l.shape = .ok s ↔ l.HasShape s := by
  refine ⟨hasShape_of_shape l s, fun h => ?_⟩
  induction h with
  | scalar x => simp only [Literal.shape]
  | empty => simp only [Literal.shape]
  | sequence items inner nonempty _ ih =>
    obtain ⟨item, rest, rfl⟩ := List.exists_cons_of_ne_nil nonempty
    rw [List.forall_mem_cons] at ih
    simp only [Literal.shape, ih.1, agree_eq_ok ih.2, List.length_cons]

lemma length_flatMap_of_forall {α β : Type} {f : α → List β} {w : Nat} (items : List α)
    (h : ∀ x ∈ items, (f x).length = w) : (items.flatMap f).length = items.length * w := by
  induction items with
  | nil => simp
  | cons x xs ih =>
    have hx := h x (by simp)
    have hxs := ih (fun y hy => h y (by simp [hy]))
    rw [List.flatMap_cons, List.length_append, hx, hxs, List.length_cons, Nat.succ_mul, Nat.add_comm]

theorem length_leaves {l : Literal} {s : Shape} (h : l.HasShape s) :
    l.leaves.length = s.numElements := by
  induction h with
  | scalar x => rfl
  | empty => rfl
  | sequence items inner _ _ ih =>
    rw [Literal.leaves, leavesAll_eq_flatMap, length_flatMap_of_forall items ih]
    rfl

/-- A tabulated literal has the shape that was asked for, if any literal has it. -/
theorem hasShape_tabulate {l : Literal} {s : Shape} (h : l.HasShape s) (f : List Nat → Scalar) :
    (tabulate s f).HasShape s := by
  induction h generalizing f with
  | scalar x => exact .scalar (f [])
  | empty => exact .empty
  | sequence items inner nonempty _ ih =>
    obtain ⟨item, hitem⟩ := List.exists_mem_of_ne_nil items nonempty
    have hrows : ∀ row ∈ (List.range items.length).map fun i =>
        tabulate inner fun path => f (i :: path), row.HasShape inner := by
      intro row hrow
      obtain ⟨i, -, rfl⟩ := List.mem_map.1 hrow
      exact ih item hitem _
    have hsequence := HasShape.sequence _ inner (by simpa using nonempty) hrows
    rwa [List.length_map, List.length_range] at hsequence

end TensorGraph.Proofs
