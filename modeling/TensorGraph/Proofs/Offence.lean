import Mathlib
import TensorGraph.Proofs.Outcome

/-!
# First offences

A list is gone through from the front, and the first item that offends decides the error. Whether an
item offends may depend on the items before it.
-/

namespace TensorGraph.Proofs

section Offence

variable {α β ε : Type}

/-- No item offends. -/
def Clean (offends : List α → α → ε → Prop) (items : List α) : Prop :=
  ∀ before item after, items = before ++ item :: after → ∀ e, ¬offends before item e

/-- The error is one of the first item that offends. -/
def FirstOffence (offends : List α → α → ε → Prop) (items : List α) (e : ε) : Prop :=
  ∃ before item after, items = before ++ item :: after ∧ Clean offends before ∧
    offends before item e

variable {offends : List α → α → ε → Prop}

@[simp] lemma clean_nil : Clean offends [] := by
  intro before item after h
  simp at h

lemma clean_cons_iff (item : α) (rest : List α) : Clean offends (item :: rest) ↔
    (∀ e, ¬offends [] item e) ∧ Clean (fun before => offends (item :: before)) rest := by
  constructor
  · intro h
    refine ⟨h [] item rest rfl, fun before other after hrest => ?_⟩
    exact h (item :: before) other after (by rw [hrest, List.cons_append])
  · rintro ⟨hfirst, hrest⟩ before other after h
    cases before with
    | nil =>
      cases h
      exact hfirst
    | cons first before =>
      cases h
      exact hrest before other after rfl

@[simp] lemma not_firstOffence_nil (e : ε) : ¬FirstOffence offends [] e := by
  rintro ⟨before, item, after, h, -⟩
  simp at h

lemma firstOffence_cons_iff (item : α) (rest : List α) (e : ε) :
    FirstOffence offends (item :: rest) e ↔ offends [] item e ∨
      (∀ e', ¬offends [] item e') ∧ FirstOffence (fun before => offends (item :: before)) rest e := by
  constructor
  · rintro ⟨before, other, after, h, hclean, hoffends⟩
    cases before with
    | nil =>
      cases h
      exact .inl hoffends
    | cons first before =>
      cases h
      obtain ⟨hfirst, hbefore⟩ := (clean_cons_iff _ _).1 hclean
      exact .inr ⟨hfirst, before, other, after, rfl, hbefore, hoffends⟩
  · rintro (hoffends | ⟨hfirst, before, other, after, rfl, hbefore, hoffends⟩)
    · exact ⟨[], item, rest, rfl, clean_nil, hoffends⟩
    · exact ⟨item :: before, other, after, rfl, (clean_cons_iff _ _).2 ⟨hfirst, hbefore⟩, hoffends⟩

section Congr

variable {offends' : List α → α → ε → Prop} {items : List α}
  (h : ∀ before item after, items = before ++ item :: after →
    ∀ e, offends before item e ↔ offends' before item e)
include h

/-- What offends matters only behind the items that are really there. -/
lemma clean_congr : Clean offends items ↔ Clean offends' items := by
  constructor
  · exact fun hclean before item after hsplit e hoffends =>
      hclean before item after hsplit e ((h before item after hsplit e).2 hoffends)
  · exact fun hclean before item after hsplit e hoffends =>
      hclean before item after hsplit e ((h before item after hsplit e).1 hoffends)

lemma firstOffence_congr (e : ε) : FirstOffence offends items e ↔ FirstOffence offends' items e := by
  refine exists_congr fun before => exists_congr fun item => exists_congr fun after =>
    and_congr_right fun hsplit => ?_
  refine and_congr (clean_congr fun earlier other later hbefore => ?_) (h before item after hsplit e)
  apply h earlier other (later ++ item :: after)
  rw [hsplit, hbefore, List.append_assoc, List.cons_append]

end Congr

lemma clean_iff_forall {offends : α → ε → Prop} {items : List α} :
    Clean (fun _ => offends) items ↔ ∀ item ∈ items, ∀ e, ¬offends item e := by
  constructor
  · intro h item hitem
    obtain ⟨before, after, hsplit⟩ := List.append_of_mem hitem
    exact h before item after hsplit
  · rintro h before item after rfl
    exact h item (by simp)

lemma mapM_eq_error_iff {f : α → Except ε β} {xs : List α} {e : ε} :
    xs.mapM f = .error e ↔ FirstOffence (fun _ x e => f x = .error e) xs e := by
  induction xs with
  | nil =>
    rw [List.mapM_nil, iff_false_right (not_firstOffence_nil e)]
    rintro ⟨⟩
  | cons x xs ih =>
    rw [List.mapM_cons, firstOffence_cons_iff, ← ih]
    cases f x with
    | error e' => simp
    | ok y =>
      rw [ok_bind]
      cases xs.mapM f <;> simp [pure, Except.pure]

/-! ### Walks -/

/-- The run goes through a list with a state. Each item decides the error, in only one way, or moves
the state on. -/
structure Walk {σ : Type} (run : σ → List α → Except ε β) (step : σ → α → σ)
    (offends : σ → α → ε → Prop) (final : σ → β) : Prop where
  nil : ∀ s, run s [] = .ok (final s)
  cons : ∀ s item rest,
    (∃ e, (∀ e', offends s item e' ↔ e' = e) ∧ run s (item :: rest) = .error e) ∨
      ((∀ e, ¬offends s item e) ∧ run s (item :: rest) = run (step s item) rest)

section Walk

variable {σ : Type} {run : σ → List α → Except ε β} {step : σ → α → σ}
  {offends : σ → α → ε → Prop} {final : σ → β} (h : Walk run step offends final)
include h

theorem Walk.eq_ok_iff (s : σ) (items : List α) (b : β) : run s items = .ok b ↔
    Clean (fun before => offends (before.foldl step s)) items ∧
      b = final (items.foldl step s) := by
  induction items generalizing s with
  | nil => simp [h.nil, eq_comm]
  | cons item rest ih =>
    rw [clean_cons_iff]
    rcases h.cons s item rest with ⟨e, hoffends, hrun⟩ | ⟨hclean, hrun⟩
    · simp [hrun, hoffends]
    · simp [hrun, hclean, ih]

theorem Walk.eq_error_iff (s : σ) (items : List α) (e : ε) : run s items = .error e ↔
    FirstOffence (fun before => offends (before.foldl step s)) items e := by
  induction items generalizing s with
  | nil => simp [h.nil]
  | cons item rest ih =>
    rw [firstOffence_cons_iff]
    rcases h.cons s item rest with ⟨e', hoffends, hrun⟩ | ⟨hclean, hrun⟩
    · simp [hrun, hoffends, eq_comm]
    · simp [hrun, hclean, ih]

end Walk

end Offence

end TensorGraph.Proofs
