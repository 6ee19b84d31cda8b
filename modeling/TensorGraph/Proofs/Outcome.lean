import Mathlib
import TensorGraph.Log

/-!
# Outcomes of computations that may fail

When a computation made of steps succeeds, each of its steps has succeeded. The outcome of a
computation that also logs is the one of the same computation without its log.
-/

namespace TensorGraph.Proofs

section Except

variable {ε ε' α β : Type}

@[simp] lemma ok_bind (a : α) (f : α → Except ε β) : (.ok a : Except ε α) >>= f = f a := rfl

@[simp] lemma error_bind (e : ε) (f : α → Except ε β) :
    (.error e : Except ε α) >>= f = .error e := rfl

lemma bind_eq_ok_iff {x : Except ε α} {f : α → Except ε β} {b : β} :
    x >>= f = .ok b ↔ ∃ a, x = .ok a ∧ f a = .ok b := by
  cases x <;> simp

lemma bind_eq_error_iff {x : Except ε α} {f : α → Except ε β} {e : ε} :
    x >>= f = .error e ↔ x = .error e ∨ ∃ a, x = .ok a ∧ f a = .error e := by
  cases x <;> simp

lemma map_eq_ok_iff {x : Except ε α} {f : α → β} {b : β} :
    x.map f = .ok b ↔ ∃ a, x = .ok a ∧ f a = b := by
  cases x <;> simp [Except.map]

lemma mapM_eq_ok_iff {f : α → Except ε β} {xs : List α} {ys : List β} :
    xs.mapM f = .ok ys ↔ List.Forall₂ (fun x y => f x = .ok y) xs ys := by
  induction xs generalizing ys with
  | nil => simp [pure, Except.pure, eq_comm]
  | cons x xs ih =>
    rw [List.mapM_cons, List.forall₂_cons_left_iff]
    simp only [bind_eq_ok_iff, ih]
    constructor
    · rintro ⟨y, hy, rest, hrest, h⟩
      cases h
      exact ⟨y, rest, hy, hrest, rfl⟩
    · rintro ⟨y, rest, hy, hrest, rfl⟩
      exact ⟨y, hy, rest, hrest, rfl⟩

lemma exists_of_mem_right {R : α → β → Prop} {xs : List α} {ys : List β}
    (h : List.Forall₂ R xs ys) : ∀ y ∈ ys, ∃ x ∈ xs, R x y := by
  induction h with
  | nil => simp
  | @cons x y xs ys hxy _ ih =>
    refine List.forall_mem_cons.2 ⟨⟨x, List.mem_cons_self, hxy⟩, fun y' hy' => ?_⟩
    obtain ⟨x', hx', hR⟩ := ih y' hy'
    exact ⟨x', List.mem_cons_of_mem x hx', hR⟩

lemma exists_forall₂_iff {R : α → β → Prop} {xs : List α} :
    (∃ ys, List.Forall₂ R xs ys) ↔ ∀ x ∈ xs, ∃ y, R x y := by
  induction xs with
  | nil => simp
  | cons x xs ih =>
    rw [List.forall_mem_cons, ← ih]
    constructor
    · rintro ⟨_, _ | ⟨hx, hrest⟩⟩
      exact ⟨⟨_, hx⟩, _, hrest⟩
    · rintro ⟨⟨y, hy⟩, ys, hys⟩
      exact ⟨y :: ys, .cons hy hys⟩

lemma mapM_eq_some_iff {f : α → Option β} {xs : List α} {ys : List β} :
    xs.mapM f = some ys ↔ List.Forall₂ (fun x y => f x = some y) xs ys := by
  induction xs generalizing ys with
  | nil => simp [eq_comm]
  | cons x xs ih =>
    rw [List.mapM_cons, List.forall₂_cons_left_iff]
    simp only [Option.bind_eq_bind, Option.bind_eq_some_iff, Option.pure_def, Option.some.injEq, ih]
    constructor
    · rintro ⟨y, hy, rest, hrest, rfl⟩
      exact ⟨y, rest, hy, hrest, rfl⟩
    · rintro ⟨y, rest, hy, hrest, rfl⟩
      exact ⟨y, hy, rest, hrest, rfl⟩

lemma isSome_mapM_iff {f : α → Option β} {xs : List α} :
    (xs.mapM f).isSome = true ↔ ∀ x ∈ xs, (f x).isSome = true := by
  simp only [Option.isSome_iff_exists, mapM_eq_some_iff, exists_forall₂_iff]

lemma mapM_eq_none_iff {f : α → Option β} {xs : List α} :
    xs.mapM f = none ↔ ∃ x ∈ xs, f x = none := by
  rw [← not_iff_not, ← ne_eq, ← Option.isSome_iff_ne_none, isSome_mapM_iff]
  simp only [not_exists, not_and, Option.isSome_iff_ne_none, ne_eq]

lemma mapError_eq_ok_iff {x : Except ε α} {g : ε → ε'} {a : α} :
    x.mapError g = .ok a ↔ x = .ok a := by
  cases x <;> simp [Except.mapError]

/-- Whatever error the computation ends with has the property. -/
def FailsWith (P : ε → Prop) (x : Except ε α) : Prop := ∀ e, x = .error e → P e

section FailsWith

variable {P : ε → Prop} {x : Except ε α}

@[simp] lemma failsWith_ok (a : α) : FailsWith P (.ok a : Except ε α) := by
  intro e h
  cases h

@[simp] lemma failsWith_error_iff (e : ε) : FailsWith P (.error e : Except ε α) ↔ P e := by
  constructor
  · exact fun h => h e rfl
  · rintro h e' he
    cases he
    exact h

lemma FailsWith.bind {f : α → Except ε β} (hx : FailsWith P x) (hf : ∀ a, FailsWith P (f a)) :
    FailsWith P (x >>= f) := by
  cases x with
  | error e =>
    rw [failsWith_error_iff] at hx
    rwa [error_bind, failsWith_error_iff]
  | ok a => exact hf a

lemma FailsWith.mapM {f : α → Except ε β} (hf : ∀ a, FailsWith P (f a)) (xs : List α) :
    FailsWith P (xs.mapM f) := by
  induction xs with
  | nil => exact failsWith_ok []
  | cons a xs ih =>
    rw [List.mapM_cons]
    exact (hf a).bind fun b => ih.bind fun bs => failsWith_ok (b :: bs)

end FailsWith

end Except

/-- What comes of a computation that logs and may fail. -/
def outcome {ε α : Type} (x : LoggedExcept ε α) : Except ε α := x.run.value

section Outcome

variable {ε ε' α β : Type}

@[simp] lemma outcome_bind (x : LoggedExcept ε α) (f : α → LoggedExcept ε β) :
    outcome (x >>= f) = outcome x >>= fun a => outcome (f a) := by
  simp only [outcome, ExceptT.run_bind, Logged.value_bind]
  cases x.run.value <;> rfl

@[simp] lemma outcome_pure (a : α) : outcome (pure a : LoggedExcept ε α) = .ok a := rfl

@[simp] lemma outcome_throw (e : ε) : outcome (throw e : LoggedExcept ε α) = .error e := rfl

@[simp] lemma outcome_ofExcept (x : Except ε α) : outcome (LoggedExcept.ofExcept x) = x := rfl

@[simp] lemma outcome_liftM (x : Logged α) :
    outcome (liftM x : LoggedExcept ε α) = .ok x.value := rfl

@[simp] lemma outcome_adapt (g : ε → ε') (x : LoggedExcept ε α) :
    outcome (x.adapt g) = (outcome x).mapError g := by
  rw [outcome, ExceptT.run_adapt]
  rfl

lemma outcome_mapM (f : α → LoggedExcept ε β) (xs : List α) :
    outcome (xs.mapM f) = xs.mapM fun x => outcome (f x) := by
  induction xs with
  | nil => rfl
  | cons x xs ih =>
    simp only [List.mapM_cons, outcome_bind, outcome_pure, ih]
    rfl

end Outcome

end TensorGraph.Proofs
