import Mathlib
import TensorGraph.Proofs.Attribute.Encode

/-!
# Events of computations

What a computation has logged when it ends. Steps that follow each other log one behind the other,
and a step that fails is the last one that logs. So a computation that goes through a list logs for
all items up to the first that fails, and for this one too.
-/

namespace TensorGraph.Proofs
open TensorGraph.Attribute

section Events

variable {ε ε' α β : Type}

/-- All that is logged, also if the computation fails. -/
def events (x : LoggedExcept ε α) : List Event := x.run.log

@[simp] lemma events_pure (a : α) : events (pure a : LoggedExcept ε α) = [] := rfl

@[simp] lemma events_throw (e : ε) : events (throw e : LoggedExcept ε α) = [] := rfl

@[simp] lemma events_ofExcept (x : Except ε α) : events (LoggedExcept.ofExcept x) = [] := rfl

lemma log_map (f : α → β) (x : Logged α) : (f <$> x).log = x.log := by
  rw [map_eq_pure_bind, Logged.log_bind, Logged.log_pure, List.append_nil]

@[simp] lemma events_liftM (x : Logged α) : events (liftM x : LoggedExcept ε α) = x.log :=
  log_map Except.ok x

@[simp] lemma events_adapt (g : ε → ε') (x : LoggedExcept ε α) : events (x.adapt g) = events x := by
  rw [events, ExceptT.run_adapt, log_map, events]

lemma events_bind (x : LoggedExcept ε α) (f : α → LoggedExcept ε β) : events (x >>= f) =
    events x ++ match outcome x with
      | .ok a => events (f a)
      | .error _ => [] := by
  simp only [events, outcome, ExceptT.run_bind, Logged.log_bind]
  cases x.run.value <;> rfl

/-- The items up to the first that offends, and this one too. -/
inductive Through (offends : α → Prop) : List α → List α → Prop where
  | nil : Through offends [] []
  | stop (x : α) (rest : List α) (h : offends x) : Through offends (x :: rest) [x]
  | pass (x : α) (rest reached : List α) (h : ¬offends x) (later : Through offends rest reached) :
    Through offends (x :: rest) (x :: reached)

lemma exists_through (offends : α → Prop) (xs : List α) :
    ∃ reached, Through offends xs reached := by
  induction xs with
  | nil => exact ⟨[], .nil⟩
  | cons x rest ih =>
    obtain ⟨reached, hreached⟩ := ih
    by_cases hx : offends x
    · exact ⟨[x], .stop x rest hx⟩
    · exact ⟨x :: reached, .pass x rest reached hx hreached⟩

lemma Through.eq_of_forall {offends : α → Prop} {xs reached : List α}
    (h : Through offends xs reached) (hclean : ∀ x ∈ xs, ¬offends x) : reached = xs := by
  induction h with
  | nil => rfl
  | stop x rest h => exact absurd h (hclean x List.mem_cons_self)
  | pass x rest reached h later ih =>
    rw [List.forall_mem_cons] at hclean
    rw [ih hclean.2]

lemma Through.congr {offends offends' : α → Prop} {xs reached : List α}
    (h : Through offends xs reached) (hsame : ∀ x ∈ xs, offends x ↔ offends' x) :
    Through offends' xs reached := by
  induction h with
  | nil => exact .nil
  | stop x rest h => exact .stop x rest ((hsame x List.mem_cons_self).1 h)
  | pass x rest reached h later ih =>
    rw [List.forall_mem_cons] at hsame
    exact .pass x rest reached (fun hx => h (hsame.1.2 hx)) (ih hsame.2)

theorem events_mapM {f : α → LoggedExcept ε β} {xs reached : List α}
    (h : Through (fun x => ∃ e, outcome (f x) = .error e) xs reached) :
    events (xs.mapM f) = reached.flatMap fun x => events (f x) := by
  induction h with
  | nil => rfl
  | stop x rest h =>
    obtain ⟨e, he⟩ := h
    simp only [List.mapM_cons, events_bind, he, List.append_nil, List.flatMap_cons,
      List.flatMap_nil]
  | pass x rest reached h later ih =>
    cases hx : outcome (f x) with
    | error e => exact absurd ⟨e, hx⟩ h
    | ok y =>
      rw [List.mapM_cons, events_bind, hx, List.flatMap_cons, ← ih]
      simp only [events_bind, events_pure]
      cases outcome (rest.mapM f) <;> simp

/-! ### Encoding -/

/-- What is logged when the encoding of an attribute is decided. -/
def resolvedEvents (attr : String) (setting : Setting) (declared : Option Kind) : List Event :=
  match resolve attr setting declared with
  | .ok (encoding, rule) => [.resolved attr encoding rule]
  | .error _ => []

/-- The encoding is logged once it is decided, whether or not the value fits it. -/
theorem events_encode (attr : String) (setting : Setting) (declared : Option Kind) :
    events (encode attr setting declared) = resolvedEvents attr setting declared := by
  unfold encode resolvedEvents
  rw [events_bind, events_ofExcept, outcome_ofExcept]
  cases resolve attr setting declared with
  | error e => rfl
  | ok found =>
    obtain ⟨encoding, rule⟩ := found
    simp only [events_bind, events_liftM, outcome_liftM]
    cases encoding.isSupported <;> cases encoding.represent? setting.value <;> rfl

end Events

end TensorGraph.Proofs
