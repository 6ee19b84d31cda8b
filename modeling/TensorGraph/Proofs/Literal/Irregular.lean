import Mathlib
import TensorGraph.Proofs.Literal.Regular
import TensorGraph.Proofs.Offence

/-!
# Irregular literals

The irregularity that is reported for a literal is the first one, depth first and from left to
right: its path leads to an item that is not shaped like its siblings in front of it, and nothing in
front of the path is irregular.
-/

namespace TensorGraph.Proofs
open Literal

/-- The literal that is reached by going to the items at the given positions, which count
from 0. -/
def descend? : Literal → List Nat → Option Literal
  | l, [] => some l
  | .sequence items, i :: path => items[i]?.bind fun item => descend? item path
  | .scalar _, _ :: _ => none

/-- At the end of the path stands an item with a regular shape of its own, in a sequence whose
earlier items, of which there are some, all have the shape that was expected. Along the path, the
items in front of each step have a common shape. -/
structure FirstIrregularity (l : Literal) (e : Irregularity) : Prop where
  place : ∃ path before item after, e.path = path ++ [before.length] ∧ before ≠ [] ∧
    descend? l path = some (.sequence (before ++ item :: after)) ∧
    (∀ earlier ∈ before, earlier.HasShape e.expected) ∧ item.HasShape e.found
  differ : e.expected ≠ e.found
  around : ∀ path i rest, e.path = path ++ i :: rest → ∃ before item after s,
    before.length = i ∧ descend? l path = some (.sequence (before ++ item :: after)) ∧
    ∀ earlier ∈ before, earlier.HasShape s

/-! ### One level of a literal -/

/-- Behind items of a common shape comes one in which something is irregular, or which has another
shape than they have. -/
def IrregularItem (inside : Literal → Irregularity → Prop) (items : List Literal)
    (e : Irregularity) : Prop :=
  ∃ before item after s, items = before ++ item :: after ∧
    (∀ earlier ∈ before, earlier.HasShape s) ∧
    ((∃ e', inside item e' ∧ e'.within before.length = e) ∨
      before ≠ [] ∧ ∃ found, item.HasShape found ∧ s ≠ found ∧ ⟨[before.length], s, found⟩ = e)

lemma agree_singleton_eq_ok_iff {expected : Shape} {i : Nat} {item : Literal} :
    agree expected i [item] = .ok () ↔ item.HasShape expected := by
  simp only [agree, ← shape_eq_ok_iff]
  cases item.shape with
  | error e => simp
  | ok found => by_cases h : expected = found <;> simp [h, eq_comm]

lemma agree_singleton_eq_error_iff {expected : Shape} {i : Nat} {item : Literal}
    {e : Irregularity} : agree expected i [item] = .error e ↔
      (∃ e', item.shape = .error e' ∧ e'.within i = e) ∨
        ∃ found, item.HasShape found ∧ expected ≠ found ∧ ⟨[i], expected, found⟩ = e := by
  simp only [agree, ← shape_eq_ok_iff]
  cases item.shape with
  | error e' => simp
  | ok found => by_cases h : expected = found <;> simp [h]

lemma walk_agree (expected : Shape) :
    Walk (fun i items => agree expected i items) (fun i _ => i + 1)
      (fun i item e => agree expected i [item] = .error e) fun _ => () where
  nil i := by simp only [agree]
  cons i item rest := by
    simp only [agree]
    cases item.shape with
    | error e => exact .inl ⟨e.within i, by simp [eq_comm], rfl⟩
    | ok found =>
      by_cases h : expected = found
      · exact .inr ⟨by simp [h], by simp [h]⟩
      · exact .inl ⟨⟨[i], expected, found⟩, by simp [h, eq_comm], by simp [h]⟩

lemma foldl_succ (before : List Literal) (i : Nat) :
    before.foldl (fun i _ => i + 1) i = i + before.length := by
  induction before generalizing i with
  | nil => rfl
  | cons item rest ih =>
    rw [List.foldl_cons, ih, List.length_cons]
    omega

lemma clean_agree_iff {expected : Shape} {i : Nat} {items : List Literal} :
    Clean (fun before item e => agree expected (i + before.length) [item] = .error e) items ↔
      ∀ item ∈ items, item.HasShape expected := by
  constructor
  · intro h item hitem
    obtain ⟨before, after, hsplit⟩ := List.append_of_mem hitem
    rw [← agree_singleton_eq_ok_iff (i := i + before.length)]
    cases hagree : agree expected (i + before.length) [item] with
    | error e => exact absurd hagree (h before item after hsplit e)
    | ok _ => rfl
  · rintro h before item after rfl e herror
    rw [agree_singleton_eq_ok_iff.2 (h item (by simp))] at herror
    cases herror

lemma agree_eq_error_iff {expected : Shape} {i : Nat} {items : List Literal} {e : Irregularity} :
    agree expected i items = .error e ↔ ∃ before item after, items = before ++ item :: after ∧
      (∀ earlier ∈ before, earlier.HasShape expected) ∧
      ((∃ e', item.shape = .error e' ∧ e'.within (i + before.length) = e) ∨
        ∃ found, item.HasShape found ∧ expected ≠ found ∧
          ⟨[i + before.length], expected, found⟩ = e) := by
  have hwalk := (walk_agree expected).eq_error_iff i items e
  simp only [foldl_succ, FirstOffence, clean_agree_iff] at hwalk
  simp only [hwalk, agree_singleton_eq_error_iff]

lemma shape_cons_eq_error_iff (first : Literal) (rest : List Literal) (e : Irregularity) :
    (Literal.sequence (first :: rest)).shape = .error e ↔
      (∃ e', first.shape = .error e' ∧ e'.within 0 = e) ∨
        ∃ s, first.HasShape s ∧ agree s 1 rest = .error e := by
  simp only [Literal.shape, ← shape_eq_ok_iff]
  cases first.shape with
  | error e' => simp
  | ok s => cases hagree : agree s 1 rest <;> simp [hagree]

/-- The first item is not compared with anything, and all others are compared with it. -/
lemma irregularItem_cons_iff {inside : Literal → Irregularity → Prop} (first : Literal)
    (rest : List Literal) (e : Irregularity) : IrregularItem inside (first :: rest) e ↔
      (∃ e', inside first e' ∧ e'.within 0 = e) ∨ ∃ s, first.HasShape s ∧
        ∃ before item after, rest = before ++ item :: after ∧
          (∀ earlier ∈ before, earlier.HasShape s) ∧
          ((∃ e', inside item e' ∧ e'.within (1 + before.length) = e) ∨
            ∃ found, item.HasShape found ∧ s ≠ found ∧ ⟨[1 + before.length], s, found⟩ = e) := by
  constructor
  · rintro ⟨_ | ⟨_, before⟩, item, after, s, ⟨⟩, hbefore, hitem⟩
    · exact hitem.imp_right fun h => absurd rfl h.1
    · rw [List.forall_mem_cons] at hbefore
      rw [List.length_cons, Nat.add_comm] at hitem
      exact .inr ⟨s, hbefore.1, before, item, after, rfl, hbefore.2, hitem.imp_right And.right⟩
  · rintro (hfirst | ⟨s, hs, before, item, after, rfl, hbefore, hitem⟩)
    · exact ⟨[], first, rest, [], rfl, by simp, .inl hfirst⟩
    · refine ⟨first :: before, item, after, s, rfl, List.forall_mem_cons.2 ⟨hs, hbefore⟩, ?_⟩
      rw [List.length_cons, Nat.add_comm]
      exact hitem.imp_right fun h => ⟨by simp, h⟩

lemma shape_sequence_eq_error_iff (items : List Literal) (e : Irregularity) :
    (Literal.sequence items).shape = .error e ↔
      IrregularItem (fun item e => item.shape = .error e) items e := by
  cases items with
  | nil => simp [Literal.shape, IrregularItem]
  | cons first rest =>
    rw [shape_cons_eq_error_iff, irregularItem_cons_iff]
    simp only [agree_eq_error_iff]

/-! ### Paths -/

lemma not_firstIrregularity_scalar (x : Scalar) (e : Irregularity) :
    ¬FirstIrregularity (.scalar x) e := by
  rintro ⟨⟨path, before, item, after, -, -, hdescend, -⟩, -, -⟩
  cases path <;> simp [descend?] at hdescend

lemma descend?_split (before : List Literal) (item : Literal) (after : List Literal)
    (path : List Nat) : descend? (.sequence (before ++ item :: after)) (before.length :: path) =
      descend? item path := by
  simp [descend?]

/-- What holds at each step of a path holds at its first step and at each step behind. -/
lemma forall_step_cons {P : List Nat → Nat → Prop} {i : Nat} {path : List Nat} :
    (∀ front j back, i :: path = front ++ j :: back → P front j) ↔
      P [] i ∧ ∀ front j back, path = front ++ j :: back → P (i :: front) j := by
  constructor
  · intro h
    refine ⟨h [] i path rfl, ?_⟩
    rintro front j back rfl
    exact h (i :: front) j back rfl
  · rintro ⟨hfirst, hrest⟩ (_ | ⟨_, front⟩) j back ⟨⟩
    · exact hfirst
    · exact hrest front j back rfl

lemma firstIrregularity_sequence_iff (items : List Literal) (e : Irregularity) :
    FirstIrregularity (.sequence items) e ↔ IrregularItem FirstIrregularity items e := by
  constructor
  · rintro ⟨⟨path, before, item, after, hpath, hne, hdescend, hbefore, hitem⟩, hdiffer, haround⟩
    rw [hpath] at haround
    -- The irregularity is at this level, or the path leads on into the item.
    cases path with
    | nil =>
      cases hdescend
      have he : ⟨[before.length], e.expected, e.found⟩ = e := by rw [← List.nil_append [_], ← hpath]
      exact ⟨before, item, after, e.expected, rfl, hbefore, .inr ⟨hne, e.found, hitem, hdiffer, he⟩⟩
    | cons i path =>
      rw [List.cons_append, forall_step_cons] at haround
      obtain ⟨⟨front, step, back, s, rfl, hsplit, hfront⟩, hrest⟩ := haround
      cases hsplit
      simp only [descend?_split] at hdescend hrest
      have he : Irregularity.within front.length
          ⟨path ++ [before.length], e.expected, e.found⟩ = e := by
        rw [Irregularity.within, ← List.cons_append, ← hpath]
      refine ⟨front, step, back, s, rfl, hfront, .inl ⟨_, ?_, he⟩⟩
      exact ⟨⟨path, before, item, after, rfl, hne, hdescend, hbefore, hitem⟩, hdiffer, hrest⟩
  · rintro ⟨front, step, back, s, rfl, hfront, ⟨e, he, rfl⟩ | ⟨hne, found, hfound, hdiffer, rfl⟩⟩
    · obtain ⟨hplace, hdiffer, haround⟩ := he
      obtain ⟨path, before, item, after, hpath, hne, hdescend, hbefore, hitem⟩ := hplace
      refine ⟨⟨front.length :: path, before, item, after, ?_, hne, ?_, hbefore, hitem⟩, hdiffer, ?_⟩
      · rw [Irregularity.within, hpath, List.cons_append]
      · rwa [descend?_split]
      · refine forall_step_cons.2 ⟨⟨front, step, back, s, rfl, rfl, hfront⟩, ?_⟩
        simpa only [descend?_split] using haround
    · refine ⟨⟨[], front, step, back, rfl, hne, rfl, hfront, hfound⟩, hdiffer, ?_⟩
      exact forall_step_cons.2 ⟨⟨front, step, back, s, rfl, rfl, hfront⟩, by simp⟩

/-- Two notions of irregularity agree on a sequence if they agree on all its items, where the path
is shorter by the step to the item. -/
lemma irregularItem_congr {inside inside' : Literal → Irregularity → Prop} {items : List Literal}
    {e : Irregularity}
    (h : ∀ item e', e'.path.length < e.path.length → (inside item e' ↔ inside' item e')) :
    IrregularItem inside items e ↔ IrregularItem inside' items e := by
  unfold IrregularItem
  refine exists_congr fun before => exists_congr fun item => exists_congr fun after =>
    exists_congr fun s => and_congr_right fun _ => and_congr_right fun _ => or_congr_left ?_
  refine exists_congr fun e' => and_congr_left ?_
  rintro rfl
  exact h item e' (Nat.lt_succ_self _)

/-- The irregularity that is reported is the first one. The induction is on the length of its
path. -/
theorem shape_eq_error_iff (l : Literal) (e : Irregularity) :
    l.shape = .error e ↔ FirstIrregularity l e := by
  induction hn : e.path.length using Nat.strong_induction_on generalizing l e with
  | _ n ih =>
    cases l with
    | scalar x => simp [Literal.shape, not_firstIrregularity_scalar]
    | sequence items =>
      rw [shape_sequence_eq_error_iff, firstIrregularity_sequence_iff]
      refine irregularItem_congr fun item e' hlt => ?_
      exact ih e'.path.length (hn ▸ hlt) item e' rfl

/-- The literals that have a shape are the rectangular ones. Of all others the first irregularity is
reported, at any depth of nesting and behind any number of well-formed siblings. -/
theorem shape_verdict (l : Literal) : (∀ s, l.shape = .ok s ↔ l.HasShape s) ∧
    ∀ e, l.shape = .error e ↔ FirstIrregularity l e :=
  ⟨fun _ => shape_eq_ok_iff, shape_eq_error_iff l⟩

/-- In `[[1, 2], [3, [4]]]` the second item of the second row is not a scalar. -/
example : (Literal.sequence [.sequence [.scalar (.integer 1), .scalar (.integer 2)],
    .sequence [.scalar (.integer 3), .sequence [.scalar (.integer 4)]]]).shape =
      .error ⟨[1, 1], [], [1]⟩ := rfl

end TensorGraph.Proofs
