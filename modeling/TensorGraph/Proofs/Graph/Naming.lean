import Mathlib
import TensorGraph.Graph.Add

/-!
# Names of nodes

A default name is never the name of a node: the search for a free number looks at no more names
than the graph has, and these cannot all be numbered ones. So each way of settling the name of a
requested node ends with a name that is free.
-/

namespace TensorGraph.Proofs
open TensorGraph.Graph

/-- Nothing but the counters of default names may differ. -/
structure SameStore (g g' : Graph) : Prop where
  id : g'.id = g.id
  registry : g'.registry = g.registry
  nodes : g'.nodes = g.nodes
  names : g'.names = g.names

lemma SameStore.refl (g : Graph) : SameStore g g := ⟨rfl, rfl, rfl, rfl⟩

lemma SameStore.trans {g₁ g₂ g₃ : Graph} (h : SameStore g₁ g₂) (h' : SameStore g₂ g₃) :
    SameStore g₁ g₃ :=
  ⟨h'.id.trans h.id, h'.registry.trans h.registry, h'.nodes.trans h.nodes, h'.names.trans h.names⟩

lemma SameStore.contains {g g' : Graph} (h : SameStore g g') (name : String) :
    g'.contains name = g.contains name := by
  simp only [Graph.contains, position?, h.names]

lemma sameStore_defaultName (g : Graph) (opType : String) :
    SameStore g (g.defaultName opType).1 := ⟨rfl, rfl, rfl, rfl⟩

/-! ### Numbers behind a mark -/

lemma notMem_toString {mark : Char} (hmark : mark.isDigit = false) (n : Nat) :
    mark ∉ (toString n).toList := by
  intro hmem
  rw [Nat.toString_eq_repr, Nat.toList_repr] at hmem
  have hdigit : mark.isDigit = true := Nat.isDigit_of_mem_toDigits (by decide) (by decide) hmem
  rw [hmark] at hdigit
  cases hdigit

/-- A list is split in only one way at the last occurrence of an item. -/
lemma append_cons_inj_of_notMem_right {α : Type} {a : α} {xs ys xs' ys' : List α} (hys : a ∉ ys)
    (hys' : a ∉ ys') (h : xs ++ a :: ys = xs' ++ a :: ys') : xs = xs' ∧ ys = ys' := by
  rcases List.append_eq_append_iff.1 h with ⟨between, rfl, hsplit⟩ | ⟨between, rfl, hsplit⟩
  · cases between with
    | nil => exact ⟨by simp, by simpa using hsplit⟩
    | cons first between =>
      rw [List.cons_append, List.cons.injEq] at hsplit
      exact absurd (by simp [hsplit.2]) hys
  · cases between with
    | nil => exact ⟨by simp, by simpa using hsplit.symm⟩
    | cons first between =>
      rw [List.cons_append, List.cons.injEq] at hsplit
      exact absurd (by simp [hsplit.2]) hys'

/-- A number has no marks, so the last mark of a text splits the number off, whatever marks and
digits stand before it. -/
theorem append_mark_number_inj {mark : Char} (hmark : mark.isDigit = false) {sep : String}
    (hsep : sep.toList = [mark]) {s t : String} {m n : Nat}
    (h : s ++ sep ++ toString m = t ++ sep ++ toString n) : s = t ∧ m = n := by
  have hchars := congrArg String.toList h
  simp only [String.toList_append, hsep, List.append_assoc, List.singleton_append] at hchars
  obtain ⟨htext, hnumber⟩ := append_cons_inj_of_notMem_right (notMem_toString hmark m)
    (notMem_toString hmark n) hchars
  exact ⟨String.toList_inj.1 htext, Nat.repr_injective (String.toList_inj.1 hnumber)⟩

/-- A default name tells the operation type and the number that it is made of. -/
theorem numbered_inj {opType opType' : String} {m n : Nat}
    (h : numbered opType m = numbered opType' n) : opType = opType' ∧ m = n :=
  append_mark_number_inj (by decide) (by rfl : "_".toList = ['_']) h

lemma numbered_injective (opType : String) : Function.Injective (numbered opType) := by
  intro m n h
  exact (numbered_inj h).2

lemma numbered_ne_empty (opType : String) (n : Nat) : numbered opType n ≠ "" := by
  simp [numbered]

lemma contains_iff_mem (g : Graph) (name : String) :
    g.contains name = true ↔ name ∈ g.names.entries.map Prod.fst := by
  rw [Graph.contains, position?, Table.get?, List.lookup_isSome_iff, List.mem_map]
  refine exists_congr fun entry => and_congr_right fun _ => ?_
  rw [beq_iff_eq]
  exact eq_comm

/-- The search for a free number either ends at one or has passed `tries` names that are taken. -/
lemma freeNumber_spec (g : Graph) (opType : String) (tries n : Nat) :
    n ≤ g.freeNumber opType tries n ∧
      (∀ k, n ≤ k → k < g.freeNumber opType tries n → g.contains (numbered opType k) = true) ∧
      (g.contains (numbered opType (g.freeNumber opType tries n)) = true →
        g.freeNumber opType tries n = n + tries) := by
  induction tries generalizing n with
  | zero =>
    refine ⟨le_rfl, ?_, fun _ => rfl⟩
    intro k hk hk'
    rw [freeNumber] at hk'
    omega
  | succ tries ih =>
    rw [freeNumber]
    split
    · rename_i htaken
      obtain ⟨hle, hpassed, hend⟩ := ih (n + 1)
      refine ⟨by omega, ?_, fun h => by rw [hend h]; omega⟩
      intro k hk hk'
      rcases Nat.eq_or_lt_of_le hk with rfl | hlt
      · exact htaken
      · exact hpassed k hlt hk'
    · rename_i hfree
      exact ⟨le_rfl, fun k hk hk' => by omega, fun h => absurd h hfree⟩

lemma length_le_size_of_contains (g : Graph) {names : List String} (hn : names.Nodup)
    (h : ∀ name ∈ names, g.contains name = true) : names.length ≤ g.names.size := by
  have hsub : names ⊆ g.names.entries.map Prod.fst :=
    fun name hmem => (contains_iff_mem g name).1 (h name hmem)
  simpa [Table.size] using (hn.subperm hsub).length_le

theorem not_contains_freeNumber (g : Graph) (opType : String) (n : Nat) :
    g.contains (numbered opType (g.freeNumber opType g.names.size n)) = false := by
  obtain ⟨-, hpassed, hend⟩ := freeNumber_spec g opType g.names.size n
  by_contra htaken
  rw [Bool.not_eq_false] at htaken
  have hlast := hend htaken
  -- Were it taken, one more name would be taken than there are names.
  have hall : ∀ name ∈ (List.range (g.names.size + 1)).map fun k => numbered opType (n + k),
      g.contains name = true := by
    intro name hname
    obtain ⟨k, hk, rfl⟩ := List.mem_map.1 hname
    rw [List.mem_range] at hk
    rcases Nat.eq_or_lt_of_le (Nat.le_of_lt_succ hk) with rfl | hlt
    · rw [← hlast]
      exact htaken
    · exact hpassed (n + k) (by omega) (by omega)
  have hnodup : ((List.range (g.names.size + 1)).map fun k => numbered opType (n + k)).Nodup :=
    List.nodup_range.map fun a b h => by
      have := numbered_injective opType h
      omega
  have := length_le_size_of_contains g hnodup hall
  rw [List.length_map, List.length_range] at this
  omega

theorem not_contains_defaultName (g : Graph) (opType : String) :
    g.contains (g.defaultName opType).2 = false :=
  not_contains_freeNumber g opType (g.counter opType)

lemma counter_le_freeNumber (g : Graph) (opType : String) (tries n : Nat) :
    n ≤ g.freeNumber opType tries n := (freeNumber_spec g opType tries n).1

def Unnamed (r : Request) : Prop := ∀ name, r.name = some name → name = ""

lemma filter_ne_empty_eq_none_iff (r : Request) :
    r.name.filter (· ≠ "") = none ↔ Unnamed r := by
  simp only [Option.filter_eq_none_iff, Unnamed, decide_eq_true_eq, not_not]

/-- The four ways in which the name of a requested node is settled. -/
theorem chooseName_cases (g : Graph) (r : Request) :
    (∃ name, r.name = some name ∧ name ≠ "" ∧ g.contains name = true ∧
      g.chooseName r = .error (.duplicateName name)) ∨
    (∃ name, r.name = some name ∧ name ≠ "" ∧ g.contains name = false ∧
      g.chooseName r = .ok (g, name)) ∨
    (Unnamed r ∧ g.contains r.opType = false ∧ g.chooseName r = .ok (g, r.opType)) ∨
    (Unnamed r ∧ g.contains r.opType = true ∧ g.chooseName r = .ok (g.defaultName r.opType)) := by
  rw [chooseName]
  cases h : r.name.filter (· ≠ "") with
  | some name =>
    obtain ⟨hname, hne⟩ := Option.filter_eq_some_iff.1 h
    cases hc : g.contains name <;> simp_all
  | none =>
    have hu := (filter_ne_empty_eq_none_iff r).1 h
    cases hc : g.contains r.opType <;> simp_all

theorem chooseName_eq_ok {g g' : Graph} {r : Request} {name : String}
    (h : g.chooseName r = .ok (g', name)) :
    SameStore g g' ∧ g.contains name = false ∧ (r.opType ≠ "" → name ≠ "") := by
  rcases chooseName_cases g r with ⟨asked, -, -, -, he⟩ | ⟨asked, -, hne, hfree, he⟩ |
    ⟨-, hfree, he⟩ | ⟨-, -, he⟩
  all_goals rw [he] at h; cases h
  · exact ⟨.refl g, hfree, fun _ => hne⟩
  · exact ⟨.refl g, hfree, id⟩
  · exact ⟨sameStore_defaultName g r.opType, not_contains_defaultName g r.opType,
      fun _ => numbered_ne_empty r.opType _⟩

end TensorGraph.Proofs
