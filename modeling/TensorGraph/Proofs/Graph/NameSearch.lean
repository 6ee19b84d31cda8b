import Mathlib
import TensorGraph.Proofs.Graph.Refused
import TensorGraph.Proofs.Graph.Verdict

/-!
# The search for a default name

A default name is found round by round: a round makes a name of the counter, puts the counter one
further and looks whether the name is taken. No bound is set on the rounds. They end all the same,
because the names of different rounds differ, and all but the last are names of nodes.
-/

namespace TensorGraph.Proofs
open TensorGraph.Graph

/-- The graph after the number `n` was used for the type. -/
def advanced (g : Graph) (opType : String) (n : Nat) : Graph :=
  { g with counters := g.counters.insert opType (n + 1) }

/-- One round: the name has the number that the counter of the type stood at. A counter that is
missing stands at 0. -/
def takeNumber (g : Graph) (opType : String) : Graph × String :=
  (advanced g opType (g.counter opType), numbered opType (g.counter opType))

/-- The rounds of a search, how many there are, and the graph and the name that they end with. -/
inductive Search (opType : String) : Graph → (rounds : Nat) → Graph → String → Prop where
  | found {g g' : Graph} {name : String} (round : takeNumber g opType = (g', name))
    (free : g'.contains name = false) : Search opType g 1 g' name
  | next {g g₁ g' : Graph} {passed name : String} {rounds : Nat}
    (round : takeNumber g opType = (g₁, passed)) (taken : g₁.contains passed = true)
    (rest : Search opType g₁ rounds g' name) : Search opType g (rounds + 1) g' name

/-- The numbers from `n` on whose names are free. -/
def freeFrom (g : Graph) (opType : String) (n : Nat) : Set Nat :=
  {k | n ≤ k ∧ g.contains (numbered opType k) = false}

section Search

variable {g g' : Graph} {opType name : String} {rounds n : Nat}

lemma counter_advanced (g : Graph) (opType : String) (n : Nat) :
    (advanced g opType n).counter opType = n + 1 := by
  unfold advanced counter
  rw [Table.get?_insert, if_pos rfl, Option.getD_some]

lemma advanced_advanced (g : Graph) (opType : String) (m n : Nat) :
    advanced (advanced g opType m) opType n = advanced g opType n := by
  unfold advanced
  rw [Table.insert_insert]

lemma contains_of_lt {c k : Nat} (h : IsLeast (freeFrom g opType c) n) (hk : c ≤ k) (hlt : k < n) :
    g.contains (numbered opType k) = true := by
  by_contra hfree
  rw [Bool.not_eq_true] at hfree
  exact Nat.not_le_of_lt hlt (h.2 ⟨hk, hfree⟩)

/-- A round that finds its name taken passes no number whose name is free. -/
lemma freeFrom_advanced (htaken : g.contains (numbered opType (g.counter opType)) = true) :
    freeFrom (advanced g opType (g.counter opType)) opType
        ((advanced g opType (g.counter opType)).counter opType) =
      freeFrom g opType (g.counter opType) := by
  ext k
  rw [counter_advanced]
  refine ⟨fun h => ⟨Nat.le_of_succ_le h.1, h.2⟩, fun h => ⟨Nat.lt_of_le_of_ne h.1 ?_, h.2⟩⟩
  rintro rfl
  rw [h.2] at htaken
  cases htaken

/-- A search ends, if it does, with the least number whose name is free. -/
lemma isLeast_of_search (h : Search opType g rounds g' name) :
    ∃ n, IsLeast (freeFrom g opType (g.counter opType)) n ∧ n + 1 = g.counter opType + rounds ∧
      g' = advanced g opType n ∧ name = numbered opType n := by
  induction h with
  | found round free =>
    cases round
    exact ⟨_, ⟨⟨le_rfl, free⟩, fun k hk => hk.1⟩, rfl, rfl, rfl⟩
  | next round taken rest ih =>
    cases round
    obtain ⟨n, hleast, hn, hafter, hname⟩ := ih
    rw [freeFrom_advanced taken] at hleast
    rw [counter_advanced] at hn
    exact ⟨n, hleast, by omega, hafter.trans (advanced_advanced _ _ _ _), hname⟩

/-- A search ends if any name is free. -/
lemma search_of_isLeast (h : IsLeast (freeFrom g opType (g.counter opType)) n)
    (hn : n = g.counter opType + rounds) :
    Search opType g (rounds + 1) (advanced g opType n) (numbered opType n) := by
  induction rounds generalizing g with
  | zero =>
    subst hn
    exact .found rfl h.1.2
  | succ rounds ih =>
    have htaken := contains_of_lt h le_rfl (by omega)
    refine .next rfl htaken ?_
    rw [← advanced_advanced g opType (g.counter opType) n]
    refine ih ?_ ?_
    · rwa [freeFrom_advanced htaken]
    · rw [counter_advanced]
      omega

end Search

/-- Every number that the search passes is in the name of a node of its own. -/
lemma Consistent.length_passed_le {g : Graph} (hg : Consistent g) {opType : String} {c n : Nat}
    (h : IsLeast (freeFrom g opType c) n) : n - c ≤ g.size := by
  have hnodup : ((List.range' c (n - c)).map (numbered opType)).Nodup :=
    (List.nodup_range' ..).map (numbered_injective opType)
  have hsubset : (List.range' c (n - c)).map (numbered opType) ⊆ g.nodes.toList.map Node.name := by
    intro name hname
    obtain ⟨k, hk, rfl⟩ := List.mem_map.1 hname
    rw [List.mem_range'_1] at hk
    have htaken := contains_of_lt h hk.1 (by omega)
    obtain ⟨node, hnode, hname⟩ := (hg.contains_iff _).1 htaken
    exact List.mem_map.2 ⟨node, hnode.val, hname⟩
  have hlength := (hnodup.subperm hsubset).length_le
  rwa [List.length_map, List.length_map, List.length_range'] at hlength

/-- What asking for a default name for a type does. -/
structure DefaultNameLaws (g : Graph) (opType : String) (n : Nat) : Prop where
  least : IsLeast {k | g.counter opType ≤ k ∧ ∀ node ∈ g.nodes, node.name ≠ numbered opType k} n
  name : (g.defaultName opType).2 = numbered opType n
  search : ∀ rounds g' name, Search opType g rounds g' name ↔
    rounds = n - g.counter opType + 1 ∧ (g', name) = g.defaultName opType
  rounds : n - g.counter opType + 1 ≤ g.size + 1
  counter : (g.defaultName opType).1.counters.get? opType = some (n + 1)
  others : ∀ other, other ≠ opType →
    (g.defaultName opType).1.counters.get? other = g.counters.get? other
  store : SameStore g (g.defaultName opType).1

/-- On every graph that can be reached, the search for a default name ends after at most one round
more than there are nodes. It finds the least number, from the counter of the type on, whose name is
free, and nothing but that counter changes. -/
theorem defaultNameLaws_of_reachable {w : Workspace} (hw : Reachable w) {i : Nat} {g : Graph}
    (hg : w.graphs[i]? = some g) (opType : String) : ∃ n, DefaultNameLaws g opType n := by
  have hcons := consistent_of_reachable hw hg
  have hleast := hcons.isLeast_freeNumber opType
  have hfree : IsLeast (freeFrom g opType (g.counter opType))
      (g.freeNumber opType g.names.size (g.counter opType)) := by
    simpa only [freeFrom, hcons.not_contains_iff] using hleast
  have hle := hfree.1.1
  refine ⟨g.freeNumber opType g.names.size (g.counter opType), ?_⟩
  constructor
  case least => exact hleast
  case name => rfl
  case search =>
    intro rounds g' name
    constructor
    · intro h
      obtain ⟨n, hn, hrounds, rfl, rfl⟩ := isLeast_of_search h
      obtain rfl := hn.unique hfree
      exact ⟨by omega, rfl⟩
    · rintro ⟨rfl, hname⟩
      obtain ⟨rfl, rfl⟩ := Prod.ext_iff.1 hname
      exact search_of_isLeast hfree (by omega)
  case rounds => exact Nat.succ_le_succ (hcons.length_passed_le hfree)
  case counter => exact (Table.get?_insert _ _ _ _).trans (if_pos rfl)
  case others => exact fun other hother => (Table.get?_insert _ _ _ _).trans (if_neg hother)
  case store => exact sameStore_defaultName g opType

/-- All nodes have names like default names. -/
def numberedNodes : List Workspace.Call :=
  [.openGraph .standard, .onGraph 0 (.addPlaceholder "A_0" .float32),
    .onGraph 0 (.addPlaceholder "A_1" .float32)]

/-- The bound on the rounds is met if every node is passed. -/
theorem defaultNameLaws_numberedNodes :
    ∃ g, (Workspace.empty.afterAll numberedNodes).graphs[0]? = some g ∧ g.size = 2 ∧
      DefaultNameLaws g "A" 2 ∧ Search "A" g 3 (g.defaultName "A").1 "A_2" := by
  have hgraph : (Workspace.empty.afterAll numberedNodes).graphs[0]?.map
      (fun g => (g.size, g.counter "A", (g.defaultName "A").2)) = some (2, 0, "A_2") := by
    decide +kernel
  obtain ⟨g, hg, hvalues⟩ := Option.map_eq_some_iff.1 hgraph
  obtain ⟨hsize, hvalues⟩ := Prod.ext_iff.1 hvalues
  obtain ⟨hcounter, hname⟩ := Prod.ext_iff.1 hvalues
  have hreachable : Reachable (Workspace.empty.afterAll numberedNodes) :=
    reachable_afterAll .empty (by simp [numberedNodes, Admissible, Loaded.standard])
  obtain ⟨n, hlaws⟩ := defaultNameLaws_of_reachable hreachable hg "A"
  obtain rfl : n = 2 := numbered_injective "A" (hlaws.name.symm.trans hname)
  refine ⟨g, hg, hsize, hlaws, (hlaws.search _ _ _).2 ⟨?_, Prod.ext rfl hname.symm⟩⟩
  rw [show g.counter "A" = 0 from hcounter]

end TensorGraph.Proofs
