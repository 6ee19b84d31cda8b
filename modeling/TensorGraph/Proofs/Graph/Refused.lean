import Mathlib
import TensorGraph.Proofs.Workspace.Reachable

/-!
# Refused requests

A request that is refused adds no node. The name is settled before the checks of the draft, though,
and settling it may hand out a default name, which stays used. So later calls can tell that the
request was made exactly if a default name was taken for it.
-/

namespace TensorGraph.Proofs
open TensorGraph.Graph

/-- The request is for a known operation type and no name, and the type is the name of a node. -/
def TakesDefault (g : Graph) (r : Request) : Prop :=
  (g.registry.lookup r.opType).isSome = true ∧ Unnamed r ∧ g.contains r.opType = true

/-- The number that is handed out is at least the counter, which is put behind it. -/
lemma defaultName_eq (g : Graph) (opType : String) :
    ∃ n, (g.defaultName opType).2 = numbered opType n ∧ g.counter opType ≤ n ∧
      (g.defaultName opType).1.counter opType = n + 1 := by
  refine ⟨_, rfl, counter_le_freeNumber g opType g.names.size (g.counter opType), ?_⟩
  unfold defaultName counter
  rw [Table.get?_insert, if_pos rfl, Option.getD_some]

lemma counter_lt_counter_defaultName (g : Graph) (opType : String) :
    g.counter opType < (g.defaultName opType).1.counter opType := by
  obtain ⟨n, -, hle, hcounter⟩ := defaultName_eq g opType
  omega

lemma defaultName_ne (g : Graph) (opType : String) :
    ((g.defaultName opType).1.defaultName opType).2 ≠ (g.defaultName opType).2 := by
  obtain ⟨m, hm, -, hcounter⟩ := defaultName_eq g opType
  obtain ⟨n, hn, hle, -⟩ := defaultName_eq (g.defaultName opType).1 opType
  rw [hm, hn]
  intro h
  have heq := numbered_injective opType h
  omega

lemma run_defaultName (g : Graph) (opType : String) :
    (g.run [.defaultName opType]).value.2 = [.name (g.defaultName opType).2] := rfl

section Refused

variable {g g' : Graph} {r : Request} {e : GraphError} (h : (g.add r).value = (g', .error e))
include h

lemma eq_of_refused (htakes : ¬TakesDefault g r) : g' = g := by
  rcases add_eq_error h with ⟨hg, -⟩ | ⟨s, name, hs, hname, -⟩
  · exact hg
  · rcases chooseName_cases g r with ⟨asked, -, -, -, he⟩ | ⟨asked, -, -, -, he⟩ | ⟨-, -, he⟩ |
      ⟨hunnamed, htaken, -⟩
    · rw [he] at hname
      cases hname
    · rw [he] at hname
      cases hname
      rfl
    · rw [he] at hname
      cases hname
      rfl
    · have hknown : (g.registry.lookup r.opType).isSome = true := by rw [hs, Option.isSome_some]
      exact absurd ⟨hknown, hunnamed, htaken⟩ htakes

lemma eq_defaultName_of_refused (htakes : TakesDefault g r) :
    g' = (g.defaultName r.opType).1 := by
  obtain ⟨hknown, hunnamed, htaken⟩ := htakes
  have hchosen : g.chooseName r = .ok (g.defaultName r.opType) := by
    unfold chooseName
    rw [(filter_ne_empty_eq_none_iff r).2 hunnamed]
    simp only [htaken, if_true]
  rcases add_eq_error h with ⟨-, hs | hname⟩ | ⟨s, name, -, hname, -⟩
  · rw [hs] at hknown
    cases hknown
  · rw [hchosen] at hname
    cases hname
  · rw [hchosen] at hname
    cases hname
    rfl

/-- A refused request changes neither the nodes nor the table of names. It changes the counters of
default names, and the answers to later calls, exactly if it took a default name, and then it has
done what asking for one does. -/
theorem replies_after_refused :
    g'.nodes = g.nodes ∧ g'.names = g.names ∧ (g'.counters = g.counters ↔ ¬TakesDefault g r) ∧
      ((∀ calls, (g'.run calls).value.2 = (g.run calls).value.2) ↔ ¬TakesDefault g r) ∧
      (TakesDefault g r → g' = (g.defaultName r.opType).1) := by
  have hsame := sameStore_of_add_eq_error h
  refine ⟨hsame.nodes, hsame.names, ?_, ?_, eq_defaultName_of_refused h⟩
  · constructor
    · intro hcounters htakes
      have hlt := counter_lt_counter_defaultName g r.opType
      rw [← eq_defaultName_of_refused h htakes] at hlt
      unfold counter at hlt
      rw [hcounters] at hlt
      omega
    · intro htakes
      rw [eq_of_refused h htakes]
  · constructor
    · intro hreplies htakes
      have hname := hreplies [.defaultName r.opType]
      rw [run_defaultName, run_defaultName, eq_defaultName_of_refused h htakes] at hname
      injection hname with hname
      injection hname with hname
      exact defaultName_ne g r.opType hname
    · intro htakes calls
      rw [eq_of_refused h htakes]

end Refused

/-- The only node is named for an operation type. -/
def sampleGraph : Graph where
  id := 0
  registry := .standard
  nodes := #[⟨"Identity", "Placeholder", [], [("dtype", .type .float32)], 1⟩]
  names := ⟨[("Identity", 0)]⟩
  counters := .empty

lemma reachable_sampleGraph :
    ∃ w : Workspace, Reachable w ∧ w.graphs[0]? = some sampleGraph := by
  let calls : List Workspace.Call :=
    [.openGraph .standard, .onGraph 0 (.addPlaceholder "Identity" .float32)]
  refine ⟨Workspace.empty.afterAll calls, ?_, by decide +kernel⟩
  exact reachable_afterAll .empty (by simp [calls, Admissible, Loaded.standard])

lemma add_sampleGraph (name : Option String) (e : GraphError)
    (h : (sampleGraph.add { opType := "Identity", name }).value.2 = .error e) :
    (sampleGraph.add { opType := "Identity", name }).value =
      ((sampleGraph.add { opType := "Identity", name }).value.1, .error e) :=
  Prod.ext rfl h

theorem replies_after_refused_named : ∃ g' e,
    (sampleGraph.add { opType := "Identity", name := some "y" }).value = (g', .error e) ∧
      g'.nodes = sampleGraph.nodes ∧
      ∀ calls, (g'.run calls).value.2 = (sampleGraph.run calls).value.2 := by
  have hadd := add_sampleGraph (some "y") (.inputArity "y" 1 0 0 0) (by decide +kernel)
  obtain ⟨hnodes, -, -, hreplies, -⟩ := replies_after_refused hadd
  refine ⟨_, _, hadd, hnodes, hreplies.2 ?_⟩
  simp [TakesDefault, Unnamed]

/-- The next default name tells that a refused request was made. -/
theorem replies_after_refused_unnamed :
    (∃ w : Workspace, Reachable w ∧ w.graphs[0]? = some sampleGraph) ∧ ∃ g' e,
      (sampleGraph.add { opType := "Identity" }).value = (g', .error e) ∧
        g'.counters ≠ sampleGraph.counters ∧
        (sampleGraph.run [.defaultName "Identity"]).value.2 = [.name "Identity_0"] ∧
        (g'.run [.defaultName "Identity"]).value.2 = [.name "Identity_1"] := by
  have hadd := add_sampleGraph none (.inputArity "Identity_0" 1 0 0 0) (by decide +kernel)
  have htakes : TakesDefault sampleGraph { opType := "Identity" } :=
    ⟨by decide +kernel, by simp [Unnamed], rfl⟩
  rw [eq_defaultName_of_refused hadd htakes] at hadd
  refine ⟨reachable_sampleGraph, _, _, hadd, ?_, ?_, ?_⟩
  · decide
  · rfl
  · rfl

end TensorGraph.Proofs
