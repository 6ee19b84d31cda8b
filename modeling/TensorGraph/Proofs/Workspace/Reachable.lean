import Mathlib
import TensorGraph.Proofs.Graph.Step
import TensorGraph.Proofs.Registry.Loaded

/-!
# Reachable workspaces

A workspace is reachable if calls lead to it from the empty one, and every registry that was brought
in was loaded. A call changes at most the graph that its handle leads to, and that graph by one step.
So what holds of graphs without nodes and is kept by steps holds of every graph in a reachable
workspace.
-/

namespace TensorGraph.Proofs
open TensorGraph.Graph

/-- A registry that the call brings in was loaded. -/
def Admissible : Workspace.Call → Prop
  | .openGraph registry => Loaded registry
  | .share _ => True
  | .replace _ registry => Loaded registry
  | .onGraph _ _ => True

inductive Reachable : Workspace → Prop where
  | empty : Reachable .empty
  | after {w : Workspace} (h : Reachable w) (c : Workspace.Call) (hc : Admissible c) :
    Reachable (w.after c)

theorem reachable_afterAll {w : Workspace} (h : Reachable w) {calls : List Workspace.Call}
    (hc : ∀ c ∈ calls, Admissible c) : Reachable (w.afterAll calls) := by
  induction calls generalizing w with
  | nil => exact h
  | cons c rest ih =>
    rw [List.forall_mem_cons] at hc
    exact ih (h.after c hc.1) hc.2

def sampleRun : List Workspace.Call :=
  let x : Output := ⟨⟨0, 0⟩, 0⟩
  let sum : Request :=
    { opType := "addn", lists := [[x, x]], settings := [("T", ⟨.type .float32, none⟩)] }
  [.openGraph .standard, .onGraph 0 (.addPlaceholder "x" .float32), .share 0, .onGraph 1 (.add sum),
    .onGraph 0 (.add { opType := "AddN", lists := [[x]] })]

lemma reachable_sampleRun : Reachable (Workspace.empty.afterAll sampleRun) :=
  reachable_afterAll .empty (by simp [sampleRun, Admissible, Loaded.standard])

def Located (w : Workspace) : Prop := ∀ (i : Nat) (g : Graph), w.graphs[i]? = some g → g.id = i

lemma Step.id_eq {g g' : Graph} (h : Step g g') : g'.id = g.id := by
  cases h with
  | keep same => exact same.id
  | append node drafted appends => exact appends.id

lemma Step.registry_eq {g g' : Graph} (h : Step g g') : g'.registry = g.registry := by
  cases h with
  | keep same => exact same.registry
  | append node drafted appends => exact appends.registry

lemma graphs_after_onGraph {w : Workspace} (hw : Located w) (handle : Nat) (c : Graph.Call)
    (i : Nat) : (w.after (.onGraph handle c)).graphs[i]? =
      if w.handles[handle]? = some i then w.graphs[i]?.map fun g => (g.call c).value.1
      else w.graphs[i]? := by
  have hgraph : w.graph? handle = (w.handles[handle]?).bind fun id => w.graphs[id]? := rfl
  rw [Workspace.after, Workspace.change, hgraph]
  cases hid : w.handles[handle]? with
  | none => rfl
  | some id =>
    rw [Option.bind_some]
    cases hg : w.graphs[id]? with
    | none =>
      by_cases hi : id = i
      · simp [← hi, hg]
      · simp [hi]
    | some g =>
      have hlt : id < w.graphs.size := (Array.getElem?_eq_some_iff.1 hg).1
      have hkey : (g.call c).value.1.id = id := (step_call g c).id_eq.trans (hw id g hg)
      simp only [Option.map_some, Logged.value_bind, Logged.value_pure, Workspace.update, hkey,
        Array.getElem?_setIfInBounds, hlt, if_true]
      by_cases hi : id = i
      · simp [← hi, hg]
      · simp [hi]

lemma graphs_share (w : Workspace) (handle : Nat) : (w.share handle).graphs = w.graphs := by
  rw [Workspace.share]
  split <;> rfl

/-- A graph that is there before a call is there after it, in its place, and it is the same graph
unless the call is on it. -/
theorem exists_graph_after {w : Workspace} (hw : Located w) (c : Workspace.Call) {i : Nat}
    {g : Graph} (hg : w.graphs[i]? = some g) : ∃ g', (w.after c).graphs[i]? = some g' ∧
      (g' = g ∨ ∃ handle call, c = .onGraph handle call ∧ w.handles[handle]? = some i ∧
        g' = (g.call call).value.1) := by
  have hlt : i < w.graphs.size := (Array.getElem?_eq_some_iff.1 hg).1
  cases c with
  | openGraph registry =>
    refine ⟨g, ?_, .inl rfl⟩
    rw [Workspace.after, Workspace.openGraph, Array.getElem?_push_lt hlt, ← hg,
      Array.getElem?_eq_getElem hlt]
  | share handle =>
    refine ⟨g, ?_, .inl rfl⟩
    rw [Workspace.after, graphs_share, hg]
  | replace handle registry =>
    refine ⟨g, ?_, .inl rfl⟩
    rw [Workspace.after, Workspace.replace, Array.getElem?_push_lt hlt, ← hg,
      Array.getElem?_eq_getElem hlt]
  | onGraph handle call =>
    rw [graphs_after_onGraph hw, hg]
    split
    · rename_i hid
      exact ⟨_, rfl, .inr ⟨handle, call, rfl, hid, rfl⟩⟩
    · exact ⟨g, rfl, .inl rfl⟩

theorem exists_graph_before {w : Workspace} (hw : Located w) (c : Workspace.Call)
    (hc : Admissible c) {i : Nat} {g' : Graph} (hg' : (w.after c).graphs[i]? = some g') :
    (∃ g, w.graphs[i]? = some g) ∨ ∃ registry, Loaded registry ∧ g' = .empty i registry := by
  have hnew : ∀ registry, Loaded registry →
      (w.graphs.push (.empty w.graphs.size registry))[i]? = some g' →
      (∃ g, w.graphs[i]? = some g) ∨ ∃ registry, Loaded registry ∧ g' = .empty i registry := by
    intro registry hr h
    rw [Array.getElem?_push] at h
    split at h
    · rename_i hi
      cases h
      exact .inr ⟨registry, hr, by rw [hi]⟩
    · exact .inl ⟨g', h⟩
  cases c with
  | openGraph registry => exact hnew registry hc hg'
  | share handle =>
    rw [Workspace.after, graphs_share] at hg'
    exact .inl ⟨g', hg'⟩
  | replace handle registry => exact hnew registry hc hg'
  | onGraph handle call =>
    rw [graphs_after_onGraph hw] at hg'
    split at hg'
    · obtain ⟨g, hg, -⟩ := Option.map_eq_some_iff.1 hg'
      exact .inl ⟨g, hg⟩
    · exact .inl ⟨g', hg'⟩

/-- What holds of graphs without nodes, and is kept by a call on the graph that it is made on, holds
of every graph after the call if it held of every graph before. -/
theorem forall_graph_after {P : Nat → Graph → Prop} {w : Workspace} (hw : Located w)
    {c : Workspace.Call} (hc : Admissible c)
    (hempty : ∀ i registry, Loaded registry → P i (.empty i registry))
    (hcall : ∀ i g handle call, c = .onGraph handle call → w.graphs[i]? = some g → P i g →
      P i (g.call call).value.1)
    (h : ∀ i g, w.graphs[i]? = some g → P i g) :
    ∀ i g, (w.after c).graphs[i]? = some g → P i g := by
  intro i g' hg'
  rcases exists_graph_before hw c hc hg' with ⟨g, hg⟩ | ⟨registry, hr, rfl⟩
  · obtain ⟨g'', hg'', hcase⟩ := exists_graph_after hw c hg
    rw [hg'] at hg''
    cases hg''
    rcases hcase with rfl | ⟨handle, call, hon, -, rfl⟩
    · exact h i _ hg
    · exact hcall i g handle call hon hg (h i g hg)
  · exact hempty i registry hr

theorem located_of_reachable {w : Workspace} (h : Reachable w) : Located w := by
  induction h with
  | empty =>
    intro i g hg
    simp [Workspace.empty] at hg
  | after _ c hc ih =>
    refine forall_graph_after ih hc (fun i registry _ => rfl) ?_ ih
    intro i g handle call _ _ hid
    exact (step_call g call).id_eq.trans hid

/-- Induction over runs: what holds of graphs without nodes and is kept by steps holds of every
graph that can be reached. All these graphs have registries that were loaded. -/
theorem forall_graph_of_reachable {P : Graph → Prop}
    (hempty : ∀ id registry, Loaded registry → P (.empty id registry))
    (hstep : ∀ g g', Loaded g.registry → P g → Step g g' → P g') {w : Workspace}
    (h : Reachable w) : ∀ (i : Nat) (g : Graph), w.graphs[i]? = some g → Loaded g.registry ∧ P g := by
  induction h with
  | empty =>
    intro i g hg
    simp [Workspace.empty] at hg
  | after hw c hc ih =>
    refine forall_graph_after (located_of_reachable hw) hc ?_ ?_ ih
    · exact fun i registry hr => ⟨hr, hempty i registry hr⟩
    · rintro i g handle call - - ⟨hr, hp⟩
      have hs := step_call g call
      exact ⟨hs.registry_eq ▸ hr, hstep g _ hr hp hs⟩

lemma loaded_of_reachable {w : Workspace} (h : Reachable w) {i : Nat} {g : Graph}
    (hg : w.graphs[i]? = some g) : Loaded g.registry :=
  (forall_graph_of_reachable (P := fun _ => True) (fun _ _ _ => trivial) (fun _ _ _ _ _ => trivial)
    h i g hg).1

end TensorGraph.Proofs
