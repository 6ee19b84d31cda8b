import Mathlib
import TensorGraph.Proofs.Graph.Store

/-!
# Where outputs come from

Callers get outputs from operations, and operations from the replies to their calls. Every operation
in a reply is one of the workspace, and it stays that in all later workspaces, so an output can be
kept for as long as one likes.
-/

namespace TensorGraph.Proofs
open TensorGraph.Graph

/-- The output can be got from an operation of the workspace. The graph of the operation may be
gone. -/
def Obtainable (w : Workspace) (output : Output) : Prop :=
  ∃ op, w.operation? op.ref = some op ∧
    (output ∈ op.outputs ∨ ∃ slot, op.output? slot = some output)

lemma mem_outputs_iff (op : Operation) (output : Output) :
    output ∈ op.outputs ↔ output.node = op.ref ∧ output.slot < op.node.numOutputs := by
  obtain ⟨node, slot⟩ := output
  simp only [Operation.outputs, List.mem_map, List.mem_range, Output.mk.injEq]
  constructor
  · rintro ⟨slot', hlt, rfl, rfl⟩
    exact ⟨rfl, hlt⟩
  · rintro ⟨rfl, hlt⟩
    exact ⟨slot, hlt, rfl, rfl⟩

lemma output?_eq_some_iff (op : Operation) (slot : Nat) (output : Output) :
    op.output? slot = some output ↔ output = ⟨op.ref, slot⟩ ∧ slot < op.node.numOutputs := by
  rw [Operation.output?]
  by_cases hlt : slot < op.node.numOutputs
  · simp [hlt, eq_comm]
  · simp [hlt]

lemma operationAt?_eq_some_iff (g : Graph) (position : Nat) (op : Operation) :
    g.operationAt? position = some op ↔
      op.ref = ⟨g.id, position⟩ ∧ g.nodes[position]? = some op.node := by
  rw [operationAt?, Option.map_eq_some_iff]
  constructor
  · rintro ⟨node, hnode, rfl⟩
    exact ⟨rfl, hnode⟩
  · rintro ⟨href, hnode⟩
    exact ⟨op.node, hnode, by rw [← href]⟩

lemma operation?_eq_some_iff {w : Workspace} (hw : Located w) (ref : NodeRef) (op : Operation) :
    w.operation? ref = some op ↔
      op.ref = ref ∧ ∃ g, w.graphs[ref.graph]? = some g ∧ g.nodes[ref.position]? = some op.node := by
  have hbind : w.operation? ref = w.graphs[ref.graph]?.bind (·.operationAt? ref.position) := rfl
  rw [hbind, Option.bind_eq_some_iff]
  constructor
  · rintro ⟨g, hg, hop⟩
    obtain ⟨href, hnode⟩ := (operationAt?_eq_some_iff g ref.position op).1 hop
    rw [hw ref.graph g hg] at href
    exact ⟨href, g, hg, hnode⟩
  · rintro ⟨href, g, hg, hnode⟩
    refine ⟨g, hg, (operationAt?_eq_some_iff g ref.position op).2 ⟨?_, hnode⟩⟩
    rw [href, hw ref.graph g hg]

lemma obtainable_iff {w : Workspace} (hw : Located w) (output : Output) :
    Obtainable w output ↔ ∃ g node, w.graphs[output.node.graph]? = some g ∧
      g.nodes[output.node.position]? = some node ∧ output.slot < node.numOutputs := by
  constructor
  · rintro ⟨op, hop, hout⟩
    have hslot : output.node = op.ref ∧ output.slot < op.node.numOutputs := by
      rcases hout with hmem | ⟨slot, hslot⟩
      · exact (mem_outputs_iff op output).1 hmem
      · obtain ⟨rfl, hlt⟩ := (output?_eq_some_iff op slot output).1 hslot
        exact ⟨rfl, hlt⟩
    obtain ⟨-, g, hg, hnode⟩ := (operation?_eq_some_iff hw op.ref op).1 hop
    rw [hslot.1]
    exact ⟨g, op.node, hg, hnode, hslot.2⟩
  · rintro ⟨g, node, hg, hnode, hlt⟩
    refine ⟨⟨output.node, node⟩, ?_, .inl ?_⟩
    · exact (operation?_eq_some_iff hw _ _).2 ⟨rfl, g, hg, hnode⟩
    · exact (mem_outputs_iff _ output).2 ⟨rfl, hlt⟩

lemma Step.getElem?_nodes {g g' : Graph} (h : Step g g') {k : Nat} {node : Node}
    (hnode : g.nodes[k]? = some node) : g'.nodes[k]? = some node := by
  cases h with
  | keep same => rw [same.nodes, hnode]
  | append new drafted appends => exact appends.getElem?_nodes hnode

/-- An operation stays what it is after any further call. -/
theorem operation?_after {w : Workspace} (hw : Reachable w) {c : Workspace.Call}
    (hc : Admissible c) {ref : NodeRef} {op : Operation} (h : w.operation? ref = some op) :
    (w.after c).operation? ref = some op := by
  have hloc := located_of_reachable hw
  obtain ⟨href, g, hg, hnode⟩ := (operation?_eq_some_iff hloc ref op).1 h
  obtain ⟨g', hg', hcase⟩ := exists_graph_after hloc c hg
  refine (operation?_eq_some_iff (located_of_reachable (hw.after c hc)) ref op).2
    ⟨href, g', hg', ?_⟩
  rcases hcase with rfl | ⟨handle, call, -, -, rfl⟩
  · exact hnode
  · exact (step_call g call).getElem?_nodes hnode

/-- What could be got from an operation can be got after any further call. -/
theorem Obtainable.after {w : Workspace} (hw : Reachable w) {c : Workspace.Call}
    (hc : Admissible c) {output : Output} (h : Obtainable w output) :
    Obtainable (w.after c) output := by
  obtain ⟨op, hop, hout⟩ := h
  exact ⟨op, operation?_after hw hc hop, hout⟩

/-! ### What replies hand out -/

def handed : Reply → List Operation
  | .added (.ok op) => [op]
  | .found (some op) => [op]
  | .operations operations => operations
  | _ => []

lemma operationAt?_of_add {g g' : Graph} {r : Request} {op : Operation}
    (h : (g.add r).value = (g', .ok op)) : g'.operationAt? op.ref.position = some op := by
  obtain ⟨href, -, happends⟩ := append_of_add_eq_ok h
  have hposition : op.ref.position = g.nodes.size := by
    rw [href, Graph.size]
  refine (operationAt?_eq_some_iff g' _ op).2 ⟨?_, ?_⟩
  · rw [happends.id, href]
  · rw [hposition, happends.nodes, Array.getElem?_push_size]

lemma operationAt?_of_find {g : Graph} {name : String} {op : Operation}
    (h : (g.find name).value = some op) : g.operationAt? op.ref.position = some op := by
  rw [find_value, operation?, Option.bind_eq_some_iff] at h
  obtain ⟨i, -, hop⟩ := h
  obtain ⟨href, -⟩ := (operationAt?_eq_some_iff g i op).1 hop
  rw [href, hop]

lemma operationAt?_of_mem_operations {g : Graph} {op : Operation} (h : op ∈ g.operations) :
    g.operationAt? op.ref.position = some op := by
  obtain ⟨i, -, hop⟩ := List.mem_filterMap.1 h
  obtain ⟨href, -⟩ := (operationAt?_eq_some_iff g i op).1 hop
  rw [href, hop]

lemma operationAt?_of_handed {g g' : Graph} {c : Graph.Call} {reply : Reply}
    (h : (g.call c).value = (g', reply)) {op : Operation} (hop : op ∈ handed reply) :
    g'.operationAt? op.ref.position = some op := by
  cases c with
  | add r =>
    injection h with hgraph hreply
    rw [← hreply] at hop
    cases hresult : (g.add r).value.2 with
    | error e =>
      rw [hresult] at hop
      cases hop
    | ok added =>
      rw [hresult] at hop
      rw [List.mem_singleton.1 hop]
      exact operationAt?_of_add (Prod.ext hgraph hresult)
  | find name =>
    injection h with hgraph hreply
    rw [← hreply] at hop
    cases hresult : (g.find name).value with
    | none =>
      rw [hresult] at hop
      cases hop
    | some found =>
      rw [hresult] at hop
      rw [← hgraph, List.mem_singleton.1 hop]
      exact operationAt?_of_find hresult
  | operations =>
    injection h with hgraph hreply
    rw [← hreply] at hop
    rw [← hgraph]
    exact operationAt?_of_mem_operations hop
  | addPlaceholder | addConstant | defaultName | contains | size | isEmpty =>
    cases h
    cases hop

lemma firstOutput_eq_ok {op : Operation} {output : Output} (h : firstOutput op = .ok output) :
    op.output? 0 = some output := by
  rw [firstOutput] at h
  split at h
  · rename_i first hfirst
    cases h
    exact hfirst
  · cases h

lemma operationAt?_of_output {g g' : Graph} {c : Graph.Call} {output : Output}
    (h : (g.call c).value = (g', .output (.ok output))) :
    ∃ op, g'.operationAt? op.ref.position = some op ∧ op.output? 0 = some output := by
  obtain ⟨opType, -, hcall⟩ := outputCall_of_call h
  cases hcall with
  | rejected e same answer => cases answer
  | requested g₁ r same type unfed after answer =>
    cases hresult : (g₁.add r).value.2 with
    | error e =>
      rw [hresult] at answer
      cases answer
    | ok op =>
      rw [hresult] at answer
      exact ⟨op, operationAt?_of_add (Prod.ext after hresult), firstOutput_eq_ok answer⟩

lemma operation?_of_operationAt? {w : Workspace} (hw : Located w) {i : Nat} {g : Graph}
    (hg : w.graphs[i]? = some g) {op : Operation}
    (h : g.operationAt? op.ref.position = some op) : w.operation? op.ref = some op := by
  obtain ⟨href, hnode⟩ := (operationAt?_eq_some_iff g _ op).1 h
  have hgraph : op.ref.graph = i := by
    rw [href, ← hw i g hg]
  exact (operation?_eq_some_iff hw op.ref op).2 ⟨rfl, g, hgraph ▸ hg, hnode⟩

/-- Each operation in a reply is an operation of the workspace, and each output comes from one. -/
theorem obtainable_of_reply {w : Workspace} (hw : Reachable w) {handle : Nat} {g g' : Graph}
    (hg : w.graph? handle = some g) {c : Graph.Call} {reply : Reply}
    (h : (g.call c).value = (g', reply)) :
    (∀ op ∈ handed reply, (w.after (.onGraph handle c)).operation? op.ref = some op) ∧
      ∀ output, reply = .output (.ok output) →
        Obtainable (w.after (.onGraph handle c)) output := by
  obtain ⟨i, hi, hgi⟩ := Option.bind_eq_some_iff.1 hg
  have hloc := located_of_reachable (hw.after (.onGraph handle c) trivial)
  have hg' : (w.after (.onGraph handle c)).graphs[i]? = some g' := by
    rw [graphs_after_onGraph (located_of_reachable hw), if_pos hi, hgi, Option.map_some, h]
  constructor
  · intro op hop
    exact operation?_of_operationAt? hloc hg' (operationAt?_of_handed h hop)
  · rintro output rfl
    obtain ⟨op, hop, houtput⟩ := operationAt?_of_output h
    exact ⟨op, operation?_of_operationAt? hloc hg' hop, .inr ⟨0, houtput⟩⟩

end TensorGraph.Proofs
