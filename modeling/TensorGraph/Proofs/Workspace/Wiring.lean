import Mathlib
import TensorGraph.Proofs.Graph.Feeding
import TensorGraph.Proofs.Workspace.Outputs

/-!
# Wiring

A node is fed with outputs of nodes that were added to the same graph before it. A request is only
checked for the graph that its outputs belong to; that they exist, and so are older than the node,
is due to where they come from.
-/

namespace TensorGraph.Proofs
open TensorGraph.Graph

/-- The output is one that a node before position `k` of graph number `i` has. -/
structure Precedes (i : Nat) (g : Graph) (k : Nat) (output : Output) : Prop where
  graph : output.node.graph = i
  earlier : output.node.position < k
  declared : ∃ source, g.nodes[output.node.position]? = some source ∧
    output.slot < source.numOutputs

def Wired (i : Nat) (g : Graph) : Prop :=
  ∀ (k : Nat) (node : Node), g.nodes[k]? = some node →
    ∀ input ∈ node.inputs, ∀ output ∈ input.outputs, Precedes i g k output

lemma wired_empty (i : Nat) (registry : Registry) : Wired i (.empty i registry) := by
  intro k node hnode
  simp [Graph.empty] at hnode

lemma Wired.of_sameStore {i : Nat} {g g' : Graph} (hg : Wired i g) (h : SameStore g g') :
    Wired i g' := by
  intro k node hnode input hinput output houtput
  rw [h.nodes] at hnode
  obtain ⟨hgraph, hearlier, hdeclared⟩ := hg k node hnode input hinput output houtput
  exact ⟨hgraph, hearlier, by rwa [h.nodes]⟩

lemma Wired.of_appends {i : Nat} {g g' : Graph} {node : Node} (hg : Wired i g)
    (h : Appends g node g')
    (hnode : ∀ input ∈ node.inputs, ∀ output ∈ input.outputs, Precedes i g g.size output) :
    Wired i g' := by
  have hkeep : ∀ k output, Precedes i g k output → Precedes i g' k output := by
    rintro k output ⟨hgraph, hearlier, source, hsource, hslot⟩
    exact ⟨hgraph, hearlier, source, h.getElem?_nodes hsource, hslot⟩
  intro k other hother input hinput output houtput
  rw [h.nodes, Array.getElem?_push] at hother
  split at hother
  · rename_i hk
    cases hother
    rw [hk]
    exact hkeep _ output (hnode input hinput output houtput)
  · exact hkeep k output (hg k other hother input hinput output houtput)

/-- The outputs that the call feeds a node with are got from operations of the workspace. -/
def FedFrom (w : Workspace) (c : Workspace.Call) : Prop :=
  ∀ handle r, c = .onGraph handle (.add r) → ∀ output, FedWith r output → Obtainable w output

lemma Wired.call {w : Workspace} (hw : Located w) {i handle : Nat} {g : Graph} {c : Graph.Call}
    (hg : w.graphs[i]? = some g) (hfed : FedFrom w (.onGraph handle c)) (h : Wired i g) :
    Wired i (g.call c).value.1 := by
  rcases feeding_of_call g c with hsame | ⟨node, happends, hnode⟩
  · exact h.of_sameStore hsame
  · refine h.of_appends happends fun input hinput output houtput => ?_
    obtain ⟨hgraph, r, rfl, hr⟩ := hnode input hinput output houtput
    rw [hw i g hg] at hgraph
    obtain ⟨g', source, hg', hsource, hslot⟩ :=
      (obtainable_iff hw output).1 (hfed handle r rfl output hr)
    rw [hgraph, hg] at hg'
    cases hg'
    have hlt := (Array.getElem?_eq_some_iff.1 hsource).1
    exact ⟨hgraph, hlt, source, hsource, hslot⟩

/-! ### Runs -/

/-- Workspaces that calls lead to which get all their outputs from operations. -/
inductive ReachableFed : Workspace → Prop where
  | empty : ReachableFed .empty
  | after {w : Workspace} (h : ReachableFed w) (c : Workspace.Call) (hc : Admissible c)
    (hfed : FedFrom w c) : ReachableFed (w.after c)

theorem ReachableFed.reachable {w : Workspace} (h : ReachableFed w) : Reachable w := by
  induction h with
  | empty => exact .empty
  | after _ c hc _ ih => exact ih.after c hc

theorem FedFrom.after {w : Workspace} (hw : Reachable w) {c d : Workspace.Call}
    (hd : Admissible d) (h : FedFrom w c) : FedFrom (w.after d) c :=
  fun handle r hc output hr => (h handle r hc output hr).after hw hd

/-- Calls that are fed from the workspace they start in can be made one after the other. -/
theorem reachableFed_afterAll {w : Workspace} (h : ReachableFed w) {calls : List Workspace.Call}
    (hc : ∀ c ∈ calls, Admissible c) (hfed : ∀ c ∈ calls, FedFrom w c) :
    ReachableFed (w.afterAll calls) := by
  induction calls generalizing w with
  | nil => exact h
  | cons c rest ih =>
    rw [List.forall_mem_cons] at hc hfed
    refine ih (h.after c hc.1 hfed.1) hc.2 fun d hd => ?_
    exact (hfed.2 d hd).after h.reachable hc.1

theorem wired_of_reachableFed {w : Workspace} (h : ReachableFed w) :
    ∀ (i : Nat) (g : Graph), w.graphs[i]? = some g → Wired i g := by
  induction h with
  | empty =>
    intro i g hg
    simp [Workspace.empty] at hg
  | after hw c hc hfed ih =>
    have hloc := located_of_reachable hw.reachable
    refine forall_graph_after hloc hc (fun i registry _ => wired_empty i registry) ?_ ih
    rintro i g handle call rfl hg hwired
    exact hwired.call hloc hg hfed

/-- The second node is fed with an output of the first. -/
def Feeds (w : Workspace) (a b : NodeRef) : Prop :=
  ∃ op, w.operation? b = some op ∧ ∃ input ∈ op.node.inputs, ∃ output ∈ input.outputs,
    output.node = a

lemma position_lt_of_feeds {w : Workspace} (h : ReachableFed w) {a b : NodeRef}
    (hab : Feeds w a b) : a.position < b.position := by
  obtain ⟨op, hop, input, hinput, output, houtput, rfl⟩ := hab
  obtain ⟨-, g, hg, hnode⟩ := (operation?_eq_some_iff (located_of_reachable h.reachable) b op).1 hop
  exact (wired_of_reachableFed h b.graph g hg b.position op.node hnode input hinput output
    houtput).earlier

lemma not_transGen_feeds {w : Workspace} (h : ReachableFed w) (ref : NodeRef) :
    ¬Relation.TransGen (Feeds w) ref ref := by
  have hlt : ∀ a b, Relation.TransGen (Feeds w) a b → a.position < b.position := by
    intro a b hab
    induction hab with
    | single hfeeds => exact position_lt_of_feeds h hfeeds
    | tail _ hfeeds ih => exact ih.trans (position_lt_of_feeds h hfeeds)
  intro hcycle
  exact Nat.lt_irrefl _ (hlt ref ref hcycle)

/-- If outputs are only got from operations, then every node of every graph, living or gone, is fed
with outputs that earlier nodes of its graph have, and so no node feeds itself through others. An
output of another graph is never accepted. -/
theorem wiring_of_reachable {w : Workspace} (hw : ReachableFed w) :
    (∀ (i : Nat) (g : Graph), w.graphs[i]? = some g →
      (∀ (k : Nat) (node : Node), g.nodes[k]? = some node →
        ∀ input ∈ node.inputs, ∀ output ∈ input.outputs, Precedes i g k output) ∧
      ∀ (r : Request) (output : Output), FedWith r output → output.node.graph ≠ i →
        ∃ e, (g.add r).value.2 = .error e) ∧
      ∀ ref, ¬Relation.TransGen (Feeds w) ref ref := by
  refine ⟨fun i g hg => ⟨wired_of_reachableFed hw i g hg, ?_⟩, not_transGen_feeds hw⟩
  intro r output hfed hforeign
  apply refused_of_foreign g hfed
  rwa [located_of_reachable hw.reachable i g hg]

lemma reachableFed_sampleRun : ReachableFed (Workspace.empty.afterAll sampleRun) := by
  let x : Output := ⟨⟨0, 0⟩, 0⟩
  let w := Workspace.empty.afterAll (sampleRun.take 3)
  have hfirst : ReachableFed w := by
    apply reachableFed_afterAll .empty
    · simp [sampleRun, Admissible, Loaded.standard]
    · simp [sampleRun, FedFrom]
  let op : Operation := ⟨⟨0, 0⟩, ⟨"x", "Placeholder", [], [("dtype", .type .float32)], 1⟩⟩
  have hop : w.operation? op.ref = some op := by
    decide +kernel
  have hx : Obtainable w x := ⟨op, hop, .inr ⟨0, rfl⟩⟩
  have hsplit : Workspace.empty.afterAll sampleRun = w.afterAll (sampleRun.drop 3) := by
    rw [← List.take_append_drop 3 sampleRun]
    exact List.foldl_append
  rw [hsplit]
  apply reachableFed_afterAll hfirst
  · simp [sampleRun, Admissible]
  · simp [sampleRun, FedFrom, FedWith, x, hx]

lemma exists_sampleRun_replaced : ∃ w : Workspace, ReachableFed w ∧
    (w.graphs[0]?.bind fun g => g.nodes[1]?.map Node.inputs) =
      some [.list [⟨⟨0, 0⟩, 0⟩, ⟨⟨0, 0⟩, 0⟩]] ∧
    w.graphs[1]? = some (.empty 1 .standard) := by
  have hfed : FedFrom (Workspace.empty.afterAll sampleRun) (.replace 0 .standard) := by
    simp [FedFrom]
  have hreplaced := reachableFed_sampleRun.after (.replace 0 .standard) Loaded.standard hfed
  refine ⟨_, hreplaced, ?_, ?_⟩
  · decide +kernel
  · decide +kernel

/-- A placeholder is added to itself, and another graph does not accept it. -/
theorem wiring_sampleRun : ∃ (w : Workspace) (g g' : Graph) (sum : Node) (x : Output),
    w.graphs[0]? = some g ∧ w.graphs[1]? = some g' ∧ g.nodes[1]? = some sum ∧
      sum.inputs = [.list [x, x]] ∧ Precedes 0 g 1 x ∧
      ∃ e, (g'.add { opType := "Identity", inputs := [x] }).value.2 = .error e := by
  obtain ⟨w, hw, hsum, hg'⟩ := exists_sampleRun_replaced
  obtain ⟨g, hg, hsum⟩ := Option.bind_eq_some_iff.1 hsum
  obtain ⟨sum, hnode, hinputs⟩ := Option.map_eq_some_iff.1 hsum
  have hlaws := (wiring_of_reachable hw).1
  refine ⟨w, g, _, sum, _, hg, hg', hnode, hinputs, ?_, ?_⟩
  · exact (hlaws 0 g hg).1 1 sum hnode (.list _) (by rw [hinputs, List.mem_singleton]) _
      (List.mem_cons_self)
  · exact (hlaws 1 _ hg').2 _ _ (.inl List.mem_cons_self) (by decide)

end TensorGraph.Proofs
