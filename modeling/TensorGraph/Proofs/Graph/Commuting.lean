import Mathlib
import TensorGraph.Proofs.Graph.DefaultNames
import TensorGraph.Proofs.Workspace.Outputs

/-!
# Independent requests

A request that gives a name looks at nothing in a graph but its registry and whether that name is
taken, and it leaves all other names as they are. So two requests that give different names, and are
fed with outputs that are there before both, can be made in either order: each is answered in the
same way, and the same nodes are found under the same names.
-/

namespace TensorGraph.Proofs
open TensorGraph.Graph

/-- The node that is drafted for a request that gives a name, or the error that refuses it. -/
def draftOf (g : Graph) (r : Request) (name : String) : Except GraphError Node :=
  match g.registry.lookup r.opType with
  | none => .error (.unknownOperation r.opType)
  | some s =>
    if g.contains name then .error (.duplicateName name) else outcome (Draft.node g.id s name r)

/-- The answer to a request that a node was drafted for, and the graph after it. -/
def settle (g : Graph) : Except GraphError Node → Graph × Except GraphError Operation
  | .error e => (g, .error e)
  | .ok node => ((g.insert node).1, .ok (g.insert node).2)

section Settle

variable {g : Graph} {r : Request} {name : String}

lemma add_named (hname : r.name = some name) (hne : name ≠ "") :
    (g.add r).value = settle g (draftOf g r name) := by
  have hasked : r.name.filter (· ≠ "") = some name :=
    Option.filter_eq_some_iff.2 ⟨hname, by simpa using hne⟩
  rw [add_value, draftOf]
  cases g.registry.lookup r.opType with
  | none => rfl
  | some s =>
    simp only [chooseName, hasked]
    cases g.contains name with
    | true => rfl
    | false =>
      simp only [Bool.false_eq_true, if_false]
      cases outcome (Draft.node g.id s name r) <;> rfl

lemma name_of_draftOf {node : Node} (h : draftOf g r name = .ok node) : node.name = name := by
  unfold draftOf at h
  split at h
  · cases h
  · split at h
    · cases h
    · exact name_of_node h

lemma contains_insert_of_ne {node : Node} (h : name ≠ node.name) :
    (g.insert node).1.contains name = g.contains name := by
  unfold Graph.insert Graph.contains position?
  rw [Table.get?_insert, if_neg h]

/-- A node under another name changes nothing for a request. -/
lemma draftOf_settle {new : Except GraphError Node}
    (h : ∀ node, new = .ok node → node.name ≠ name) :
    draftOf (settle g new).1 r name = draftOf g r name := by
  cases new with
  | error e => rfl
  | ok node =>
    unfold draftOf
    rw [settle, contains_insert_of_ne (h node rfl).symm]
    rfl

lemma node_settle (g : Graph) (new : Except GraphError Node) :
    (settle g new).2.map Operation.node = new := by
  cases new <;> rfl

lemma counters_settle (g : Graph) (new : Except GraphError Node) :
    (settle g new).1.counters = g.counters := by
  cases new <;> rfl

lemma nodes_settle (g : Graph) (new : Except GraphError Node) :
    (settle g new).1.nodes.toList = g.nodes.toList ++ new.toOption.toList := by
  cases new with
  | error e => exact (List.append_nil _).symm
  | ok node => exact Array.toList_push

lemma nodes_settle_settle (g : Graph) (new₁ new₂ : Except GraphError Node) :
    (settle (settle g new₁).1 new₂).1.nodes.toList =
      g.nodes.toList ++ (new₁.toOption.toList ++ new₂.toOption.toList) := by
  rw [nodes_settle, nodes_settle, List.append_assoc]

end Settle

lemma Consistent.node_of_name_iff {g : Graph} (hg : Consistent g) (name : String) (node : Node) :
    (g.operation? name).map Operation.node = some node ↔
      node ∈ g.nodes.toList ∧ node.name = name := by
  rw [Option.map_eq_some_iff, Array.mem_toList_iff, Array.mem_iff_getElem?]
  constructor
  · rintro ⟨op, hop, rfl⟩
    obtain ⟨-, hnode, hname⟩ := (hg.operation?_eq_some_iff name op).1 hop
    exact ⟨⟨_, hnode⟩, hname⟩
  · rintro ⟨⟨k, hnode⟩, hname⟩
    exact ⟨⟨⟨g.id, k⟩, node⟩, (hg.operation?_eq_some_iff name _).2 ⟨rfl, hnode, hname⟩, rfl⟩

lemma getElem?_nodes_of_append {g g' : Graph} {new : List Node} {k : Nat} {node : Node}
    (h : g'.nodes.toList = g.nodes.toList ++ new) (hnode : g.nodes[k]? = some node) :
    g'.nodes[k]? = some node := by
  rw [← Array.getElem?_toList] at hnode ⊢
  rw [h, List.getElem?_append_left (List.getElem?_eq_some_iff.1 hnode).1, hnode]

/-! ### Two requests -/

/-- What two requests do in either order. The outcome of each is a node or an error, and `g'` and
`g''` are the graphs after both. -/
structure Commuting (g : Graph) (r₁ r₂ : Request) (new₁ new₂ : Except GraphError Node)
    (g' g'' : Graph) : Prop where
  forth : ∃ answer₁ answer₂,
    (g.run [.add r₁, .add r₂]).value = (g', [.added answer₁, .added answer₂]) ∧
      answer₁.map Operation.node = new₁ ∧ answer₂.map Operation.node = new₂
  back : ∃ answer₂ answer₁,
    (g.run [.add r₂, .add r₁]).value = (g'', [.added answer₂, .added answer₁]) ∧
      answer₂.map Operation.node = new₂ ∧ answer₁.map Operation.node = new₁
  counters : g'.counters = g''.counters
  found : ∀ name, (g'.operation? name).map Operation.node =
    (g''.operation? name).map Operation.node
  nodes : g'.nodes.toList = g.nodes.toList ++ (new₁.toOption.toList ++ new₂.toOption.toList)
  exchanged : g''.nodes.toList = g.nodes.toList ++ (new₂.toOption.toList ++ new₁.toOption.toList)
  fed : ∀ node, new₁ = .ok node ∨ new₂ = .ok node →
    ∀ input ∈ node.inputs, ∀ output ∈ input.outputs, output.node.graph = g.id ∧
      ∃ source, g.nodes[output.node.position]? = some source ∧
        g'.nodes[output.node.position]? = some source ∧
        g''.nodes[output.node.position]? = some source

/-- The second of two requests is settled as if the first had not been made. -/
lemma run_named {g : Graph} {r₁ r₂ : Request} {n₁ n₂ : String} (hn₁ : r₁.name = some n₁)
    (hne₁ : n₁ ≠ "") (hn₂ : r₂.name = some n₂) (hne₂ : n₂ ≠ "") (hne : n₁ ≠ n₂) :
    (g.run [.add r₁, .add r₂]).value =
      ((settle (settle g (draftOf g r₁ n₁)).1 (draftOf g r₂ n₂)).1,
        [.added (settle g (draftOf g r₁ n₁)).2,
          .added (settle (settle g (draftOf g r₁ n₁)).1 (draftOf g r₂ n₂)).2]) := by
  have hother : ∀ node, draftOf g r₁ n₁ = .ok node → node.name ≠ n₂ :=
    fun node h => name_of_draftOf h ▸ hne
  simp only [Graph.run, Graph.call, Logged.value_bind, Logged.value_pure, add_named hn₁ hne₁,
    add_named hn₂ hne₂, draftOf_settle hother]

lemma source_of_draftOf {w : Workspace} (hw : Reachable w) {i : Nat} {g : Graph}
    (hg : w.graphs[i]? = some g) {r : Request} {name : String} (hname : r.name = some name)
    (hne : name ≠ "") (hfed : ∀ output, FedWith r output → Obtainable w output) {node : Node}
    (h : draftOf g r name = .ok node) :
    ∀ input ∈ node.inputs, ∀ output ∈ input.outputs, output.node.graph = g.id ∧
      ∃ source, g.nodes[output.node.position]? = some source := by
  intro input hinput output houtput
  have hadd : (g.add r).value = ((g.insert node).1, .ok (g.insert node).2) := by
    rw [add_named hname hne, h, settle]
  obtain ⟨hinputs, howned⟩ := owned_of_add hadd
  have hr : FedWith r output :=
    (exists_mem_wiring_iff r output).1 ⟨input, hinputs ▸ hinput, houtput⟩
  have hgraph := howned output hr
  obtain ⟨g₀, source, hg₀, hsource, -⟩ :=
    (obtainable_iff (located_of_reachable hw) output).1 (hfed output hr)
  rw [hgraph, located_of_reachable hw i g hg, hg] at hg₀
  cases hg₀
  exact ⟨hgraph, source, hsource⟩

/-- Two requests to a graph that can be reached commute if they give different names and are fed
with outputs that could be got before both. -/
theorem commuting_of_reachable {w : Workspace} (hw : Reachable w) {i : Nat} {g : Graph}
    (hg : w.graphs[i]? = some g) {r₁ r₂ : Request} {n₁ n₂ : String} (hn₁ : r₁.name = some n₁)
    (hne₁ : n₁ ≠ "") (hn₂ : r₂.name = some n₂) (hne₂ : n₂ ≠ "") (hne : n₁ ≠ n₂)
    (hfed₁ : ∀ output, FedWith r₁ output → Obtainable w output)
    (hfed₂ : ∀ output, FedWith r₂ output → Obtainable w output) :
    ∃ new₁ new₂ g' g'', Commuting g r₁ r₂ new₁ new₂ g' g'' := by
  have hforth := run_named (g := g) hn₁ hne₁ hn₂ hne₂ hne
  have hback := run_named (g := g) hn₂ hne₂ hn₁ hne₁ hne.symm
  have hcons := consistent_of_reachable hw hg
  have hr := loaded_of_reachable hw hg
  generalize hnew₁ : draftOf g r₁ n₁ = new₁ at hforth hback
  generalize hnew₂ : draftOf g r₂ n₂ = new₂ at hforth hback
  have hnodes := nodes_settle_settle g new₁ new₂
  have hexchanged := nodes_settle_settle g new₂ new₁
  have hcons' := hcons.run hr [.add r₁, .add r₂]
  have hcons'' := hcons.run hr [.add r₂, .add r₁]
  rw [hforth] at hcons'
  rw [hback] at hcons''
  refine ⟨new₁, new₂, (settle (settle g new₁).1 new₂).1, (settle (settle g new₂).1 new₁).1, ?_⟩
  constructor
  case forth => exact ⟨_, _, hforth, node_settle _ _, node_settle _ _⟩
  case back => exact ⟨_, _, hback, node_settle _ _, node_settle _ _⟩
  case counters => simp only [counters_settle]
  case found =>
    intro name
    refine Option.ext fun node => ?_
    rw [hcons'.node_of_name_iff, hcons''.node_of_name_iff, hnodes, hexchanged]
    simp only [List.mem_append, or_comm (a := node ∈ new₁.toOption.toList)]
  case nodes => exact hnodes
  case exchanged => exact hexchanged
  case fed =>
    intro node hnode input hinput output houtput
    obtain ⟨hgraph, source, hsource⟩ : output.node.graph = g.id ∧
        ∃ source, g.nodes[output.node.position]? = some source := by
      rcases hnode with rfl | rfl
      · exact source_of_draftOf hw hg hn₁ hne₁ hfed₁ hnew₁ input hinput output houtput
      · exact source_of_draftOf hw hg hn₂ hne₂ hfed₂ hnew₂ input hinput output houtput
    exact ⟨hgraph, source, hsource, getElem?_nodes_of_append hnodes hsource,
      getElem?_nodes_of_append hexchanged hsource⟩

def namedSum (name : String) : Request :=
  { sampleSum [("T", ⟨.type .float32, none⟩)] with name := some name }

/-- Two sums are added to a graph of two nodes, in either order. -/
theorem commuting_sampleRun : ∃ g, (Workspace.empty.afterAll sampleRun).graphs[0]? = some g ∧
    g.size = 2 ∧ ∃ new₁ new₂ g' g'', g'.size = 4 ∧
      Commuting g (namedSum "a") (namedSum "b") new₁ new₂ g' g'' := by
  have hsizes : (Workspace.empty.afterAll sampleRun).graphs[0]?.map (fun g =>
      (g.size, (g.run [.add (namedSum "a"), .add (namedSum "b")]).value.1.size)) =
      some (2, 4) := by
    decide +kernel
  obtain ⟨g, hg, hsizes⟩ := Option.map_eq_some_iff.1 hsizes
  obtain ⟨hbefore, hafter⟩ := Prod.ext_iff.1 hsizes
  let op : Operation := ⟨⟨0, 0⟩, ⟨"x", "Placeholder", [], [("dtype", .type .float32)], 1⟩⟩
  have hop : (Workspace.empty.afterAll sampleRun).operation? op.ref = some op := by
    decide +kernel
  have hx : Obtainable (Workspace.empty.afterAll sampleRun) ⟨⟨0, 0⟩, 0⟩ := ⟨op, hop, .inr ⟨0, rfl⟩⟩
  have hfed : ∀ name output, FedWith (namedSum name) output →
      Obtainable (Workspace.empty.afterAll sampleRun) output := by
    simp [namedSum, sampleSum, FedWith, hx]
  have hname : ∀ name, (namedSum name).name = some name := fun _ => rfl
  obtain ⟨new₁, new₂, g', g'', hcommute⟩ := commuting_of_reachable reachable_sampleRun hg
    (hname "a") (by decide) (hname "b") (by decide) (by decide) (hfed "a") (hfed "b")
  obtain ⟨answer₁, answer₂, hrun, -, -⟩ := hcommute.forth
  rw [hrun] at hafter
  exact ⟨g, hg, hbefore, new₁, new₂, g', g'', hafter, hcommute⟩

end TensorGraph.Proofs
