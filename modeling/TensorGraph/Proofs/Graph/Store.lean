import Mathlib
import TensorGraph.Proofs.Workspace.Reachable

/-!
# The store of a graph

The table of names is kept beside the list of nodes and is overwritten without a check. It is the
map from names to positions all the same, after any run: a node is only appended under a name that
is free.
-/

namespace TensorGraph.Proofs
open TensorGraph.Graph

/-- The table of names is the map from the names of nodes to their positions, and no name is
empty. -/
structure Consistent (g : Graph) : Prop where
  get?_eq_some : ∀ (name : String) (i : Nat),
    g.names.get? name = some i ↔ ∃ node, g.nodes[i]? = some node ∧ node.name = name
  name_ne_empty : ∀ (i : Nat) (node : Node), g.nodes[i]? = some node → node.name ≠ ""

lemma consistent_empty (id : Nat) (registry : Registry) : Consistent (.empty id registry) where
  get?_eq_some name i := by simp [Graph.empty]
  name_ne_empty i node h := by simp [Graph.empty] at h

lemma Consistent.of_sameStore {g g' : Graph} (hg : Consistent g) (h : SameStore g g') :
    Consistent g' where
  get?_eq_some name i := by rw [h.names, h.nodes, hg.get?_eq_some]
  name_ne_empty i node hnode := hg.name_ne_empty i node (h.nodes ▸ hnode)

/-- The step that carries the invariant: a node under a free name is appended. -/
lemma Consistent.of_appends {g g' : Graph} {node : Node} (hg : Consistent g)
    (hfree : g.contains node.name = false) (hne : node.name ≠ "") (h : Appends g node g') :
    Consistent g' where
  get?_eq_some name i := by
    rw [h.names, h.nodes, Table.get?_insert, Array.getElem?_push]
    have hnone : g.names.get? node.name = none := by
      simpa [Graph.contains, position?] using hfree
    by_cases hname : name = node.name
    · subst hname
      by_cases hi : i = g.nodes.size
      · simp [hi, Graph.size]
      · rw [if_pos rfl, if_neg hi, ← hg.get?_eq_some, hnone]
        simp [Graph.size, Ne.symm hi]
    · rw [if_neg hname, hg.get?_eq_some]
      by_cases hi : i = g.nodes.size
      · simp [hi, Ne.symm hname]
      · rw [if_neg hi]
  name_ne_empty i other hother := by
    rw [h.nodes, Array.getElem?_push] at hother
    split at hother
    · cases hother
      exact hne
    · exact hg.name_ne_empty i other hother

lemma Drafted.name_ne_empty {g : Graph} {node : Node} (h : Drafted g node)
    (hr : Loaded g.registry) : node.name ≠ "" := by
  obtain ⟨-, s, r, hlookup, hne, -⟩ := h
  apply hne
  intro hempty
  rw [hempty, lookup_empty hr] at hlookup
  cases hlookup

lemma Consistent.step {g g' : Graph} (hr : Loaded g.registry) (hg : Consistent g)
    (h : Step g g') : Consistent g' := by
  cases h with
  | keep same => exact hg.of_sameStore same
  | append node drafted appends =>
    exact hg.of_appends drafted.free (drafted.name_ne_empty hr) appends

theorem consistent_of_reachable {w : Workspace} (hw : Reachable w) {i : Nat} {g : Graph}
    (hg : w.graphs[i]? = some g) : Consistent g :=
  (forall_graph_of_reachable (fun id registry _ => consistent_empty id registry)
    (fun _ _ hr h hs => h.step hr hs) hw i g hg).2

section Lookup

variable {g : Graph} (hg : Consistent g)
include hg

lemma Consistent.position_unique {i j : Nat} {m n : Node} (hm : g.nodes[i]? = some m)
    (hn : g.nodes[j]? = some n) (h : m.name = n.name) : i = j := by
  have hi := (hg.get?_eq_some m.name i).2 ⟨m, hm, rfl⟩
  have hj := (hg.get?_eq_some m.name j).2 ⟨n, hn, h.symm⟩
  rw [hi] at hj
  exact Option.some.inj hj

lemma Consistent.operation?_eq_some_iff (name : String) (op : Operation) :
    g.operation? name = some op ↔
      op.ref.graph = g.id ∧ g.nodes[op.ref.position]? = some op.node ∧ op.node.name = name := by
  rw [operation?, position?, Option.bind_eq_some_iff]
  constructor
  · rintro ⟨i, hi, hop⟩
    obtain ⟨node, hnode, hname⟩ := (hg.get?_eq_some name i).1 hi
    rw [operationAt?, hnode] at hop
    cases hop
    exact ⟨rfl, hnode, hname⟩
  · rintro ⟨hgraph, hnode, hname⟩
    refine ⟨op.ref.position, (hg.get?_eq_some _ _).2 ⟨op.node, hnode, hname⟩, ?_⟩
    rw [operationAt?, hnode, ← hgraph]
    rfl

lemma Consistent.operation?_eq_none_iff (name : String) :
    g.operation? name = none ↔ ∀ node ∈ g.nodes, node.name ≠ name := by
  constructor
  · intro h node hmem hname
    obtain ⟨i, hi⟩ := Array.mem_iff_getElem?.1 hmem
    have := (hg.operation?_eq_some_iff name ⟨⟨g.id, i⟩, node⟩).2 ⟨rfl, hi, hname⟩
    rw [h] at this
    cases this
  · intro h
    cases hop : g.operation? name with
    | none => rfl
    | some op =>
      obtain ⟨-, hnode, hname⟩ := (hg.operation?_eq_some_iff name op).1 hop
      exact absurd hname (h op.node (Array.mem_of_getElem? hnode))

lemma Consistent.contains_eq (name : String) : g.contains name = (g.operation? name).isSome := by
  rw [Graph.contains, operation?]
  cases hp : g.position? name with
  | none => rfl
  | some i =>
    obtain ⟨node, hnode, -⟩ := (hg.get?_eq_some name i).1 hp
    simp [operationAt?, hnode]

end Lookup

lemma find_value (g : Graph) (name : String) : (g.find name).value = g.operation? name := by
  rw [find]
  cases g.operation? name <;> rfl

lemma Step.isPrefix {g g' : Graph} (h : Step g g') : g.nodes.toList <+: g'.nodes.toList := by
  cases h with
  | keep same => rw [same.nodes]
  | append node drafted appends =>
    rw [appends.nodes, Array.toList_push]
    exact List.prefix_append _ _

theorem isPrefix_afterAll {w : Workspace} (hw : Reachable w) {calls : List Workspace.Call}
    (hc : ∀ c ∈ calls, Admissible c) {i : Nat} {g : Graph} (hg : w.graphs[i]? = some g) :
    ∃ g', (w.afterAll calls).graphs[i]? = some g' ∧ g.nodes.toList <+: g'.nodes.toList := by
  induction calls generalizing w g with
  | nil => exact ⟨g, hg, List.prefix_rfl⟩
  | cons c rest ih =>
    rw [List.forall_mem_cons] at hc
    obtain ⟨g₁, hg₁, hcase⟩ := exists_graph_after (located_of_reachable hw) c hg
    have hfirst : g.nodes.toList <+: g₁.nodes.toList := by
      rcases hcase with rfl | ⟨handle, call, -, -, rfl⟩
      · exact List.prefix_rfl
      · exact (step_call g call).isPrefix
    obtain ⟨g', hg', hrest⟩ := ih (hw.after c hc.1) hc.2 hg₁
    exact ⟨g', hg', hfirst.trans hrest⟩

/-- What callers see of graph number `i`. -/
structure StoreLaws (i : Nat) (g : Graph) : Prop where
  table : ∀ (name : String) (k : Nat),
    g.names.get? name = some k ↔ ∃ node, g.nodes[k]? = some node ∧ node.name = name
  distinct : ∀ (j k : Nat) (m n : Node),
    g.nodes[j]? = some m → g.nodes[k]? = some n → m.name = n.name → j = k
  nonempty : ∀ node ∈ g.nodes, node.name ≠ ""
  found : ∀ (name : String) (op : Operation), (g.find name).value = some op ↔
    op.ref.graph = i ∧ g.nodes[op.ref.position]? = some op.node ∧ op.node.name = name
  missing : ∀ name : String, (g.find name).value = none ↔ ∀ node ∈ g.nodes, node.name ≠ name
  contains : ∀ name : String, g.contains name = (g.find name).value.isSome
  added : ∀ (r : Request) (g' : Graph) (op : Operation), (g.add r).value = (g', .ok op) →
    op.ref = ⟨i, g.nodes.size⟩ ∧ g'.nodes = g.nodes.push op.node
  refused : ∀ (r : Request) (g' : Graph) (e : GraphError), (g.add r).value = (g', .error e) →
    g'.nodes = g.nodes ∧ g'.names = g.names

lemma storeLaws_of_consistent {i : Nat} {g : Graph} (hg : Consistent g) (hi : g.id = i) :
    StoreLaws i g := by
  subst hi
  constructor
  case table => exact hg.get?_eq_some
  case distinct => exact fun j k m n => hg.position_unique
  case nonempty =>
    intro node hmem
    obtain ⟨k, hk⟩ := Array.mem_iff_getElem?.1 hmem
    exact hg.name_ne_empty k node hk
  case found =>
    intro name op
    rw [find_value, hg.operation?_eq_some_iff]
  case missing =>
    intro name
    rw [find_value, hg.operation?_eq_none_iff]
  case contains =>
    intro name
    rw [find_value, hg.contains_eq]
  case added =>
    intro r g' op h
    obtain ⟨href, -, happends⟩ := append_of_add_eq_ok h
    exact ⟨href, happends.nodes⟩
  case refused =>
    intro r g' e h
    have hsame := sameStore_of_add_eq_error h
    exact ⟨hsame.nodes, hsame.names⟩

/-- In every workspace that can be reached, each graph keeps its store in order, a call changes no
graph but the one its handle leads to, and no later run removes, moves or changes a node. -/
theorem store_of_reachable {w : Workspace} (hw : Reachable w) :
    (∀ (i : Nat) (g : Graph), w.graphs[i]? = some g → StoreLaws i g ∧
      (∀ (handle : Nat) (call : Graph.Call), w.handles[handle]? = some i →
        (w.after (.onGraph handle call)).graphs[i]? = some (g.call call).value.1) ∧
      (∀ c : Workspace.Call,
        (∀ handle call, c = .onGraph handle call → w.handles[handle]? ≠ some i) →
          (w.after c).graphs[i]? = some g)) ∧
    ∀ calls : List Workspace.Call, (∀ c ∈ calls, Admissible c) →
      ∀ (i : Nat) (g : Graph), w.graphs[i]? = some g →
        ∃ g', (w.afterAll calls).graphs[i]? = some g' ∧ g.nodes.toList <+: g'.nodes.toList := by
  have hloc := located_of_reachable hw
  refine ⟨?_, fun calls hc i g hg => isPrefix_afterAll hw hc hg⟩
  intro i g hg
  refine ⟨storeLaws_of_consistent (consistent_of_reachable hw hg) (hloc i g hg), ?_, ?_⟩
  · intro handle call hhandle
    rw [graphs_after_onGraph hloc, if_pos hhandle, hg, Option.map_some]
  · intro c hc
    obtain ⟨g', hg', rfl | ⟨handle, call, hcall, hhandle, -⟩⟩ := exists_graph_after hloc c hg
    · exact hg'
    · exact absurd hhandle (hc handle call hcall)

theorem store_sampleRun :
    ∃ g, (Workspace.empty.afterAll sampleRun).graphs[0]? = some g ∧ g.size = 2 ∧ StoreLaws 0 g := by
  have hsize : (Workspace.empty.afterAll sampleRun).graphs[0]?.map Graph.size = some 2 := by
    decide +kernel
  obtain ⟨g, hg, hsize⟩ := Option.map_eq_some_iff.1 hsize
  exact ⟨g, hg, hsize, ((store_of_reachable reachable_sampleRun).1 0 g hg).1⟩

end TensorGraph.Proofs
