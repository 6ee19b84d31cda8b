import Mathlib
import TensorGraph.Graph.Call
import TensorGraph.Proofs.Graph.Drafting
import TensorGraph.Proofs.Graph.Naming

/-!
# Steps of a graph

A call either leaves the nodes and the table of names alone or appends one node, which was drafted
for a request under a name that was free. Every invariant of graphs is derived from this.
-/

namespace TensorGraph.Proofs
open TensorGraph.Graph

theorem add_value (g : Graph) (r : Request) : (g.add r).value =
    match g.registry.lookup r.opType with
    | none => (g, .error (.unknownOperation r.opType))
    | some s =>
      match g.chooseName r with
      | .error e => (g, .error e)
      | .ok (g₁, name) =>
        match outcome (Draft.node g₁.id s name r) with
        | .error e => (g₁, .error e)
        | .ok node => ((g₁.insert node).1, .ok (g₁.insert node).2) := by
  rw [Graph.add]
  cases g.registry.lookup r.opType with
  | none => rfl
  | some s =>
    cases g.chooseName r with
    | error e => rfl
    | ok chosen =>
      obtain ⟨g₁, name⟩ := chosen
      simp only [outcome, Logged.value_bind]
      cases (Draft.node g₁.id s name r).run.value <;> rfl

theorem add_eq_ok {g g' : Graph} {r : Request} {op : Operation}
    (h : (g.add r).value = (g', .ok op)) :
    ∃ s g₁ name node, g.registry.lookup r.opType = some s ∧ g.chooseName r = .ok (g₁, name) ∧
      outcome (Draft.node g₁.id s name r) = .ok node ∧ g' = (g₁.insert node).1 ∧
      op = (g₁.insert node).2 := by
  rw [add_value] at h
  split at h
  · cases h
  · rename_i s hs
    split at h
    · cases h
    · rename_i g₁ name hname
      split at h
      · cases h
      · rename_i node hnode
        cases h
        exact ⟨s, g₁, name, node, hs, hname, hnode, rfl, rfl⟩

/-- A request that fails after its name was settled leaves behind what settling the name did. -/
theorem add_eq_error {g g' : Graph} {r : Request} {e : GraphError}
    (h : (g.add r).value = (g', .error e)) :
    (g' = g ∧ (g.registry.lookup r.opType = none ∨ g.chooseName r = .error e)) ∨
      ∃ s name, g.registry.lookup r.opType = some s ∧ g.chooseName r = .ok (g', name) ∧
        outcome (Draft.node g'.id s name r) = .error e := by
  rw [add_value] at h
  split at h
  · cases h
    rename_i hs
    exact .inl ⟨rfl, .inl hs⟩
  · rename_i s hs
    split at h
    · cases h
      rename_i hname
      exact .inl ⟨rfl, .inr hname⟩
    · rename_i g₁ name hname
      split at h
      · cases h
        rename_i hnode
        exact .inr ⟨s, name, hs, hname, hnode⟩
      · cases h

structure Appends (g : Graph) (node : Node) (g' : Graph) : Prop where
  id : g'.id = g.id
  registry : g'.registry = g.registry
  nodes : g'.nodes = g.nodes.push node
  names : g'.names = g.names.insert node.name g.size

/-- The node was drafted for a request to the graph, under a name that is free. -/
structure Drafted (g : Graph) (node : Node) : Prop where
  free : g.contains node.name = false
  drafted : ∃ s r, g.registry.lookup r.opType = some s ∧ (r.opType ≠ "" → node.name ≠ "") ∧
    outcome (Draft.node g.id s node.name r) = .ok node

/-- What one call can do to a graph. -/
inductive Step (g g' : Graph) : Prop where
  | keep (same : SameStore g g')
  | append (node : Node) (drafted : Drafted g node) (appends : Appends g node g')

lemma Appends.getElem?_nodes {g g' : Graph} {new : Node} (h : Appends g new g') {k : Nat}
    {node : Node} (hnode : g.nodes[k]? = some node) : g'.nodes[k]? = some node := by
  have hlt := (Array.getElem?_eq_some_iff.1 hnode).1
  rw [h.nodes, Array.getElem?_push_lt hlt, ← hnode, Array.getElem?_eq_getElem hlt]

lemma appends_insert {g g₁ : Graph} (h : SameStore g g₁) (node : Node) :
    Appends g node (g₁.insert node).1 where
  id := h.id
  registry := h.registry
  nodes := by rw [Graph.insert, h.nodes]
  names := by rw [Graph.insert, h.names, Graph.size, h.nodes, Graph.size]

lemma name_of_node {id : Nat} {s : Signature} {op : String} {r : Request} {node : Node}
    (h : outcome (Draft.node id s op r) = .ok node) : node.name = op := by
  obtain ⟨given, measured, attributes, -, -, -, -, -, rfl⟩ := node_eq_ok h
  rfl

theorem append_of_add_eq_ok {g g' : Graph} {r : Request} {op : Operation}
    (h : (g.add r).value = (g', .ok op)) :
    op.ref = ⟨g.id, g.size⟩ ∧ Drafted g op.node ∧ Appends g op.node g' := by
  obtain ⟨s, g₁, name, node, hs, hname, hnode, rfl, rfl⟩ := add_eq_ok h
  obtain ⟨hsame, hfree, hne⟩ := chooseName_eq_ok hname
  have hnamed := name_of_node hnode
  subst hnamed
  rw [hsame.id] at hnode
  exact ⟨by rw [Graph.insert, hsame.id, Graph.size, hsame.nodes, Graph.size],
    ⟨hfree, s, r, hs, hne, hnode⟩, appends_insert hsame node⟩

theorem sameStore_of_add_eq_error {g g' : Graph} {r : Request} {e : GraphError}
    (h : (g.add r).value = (g', .error e)) : SameStore g g' := by
  rcases add_eq_error h with ⟨rfl, -⟩ | ⟨s, name, -, hname, -⟩
  · exact .refl g'
  · exact (chooseName_eq_ok hname).1

theorem step_add (g : Graph) (r : Request) : Step g (g.add r).value.1 := by
  cases h : (g.add r).value with
  | mk g' result =>
    cases result with
    | error e => exact .keep (sameStore_of_add_eq_error h)
    | ok op =>
      obtain ⟨-, hdrafted, happends⟩ := append_of_add_eq_ok h
      exact .append op.node hdrafted happends

lemma Appends.of_sameStore {g g₁ g' : Graph} {node : Node} (h : SameStore g g₁)
    (ha : Appends g₁ node g') : Appends g node g' where
  id := ha.id.trans h.id
  registry := ha.registry.trans h.registry
  nodes := by rw [ha.nodes, h.nodes]
  names := by rw [ha.names, h.names, Graph.size, h.nodes, Graph.size]

lemma Drafted.of_sameStore {g g₁ : Graph} {node : Node} (h : SameStore g g₁)
    (hd : Drafted g₁ node) : Drafted g node := by
  obtain ⟨hfree, s, r, hlookup, hne, hnode⟩ := hd
  refine ⟨by rw [← h.contains, hfree], s, r, ?_, hne, ?_⟩
  · rw [← h.registry, hlookup]
  · rw [← h.id, hnode]

lemma Step.of_sameStore {g g₁ g' : Graph} (h : SameStore g g₁) (hs : Step g₁ g') : Step g g' := by
  cases hs with
  | keep same => exact .keep (h.trans same)
  | append node drafted appends =>
    exact .append node (drafted.of_sameStore h) (appends.of_sameStore h)

/-- What holds of the nodes of a graph, and of nodes that are drafted for it, holds of the nodes after
a step. -/
lemma Step.forall_nodes {g g' : Graph} {P : Node → Prop} (h : Step g g')
    (hold : ∀ node ∈ g.nodes, P node) (hnew : ∀ node, Drafted g node → P node) :
    ∀ node ∈ g'.nodes, P node := by
  intro node hnode
  cases h with
  | keep same => exact hold node (same.nodes ▸ hnode)
  | append new drafted appends =>
    rw [appends.nodes, Array.mem_push] at hnode
    rcases hnode with hmem | rfl
    · exact hold node hmem
    · exact hnew node drafted

lemma addConstant_error (g : Graph) {literal : Literal} (name : Option String)
    {type : Option ElementType} {e : TensorError} (h : Tensor.ofLiteral literal type = .error e) :
    (g.addConstant literal name type).value = (g, .error (.tensor e)) := by
  simp only [addConstant, h]
  rfl

def constantName (g : Graph) : Option String → Graph × String
  | some name => (g, name)
  | none => g.defaultName "Constant"

lemma sameStore_constantName (g : Graph) (name : Option String) :
    SameStore g (constantName g name).1 := by
  cases name with
  | none => exact sameStore_defaultName g "Constant"
  | some name => exact .refl g

lemma addConstant_ok (g : Graph) {literal : Literal} (name : Option String)
    {type : Option ElementType} {t : Tensor} (h : Tensor.ofLiteral literal type = .ok t) :
    (g.addConstant literal name type).value =
      let (g₁, chosen) := constantName g name
      ((g₁.add (.constant chosen t)).value.1,
        (g₁.add (.constant chosen t)).value.2.bind firstOutput) := by
  simp only [addConstant, h]
  cases name <;> rfl

theorem step_call (g : Graph) (c : Graph.Call) : Step g (g.call c).value.1 := by
  cases c with
  | add r => exact step_add g r
  | addPlaceholder name type => exact step_add g (.placeholder name type)
  | addConstant literal name type =>
    cases h : Tensor.ofLiteral literal type with
    | error e =>
      have hval := addConstant_error g name h
      simp only [Graph.call, Logged.value_bind, hval]
      exact .keep (.refl g)
    | ok t =>
      have hval := addConstant_ok g name h
      simp only [Graph.call, Logged.value_bind, hval]
      exact .of_sameStore (sameStore_constantName g name) (step_add _ _)
  | defaultName opType => exact .keep (sameStore_defaultName g opType)
  | find name => exact .keep (.refl g)
  | contains name => exact .keep (.refl g)
  | operations => exact .keep (.refl g)
  | size => exact .keep (.refl g)
  | isEmpty => exact .keep (.refl g)

/-- The operation type of the node that a call asks for by its first output. -/
def wantedType? : Graph.Call → Option String
  | .addPlaceholder _ _ => some "Placeholder"
  | .addConstant _ _ _ => some "Const"
  | _ => none

/-- How a call for a first output ends: a constant that is no tensor is rejected, and all others are
answered from a request without inputs. -/
inductive OutputCall (g : Graph) (opType : String) (g' : Graph)
    (result : Except GraphError Output) : Prop where
  | rejected (e : TensorError) (same : g' = g) (answer : result = .error (.tensor e))
  | requested (g₁ : Graph) (r : Request) (same : SameStore g g₁) (type : r.opType = opType)
    (unfed : r.wiring = []) (after : (g₁.add r).value.1 = g')
    (answer : (g₁.add r).value.2.bind firstOutput = result)

theorem outputCall_of_call {g g' : Graph} {c : Graph.Call} {result : Except GraphError Output}
    (h : (g.call c).value = (g', .output result)) :
    ∃ opType, wantedType? c = some opType ∧ OutputCall g opType g' result := by
  cases c with
  | addPlaceholder name type =>
    injection h with hgraph hreply
    injection hreply with hreply
    exact ⟨"Placeholder", rfl, .requested g (.placeholder name type) (.refl g) rfl rfl hgraph hreply⟩
  | addConstant literal name type =>
    refine ⟨"Const", rfl, ?_⟩
    cases hliteral : Tensor.ofLiteral literal type with
    | error e =>
      simp only [Graph.call, Logged.value_bind, addConstant_error g name hliteral] at h
      cases h
      exact .rejected e rfl rfl
    | ok t =>
      simp only [Graph.call, Logged.value_bind, addConstant_ok g name hliteral] at h
      injection h with hgraph hreply
      injection hreply with hreply
      exact .requested _ (.constant _ t) (sameStore_constantName g name) rfl rfl hgraph hreply
  | add r => cases h
  | defaultName opType => cases h
  | find name => cases h
  | contains name => cases h
  | operations => cases h
  | size => cases h
  | isEmpty => cases h

end TensorGraph.Proofs
