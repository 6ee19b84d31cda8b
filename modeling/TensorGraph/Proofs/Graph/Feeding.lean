import Mathlib
import TensorGraph.Proofs.Graph.Step

/-!
# Feeding a node

The inputs of a node are those of its request, in the order of the request. The only check on their
outputs is that they belong to the graph.
-/

namespace TensorGraph.Proofs
open TensorGraph.Graph TensorGraph.Draft

/-- The request feeds its node with the output, by itself or in a list. -/
def FedWith (r : Request) (output : Output) : Prop :=
  output ∈ r.inputs ∨ ∃ list ∈ r.lists, output ∈ list

lemma exists_mem_wiring_iff (r : Request) (output : Output) :
    (∃ input ∈ r.wiring, output ∈ input.outputs) ↔ FedWith r output := by
  simp [Request.wiring, FedWith, Input.outputs, or_and_right, exists_or]

lemma checkOwner_eq_ok {id : Nat} {op : String} {wiring : List Input}
    (h : checkOwner id op wiring = .ok ()) :
    ∀ input ∈ wiring, ∀ output ∈ input.outputs, output.node.graph = id := by
  rw [checkOwner] at h
  split at h
  · cases h
  · rename_i hnone
    intro input hinput output houtput
    have hown := List.findIdx?_eq_none_iff.1 hnone input hinput
    simpa using List.any_eq_false.1 hown output houtput

theorem owned_of_add {g g' : Graph} {r : Request} {op : Operation}
    (h : (g.add r).value = (g', .ok op)) :
    op.node.inputs = r.wiring ∧ ∀ output, FedWith r output → output.node.graph = g.id := by
  obtain ⟨s, g₁, name, node, -, hname, hnode, -, rfl⟩ := add_eq_ok h
  obtain ⟨given, measured, attributes, -, howner, -, -, -, rfl⟩ := node_eq_ok hnode
  refine ⟨rfl, fun output hfed => ?_⟩
  obtain ⟨input, hinput, houtput⟩ := (exists_mem_wiring_iff r output).2 hfed
  rw [checkOwner_eq_ok howner input hinput output houtput]
  exact (chooseName_eq_ok hname).1.id

/-- An output of another graph is never accepted. -/
theorem refused_of_foreign (g : Graph) {r : Request} {output : Output} (hfed : FedWith r output)
    (hforeign : output.node.graph ≠ g.id) : ∃ e, (g.add r).value.2 = .error e := by
  cases hresult : (g.add r).value.2 with
  | error e => exact ⟨e, rfl⟩
  | ok op =>
    have hadd : (g.add r).value = ((g.add r).value.1, .ok op) := Prod.ext rfl hresult
    exact absurd ((owned_of_add hadd).2 output hfed) hforeign

lemma feeding_of_add {g g₁ : Graph} (hsame : SameStore g g₁) (r : Request) :
    SameStore g (g₁.add r).value.1 ∨ ∃ node, Appends g node (g₁.add r).value.1 ∧
      ∀ input ∈ node.inputs, ∀ output ∈ input.outputs,
        output.node.graph = g.id ∧ FedWith r output := by
  cases hadd : (g₁.add r).value with
  | mk g' result =>
    cases result with
    | error e => exact .inl (hsame.trans (sameStore_of_add_eq_error hadd))
    | ok op =>
      obtain ⟨-, -, happends⟩ := append_of_add_eq_ok hadd
      obtain ⟨hinputs, howned⟩ := owned_of_add hadd
      refine .inr ⟨op.node, happends.of_sameStore hsame, ?_⟩
      intro input hinput output houtput
      rw [hinputs] at hinput
      have hfed := (exists_mem_wiring_iff r output).1 ⟨input, hinput, houtput⟩
      exact ⟨(howned output hfed).trans hsame.id, hfed⟩

/-- A call adds at most one node, and feeds it with nothing but what its request has. -/
theorem feeding_of_call (g : Graph) (c : Graph.Call) :
    SameStore g (g.call c).value.1 ∨ ∃ node, Appends g node (g.call c).value.1 ∧
      ∀ input ∈ node.inputs, ∀ output ∈ input.outputs,
        output.node.graph = g.id ∧ ∃ r, c = .add r ∧ FedWith r output := by
  have hanswered : ∀ result, (g.call c).value = ((g.call c).value.1, .output result) →
      SameStore g (g.call c).value.1 ∨ ∃ node, Appends g node (g.call c).value.1 ∧
        ∀ input ∈ node.inputs, ∀ output ∈ input.outputs,
          output.node.graph = g.id ∧ ∃ r, c = .add r ∧ FedWith r output := by
    intro result h
    obtain ⟨opType, -, hcall⟩ := outputCall_of_call h
    cases hcall with
    | rejected e same answer =>
      rw [same]
      exact .inl (.refl g)
    | requested g₁ r same type unfed after answer =>
      rw [← after]
      refine (feeding_of_add same r).imp_right ?_
      rintro ⟨node, happends, hfed⟩
      refine ⟨node, happends, fun input hinput output houtput => ?_⟩
      -- a request without inputs feeds nothing
      have hnone := (exists_mem_wiring_iff r output).2 (hfed input hinput output houtput).2
      rw [unfed] at hnone
      simp at hnone
  cases c with
  | add r =>
    refine (feeding_of_add (.refl g) r).imp_right ?_
    rintro ⟨node, happends, hfed⟩
    refine ⟨node, happends, fun input hinput output houtput => ?_⟩
    obtain ⟨hgraph, hfed⟩ := hfed input hinput output houtput
    exact ⟨hgraph, r, rfl, hfed⟩
  | addPlaceholder name type => exact hanswered _ rfl
  | addConstant literal name type => exact hanswered _ rfl
  | defaultName opType => exact .inl (sameStore_defaultName g opType)
  | find name => exact .inl (.refl g)
  | contains name => exact .inl (.refl g)
  | operations => exact .inl (.refl g)
  | size => exact .inl (.refl g)
  | isEmpty => exact .inl (.refl g)

end TensorGraph.Proofs
