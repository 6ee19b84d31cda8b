import Mathlib
import TensorGraph.Proofs.Graph.Attributes
import TensorGraph.Proofs.Graph.Contract
import TensorGraph.Proofs.Graph.Verdict
import TensorGraph.Proofs.Tensor.Lookup

/-!
# Copies of nodes

A finished node has nothing left to complete. Its attributes are encoded to themselves, its lists
have the lengths that it stores, and what it leaves to the runtime is left again. So asking for a
node like it adds one that differs in its name only.
-/

namespace TensorGraph.Proofs
open TensorGraph.Graph TensorGraph.Draft TensorGraph.Attribute

/-! ### Encoded values -/

lemma isSupported_encoding (e : Encoded) : e.encoding.isSupported = true := by
  cases e <;> rfl

theorem encode_toSetting {e : Encoded} (he : Stable e) (attr : String) (declared : Option Kind) :
    outcome (encode attr e.toSetting declared) = .ok e := by
  rw [Encoded.toSetting, outcome_encode_explicit attr e.toValue (isSupported_encoding e),
    represent?_toValue he]

/-! ### Nodes of reachable graphs -/

/-- The node meets its signature, its attributes are as encoding leaves them, and all its inputs come
from the graph. -/
structure Finished (g : Graph) (s : Signature) (n : Node) : Prop where
  known : g.registry.lookup n.opType = some s
  satisfies : Satisfies s n
  stable : ∀ entry ∈ n.attributes, Stable entry.2
  owned : ∀ input ∈ n.inputs, ∀ output ∈ input.outputs, output.node.graph = g.id

lemma Drafted.finished {g : Graph} {n : Node} (h : Drafted g n) (hr : Loaded g.registry) :
    ∃ s, Finished g s n := by
  obtain ⟨s, hs, hsat⟩ := h.exists_signature hr
  obtain ⟨-, s', r, -, -, hnode⟩ := h
  have hstable := stable_of_node hnode
  obtain ⟨given, measured, attributes, -, howner, -, -, -, hn⟩ := node_eq_ok hnode
  refine ⟨s, hs, hsat, hstable, fun input hinput => checkOwner_eq_ok howner input ?_⟩
  rwa [hn] at hinput

lemma Finished.step {g g' : Graph} (h : Step g g') {s : Signature} {n : Node}
    (hn : Finished g s n) : Finished g' s n where
  known := h.registry_eq ▸ hn.known
  satisfies := hn.satisfies
  stable := hn.stable
  owned := h.id_eq ▸ hn.owned

theorem finished_of_reachable {w : Workspace} (hw : Reachable w) {i : Nat} {g : Graph}
    (hg : w.graphs[i]? = some g) : ∀ n ∈ g.nodes, ∃ s, Finished g s n := by
  refine (forall_graph_of_reachable (P := fun g => ∀ n ∈ g.nodes, ∃ s, Finished g s n) ?_ ?_ hw i g
    hg).2
  · intro id registry _ n hn
    simp [Graph.empty] at hn
  · intro g g' hr hfinished hstep
    have hkeep : ∀ n, (∃ s, Finished g s n) → ∃ s, Finished g' s n := by
      rintro n ⟨s, hs⟩
      exact ⟨s, hs.step hstep⟩
    exact hstep.forall_nodes (fun n hn => hkeep n (hfinished n hn))
      fun n drafted => hkeep n (drafted.finished hr)

/-! ### Requests for copies -/

lemma inputs_like (singles : List Output) (lists : List (List Output)) (n : Node) (name : String)
    (h : n.inputs = singles.map .single ++ lists.map .list) :
    (Request.like n name).inputs = singles ∧ (Request.like n name).lists = lists := by
  simp only [Request.like, h, List.filterMap_append, List.filterMap_map]
  constructor <;> simp

section Like

variable {g : Graph} {s : Signature} {n : Node} (h : Finished g s n) (name : String)
include h

lemma Finished.wiring_like : (Request.like n name).wiring = n.inputs := by
  obtain ⟨singles, lists, hinputs, -, -⟩ := h.satisfies.inputs
  obtain ⟨hsingles, hlists⟩ := inputs_like singles lists n name hinputs
  rw [Request.wiring, hsingles, hlists, hinputs]

lemma Finished.meetsArity_like : MeetsArity s (Request.like n name) := by
  obtain ⟨singles, lists, hinputs, hsingles, hlists⟩ := h.satisfies.inputs
  obtain ⟨hsingles', hlists'⟩ := inputs_like singles lists n name hinputs
  exact ⟨hsingles' ▸ hsingles, hlists' ▸ hlists⟩

lemma Finished.owned_like : Owned g.id (Request.like n name) := by
  intro output hfed
  obtain ⟨input, hinput, houtput⟩ := (exists_mem_wiring_iff _ output).2 hfed
  rw [h.wiring_like name] at hinput
  exact h.owned input hinput output houtput

lemma Finished.encoded_like :
    List.Forall₂ (Encodes s) (Request.like n name).settings n.attributes := by
  have hentry : ∀ entry ∈ n.attributes, Encodes s (entry.1, entry.2.toSetting) entry := by
    intro entry hentry
    obtain ⟨d, hd, hname⟩ := h.satisfies.declared entry hentry
    have hfound : (s.attribute? entry.1).isSome = true :=
      List.find?_isSome.2 ⟨d, hd, by simpa using hname⟩
    obtain ⟨d', hd'⟩ := Option.isSome_iff_exists.1 hfound
    exact ⟨d', hd', rfl, encode_toSetting (h.stable entry hentry) entry.1 d'.kind⟩
  exact List.forall₂_map_left_iff.2 (List.forall₂_same.2 hentry)

lemma Finished.stored_length {argument : Argument} {length : Nat} {attr : String}
    (hmem : (argument, length) ∈ measurements s (Request.like n name))
    (hattr : argument.length = some attr) :
    ∃ e, n.attributes.lookup attr = some e ∧ Counts e length := by
  obtain ⟨singles, lists, hinputs, hsingles, -⟩ := h.satisfies.inputs
  obtain ⟨k, hk⟩ := List.mem_iff_getElem?.1 hmem
  rw [measurements, (inputs_like singles lists n name hinputs).2, List.getElem?_zip_eq_some] at hk
  obtain ⟨list, hlist, rfl⟩ := Option.map_eq_some_iff.1 (List.getElem?_map ▸ hk.2)
  obtain ⟨outputs, e, houtputs, he, hcounts, -⟩ := h.satisfies.lengths k argument attr hk.1 hattr
  have hright : (singles.map Input.single).length ≤ s.singleInputs.length + k := by
    rw [List.length_map]
    omega
  rw [hinputs, List.getElem?_append_right hright, List.length_map, hsingles,
    Nat.add_sub_cancel_left, List.getElem?_map, hlist, Option.map_some] at houtputs
  cases houtputs
  exact ⟨e, he, hcounts⟩

/-- The lengths that are to be stored are stored already. -/
lemma Finished.measured_like : measured s (Request.like n name) n.attributes = n.attributes := by
  apply addMissing_eq_self
  intro entry hentry
  obtain ⟨⟨argument, length⟩, hpair, hentry⟩ := List.mem_flatMap.1 hentry
  obtain ⟨e, he, -⟩ := h.stored_length name hpair (mem_lengthEntry_iff.1 hentry).1
  rw [he, Option.isSome_some]

/-- So are the defaults that can be encoded. -/
lemma Finished.addMissing_defaults :
    addMissing n.attributes (s.attributes.flatMap defaultEntry) = n.attributes := by
  apply addMissing_eq_self
  intro entry hentry
  obtain ⟨d, hd, hentry⟩ := List.mem_flatMap.1 hentry
  obtain ⟨hname, value, hdefault, hencode⟩ := mem_defaultEntry_iff.1 hentry
  rw [hname]
  refine (h.satisfies.complete d hd).resolve_right ?_
  rintro ⟨_, hdefault', hleft⟩
  cases hdefault.symm.trans hdefault'
  rw [hencode] at hleft
  rcases hleft with ⟨attr, ⟨⟩⟩ | ⟨attr, encoding, ⟨⟩⟩

theorem Finished.acceptable_like : Acceptable g.id s (Request.like n name) n.attributes where
  arity := h.meetsArity_like name
  owned := h.owned_like name
  encoded := h.encoded_like name
  lengths := by
    intro before argument length after attr hsplit hattr e he
    have hmem : (argument, length) ∈ measurements s (Request.like n name) := by simp [hsplit]
    obtain ⟨stored, hstored, hcounts⟩ := h.stored_length name hmem hattr
    rw [lookup_addMissing, List.lookup_append, hstored, Option.some_or] at he
    cases he
    exact hcounts
  complete := by
    intro d hd habsent
    rw [h.measured_like] at habsent
    rcases h.satisfies.complete d hd with hset | ⟨value, hdefault, hleft⟩
    · rw [Node.attribute?, habsent] at hset
      cases hset
    · refine ⟨value, hdefault, fun attr expected found hmismatch => ?_⟩
      rcases hleft with ⟨_, herror⟩ | ⟨_, _, herror⟩
      all_goals
        rw [hmismatch] at herror
        cases herror

theorem Finished.declaredNode_like :
    declaredNode s (Request.like n name) n.attributes name = { n with name } := by
  rw [declaredNode, h.measured_like, h.addMissing_defaults, h.wiring_like, h.satisfies.opType,
    ← h.satisfies.numOutputs]

end Like

/-- A request for a node like one of the graph, under a name that is free, is accepted, and the new
node differs from the old one in its name only. -/
theorem copy_of_reachable {w : Workspace} (hw : Reachable w) {i : Nat} {g : Graph}
    (hg : w.graphs[i]? = some g) {n : Node} (hn : n ∈ g.nodes) {name : String} (hne : name ≠ "")
    (hfree : ∀ other ∈ g.nodes, other.name ≠ name) :
    ∃ g', (g.add (.like n name)).value = (g', .ok ⟨⟨i, g.size⟩, { n with name }⟩) ∧
      g'.nodes = g.nodes.push { n with name } := by
  obtain ⟨s, h⟩ := finished_of_reachable hw hg n hn
  have hcontract : MeetsContract g (.like n name) s n.attributes := by
    refine ⟨h.acceptable_like name, h.known, ?_⟩
    rintro _ ⟨⟩ -
    exact hfree
  obtain ⟨asked, g', hnamed, hadd, hnodes⟩ :=
    add_of_meetsContract (loaded_of_reachable hw hg) (consistent_of_reachable hw hg) _ hcontract
  have hasked : asked = name := by
    cases hnamed with
    | asked _ hasked => exact (Option.some.inj hasked).symm
    | type unnamed => exact absurd (unnamed name rfl) hne
    | numbered unnamed => exact absurd (unnamed name rfl) hne
  rw [hasked, h.declaredNode_like, located_of_reachable hw i g hg] at hadd
  rw [hasked, h.declaredNode_like] at hnodes
  exact ⟨g', hadd, hnodes⟩

theorem copy_sampleRun : ∃ g n, (Workspace.empty.afterAll sampleRun).graphs[0]? = some g ∧
    g.nodes[1]? = some n ∧ n.inputs = [.list [⟨⟨0, 0⟩, 0⟩, ⟨⟨0, 0⟩, 0⟩]] ∧
    (g.add (.like n "again")).value.2 = .ok ⟨⟨0, 2⟩, { n with name := "again" }⟩ := by
  have hsum : ((Workspace.empty.afterAll sampleRun).graphs[0]?.bind fun g =>
      g.nodes[1]?.map fun n => (g.size, n.inputs, g.nodes.all fun n => n.name ≠ "again")) =
        some (2, [.list [⟨⟨0, 0⟩, 0⟩, ⟨⟨0, 0⟩, 0⟩]], true) := by
    decide +kernel
  obtain ⟨g, hg, hsum⟩ := Option.bind_eq_some_iff.1 hsum
  obtain ⟨n, hn, hsum⟩ := Option.map_eq_some_iff.1 hsum
  simp only [Prod.mk.injEq] at hsum
  obtain ⟨hsize, hinputs, hfree⟩ := hsum
  have hother : ∀ other ∈ g.nodes, other.name ≠ "again" := fun other hmem =>
    of_decide_eq_true (Array.all_eq_true_iff_forall_mem.1 hfree other hmem)
  obtain ⟨g', hadd, -⟩ := copy_of_reachable reachable_sampleRun hg (Array.mem_of_getElem? hn)
    (by decide) hother
  exact ⟨g, n, hg, hn, hinputs, by rw [hadd, hsize]⟩

end TensorGraph.Proofs
