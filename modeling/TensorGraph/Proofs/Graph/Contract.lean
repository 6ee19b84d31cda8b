import Mathlib
import TensorGraph.Proofs.Attribute.Encode
import TensorGraph.Proofs.Graph.Drafting
import TensorGraph.Proofs.Workspace.Reachable

/-!
# Finished nodes meet their signatures

What loading checks of a signature and what the phases of a draft check of a request add up to a
contract that every node of every reachable graph meets.
-/

namespace TensorGraph.Proofs
open TensorGraph.Graph TensorGraph.Draft TensorGraph.Attribute

/-- The node meets the signature. The lengths of lists are counted in signed words, which hold the
length of every list that fits in memory. -/
structure Satisfies (s : Signature) (n : Node) : Prop where
  opType : s.name = n.opType
  numOutputs : n.numOutputs = s.outputs.length
  inputs : ∃ (singles : List Output) (lists : List (List Output)),
    n.inputs = singles.map Input.single ++ lists.map Input.list ∧
      singles.length = s.singleInputs.length ∧ lists.length = s.listInputs.length
  declared : ∀ entry ∈ n.attributes, ∃ d ∈ s.attributes, d.name = entry.1
  lengths : ∀ (k : Nat) (argument : Argument) (attr : String),
    s.listInputs[k]? = some argument → argument.length = some attr →
      ∃ outputs e, n.inputs[s.singleInputs.length + k]? = some (.list outputs) ∧
        n.attribute? attr = some e ∧ e.toInt? = some (Int64.ofNat outputs.length).toInt ∧
        (outputs.length < 2 ^ 63 → e.toInt? = some (outputs.length : Int))
  types : ∀ argument ∈ s.inputs ++ s.outputs, ∀ attr, argument.type = .attribute attr →
    (n.attribute? attr).isSome = true
  complete : ∀ d ∈ s.attributes, (n.attribute? d.name).isSome = true ∨ LeftToRuntime d

lemma not_leftToRuntime_of_type {d : Declaration} (hd : d.kind = .type) : ¬LeftToRuntime d := by
  rintro ⟨value, -, h⟩
  obtain ⟨encoding, rule, hresolve, hsupported⟩ := resolve_type d.name value
  simp only [hd, outcome_encode, hresolve, hsupported, if_true] at h
  cases hr : encoding.represent? value <;> simp [hr] at h

lemma exists_declaration {s : Signature} (hs : WellFormed s) {argument : Argument}
    (ha : argument ∈ s.inputs ++ s.outputs) {attr : String} {kind : Kind}
    (href : (attr, kind) ∈ argument.references) :
    ∃ d ∈ s.attributes, d.name = attr ∧ d.kind = kind := by
  have hdeclares := hs.declares_references argument ha (attr, kind) href
  rw [Signature.declares, Option.any_eq_true] at hdeclares
  obtain ⟨d, hd, hkind⟩ := hdeclares
  obtain ⟨hmem, hname⟩ := attribute?_eq_some hd
  exact ⟨d, hmem, hname, of_decide_eq_true hkind⟩

lemma exists_type_declaration {s : Signature} (hs : WellFormed s) {argument : Argument}
    (ha : argument ∈ s.inputs ++ s.outputs) {attr : String} (h : argument.type = .attribute attr) :
    ∃ d ∈ s.attributes, d.name = attr ∧ d.kind = .type := by
  apply exists_declaration hs ha
  simp [Argument.references, h]

lemma exists_length_declaration {s : Signature} (hs : WellFormed s) {argument : Argument}
    (ha : argument ∈ s.listInputs) {attr : String} (h : argument.length = some attr) :
    ∃ d ∈ s.attributes, d.name = attr ∧ d.kind = .int := by
  have hmem : argument ∈ s.inputs := (List.mem_filter.1 ha).1
  apply exists_declaration hs (List.mem_append_left _ hmem)
  simp [Argument.references, h]

theorem satisfies_of_node {id : Nat} {s : Signature} {op : String} {r : Request} {n : Node}
    (hs : WellFormed s) (h : outcome (Draft.node id s op r) = .ok n) : Satisfies s n := by
  obtain ⟨given, measured, attributes, harity, -, hgiven, hmeasured, hattributes, rfl⟩ :=
    node_eq_ok h
  obtain ⟨hsingles, hlists⟩ := checkArity_eq_ok_iff.1 harity
  obtain ⟨hpre, hmeasuredMem, hlengths⟩ := setLengths_eq_ok hmeasured
  obtain ⟨hpre', hattributesMem, hcomplete⟩ := setDefaults_eq_ok hattributes
  constructor
  case opType => rfl
  case numOutputs => rfl
  case inputs => exact ⟨r.inputs, r.lists, rfl, hsingles, hlists⟩
  case complete => exact hcomplete
  case declared =>
    intro entry hentry
    rcases hattributesMem entry hentry with hentry | hdefault
    · rcases hmeasuredMem entry hentry with hentry | ⟨pair, hpair, hlength⟩
      · obtain ⟨setting, -, hsetting⟩ := exists_of_mem_right hgiven entry hentry
        obtain ⟨d, hd, hname, -⟩ := encodeSetting_eq_ok_iff.1 hsetting
        obtain ⟨hmem, hd⟩ := attribute?_eq_some hd
        exact ⟨d, hmem, hd.trans hname.symm⟩
      · obtain ⟨d, hmem, hname, -⟩ :=
          exists_length_declaration hs (List.of_mem_zip hpair).1 hlength
        exact ⟨d, hmem, hname⟩
    · exact hdefault
  case lengths =>
    intro k argument attr hargument hlength
    have hk : k < r.lists.length := by
      have := (List.getElem?_eq_some_iff.1 hargument).1
      omega
    have hpair : (argument, r.lists[k].length) ∈ s.listInputs.zip (r.lists.map List.length) := by
      apply List.mem_of_getElem? (i := k)
      rw [List.getElem?_zip_eq_some]
      exact ⟨hargument, by simp [hk]⟩
    obtain ⟨e, he, hint⟩ := (hlengths _ hpair attr hlength).of_isPrefix hpre'
    refine ⟨r.lists[k], e, ?_, he, hint, ?_⟩
    · have hright : (r.inputs.map Input.single).length ≤ s.singleInputs.length + k := by
        rw [List.length_map]
        omega
      rw [Request.wiring, List.getElem?_append_right hright, List.length_map, hsingles,
        Nat.add_sub_cancel_left, List.getElem?_map, List.getElem?_eq_getElem hk, Option.map_some]
    · intro hsmall
      rw [hint, Int64.toInt_ofNat_of_lt hsmall]
  case types =>
    intro argument hargument attr htype
    obtain ⟨d, hmem, rfl, hkind⟩ := exists_type_declaration hs hargument htype
    exact (hcomplete d hmem).resolve_right (not_leftToRuntime_of_type hkind)

def Conforms (g : Graph) : Prop :=
  ∀ node ∈ g.nodes, ∃ s, g.registry.lookup node.opType = some s ∧ Satisfies s node

lemma Drafted.exists_signature {g : Graph} {node : Node} (h : Drafted g node)
    (hr : Loaded g.registry) :
    ∃ s, g.registry.lookup node.opType = some s ∧ Satisfies s node := by
  obtain ⟨-, s, r, hs, -, hnode⟩ := h
  obtain ⟨-, hwf, hown⟩ := lookup_eq_some hr hs
  have hsat := satisfies_of_node hwf hnode
  exact ⟨s, hsat.opType ▸ hown, hsat⟩

lemma conforms_empty (id : Nat) (registry : Registry) : Conforms (.empty id registry) := by
  intro node hnode
  simp [Graph.empty] at hnode

lemma Conforms.step {g g' : Graph} (hr : Loaded g.registry) (hg : Conforms g) (h : Step g g') :
    Conforms g' := by
  unfold Conforms
  rw [h.registry_eq]
  exact h.forall_nodes hg fun node drafted => drafted.exists_signature hr

/-- Every node of every graph that can be reached meets the signature of its operation type. -/
theorem contract_of_reachable {w : Workspace} (hw : Reachable w) {i : Nat} {g : Graph}
    (hg : w.graphs[i]? = some g) {node : Node} (hnode : node ∈ g.nodes) :
    ∃ s, g.registry.lookup node.opType = some s ∧ Satisfies s node := by
  have hconforms := (forall_graph_of_reachable (fun id registry _ => conforms_empty id registry)
    (fun _ _ hr h hs => h.step hr hs) hw i g hg).2
  exact hconforms node hnode

theorem contract_sampleRun : ∃ g node s,
    (Workspace.empty.afterAll sampleRun).graphs[0]? = some g ∧ g.nodes[1]? = some node ∧
      g.registry.lookup node.opType = some s ∧ s.name = "AddN" ∧ Satisfies s node := by
  have htype : ((Workspace.empty.afterAll sampleRun).graphs[0]?.bind fun g =>
      g.nodes[1]?.map Node.opType) = some "AddN" := by
    decide +kernel
  obtain ⟨g, hg, htype⟩ := Option.bind_eq_some_iff.1 htype
  obtain ⟨node, hnode, hname⟩ := Option.map_eq_some_iff.1 htype
  obtain ⟨s, hs, hsat⟩ :=
    contract_of_reachable reachable_sampleRun hg (Array.mem_of_getElem? hnode)
  exact ⟨g, node, s, hg, hnode, hs, hsat.opType.trans hname, hsat⟩

end TensorGraph.Proofs
