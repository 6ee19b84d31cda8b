import Mathlib
import TensorGraph.Proofs.Workspace.Reachable

/-!
# Nodes asked for by their first output

A placeholder or a constant is answered with the first output of its node. Whether the node has an
output is looked at only when the node was added. So a call that fails has left the nodes and the
names alone, unless the operation type declares no output: then the node is there, and its name is
taken.
-/

namespace TensorGraph.Proofs
open TensorGraph.Graph TensorGraph.Draft

/-! ### Errors of drafts -/

/-- The errors that a draft can end with. Each names the operation that was drafted. -/
inductive DraftError (op : String) : GraphError → Prop where
  | foreignInput (position : Nat) : DraftError op (.foreignInput op position)
  | inputArity (expected expectedLists found foundLists : Nat) :
    DraftError op (.inputArity op expected expectedLists found foundLists)
  | unknownAttribute (attr : String) : DraftError op (.unknownAttribute op attr)
  | missingAttribute (attr : String) : DraftError op (.missingAttribute op attr)
  | listLength (argument attr : String) (length : Nat) :
    DraftError op (.listLength op argument attr length)
  | attribute (e : Attribute.EncodeError) : DraftError op (.attribute op e)

lemma failsWith_checkArity (s : Signature) (op : String) (r : Request) :
    FailsWith (DraftError op) (checkArity s op r) := by
  intro e h
  obtain ⟨-, rfl⟩ := checkArity_eq_error_iff.1 h
  exact .inputArity _ _ _ _

lemma failsWith_checkOwner (id : Nat) (op : String) (wiring : List Input) :
    FailsWith (DraftError op) (checkOwner id op wiring) := by
  intro e h
  obtain ⟨before, input, after, -, -, -, rfl⟩ := checkOwner_eq_error_iff.1 h
  exact .foreignInput before.length

lemma failsWith_encodeSetting (s : Signature) (op : String)
    (setting : String × Attribute.Setting) :
    FailsWith (DraftError op) (outcome (encodeSetting s op setting.1 setting.2)) := by
  intro e h
  cases encodeSetting_eq_error_iff.1 h with
  | undeclared => exact .unknownAttribute setting.1
  | unencodable d known e' => exact .attribute e'

lemma failsWith_setLengths (op : String) (pairs : List (Argument × Nat)) (l : Attributes) :
    FailsWith (DraftError op) (setLengths op pairs l) := by
  intro e h
  obtain ⟨before, pair, after, -, -, attr, -, -, rfl⟩ := setLengths_eq_error_iff.1 h
  exact .listLength pair.1.name attr pair.2

lemma failsWith_setDefaults (op : String) (declarations : List Declaration) (l : Attributes) :
    FailsWith (DraftError op) (outcome (setDefaults op declarations l)) := by
  intro e h
  obtain ⟨before, d, after, -, -, hoffends⟩ := setDefaults_eq_error_iff_before.1 h
  cases hoffends with
  | missing => exact .missingAttribute d.name
  | mismatch absent value default attr expected found => exact .attribute _

theorem failsWith_node (id : Nat) (s : Signature) (op : String) (r : Request) :
    FailsWith (DraftError op) (outcome (Draft.node id s op r)) := by
  rw [outcome_node]
  refine (failsWith_checkArity s op r).bind fun _ => (failsWith_checkOwner id op r.wiring).bind
    fun _ => (FailsWith.mapM (fun setting => ?_) r.settings).bind fun given =>
    (failsWith_setLengths op _ given).bind fun measured =>
    (failsWith_setDefaults op s.attributes measured).bind fun attributes => failsWith_ok _
  exact failsWith_encodeSetting s op setting

lemma noOutput_ne_of_chooseName {g : Graph} {r : Request} {e : GraphError}
    (h : g.chooseName r = .error e) (op : String) : e ≠ .noOutput op := by
  rintro rfl
  rw [chooseName] at h
  split at h
  · split at h <;> cases h
  · cases h

/-- That a node has no output is not an error of adding it. -/
lemma noOutput_ne_of_add {g g' : Graph} {r : Request} {e : GraphError}
    (h : (g.add r).value = (g', .error e)) (op : String) : e ≠ .noOutput op := by
  rw [add_value] at h
  split at h
  · cases h
    simp
  · split at h
    · rename_i hname
      cases h
      exact noOutput_ne_of_chooseName hname op
    · split at h
      · rename_i hnode
        cases h
        have hdraft := failsWith_node _ _ _ _ _ hnode
        rintro rfl
        cases hdraft
      · cases h

/-! ### What a failed call leaves -/

/-- A node without outputs was added for an operation type that declares none, and nothing else was
done to the nodes and the names. -/
structure Leftover (g : Graph) (opType : String) (node : Node) (g' : Graph) : Prop where
  declared : ∃ s, g.registry.lookup opType = some s ∧ s.outputs = [] ∧ node.opType = s.name
  silent : node.numOutputs = 0
  free : g.contains node.name = false
  appends : Appends g node g'

/-- What can be behind a failure to give the first output of a node of the type. -/
inductive FailedOutput (g : Graph) (opType : String) (e : GraphError) (g' : Graph) : Prop where
  | refused (same : SameStore g g') (other : ∀ op, e ≠ .noOutput op)
  | silent (node : Node) (left : Leftover g opType node g') (error : e = .noOutput node.name)

lemma firstOutput_eq_error {op : Operation} {e : GraphError} (h : firstOutput op = .error e) :
    op.node.numOutputs = 0 ∧ e = .noOutput op.node.name := by
  rw [firstOutput, Operation.output?] at h
  by_cases hpos : 0 < op.node.numOutputs
  · rw [if_pos hpos] at h
    cases h
  · rw [if_neg hpos] at h
    cases h
    exact ⟨by omega, rfl⟩

lemma exists_signature_of_add {g g' : Graph} {r : Request} {op : Operation}
    (h : (g.add r).value = (g', .ok op)) : ∃ s, g.registry.lookup r.opType = some s ∧
      op.node.opType = s.name ∧ op.node.numOutputs = s.outputs.length := by
  obtain ⟨s, g₁, name, node, hs, -, hnode, -, rfl⟩ := add_eq_ok h
  obtain ⟨given, measured, attributes, -, -, -, -, -, rfl⟩ := node_eq_ok hnode
  exact ⟨s, hs, rfl, rfl⟩

lemma failedOutput_of_add {g g₁ : Graph} (hsame : SameStore g g₁) {r : Request} {e : GraphError}
    (h : (g₁.add r).value.2.bind firstOutput = .error e) :
    FailedOutput g r.opType e (g₁.add r).value.1 := by
  cases hadd : (g₁.add r).value with
  | mk g' result =>
    rw [hadd] at h
    cases result with
    | error e' =>
      cases h
      have hkept := hsame.trans (sameStore_of_add_eq_error hadd)
      exact .refused hkept (noOutput_ne_of_add hadd)
    | ok op =>
      obtain ⟨hsilent, he⟩ := firstOutput_eq_error h
      obtain ⟨s, hs, htype, houtputs⟩ := exists_signature_of_add hadd
      obtain ⟨-, hdrafted, happends⟩ := append_of_add_eq_ok hadd
      have hnone : s.outputs = [] := by
        rw [← List.length_eq_zero_iff, ← houtputs, hsilent]
      rw [hsame.registry] at hs
      exact .silent op.node ⟨⟨s, hs, hnone, htype⟩, hsilent, (hdrafted.of_sameStore hsame).free,
        happends.of_sameStore hsame⟩ he

theorem failedOutput_of_call {g g' : Graph} {c : Graph.Call} {e : GraphError}
    (h : (g.call c).value = (g', .output (.error e))) :
    ∃ opType, wantedType? c = some opType ∧ FailedOutput g opType e g' := by
  obtain ⟨opType, hwanted, hcall⟩ := outputCall_of_call h
  refine ⟨opType, hwanted, ?_⟩
  cases hcall with
  | rejected e' same answer =>
    cases answer
    rw [same]
    exact .refused (.refl g) (by simp)
  | requested g₁ r same type unfed after answer =>
    rw [← type, ← after]
    exact failedOutput_of_add same answer

lemma Leftover.contains {g g' : Graph} {opType : String} {node : Node}
    (h : Leftover g opType node g') : g'.contains node.name = true := by
  rw [Graph.contains, position?, h.appends.names, Table.get?_insert, if_pos rfl, Option.isSome_some]

/-- A placeholder or constant that fails leaves the nodes and the names as they were exactly if it
fails for another reason than the lack of an output. So it does if the operation type declares an
output. Without one the node that was asked for is there, as the only change. -/
theorem store_after_failed_output {g g' : Graph} {c : Graph.Call} {e : GraphError}
    (h : (g.call c).value = (g', .output (.error e))) :
    ((g'.nodes = g.nodes ∧ g'.names = g.names) ↔ ∀ op, e ≠ .noOutput op) ∧
      ∃ opType, wantedType? c = some opType ∧
        ((∀ s, g.registry.lookup opType = some s → s.outputs ≠ []) →
          g'.nodes = g.nodes ∧ g'.names = g.names) ∧
        ∀ op, e = .noOutput op → ∃ node, node.name = op ∧ Leftover g opType node g' := by
  obtain ⟨opType, hwanted, hfailed⟩ := failedOutput_of_call h
  cases hfailed with
  | refused same other =>
    refine ⟨iff_of_true ⟨same.nodes, same.names⟩ other, opType, hwanted, ?_, ?_⟩
    · exact fun _ => ⟨same.nodes, same.names⟩
    · exact fun op he => absurd he (other op)
  | silent node left error =>
    have hchanged : ¬(g'.nodes = g.nodes ∧ g'.names = g.names) := by
      rintro ⟨-, hnames⟩
      have htaken := left.contains
      rw [Graph.contains, position?, hnames] at htaken
      have hfree := left.free
      rw [Graph.contains, position?, htaken] at hfree
      cases hfree
    refine ⟨iff_of_false hchanged fun hother => hother node.name error, opType, hwanted, ?_, ?_⟩
    · intro houtputs
      obtain ⟨s, hs, hnone, -⟩ := left.declared
      exact absurd hnone (houtputs s hs)
    · intro op he
      rw [error] at he
      injection he with hname
      exact ⟨node, hname, left⟩

/-- A definition of placeholders that declares no output. -/
def sinkSignature : Signature := ⟨"Placeholder", [], [], [⟨"dtype", .type, none⟩]⟩

def sinkGraph : Graph := .empty 0 ⟨[("placeholder", sinkSignature)]⟩

lemma loaded_sinkGraph : Loaded sinkGraph.registry :=
  .load [sinkSignature] _ (by decide +kernel)

def sinkCall : Graph.Call := .addPlaceholder "x" .float32

lemma call_sinkGraph : (sinkGraph.call sinkCall).value =
    ((sinkGraph.call sinkCall).value.1, .output (.error (.noOutput "x"))) := by
  have hresult : (sinkGraph.addPlaceholder "x" .float32).value.2 = .error (.noOutput "x") := by
    decide +kernel
  exact Prod.ext rfl (congrArg Reply.output hresult)

theorem store_after_failed_output_sinkGraph : ∃ g' node,
    (sinkGraph.call sinkCall).value = (g', .output (.error (.noOutput "x"))) ∧
      node.name = "x" ∧ Leftover sinkGraph "Placeholder" node g' := by
  obtain ⟨-, opType, hwanted, -, hleft⟩ := store_after_failed_output call_sinkGraph
  cases hwanted
  obtain ⟨node, hname, hleft⟩ := hleft "x" rfl
  exact ⟨_, node, call_sinkGraph, hname, hleft⟩

/-- A placeholder that fails can be there afterwards. -/
theorem store_after_failed_output_changed :
    (∃ w : Workspace, Reachable w ∧ w.graphs[0]? = some sinkGraph) ∧ ∃ g' e,
      (sinkGraph.call sinkCall).value = (g', .output (.error e)) ∧
        g'.nodes ≠ sinkGraph.nodes ∧ g'.names ≠ sinkGraph.names ∧
        sinkGraph.contains "x" = false ∧ g'.contains "x" = true := by
  refine ⟨⟨_, Reachable.empty.after (.openGraph sinkGraph.registry) loaded_sinkGraph, rfl⟩, _, _,
    call_sinkGraph, ?_, ?_, ?_, ?_⟩
  · decide +kernel
  · decide +kernel
  · rfl
  · decide +kernel

end TensorGraph.Proofs
