import Mathlib
import TensorGraph.Proofs.Graph.Completion
import TensorGraph.Proofs.Graph.Feeding
import TensorGraph.Proofs.Registry.Loaded

/-!
# Accepted and refused drafts

A draft that meets all conditions is the one node that they leave room for. Any other draft is
refused, with the error of the first condition that fails and the first place where it does.
-/

namespace TensorGraph.Proofs
open TensorGraph.Draft TensorGraph.Attribute

def Owned (id : Nat) (r : Request) : Prop := ∀ output, FedWith r output → output.node.graph = id

lemma checkOwner_eq_ok_iff {id : Nat} {op : String} {r : Request} :
    checkOwner id op r.wiring = .ok () ↔ Owned id r := by
  constructor
  · intro h output hfed
    obtain ⟨input, hinput, houtput⟩ := (exists_mem_wiring_iff r output).2 hfed
    exact checkOwner_eq_ok h input hinput output houtput
  · intro howned
    cases h : checkOwner id op r.wiring with
    | ok u => rfl
    | error e =>
      obtain ⟨before, input, after, hsplit, -, ⟨output, houtput, hforeign⟩, -⟩ :=
        checkOwner_eq_error_iff.1 h
      have hinput : input ∈ r.wiring := by simp [hsplit]
      exact absurd (howned output ((exists_mem_wiring_iff r output).1 ⟨input, hinput, houtput⟩))
        hforeign

/-- The list arguments, each with the length of its list. -/
def measurements (s : Signature) (r : Request) : List (Argument × Nat) :=
  s.listInputs.zip (r.lists.map List.length)

/-- The encoded settings with the lengths of the lists behind them. -/
def measured (s : Signature) (r : Request) (given : Attributes) : Attributes :=
  addMissing given ((measurements s r).flatMap lengthEntry)

/-- The request meets the conditions that its signature puts on it, and `given` are its settings
in their encodings. -/
structure Acceptable (id : Nat) (s : Signature) (r : Request) (given : Attributes) : Prop where
  arity : MeetsArity s r
  owned : Owned id r
  encoded : List.Forall₂ (Encodes s) r.settings given
  lengths : LengthsFit given (measurements s r)
  complete : Completable (measured s r given) s.attributes

/-- The node that an acceptable request asks for. -/
def declaredNode (s : Signature) (r : Request) (given : Attributes) (name : String) : Node where
  name
  opType := s.name
  inputs := r.wiring
  attributes := addMissing (measured s r given) (s.attributes.flatMap defaultEntry)
  numOutputs := s.outputs.length

/-- The errors of the conditions, each of which assumes the conditions before it. -/
inductive DraftRefused (id : Nat) (s : Signature) (op : String) (r : Request) :
    GraphError → Prop where
  | arity (failed : ¬MeetsArity s r) :
    DraftRefused id s op r (.inputArity op s.singleInputs.length s.listInputs.length
      r.inputs.length r.lists.length)
  | foreign (e : GraphError) (arity : MeetsArity s r)
    (first : FirstOffence (ForeignOffence id op) r.wiring e) : DraftRefused id s op r e
  | setting (e : GraphError) (arity : MeetsArity s r) (owned : Owned id r)
    (first : FirstOffence (fun _ => SettingOffence s op) r.settings e) : DraftRefused id s op r e
  | length (e : GraphError) (arity : MeetsArity s r) (owned : Owned id r) (given : Attributes)
    (encoded : List.Forall₂ (Encodes s) r.settings given)
    (first : FirstOffence
      (fun before => LengthOffence op (addMissing given (before.flatMap lengthEntry)))
      (measurements s r) e) : DraftRefused id s op r e
  | default (e : GraphError) (arity : MeetsArity s r) (owned : Owned id r) (given : Attributes)
    (encoded : List.Forall₂ (Encodes s) r.settings given)
    (lengths : LengthsFit given (measurements s r))
    (first : FirstOffence (fun _ => DefaultOffence op (measured s r given)) s.attributes e) :
    DraftRefused id s op r e

section Node

variable {id : Nat} {s : Signature} {op : String} {r : Request} (hs : WellFormed s)
include hs

theorem node_eq_ok_iff {n : Node} : outcome (Draft.node id s op r) = .ok n ↔
    ∃ given, Acceptable id s r given ∧ n = declaredNode s r given op := by
  simp only [outcome_node, bind_eq_ok_iff, mapM_eq_ok_iff, encodeSetting_eq_ok_iff,
    setLengths_eq_ok_iff, setDefaults_eq_ok_iff hs.nodup_attributes]
  constructor
  · rintro ⟨⟨⟩, harity, ⟨⟩, howner, given, hgiven, stored, ⟨hlengths, rfl⟩, attributes,
      ⟨hcomplete, rfl⟩, h⟩
    cases h
    exact ⟨given, ⟨checkArity_eq_ok_iff.1 harity, checkOwner_eq_ok_iff.1 howner, hgiven, hlengths,
      hcomplete⟩, rfl⟩
  · rintro ⟨given, ⟨harity, howned, hgiven, hlengths, hcomplete⟩, rfl⟩
    exact ⟨(), checkArity_eq_ok_iff.2 harity, (), checkOwner_eq_ok_iff.2 howned, given, hgiven, _,
      ⟨hlengths, rfl⟩, _, ⟨hcomplete, rfl⟩, rfl⟩

theorem node_eq_error_iff {e : GraphError} : outcome (Draft.node id s op r) = .error e ↔
    DraftRefused id s op r e := by
  simp only [outcome_node, bind_eq_error_iff, mapM_eq_ok_iff, mapM_eq_error_iff,
    encodeSetting_eq_ok_iff, encodeSetting_eq_error_iff, setLengths_eq_ok_iff,
    setLengths_eq_error_iff, setDefaults_eq_error_iff hs.nodup_attributes,
    checkArity_eq_error_iff, checkOwner_eq_error_iff]
  constructor
  · rintro (⟨hfailed, rfl⟩ | ⟨⟨⟩, harity, hforeign | ⟨⟨⟩, howner, hsetting |
      ⟨given, hgiven, hlength | ⟨stored, ⟨hlengths, rfl⟩, hdefault | ⟨attributes, -, h⟩⟩⟩⟩⟩)
    · exact .arity hfailed
    · exact .foreign e (checkArity_eq_ok_iff.1 harity) hforeign
    · exact .setting e (checkArity_eq_ok_iff.1 harity) (checkOwner_eq_ok_iff.1 howner) hsetting
    · exact .length e (checkArity_eq_ok_iff.1 harity) (checkOwner_eq_ok_iff.1 howner) given hgiven
        hlength
    · exact .default e (checkArity_eq_ok_iff.1 harity) (checkOwner_eq_ok_iff.1 howner) given hgiven
        hlengths hdefault
    · cases h
  · intro h
    cases h with
    | arity failed => exact .inl ⟨failed, rfl⟩
    | foreign _ arity first => exact .inr ⟨(), checkArity_eq_ok_iff.2 arity, .inl first⟩
    | setting _ arity owned first =>
      exact .inr ⟨(), checkArity_eq_ok_iff.2 arity, .inr ⟨(), checkOwner_eq_ok_iff.2 owned,
        .inl first⟩⟩
    | length _ arity owned given encoded first =>
      exact .inr ⟨(), checkArity_eq_ok_iff.2 arity, .inr ⟨(), checkOwner_eq_ok_iff.2 owned,
        .inr ⟨given, encoded, .inl first⟩⟩⟩
    | default _ arity owned given encoded lengths first =>
      exact .inr ⟨(), checkArity_eq_ok_iff.2 arity, .inr ⟨(), checkOwner_eq_ok_iff.2 owned,
        .inr ⟨given, encoded, .inr ⟨_, ⟨lengths, rfl⟩, .inl first⟩⟩⟩⟩

end Node

end TensorGraph.Proofs
