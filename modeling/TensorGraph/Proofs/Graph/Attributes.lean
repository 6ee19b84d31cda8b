import Mathlib
import TensorGraph.Proofs.Attribute.Serialized
import TensorGraph.Proofs.Graph.Drafting

/-!
# Attributes of nodes

Each attribute of a node is an encoded setting, the length of a list or an encoded default. So what
is known of these can be said of all attributes of nodes, such as that they can be read back from
their bytes.
-/

namespace TensorGraph.Proofs
open TensorGraph.Draft TensorGraph.Attribute

section Phases

variable {P : Encoded → Prop} {op : String} {l l' : Attributes}

lemma forall_of_setLengths (hlength : ∀ n, P (.int64 (Int64.ofNat n)))
    {pairs : List (Argument × Nat)} (hl : ∀ entry ∈ l, P entry.2)
    (h : setLengths op pairs l = .ok l') : ∀ entry ∈ l', P entry.2 := by
  intro entry hentry
  obtain ⟨-, rfl⟩ := setLengths_eq_ok_iff.1 h
  rcases mem_addMissing hentry with hentry | hadded
  · exact hl entry hentry
  · obtain ⟨pair, -, hadded⟩ := List.mem_flatMap.1 hadded
    rw [(mem_lengthEntry_iff.1 hadded).2]
    exact hlength pair.2

lemma forall_of_setDefaults {declarations : List Declaration}
    (hdefault : ∀ d ∈ declarations, ∀ value e, d.default? = some value →
      outcome (encode d.name ⟨value, none⟩ d.kind) = .ok e → P e)
    (hl : ∀ entry ∈ l, P entry.2) (h : outcome (setDefaults op declarations l) = .ok l') :
    ∀ entry ∈ l', P entry.2 := by
  intro entry hentry
  obtain ⟨-, rfl⟩ := setDefaults_eq_ok_iff_before.1 h
  rcases mem_addMissing hentry with hentry | hadded
  · exact hl entry hentry
  · obtain ⟨d, hd, hadded⟩ := List.mem_flatMap.1 hadded
    obtain ⟨-, value, hvalue, hencode⟩ := mem_defaultEntry_iff.1 hadded
    exact hdefault d hd value entry.2 hvalue hencode

end Phases

section Node

variable {id : Nat} {s : Signature} {op : String} {r : Request} {node : Node}
  (h : outcome (Draft.node id s op r) = .ok node)
include h

/-- What holds of encoded settings, of lengths and of encoded defaults holds of all attributes of a
node. -/
theorem forall_of_node {P : Encoded → Prop}
    (hsetting : ∀ setting ∈ r.settings, ∀ declared e,
      outcome (encode setting.1 setting.2 declared) = .ok e → P e)
    (hlength : ∀ n, P (.int64 (Int64.ofNat n)))
    (hdefault : ∀ d ∈ s.attributes, ∀ value e, d.default? = some value →
      outcome (encode d.name ⟨value, none⟩ d.kind) = .ok e → P e) :
    ∀ entry ∈ node.attributes, P entry.2 := by
  obtain ⟨given, measured, attributes, -, -, hgiven, hmeasured, hattributes, rfl⟩ := node_eq_ok h
  have hset : ∀ entry ∈ given, P entry.2 := by
    intro entry hentry
    obtain ⟨setting, hmem, hencode⟩ := exists_of_mem_right hgiven entry hentry
    obtain ⟨d, -, -, hencode⟩ := encodeSetting_eq_ok_iff.1 hencode
    exact hsetting setting hmem d.kind entry.2 hencode
  exact forall_of_setDefaults hdefault (forall_of_setLengths hlength hset hmeasured) hattributes

/-- The attributes of a node are produced, if the tensors in its request and in the defaults of its
signature were made from literals. -/
theorem produced_of_node
    (hsettings : ∀ setting ∈ r.settings, ∀ t, setting.2.value = .tensor t → Built t)
    (hdefaults : ∀ d ∈ s.attributes, ∀ t, d.default? = some (.tensor t) → Built t) :
    ∀ entry ∈ node.attributes, Produced entry.2 := by
  apply forall_of_node h (P := Produced)
  · intro setting hsetting declared e hencode
    exact .encode setting.1 setting.2 declared e (hsettings setting hsetting) hencode
  · exact .length
  · intro d hd value e hvalue hencode
    refine .encode d.name ⟨value, none⟩ d.kind e (fun t ht => hdefaults d hd t ?_) hencode
    rw [hvalue]
    exact congrArg some ht

/-- The attributes of a node are stable, whatever it was asked for. -/
theorem stable_of_node : ∀ entry ∈ node.attributes, Stable entry.2 := by
  apply forall_of_node h (P := Stable)
  · exact fun setting _ declared e hencode => stable_of_encode hencode
  · exact fun n => trivial
  · exact fun d _ value e _ hencode => stable_of_encode hencode

end Node

end TensorGraph.Proofs
