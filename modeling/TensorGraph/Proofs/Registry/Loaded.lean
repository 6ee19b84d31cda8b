import Mathlib
import TensorGraph.Registry.Standard
import TensorGraph.Proofs.Outcome

/-!
# Loaded registries

The signatures of a registry that was loaded, or of the registry of common operations, have names,
declare each attribute once, and declare every attribute that an argument refers to with the right
kind. Each stands under its own name in lower case, so looking its name up finds it.
-/

namespace TensorGraph.Proofs
open TensorGraph.Registry TensorGraph.Text

inductive Loaded : Registry → Prop where
  | standard : Loaded .standard
  | load (signatures : List Signature) (r : Registry) (h : outcome (load signatures) = .ok r) :
    Loaded r
  | loadDecoded (records : List (Except String Signature)) (r : Registry)
    (h : outcome (loadDecoded records) = .ok r) : Loaded r

structure WellFormed (s : Signature) : Prop where
  name_ne_empty : s.name ≠ ""
  nodup_attributes : (s.attributes.map (·.name)).Nodup
  declares_references : ∀ a ∈ s.inputs ++ s.outputs, ∀ ref ∈ a.references,
    s.declares ref.1 ref.2 = true

lemma attribute?_eq_some {s : Signature} {attr : String} {d : Declaration}
    (h : s.attribute? attr = some d) : d ∈ s.attributes ∧ d.name = attr := by
  rw [Signature.attribute?] at h
  exact ⟨List.mem_of_find?_eq_some h, by simpa using List.find?_some h⟩

lemma firstRepeat_eq_none_iff (earlier names : List String) :
    Signature.firstRepeat earlier names = none ↔
      names.Nodup ∧ ∀ name ∈ names, name ∉ earlier := by
  induction names generalizing earlier with
  | nil => simp [Signature.firstRepeat]
  | cons name rest ih =>
    rw [Signature.firstRepeat]
    split
    · rename_i hmem
      simp [hmem]
    · rename_i hnew
      rw [ih, List.nodup_cons, List.forall_mem_cons]
      constructor
      · rintro ⟨hnodup, hrest⟩
        refine ⟨⟨fun hname => hrest name hname (by simp), hnodup⟩, hnew, ?_⟩
        exact fun other hother he => hrest other hother (by simp [he])
      · rintro ⟨⟨hname, hnodup⟩, -, hrest⟩
        refine ⟨hnodup, fun other hother => ?_⟩
        rw [List.mem_cons, not_or]
        exact ⟨fun he => hname (he ▸ hother), hrest other hother⟩

lemma badReference?_eq_none_iff (s : Signature) : s.badReference? = none ↔
    ∀ a ∈ s.inputs ++ s.outputs, ∀ ref ∈ a.references, s.declares ref.1 ref.2 = true := by
  simp only [Signature.badReference?, List.findSome?_eq_none_iff, Option.map_eq_none_iff,
    List.find?_eq_none, Bool.not_eq_true, Bool.not_eq_false', Prod.forall]

theorem check_eq_ok_iff (s : Signature) (position : Nat) :
    s.check position = .ok () ↔ WellFormed s := by
  have hwf : WellFormed s ↔ s.name ≠ "" ∧ Signature.firstRepeat [] (s.attributes.map (·.name)) = none
      ∧ s.badReference? = none := by
    rw [firstRepeat_eq_none_iff, badReference?_eq_none_iff]
    exact ⟨fun h => ⟨h.1, ⟨h.2, by simp⟩, h.3⟩, fun h => ⟨h.1, h.2.1.1, h.2.2⟩⟩
  rw [hwf, Signature.check]
  split
  · rename_i hname
    simp [hname]
  · rename_i hname
    cases Signature.firstRepeat [] (s.attributes.map (·.name)) with
    | some attr => simp
    | none => cases s.badReference? <;> simp [hname]

/-- Every entry of the registry is a well-formed signature under its own name in lower case. -/
def Sound (r : Registry) : Prop :=
  ∀ entry ∈ r.entries, entry.1 = lowercase entry.2.name ∧ WellFormed entry.2

lemma sound_add {r : Registry} (h : Sound r) {s : Signature} (hs : WellFormed s) :
    Sound (r.add s) := by
  intro entry hentry
  rw [Registry.add, List.mem_append, List.mem_singleton] at hentry
  rcases hentry with hentry | rfl
  · exact h entry hentry
  · exact ⟨rfl, hs⟩

lemma sound_loadFrom {r r' : Registry} {position : Nat} {signatures : List Signature}
    (hr : Sound r) (h : r.loadFrom position signatures = .ok r') : Sound r' := by
  induction signatures generalizing r position with
  | nil =>
    cases h
    exact hr
  | cons s rest ih =>
    rw [loadFrom] at h
    split at h
    · cases h
    · rename_i hcheck
      split at h
      · cases h
      · exact ih (sound_add hr ((check_eq_ok_iff s position).1 hcheck)) h

lemma sound_empty : Sound .empty := by
  intro entry hentry
  cases hentry

lemma outcome_load (signatures : List Signature) :
    outcome (load signatures) = Registry.empty.loadFrom 0 signatures := by
  rw [load, outcome_bind, outcome_ofExcept]
  cases Registry.empty.loadFrom 0 signatures <;> rfl

lemma sound_load {signatures : List Signature} {r : Registry}
    (h : outcome (load signatures) = .ok r) : Sound r := by
  rw [outcome_load] at h
  exact sound_loadFrom sound_empty h

lemma sound_foldl_add {r : Registry} (hr : Sound r) {signatures : List Signature}
    (h : ∀ s ∈ signatures, WellFormed s) : Sound (signatures.foldl Registry.add r) := by
  induction signatures generalizing r with
  | nil => exact hr
  | cons s rest ih =>
    rw [List.forall_mem_cons] at h
    exact ih (sound_add hr h.1) h.2

lemma check_standard : ∀ s ∈ Signature.standard, (s.check 0).isOk = true := by decide

theorem sound_of_loaded {r : Registry} (h : Loaded r) : Sound r := by
  cases h with
  | standard =>
    refine sound_foldl_add sound_empty fun s hs => (check_eq_ok_iff s 0).1 ?_
    have := check_standard s hs
    cases hc : s.check 0 with
    | error e => simp [hc, Except.isOk, Except.toBool] at this
    | ok u => rfl
  | load signatures r h => exact sound_load h
  | loadDecoded records r h =>
    rw [loadDecoded] at h
    split at h
    · cases h
    · exact sound_load h

/-- A signature that is found is well-formed, and is found again under its own name. -/
theorem lookup_eq_some {r : Registry} (h : Loaded r) {opType : String} {s : Signature}
    (hs : r.lookup opType = some s) :
    lowercase opType = lowercase s.name ∧ WellFormed s ∧ r.lookup s.name = some s := by
  obtain ⟨l₁, l₂, hsplit, -⟩ := List.lookup_eq_some_iff.1 hs
  have hmem : (lowercase opType, s) ∈ r.entries := by simp [hsplit]
  obtain ⟨hkey, hwf⟩ := sound_of_loaded h _ hmem
  refine ⟨hkey, hwf, ?_⟩
  rwa [Registry.lookup, ← hkey]

lemma lowerChar_ne_nil (c : Char) : lowerChar c ≠ [] := by
  rw [lowerChar]
  split
  · simp
  · split <;> simp

lemma lowerFrom_eq_nil {before cs : List Char} (h : lowerFrom before cs = []) : cs = [] := by
  unfold lowerFrom at h
  split at h
  · rfl
  · simp at h
  · rename_i c after _
    exact absurd (List.append_eq_nil_iff.1 h).1 (lowerChar_ne_nil c)

lemma lowercase_eq_empty {s : String} (h : lowercase s = "") : s = "" := by
  rw [lowercase, String.ofList_eq_empty_iff] at h
  exact String.toList_eq_nil_iff.1 (lowerFrom_eq_nil h)

theorem lookup_empty {r : Registry} (h : Loaded r) : r.lookup "" = none := by
  rw [Option.eq_none_iff_forall_ne_some]
  intro s hs
  obtain ⟨hname, hwf, -⟩ := lookup_eq_some h hs
  exact hwf.name_ne_empty (lowercase_eq_empty hname.symm)

end TensorGraph.Proofs
