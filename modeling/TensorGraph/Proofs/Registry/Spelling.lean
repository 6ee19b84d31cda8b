import Mathlib
import TensorGraph.Proofs.Registry.Loading
import TensorGraph.Proofs.Text.Lowercase

/-!
# The spelling of a query

A signature is found under its name in any case. Queries that differ in the case of ASCII letters
have the same key, and so has a query that was lower-cased before. For the same reason no two
signatures whose names differ in this way are loaded together.
-/

namespace TensorGraph.Proofs
open TensorGraph.Registry TensorGraph.Text

lemma lookup_eq_of_lowercase {r : Registry} {s t : String} (h : lowercase s = lowercase t) :
    r.lookup s = r.lookup t := by
  rw [Registry.lookup, Registry.lookup, h]

/-! ### Keys -/

lemma nodup_keys_standard : (Signature.standard.map fun s => lowercase s.name).Nodup := by
  decide +kernel

lemma eq_ofList_of_load {signatures : List Signature} {r : Registry}
    (h : outcome (load signatures) = .ok r) :
    r = ofList signatures ∧ (signatures.map fun s => lowercase s.name).Nodup := by
  obtain ⟨hclean, hr⟩ := load_eq_ok_iff.1 h
  exact ⟨hr, ((clean_refusal_iff signatures).1 hclean).2⟩

lemma load_of_loadDecoded {records : List (Except String Signature)} {r : Registry}
    (h : outcome (loadDecoded records) = .ok r) :
    ∃ signatures, records = signatures.map .ok ∧ outcome (load signatures) = .ok r := by
  rw [loadDecoded] at h
  split at h
  · cases h
  · rename_i signatures hrecords
    have hall : List.Forall₂ (fun record s => record = .ok s) records signatures :=
      mapM_eq_ok_iff.1 hrecords
    refine ⟨signatures, ?_, h⟩
    rwa [← List.forall₂_map_right_iff, List.forall₂_eq_eq_eq] at hall

/-- A loaded registry is made of signatures whose names differ in more than case. -/
lemma eq_ofList_of_loaded {r : Registry} (h : Loaded r) :
    ∃ signatures, r = ofList signatures ∧ (signatures.map fun s => lowercase s.name).Nodup := by
  cases h with
  | standard => exact ⟨Signature.standard, rfl, nodup_keys_standard⟩
  | load signatures r h => exact ⟨signatures, eq_ofList_of_load h⟩
  | loadDecoded records r h =>
    obtain ⟨signatures, -, hload⟩ := load_of_loadDecoded h
    exact ⟨signatures, eq_ofList_of_load hload⟩

lemma pairwise_not_sameSpelling {signatures : List Signature}
    (h : (signatures.map fun s => lowercase s.name).Nodup) :
    signatures.Pairwise fun s t => ¬SameSpelling s.name t.name := by
  rw [List.Nodup, List.pairwise_map] at h
  exact h.imp fun hkeys hsame => hkeys (lowercase_eq_of_sameSpelling hsame)

/-! ### Names that clash -/

lemma exists_error_of_clash {signatures : List Signature} {s t : Signature}
    (hsub : [s, t].Sublist signatures) (hsame : SameSpelling s.name t.name) :
    ∃ e, outcome (load signatures) = .error e := by
  cases hload : outcome (load signatures) with
  | error e => exact ⟨e, rfl⟩
  | ok r =>
    have hapart := pairwise_not_sameSpelling (eq_ofList_of_load hload).2
    exact absurd hsame (List.pairwise_iff_forall_sublist.1 hapart hsub)

lemma exists_error_of_clash_decoded {records : List (Except String Signature)} {s t : Signature}
    (hsub : [.ok s, .ok t].Sublist records) (hsame : SameSpelling s.name t.name) :
    ∃ e, outcome (loadDecoded records) = .error e := by
  cases hdecoded : outcome (loadDecoded records) with
  | error e => exact ⟨e, rfl⟩
  | ok r =>
    obtain ⟨signatures, rfl, hload⟩ := load_of_loadDecoded hdecoded
    have hapart : (signatures.map .ok).Pairwise fun a b : Except String Signature =>
        ∀ s t, a = .ok s → b = .ok t → ¬SameSpelling s.name t.name := by
      rw [List.pairwise_map]
      refine (pairwise_not_sameSpelling (eq_ofList_of_load hload).2).imp ?_
      rintro s t hapart _ _ ⟨⟩ ⟨⟩
      exact hapart
    exact absurd hsame (List.pairwise_iff_forall_sublist.1 hapart hsub s t rfl rfl)

/-! ### Registries -/

/-- The case of ASCII letters is of no account to the registry, nor is it of account whether a query
is lower-cased first. -/
structure SpellingLaws (r : Registry) : Prop where
  respelled : ∀ s t, SameSpelling s t → r.lookup s = r.lookup t
  lowercased : ∀ query, r.lookup (lowercase query) = r.lookup query
  found : ∀ entry ∈ r.entries, ∀ query, SameSpelling query entry.2.name →
    r.lookup query = some entry.2
  apart : r.entries.Pairwise fun a b => ¬SameSpelling a.2.name b.2.name

lemma spellingLaws {r : Registry} (h : Loaded r) : SpellingLaws r := by
  obtain ⟨signatures, rfl, hkeys⟩ := eq_ofList_of_loaded h
  refine ⟨fun s t hsame => lookup_eq_of_lowercase (lowercase_eq_of_sameSpelling hsame),
    fun query => lookup_eq_of_lowercase (lowercase_lowercase query), ?_, ?_⟩
  · rw [entries_ofList, List.forall_mem_map]
    intro s hs query hquery
    rw [lookup_ofList_eq_some_iff hkeys]
    exact ⟨hs, (lowercase_eq_of_sameSpelling hquery).symm⟩
  · rw [entries_ofList, List.pairwise_map]
    exact pairwise_not_sameSpelling hkeys

/-- A query finds the same signature in whatever case its ASCII letters are written, and when it was
lower-cased before, once or more. Signatures whose names are told apart by the case of ASCII letters
only are refused together, whatever else is loaded with them. -/
theorem lookup_caseInsensitive :
    (∀ s, lowercase (lowercase s) = lowercase s) ∧
    (∀ r, Loaded r → SpellingLaws r) ∧
    (∀ signatures s t, [s, t].Sublist signatures → SameSpelling s.name t.name →
      ∃ e, outcome (load signatures) = .error e) ∧
    ∀ records s t, [.ok s, .ok t].Sublist records → SameSpelling s.name t.name →
      ∃ e, outcome (loadDecoded records) = .error e :=
  ⟨lowercase_lowercase, fun _ => spellingLaws, fun _ _ _ => exists_error_of_clash,
    fun _ _ _ => exists_error_of_clash_decoded⟩

theorem lookup_caseInsensitive_standard :
    Registry.standard.lookup "ADDn" = Registry.standard.lookup "AddN" ∧
      ∃ e, outcome (load [Signature.binary "Max", Signature.binary "MAX"]) = .error e :=
  ⟨(lookup_caseInsensitive.2.1 .standard .standard).respelled "ADDn" "AddN" (by decide),
    lookup_caseInsensitive.2.2.1 _ (Signature.binary "Max") (Signature.binary "MAX") (.refl _)
      (by decide)⟩

end TensorGraph.Proofs
