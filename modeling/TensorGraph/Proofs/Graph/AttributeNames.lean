import Mathlib
import TensorGraph.Proofs.Graph.Acceptance
import TensorGraph.Proofs.Workspace.Reachable

/-!
# Names of attributes

Lengths and defaults are stored under names that are not there yet, but a setting is stored without
a look at the settings before it. So the attributes of a node are a map from names to values exactly
if its request sets no attribute twice. Setting attributes one by one replaces earlier settings, but
a setting that is pushed behind the others repeats a name.
-/

namespace TensorGraph.Proofs
open TensorGraph.Attribute

lemma mem_iff_lookup_eq_some {α : Type} {l : List (String × α)} (h : (l.map Prod.fst).Nodup)
    (key : String) (a : α) : (key, a) ∈ l ↔ l.lookup key = some a := by
  constructor
  · intro hmem
    obtain ⟨before, after, rfl⟩ := List.append_of_mem hmem
    rw [List.lookup_eq_some_iff]
    refine ⟨before, after, rfl, fun entry hentry => ?_⟩
    rw [List.map_append, List.map_cons, List.nodup_append] at h
    exact bne_iff_ne.2 fun hkey =>
      h.2.2 entry.1 (List.mem_map_of_mem hentry) key List.mem_cons_self hkey.symm
  · intro hlookup
    obtain ⟨before, after, rfl, -⟩ := List.lookup_eq_some_iff.1 hlookup
    simp

lemma names_of_encoded {s : Signature} {settings : List (String × Setting)} {given : Attributes}
    (h : List.Forall₂ (Encodes s) settings given) :
    given.map Prod.fst = settings.map Prod.fst := by
  induction h with
  | nil => rfl
  | cons hentry _ ih =>
    obtain ⟨-, -, hname, -⟩ := hentry
    rw [List.map_cons, List.map_cons, ih, hname]

/-! ### Settings that replace earlier ones -/

lemma names_setIn (attr : String) (setting : Setting) (settings : List (String × Setting)) :
    (Request.setIn attr setting settings).map Prod.fst =
      if attr ∈ settings.map Prod.fst then settings.map Prod.fst
      else settings.map Prod.fst ++ [attr] := by
  induction settings with
  | nil => rfl
  | cons first rest ih =>
    rw [Request.setIn]
    by_cases hfirst : first.1 = attr
    · simp [hfirst]
    · rw [if_neg hfirst, List.map_cons, ih, List.map_cons]
      have hmem : attr ∈ first.1 :: rest.map Prod.fst ↔ attr ∈ rest.map Prod.fst := by
        simp [Ne.symm hfirst]
      simp only [hmem]
      split <;> rfl

lemma nodup_setIn {attr : String} {setting : Setting} {settings : List (String × Setting)}
    (h : (settings.map Prod.fst).Nodup) :
    ((Request.setIn attr setting settings).map Prod.fst).Nodup := by
  rw [names_setIn]
  split
  · exact h
  · rename_i hnew
    exact List.nodup_append.2 ⟨h, List.nodup_singleton attr, fun a ha b hb hab => by
      rw [List.mem_singleton.1 hb] at hab
      exact hnew (hab ▸ ha)⟩

/-- The settings were made by setting attributes, starting with none. What else the request asks for
does not matter. -/
inductive SetOneByOne : Request → Prop where
  | none (r : Request) (h : r.settings = []) : SetOneByOne r
  | set (r : Request) (attr : String) (setting : Setting) (h : SetOneByOne r) :
    SetOneByOne (r.set attr setting)
  | rest (r r' : Request) (same : r'.settings = r.settings) (h : SetOneByOne r) : SetOneByOne r'

theorem SetOneByOne.nodup {r : Request} (h : SetOneByOne r) :
    (r.settings.map Prod.fst).Nodup := by
  induction h with
  | none r h =>
    rw [h]
    exact List.nodup_nil
  | set r attr setting _ ih => exact nodup_setIn ih
  | rest r r' same _ ih => rwa [same]

/-! ### Finished nodes -/

lemma names_of_declaredNode {id : Nat} {s : Signature} {r : Request} {given : Attributes}
    (h : Acceptable id s r given) (name : String) : ∃ extra,
      (declaredNode s r given name).attributes = given ++ extra ∧
      given.map Prod.fst = r.settings.map Prod.fst ∧ (extra.map Prod.fst).Nodup ∧
      ∀ entry ∈ extra, entry.1 ∉ r.settings.map Prod.fst := by
  have hnames := names_of_encoded h.encoded
  obtain ⟨extra, hextra, -, hnodup, hfresh⟩ := exists_eq_append_addMissing given
    ((measurements s r).flatMap lengthEntry ++ s.attributes.flatMap defaultEntry)
  rw [addMissing_append] at hextra
  exact ⟨extra, hextra, hnames, hnodup, hnames ▸ hfresh⟩

/-- The attributes of a node are the settings of its request, in order, and behind them entries
whose names are new and distinct. So each attribute has one value exactly if no attribute was set
twice, which cannot happen if attributes are only set one by one from none. -/
theorem attributeNames_of_add {w : Workspace} (hw : Reachable w) {i : Nat} {g : Graph}
    (hg : w.graphs[i]? = some g) {r : Request} {op : Operation}
    (h : (g.add r).value.2 = .ok op) :
    (∃ given extra, op.node.attributes = given ++ extra ∧
      given.map Prod.fst = r.settings.map Prod.fst ∧ (extra.map Prod.fst).Nodup ∧
      ∀ entry ∈ extra, entry.1 ∉ r.settings.map Prod.fst) ∧
    ((op.node.attributes.map Prod.fst).Nodup ↔ (r.settings.map Prod.fst).Nodup) ∧
    ((r.settings.map Prod.fst).Nodup → ∀ attr e,
      (attr, e) ∈ op.node.attributes ↔ op.node.attribute? attr = some e) ∧
    (SetOneByOne r → (op.node.attributes.map Prod.fst).Nodup) := by
  obtain ⟨s, g₁, name, node, hs, -, hnode, -, rfl⟩ := add_eq_ok (Prod.ext rfl h)
  have hwf := (lookup_eq_some (loaded_of_reachable hw hg) hs).2.1
  obtain ⟨given, hacceptable, rfl⟩ := (node_eq_ok_iff hwf).1 hnode
  obtain ⟨extra, hextra, hgiven, hnodup, hfresh⟩ := names_of_declaredNode hacceptable name
  have hiff : ((declaredNode s r given name).attributes.map Prod.fst).Nodup ↔
      (r.settings.map Prod.fst).Nodup := by
    rw [hextra, List.map_append, hgiven, List.nodup_append]
    refine ⟨fun hall => hall.1, fun hset => ⟨hset, hnodup, fun a ha b hb hab => ?_⟩⟩
    obtain ⟨entry, hentry, rfl⟩ := List.mem_map.1 hb
    exact hfresh entry hentry (hab ▸ ha)
  refine ⟨⟨given, extra, hextra, hgiven, hnodup, hfresh⟩, hiff, fun hset attr e => ?_, ?_⟩
  · exact mem_iff_lookup_eq_some (hiff.2 hset) attr e
  · exact fun hset => hiff.2 hset.nodup

/-- A request for a placeholder of single precision. -/
def sampleTyped : Request :=
  ({ opType := "Placeholder" } : Request).set "dtype" ⟨.type .float32, none⟩

def openedOnce : Workspace := Workspace.empty.after (.openGraph .standard)

lemma reachable_openedOnce : Reachable openedOnce := Reachable.empty.after _ Loaded.standard

theorem attributeNames_sampleTyped : ∃ op,
    ((Graph.empty 0 .standard).add (sampleTyped.set "dtype" ⟨.type .int32, none⟩)).value.2 = .ok op ∧
      (op.node.attributes.map Prod.fst).Nodup := by
  have hset : SetOneByOne (sampleTyped.set "dtype" ⟨.type .int32, none⟩) :=
    .set _ _ _ (.set _ _ _ (.none _ rfl))
  refine ⟨⟨⟨0, 0⟩, ⟨"Placeholder", "Placeholder", [], [("dtype", .type .int32)], 1⟩⟩, ?_, ?_⟩
  · decide +kernel
  · exact (attributeNames_of_add reachable_openedOnce (i := 0) rfl (by decide +kernel)).2.2.2 hset

/-- A second setting that is pushed gives the attribute a second value, which cannot be looked up. -/
theorem attributeNames_repeated : ∃ (g : Graph) (op : Operation),
    Reachable openedOnce ∧ openedOnce.graphs[0]? = some g ∧
      (g.add (sampleTyped.push "dtype" ⟨.type .int32, none⟩)).value.2 = .ok op ∧
      ¬(op.node.attributes.map Prod.fst).Nodup ∧
      ("dtype", .type .int32) ∈ op.node.attributes ∧
      op.node.attribute? "dtype" ≠ some (.type .int32) := by
  refine ⟨.empty 0 .standard, ⟨⟨0, 0⟩, ⟨"Placeholder", "Placeholder", [],
    [("dtype", .type .float32), ("dtype", .type .int32)], 1⟩⟩, reachable_openedOnce, rfl, ?_, ?_, ?_, ?_⟩
  · decide +kernel
  · decide
  · decide
  · decide

end TensorGraph.Proofs
