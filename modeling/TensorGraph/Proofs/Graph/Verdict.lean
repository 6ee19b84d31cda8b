import Mathlib
import TensorGraph.Proofs.Graph.Acceptance
import TensorGraph.Proofs.Graph.Store

/-!
# Verdicts on requests

A request meets the contract of the registry or it does not, and this can be told without running
it. If it meets the contract, the node that it declares is added. Otherwise the answer is the error
of the first condition of the contract that fails.
-/

namespace TensorGraph.Proofs
open TensorGraph.Graph

lemma Consistent.contains_iff {g : Graph} (hg : Consistent g) (name : String) :
    g.contains name = true ↔ ∃ node ∈ g.nodes, node.name = name := by
  rw [hg.contains_eq, ← not_iff_not, Bool.not_eq_true, Option.isSome_eq_false_iff,
    Option.isNone_iff_eq_none, hg.operation?_eq_none_iff]
  simp

lemma Consistent.not_contains_iff {g : Graph} (hg : Consistent g) (name : String) :
    g.contains name = false ↔ ∀ node ∈ g.nodes, node.name ≠ name := by
  rw [← Bool.not_eq_true, hg.contains_iff]
  simp

/-! ### Names of requested nodes -/

/-- A request that gives a name gets it if it is free. Otherwise the operation type is the name, and
if that is taken too, the type with the least number behind it that was not handed out and whose
name is free. -/
inductive Named (g : Graph) (r : Request) : String → Prop where
  | asked (name : String) (asked : r.name = some name) (nonempty : name ≠ "")
    (free : ∀ node ∈ g.nodes, node.name ≠ name) : Named g r name
  | type (unnamed : Unnamed r) (free : ∀ node ∈ g.nodes, node.name ≠ r.opType) :
    Named g r r.opType
  | numbered (unnamed : Unnamed r) (node : Node) (mem : node ∈ g.nodes)
    (taken : node.name = r.opType) (n : Nat)
    (least : IsLeast {k | g.counter r.opType ≤ k ∧
      ∀ node ∈ g.nodes, node.name ≠ Graph.numbered r.opType k} n) :
    Named g r (Graph.numbered r.opType n)

lemma Consistent.isLeast_freeNumber {g : Graph} (hg : Consistent g) (opType : String) :
    IsLeast {k | g.counter opType ≤ k ∧ ∀ node ∈ g.nodes, node.name ≠ numbered opType k}
      (g.freeNumber opType g.names.size (g.counter opType)) := by
  obtain ⟨hle, hpassed, -⟩ := freeNumber_spec g opType g.names.size (g.counter opType)
  have hfree := not_contains_freeNumber g opType (g.counter opType)
  refine ⟨⟨hle, (hg.not_contains_iff _).1 hfree⟩, ?_⟩
  rintro k ⟨hk, hkfree⟩
  by_contra hlt
  have htaken := hpassed k hk (Nat.lt_of_not_le hlt)
  rw [(hg.not_contains_iff _).2 hkfree] at htaken
  cases htaken

theorem Consistent.chooseName_eq_ok_iff {g : Graph} (hg : Consistent g) (r : Request)
    (name : String) : (∃ g₁, g.chooseName r = .ok (g₁, name)) ↔ Named g r name := by
  constructor
  · rintro ⟨g₁, h⟩
    rcases chooseName_cases g r with ⟨asked, -, -, -, he⟩ | ⟨asked, hasked, hne, hfree, he⟩ |
      ⟨hunnamed, hfree, he⟩ | ⟨hunnamed, htaken, he⟩
    all_goals rw [he] at h; cases h
    · exact .asked name hasked hne ((hg.not_contains_iff name).1 hfree)
    · exact .type hunnamed ((hg.not_contains_iff r.opType).1 hfree)
    · obtain ⟨node, hnode, hname⟩ := (hg.contains_iff r.opType).1 htaken
      exact .numbered hunnamed node hnode hname _ (hg.isLeast_freeNumber r.opType)
  · intro h
    cases h with
    | asked _ asked nonempty free =>
      have hasked : r.name.filter (· ≠ "") = some name :=
        Option.filter_eq_some_iff.2 ⟨asked, by simpa using nonempty⟩
      exact ⟨g, by simp only [chooseName, hasked, (hg.not_contains_iff name).2 free]; rfl⟩
    | type unnamed free =>
      have hunnamed := (filter_ne_empty_eq_none_iff r).2 unnamed
      exact ⟨g, by simp only [chooseName, hunnamed, (hg.not_contains_iff _).2 free]; rfl⟩
    | numbered unnamed node mem taken n least =>
      have hunnamed := (filter_ne_empty_eq_none_iff r).2 unnamed
      have htaken := (hg.contains_iff r.opType).2 ⟨node, mem, taken⟩
      have hn := least.unique (hg.isLeast_freeNumber r.opType)
      exact ⟨(g.defaultName r.opType).1, by
        simp only [chooseName, hunnamed, htaken, if_true, defaultName, hn]⟩

theorem Consistent.chooseName_eq_error_iff {g : Graph} (hg : Consistent g) (r : Request)
    (e : GraphError) : g.chooseName r = .error e ↔ ∃ name, r.name = some name ∧ name ≠ "" ∧
      (∃ node ∈ g.nodes, node.name = name) ∧ e = .duplicateName name := by
  simp only [← hg.contains_iff]
  rcases chooseName_cases g r with ⟨asked, hasked, hne, htaken, he⟩ |
    ⟨asked, hasked, hne, hfree, he⟩ | ⟨hunnamed, -, he⟩ | ⟨hunnamed, -, he⟩
  · rw [he]
    constructor
    · rintro ⟨⟩
      exact ⟨asked, hasked, hne, htaken, rfl⟩
    · rintro ⟨name, hname, -, -, rfl⟩
      rw [hasked] at hname
      cases hname
      rfl
  · rw [he]
    refine iff_of_false (by simp) ?_
    rintro ⟨name, hname, -, htaken, -⟩
    rw [hasked] at hname
    cases hname
    rw [hfree] at htaken
    cases htaken
  all_goals
    rw [he]
    refine iff_of_false (by simp) ?_
    rintro ⟨name, hname, hne, -⟩
    exact hne (hunnamed name hname)

/-! ### The contract -/

/-- What the registry and the graph ask of a request. The signature of its operation type is `s`,
and `given` are its settings in their encodings. -/
structure MeetsContract (g : Graph) (r : Request) (s : Signature) (given : Attributes) : Prop
    extends Acceptable g.id s r given where
  known : g.registry.lookup r.opType = some s
  free : ∀ name, r.name = some name → name ≠ "" → ∀ node ∈ g.nodes, node.name ≠ name

/-- The error of the first condition of the contract that fails. -/
inductive Refused (g : Graph) (r : Request) : GraphError → Prop where
  | unknownOperation (unknown : g.registry.lookup r.opType = none) :
    Refused g r (.unknownOperation r.opType)
  | duplicateName (s : Signature) (known : g.registry.lookup r.opType = some s) (name : String)
    (asked : r.name = some name) (nonempty : name ≠ "") (node : Node) (mem : node ∈ g.nodes)
    (taken : node.name = name) : Refused g r (.duplicateName name)
  | draft (s : Signature) (known : g.registry.lookup r.opType = some s) (name : String)
    (named : Named g r name) (e : GraphError) (refused : DraftRefused g.id s name r e) :
    Refused g r e

section Verdict

variable {g : Graph} (hr : Loaded g.registry) (hg : Consistent g) (r : Request)

include hg in
lemma Consistent.exists_named (hfree : ∀ name, r.name = some name → name ≠ "" →
    ∀ node ∈ g.nodes, node.name ≠ name) : ∃ g₁ name, g.chooseName r = .ok (g₁, name) := by
  cases h : g.chooseName r with
  | ok chosen => exact ⟨chosen.1, chosen.2, rfl⟩
  | error e =>
    obtain ⟨name, hname, hne, ⟨node, hnode, htaken⟩, -⟩ := (hg.chooseName_eq_error_iff r e).1 h
    exact absurd htaken (hfree name hname hne node hnode)

include hr hg

theorem add_of_meetsContract {s : Signature} {given : Attributes}
    (h : MeetsContract g r s given) :
    ∃ name g', Named g r name ∧
      (g.add r).value = (g', .ok ⟨⟨g.id, g.size⟩, declaredNode s r given name⟩) ∧
      g'.nodes = g.nodes.push (declaredNode s r given name) := by
  obtain ⟨g₁, name, hname⟩ := hg.exists_named r h.free
  obtain ⟨hsame, -, -⟩ := chooseName_eq_ok hname
  have hwf := (lookup_eq_some hr h.known).2.1
  have hnode : outcome (Draft.node g.id s name r) = .ok (declaredNode s r given name) :=
    (node_eq_ok_iff hwf).2 ⟨given, h.toAcceptable, rfl⟩
  rw [← hsame.id] at hnode
  have hop : (g₁.insert (declaredNode s r given name)).2 =
      ⟨⟨g.id, g.size⟩, declaredNode s r given name⟩ := by
    rw [Graph.insert, hsame.id, Graph.size, hsame.nodes, Graph.size]
  refine ⟨name, _, (hg.chooseName_eq_ok_iff r name).1 ⟨g₁, hname⟩, ?_,
    (appends_insert hsame _).nodes⟩
  simp only [add_value, h.known, hname, hnode, hop]

lemma meetsContract_of_add {op : Operation} (h : (g.add r).value.2 = .ok op) :
    ∃ s given, MeetsContract g r s given := by
  obtain ⟨s, g₁, name, node, hs, hname, hnode, -, -⟩ := add_eq_ok (Prod.ext rfl h)
  obtain ⟨hsame, -, -⟩ := chooseName_eq_ok hname
  rw [hsame.id] at hnode
  obtain ⟨given, hacceptable, -⟩ := (node_eq_ok_iff (lookup_eq_some hr hs).2.1).1 hnode
  refine ⟨s, given, hacceptable, hs, fun asked hasked hne other hother htaken => ?_⟩
  have hdup := (hg.chooseName_eq_error_iff r (.duplicateName asked)).2
    ⟨asked, hasked, hne, ⟨other, hother, htaken⟩, rfl⟩
  rw [hname] at hdup
  cases hdup

theorem add_eq_error_iff (e : GraphError) : (g.add r).value.2 = .error e ↔ Refused g r e := by
  constructor
  · intro h
    cases hs : g.registry.lookup r.opType with
    | none =>
      simp only [add_value, hs] at h
      cases h
      exact .unknownOperation hs
    | some s =>
      rcases add_eq_error (Prod.ext rfl h) with ⟨-, hnone | hname⟩ | ⟨s', name, hs', hname, hnode⟩
      · rw [hs] at hnone
        cases hnone
      · obtain ⟨name, hasked, hne, ⟨node, hmem, htaken⟩, rfl⟩ :=
          (hg.chooseName_eq_error_iff r e).1 hname
        exact .duplicateName s hs name hasked hne node hmem htaken
      · rw [(chooseName_eq_ok hname).1.id, node_eq_error_iff (lookup_eq_some hr hs').2.1] at hnode
        exact .draft s' hs' name ((hg.chooseName_eq_ok_iff r name).1 ⟨_, hname⟩) e hnode
  · intro h
    cases h with
    | unknownOperation unknown => simp only [add_value, unknown]
    | duplicateName s known name asked nonempty node mem taken =>
      have hname := (hg.chooseName_eq_error_iff r (.duplicateName name)).2
        ⟨name, asked, nonempty, ⟨node, mem, taken⟩, rfl⟩
      simp only [add_value, known, hname]
    | draft s known name named _ refused =>
      obtain ⟨g₁, hname⟩ := (hg.chooseName_eq_ok_iff r name).2 named
      have hnode := (node_eq_error_iff (lookup_eq_some hr known).2.1).2 refused
      rw [← (chooseName_eq_ok hname).1.id] at hnode
      simp only [add_value, known, hname, hnode]

end Verdict

/-- A request to a graph that can be reached is accepted exactly if it meets the contract. Then the
node that it declares is put behind all others. Otherwise the error is that of the first condition
that fails. Lengths of lists are compared as integers, as far as lists fit in memory. -/
theorem verdict_of_reachable {w : Workspace} (hw : Reachable w) {i : Nat} {g : Graph}
    (hg : w.graphs[i]? = some g) (r : Request) :
    ((∃ op, (g.add r).value.2 = .ok op) ↔ ∃ s given, MeetsContract g r s given) ∧
      (∀ s given, MeetsContract g r s given → ∃ name g', Named g r name ∧
        (g.add r).value = (g', .ok ⟨⟨i, g.size⟩, declaredNode s r given name⟩) ∧
        g'.nodes = g.nodes.push (declaredNode s r given name)) ∧
      (∀ e, (g.add r).value.2 = .error e ↔ Refused g r e) ∧
      ∀ list ∈ r.lists, list.length < 2 ^ 63 →
        ∀ e, Counts e list.length ↔ e.toInt? = some (list.length : Int) := by
  have hid := located_of_reachable hw i g hg
  have hcons := consistent_of_reachable hw hg
  have hr := loaded_of_reachable hw hg
  refine ⟨⟨?_, ?_⟩, ?_, add_eq_error_iff hr hcons r, fun list _ => counts_iff⟩
  · rintro ⟨op, hop⟩
    exact meetsContract_of_add hr hcons r hop
  · rintro ⟨s, given, h⟩
    obtain ⟨name, g', -, hadd, -⟩ := add_of_meetsContract hr hcons r h
    exact ⟨_, congrArg Prod.snd hadd⟩
  · intro s given h
    rw [← hid]
    exact add_of_meetsContract hr hcons r h

/-- A request for the sum of the output of a placeholder and itself. -/
def sampleSum (settings : List (String × Attribute.Setting)) : Request :=
  { opType := "AddN", lists := [[⟨⟨0, 0⟩, 0⟩, ⟨⟨0, 0⟩, 0⟩]], settings }

/-- The sum is accepted if its type is set, and refused without it. -/
theorem verdict_sampleRun : ∃ g, (Workspace.empty.afterAll sampleRun).graphs[0]? = some g ∧
    (∃ s given, MeetsContract g (sampleSum [("T", ⟨.type .float32, none⟩)]) s given) ∧
    Refused g (sampleSum []) (.missingAttribute "AddN" "T") := by
  have hadds : ((Workspace.empty.afterAll sampleRun).graphs[0]?.map fun g =>
      ((g.add (sampleSum [("T", ⟨.type .float32, none⟩)])).value.2.isOk,
        (g.add (sampleSum [])).value.2)) =
      some (true, .error (.missingAttribute "AddN" "T")) := by
    decide +kernel
  obtain ⟨g, hg, hadds⟩ := Option.map_eq_some_iff.1 hadds
  obtain ⟨haccepted, hrefused⟩ := Prod.ext_iff.1 hadds
  refine ⟨g, hg, (verdict_of_reachable reachable_sampleRun hg _).1.1 ?_,
    ((verdict_of_reachable reachable_sampleRun hg _).2.2.1 _).1 hrefused⟩
  cases hresult : (g.add (sampleSum [("T", ⟨.type .float32, none⟩)])).value.2 with
  | ok op => exact ⟨op, rfl⟩
  | error e =>
    rw [hresult] at haccepted
    cases haccepted

end TensorGraph.Proofs
