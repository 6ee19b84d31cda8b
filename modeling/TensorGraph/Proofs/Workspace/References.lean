import Mathlib
import TensorGraph.Proofs.Workspace.Wiring

/-!
# References

Callers hold operations and outputs. They get them from replies, and from operations and outputs
that they hold already, and they keep them while graphs grow, are replaced and go. A reference is
compared by identity. Within one graph the name of an operation and the text of an output tell as
much, whatever the names are: names are unique, and the text of an output can be taken apart.
-/

namespace TensorGraph.Proofs
open TensorGraph.Graph

inductive Reference where
  | operation (op : Operation)
  | output (output : Output)

/-- The reference is part of the reply. -/
inductive Gives : Reply → Reference → Prop where
  | operation {reply : Reply} {op : Operation} (hop : op ∈ handed reply) :
    Gives reply (.operation op)
  | output (output : Output) : Gives (.output (.ok output)) (.output output)

/-- The second reference can be got from the first: an operation is asked for its outputs and for
the outputs that it is fed with, an output is asked for its operation. -/
inductive Leads (w : Workspace) : Reference → Reference → Prop where
  | output {op : Operation} {slot : Nat} {output : Output} (h : op.output? slot = some output) :
    Leads w (.operation op) (.output output)
  | outputs {op : Operation} {output : Output} (h : output ∈ op.outputs) :
    Leads w (.operation op) (.output output)
  | input {op : Operation} {input : Input} {output : Output} (hinput : input ∈ op.node.inputs)
    (houtput : output ∈ input.outputs) : Leads w (.operation op) (.output output)
  | operation {output : Output} {op : Operation} (h : w.operation? output.node = some op) :
    Leads w (.output output) (.operation op)

/-- Calls lead to the workspace, and on the way, at any time, the caller got the reference. -/
inductive Held : Workspace → Reference → Prop where
  | given {w : Workspace} (hw : ReachableFed w) {handle : Nat} {g : Graph}
    (hg : w.graph? handle = some g) (c : Graph.Call) (hfed : FedFrom w (.onGraph handle c))
    {ref : Reference} (hgives : Gives (g.call c).value.2 ref) :
    Held (w.after (.onGraph handle c)) ref
  | led {w : Workspace} {ref ref' : Reference} (h : Held w ref) (hleads : Leads w ref ref') :
    Held w ref'
  | kept {w : Workspace} {ref : Reference} (h : Held w ref) (c : Workspace.Call)
    (hc : Admissible c) (hfed : FedFrom w c) : Held (w.after c) ref

lemma Held.reachableFed {w : Workspace} {ref : Reference} (h : Held w ref) : ReachableFed w := by
  induction h with
  | given hw _ c hfed _ => exact hw.after _ trivial hfed
  | led _ _ ih => exact ih
  | kept _ c hc hfed ih => exact ih.after c hc hfed

/-- The workspace has the operation, or an operation with the output. -/
def Genuine (w : Workspace) : Reference → Prop
  | .operation op => w.operation? op.ref = some op
  | .output output => Obtainable w output

lemma Genuine.leads {w : Workspace} (hw : ReachableFed w) {ref ref' : Reference}
    (h : Genuine w ref) (hleads : Leads w ref ref') : Genuine w ref' := by
  have hloc := located_of_reachable hw.reachable
  cases hleads with
  | output houtput => exact ⟨_, h, .inr ⟨_, houtput⟩⟩
  | outputs houtput => exact ⟨_, h, .inl houtput⟩
  | @input op input output hinput houtput =>
    obtain ⟨-, g, hg, hnode⟩ := (operation?_eq_some_iff hloc op.ref op).1 h
    obtain ⟨hgraph, -, source, hsource, hslot⟩ :=
      wired_of_reachableFed hw _ g hg _ op.node hnode input hinput output houtput
    exact (obtainable_iff hloc output).2 ⟨g, source, by rw [hgraph, hg], hsource, hslot⟩
  | @operation output op hop =>
    have href := ((operation?_eq_some_iff hloc output.node op).1 hop).1
    rwa [← href] at hop

theorem genuine_of_held {w : Workspace} {ref : Reference} (h : Held w ref) : Genuine w ref := by
  induction h with
  | @given w hw handle g hg c _ ref hgives =>
    generalize hreply : (g.call c).value.2 = reply at hgives
    have hcall : (g.call c).value = ((g.call c).value.1, reply) := Prod.ext rfl hreply
    obtain ⟨hoperations, houtputs⟩ := obtainable_of_reply hw.reachable hg hcall
    cases hgives with
    | operation hop => exact hoperations _ hop
    | output output => exact houtputs output rfl
  | led h hleads ih => exact ih.leads h.reachableFed hleads
  | @kept w ref h c hc _ ih =>
    cases ref with
    | operation op => exact operation?_after h.reachableFed.reachable hc ih
    | output output => exact Obtainable.after h.reachableFed.reachable hc ih

/-! ### What tells references apart -/

lemma eq_of_ref {w : Workspace} {a b : Operation} (ha : w.operation? a.ref = some a)
    (hb : w.operation? b.ref = some b) (href : a.ref = b.ref) : a = b := by
  rw [href, hb] at ha
  exact (Option.some.inj ha).symm

/-- Names are unique in a graph, so the name of an operation decides which one it is. -/
theorem eq_of_name {w : Workspace} (hw : Reachable w) {a b : Operation}
    (ha : w.operation? a.ref = some a) (hb : w.operation? b.ref = some b)
    (hgraph : a.ref.graph = b.ref.graph) (hname : a.node.name = b.node.name) : a = b := by
  have hloc := located_of_reachable hw
  obtain ⟨-, g, hg, hnode⟩ := (operation?_eq_some_iff hloc a.ref a).1 ha
  obtain ⟨-, g', hg', hnode'⟩ := (operation?_eq_some_iff hloc b.ref b).1 hb
  rw [← hgraph, hg] at hg'
  cases hg'
  have hposition := (consistent_of_reachable hw hg).position_unique hnode hnode' hname
  apply eq_of_ref ha hb
  rw [NodeRef.mk.injEq]
  exact ⟨hgraph, hposition⟩

lemma find_of_operation? {w : Workspace} (hw : Reachable w) {op : Operation}
    (hop : w.operation? op.ref = some op) {g : Graph} (howner : w.owner? op.ref = some g) :
    (g.find op.node.name).value = some op := by
  have hloc := located_of_reachable hw
  have hg : w.graphs[op.ref.graph]? = some g := by
    unfold Workspace.owner? at howner
    split at howner
    · exact howner
    · cases howner
  obtain ⟨-, g', hg', hnode⟩ := (operation?_eq_some_iff hloc op.ref op).1 hop
  rw [hg] at hg'
  cases hg'
  rw [find_value, (consistent_of_reachable hw hg).operation?_eq_some_iff]
  exact ⟨(hloc _ g hg).symm, hnode, rfl⟩

lemma outputText_eq {w : Workspace} {output : Output} {op : Operation}
    (hop : w.operation? output.node = some op) :
    w.outputText output = op.node.name ++ ":" ++ toString output.slot := by
  unfold Workspace.outputText
  rw [hop]
  rfl

lemma Obtainable.exists_operation {w : Workspace} (hw : Located w) {output : Output}
    (h : Obtainable w output) :
    ∃ op, w.operation? output.node = some op ∧ op.ref = output.node ∧ output ∈ op.outputs := by
  obtain ⟨g, node, hg, hnode, hslot⟩ := (obtainable_iff hw output).1 h
  refine ⟨⟨output.node, node⟩, ?_, rfl, (mem_outputs_iff _ output).2 ⟨rfl, hslot⟩⟩
  exact (operation?_eq_some_iff hw _ _).2 ⟨rfl, g, hg, hnode⟩

/-- The last colon in the text of an output stands before its number, so the text tells the name of
the operation even if that has colons of its own. -/
theorem eq_of_outputText {w : Workspace} (hw : Reachable w) {x y : Output} (hx : Obtainable w x)
    (hy : Obtainable w y) (hgraph : x.node.graph = y.node.graph)
    (htext : w.outputText x = w.outputText y) : x = y := by
  have hloc := located_of_reachable hw
  obtain ⟨a, ha, haref, -⟩ := hx.exists_operation hloc
  obtain ⟨b, hb, hbref, -⟩ := hy.exists_operation hloc
  rw [outputText_eq ha, outputText_eq hb] at htext
  obtain ⟨hname, hslot⟩ := append_mark_number_inj (by decide) (by rfl : ":".toList = [':']) htext
  rw [← haref] at ha hgraph
  rw [← hbref] at hb hgraph
  have hop := eq_of_name hw ha hb hgraph hname
  rw [Output.mk.injEq, ← haref, ← hbref, hop]
  exact ⟨rfl, hslot⟩

/-- What callers can tell of the references that they hold. -/
structure ReferenceLaws (w : Workspace) : Prop where
  same_iff : ∀ a b, Held w (.operation a) → Held w (.operation b) →
    (a.same b = true ↔ a.ref.graph = b.ref.graph ∧ a.node.name = b.node.name)
  eq_of_same : ∀ a b, Held w (.operation a) → Held w (.operation b) → a.same b = true → a = b
  found : ∀ a g, Held w (.operation a) → w.owner? a.ref = some g →
    ∃ b, (g.find a.node.name).value = some b ∧ b.same a = true
  text : ∀ x, Held w (.output x) → ∃ a, Held w (.operation a) ∧ x ∈ a.outputs ∧
    w.outputText x = a.node.name ++ ":" ++ toString x.slot
  eq_iff_text : ∀ x y, Held w (.output x) → Held w (.output y) → x.node.graph = y.node.graph →
    (x = y ↔ w.outputText x = w.outputText y)
  ne_of_graph : ∀ x y, Held w (.output x) → Held w (.output y) → x.node.graph ≠ y.node.graph →
    x ≠ y

/-- However long a caller has held them, operations are identified by their graph and name, outputs
by their graph and text, and an operation is found under its name as long as its graph lives. -/
theorem referenceLaws (w : Workspace) : ReferenceLaws w where
  same_iff a b ha hb := by
    unfold Operation.same
    rw [decide_eq_true_iff]
    constructor
    · intro href
      rw [eq_of_ref (genuine_of_held ha) (genuine_of_held hb) href]
      exact ⟨rfl, rfl⟩
    · rintro ⟨hgraph, hname⟩
      have hw := ha.reachableFed.reachable
      rw [eq_of_name hw (genuine_of_held ha) (genuine_of_held hb) hgraph hname]
  eq_of_same a b ha hb hsame :=
    eq_of_ref (genuine_of_held ha) (genuine_of_held hb) (of_decide_eq_true hsame)
  found a g ha howner := by
    refine ⟨a, find_of_operation? ha.reachableFed.reachable (genuine_of_held ha) howner, ?_⟩
    exact decide_eq_true rfl
  text x hx := by
    have hloc := located_of_reachable hx.reachableFed.reachable
    obtain ⟨a, ha, -, hout⟩ := (genuine_of_held hx).exists_operation hloc
    exact ⟨a, hx.led (.operation ha), hout, outputText_eq ha⟩
  eq_iff_text x y hx hy hgraph := by
    refine ⟨fun h => by rw [h], fun htext => ?_⟩
    have hw := hx.reachableFed.reachable
    exact eq_of_outputText hw (genuine_of_held hx) (genuine_of_held hy) hgraph htext
  ne_of_graph x y _ _ hgraph := by
    rintro rfl
    exact hgraph rfl

/-- Two graphs have nodes of one name, and in the first graph the other node is named like the
output of its namesake. -/
def namesakes : List Workspace.Call :=
  [.openGraph .standard, .onGraph 0 (.addPlaceholder "x" .float32),
    .onGraph 0 (.addPlaceholder "x:0" .float32), .openGraph .standard,
    .onGraph 1 (.addPlaceholder "x" .float32)]

def namesake (graph position : Nat) (name : String) : Operation :=
  ⟨⟨graph, position⟩, ⟨name, "Placeholder", [], [("dtype", .type .float32)], 1⟩⟩

/-- Whoever lists the operations of a graph holds them. -/
lemma held_of_operations {w : Workspace} (hw : ReachableFed w) {handle : Nat}
    {operations : List Operation} (h : (w.graph? handle).map Graph.operations = some operations) :
    ∀ op ∈ operations, Held (w.after (.onGraph handle .operations)) (.operation op) := by
  obtain ⟨g, hg, rfl⟩ := Option.map_eq_some_iff.1 h
  intro op hop
  have hfed : FedFrom w (.onGraph handle .operations) := by
    simp [FedFrom]
  exact .given hw hg .operations hfed (.operation hop)

lemma held_namesakes : ∃ w, Held w (.operation (namesake 0 0 "x")) ∧
    Held w (.operation (namesake 0 1 "x:0")) ∧ Held w (.operation (namesake 1 0 "x")) ∧
    (w.owner? ⟨0, 0⟩).isSome = true := by
  let w := Workspace.empty.afterAll namesakes
  let list (handle : Nat) : Workspace.Call := .onGraph handle .operations
  have hw : ReachableFed w := by
    apply reachableFed_afterAll .empty
    · simp [namesakes, Admissible, Loaded.standard]
    · simp [namesakes, FedFrom]
  have hfed : ∀ w handle, FedFrom w (list handle) := by
    simp [list, FedFrom]
  have hfirst : ∀ op ∈ [namesake 0 0 "x", namesake 0 1 "x:0"],
      Held (w.after (list 0)) (.operation op) := held_of_operations hw (by decide +kernel)
  have hsecond : ∀ op ∈ [namesake 1 0 "x"],
      Held ((w.after (list 0)).after (list 1)) (.operation op) :=
    held_of_operations (hw.after (list 0) trivial (hfed w 0)) (by decide +kernel)
  refine ⟨(w.after (list 0)).after (list 1), ?_, ?_, hsecond _ ?_, ?_⟩
  · exact (hfirst _ (by decide)).kept (list 1) trivial (hfed _ 1)
  · exact (hfirst _ (by decide)).kept (list 1) trivial (hfed _ 1)
  · decide
  · decide +kernel

/-- Neither the name of another graph's operation nor that of an operation named like an output is
mistaken. -/
theorem references_namesakes : ∃ w a b c x y,
    Held w (.operation a) ∧ Held w (.operation b) ∧ Held w (.operation c) ∧
      a.node.name = "x" ∧ b.node.name = "x:0" ∧ c.node.name = "x" ∧
      a.same b = false ∧ a.same c = false ∧
      (∃ g d, w.owner? a.ref = some g ∧ (g.find "x").value = some d ∧ d.same a = true) ∧
      x ∈ a.outputs ∧ y ∈ b.outputs ∧ w.outputText x ≠ w.outputText y := by
  obtain ⟨w, ha, hb, hc, howner⟩ := held_namesakes
  have hx : ∀ op : Operation, 0 < op.node.numOutputs → (⟨op.ref, 0⟩ : Output) ∈ op.outputs :=
    fun op h => (mem_outputs_iff op _).2 ⟨rfl, h⟩
  have hxa := hx (namesake 0 0 "x") (by decide)
  have hyb := hx (namesake 0 1 "x:0") (by decide)
  refine ⟨w, _, _, _, _, _, ha, hb, hc, rfl, rfl, rfl, ?_, ?_, ?_, hxa, hyb, ?_⟩
  · rw [← Bool.not_eq_true, (referenceLaws w).same_iff _ _ ha hb]
    decide
  · rw [← Bool.not_eq_true, (referenceLaws w).same_iff _ _ ha hc]
    decide
  · obtain ⟨g, hg⟩ := Option.isSome_iff_exists.1 howner
    obtain ⟨d, hd, hsame⟩ := (referenceLaws w).found _ g ha hg
    exact ⟨g, d, hg, hd, hsame⟩
  · rw [ne_eq, ← (referenceLaws w).eq_iff_text _ _ (ha.led (.outputs hxa)) (hb.led (.outputs hyb))
      rfl]
    decide

end TensorGraph.Proofs
