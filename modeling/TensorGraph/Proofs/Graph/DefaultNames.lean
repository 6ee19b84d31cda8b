import Mathlib
import TensorGraph.Proofs.Graph.AttributeNames
import TensorGraph.Proofs.Graph.FirstOutput
import TensorGraph.Proofs.Graph.Refused
import TensorGraph.Proofs.Graph.Verdict

/-!
# Default names

A default name is an operation type, an underscore and a number. No number has an underscore, so the
last one splits the name, and names for different types never meet, not even if one type looks like
a default name for the other. The counter of a type only grows and stays above all numbers that were
handed out for it. So no default name is handed out twice, and each is free when it is handed out.
-/

namespace TensorGraph.Proofs
open TensorGraph.Graph

/-! ### What calls hand out -/

instance (r : Request) : Decidable (Unnamed r) :=
  decidable_of_iff (r.name.filter (· ≠ "") = none) (filter_ne_empty_eq_none_iff r)

instance (g : Graph) (r : Request) : Decidable (TakesDefault g r) :=
  inferInstanceAs (Decidable (_ ∧ _ ∧ _))

/-- The operation type that a default name is taken for to settle the name of a request. -/
def takenType? (g : Graph) (r : Request) : Option String :=
  if TakesDefault g r then some r.opType else none

/-- The operation type that a call takes a default name for, be it to answer with it or to give it
to a node. -/
def defaultType? (g : Graph) : Graph.Call → Option String
  | .defaultName opType => some opType
  | .add r => takenType? g r
  | .addPlaceholder name type => takenType? g (.placeholder name type)
  | .addConstant literal name type =>
    match Tensor.ofLiteral literal type, name with
    | .error _, _ => none
    | .ok _, none => some "Constant"
    | .ok t, some name => takenType? g (.constant name t)
  | .find _ | .contains _ | .operations | .size | .isEmpty => none

def handedOut? (g : Graph) (c : Graph.Call) : Option String :=
  (defaultType? g c).map fun opType => (g.defaultName opType).2

/-- The default names that the calls of a run hand out, in order. -/
def handedOut (g : Graph) : List Graph.Call → List String
  | [] => []
  | c :: rest => (handedOut? g c).toList ++ handedOut (g.call c).value.1 rest

/-- The graph after a default name for the type was handed out, if there is a type. -/
def afterDefault (g : Graph) (opType? : Option String) : Graph :=
  opType?.elim g fun opType => (g.defaultName opType).1

/-- A request whose name is settled has taken the default names that it says it takes. -/
lemma graph_of_chooseName {g g₁ : Graph} {r : Request} {s : Signature} {name : String}
    (hs : g.registry.lookup r.opType = some s) (h : g.chooseName r = .ok (g₁, name)) :
    g₁ = afterDefault g (takenType? g r) ∧
      ∀ opType, takenType? g r = some opType → name = (g.defaultName opType).2 := by
  unfold takenType?
  rcases chooseName_cases g r with ⟨asked, -, -, -, he⟩ | ⟨asked, hasked, hne, -, he⟩ |
    ⟨-, hfree, he⟩ | ⟨hunnamed, htaken, he⟩
  all_goals rw [he] at h; cases h
  · rw [if_neg fun htakes => hne (htakes.2.1 name hasked)]
    exact ⟨rfl, by simp⟩
  · rw [if_neg fun htakes => by simp [htakes.2.2] at hfree]
    exact ⟨rfl, by simp⟩
  · have hknown : (g.registry.lookup r.opType).isSome = true := by rw [hs, Option.isSome_some]
    rw [if_pos ⟨hknown, hunnamed, htaken⟩]
    refine ⟨rfl, ?_⟩
    rintro _ ⟨⟩
    rfl

lemma counters_add (g : Graph) (r : Request) :
    (g.add r).value.1.counters = (afterDefault g (takenType? g r)).counters := by
  cases hadd : (g.add r).value with
  | mk g' result =>
    cases result with
    | ok op =>
      obtain ⟨s, g₁, name, node, hs, hname, -, rfl, -⟩ := add_eq_ok hadd
      rw [← (graph_of_chooseName hs hname).1]
      rfl
    | error e =>
      unfold takenType?
      split
      · rename_i htakes
        rw [eq_defaultName_of_refused hadd htakes]
        rfl
      · rename_i htakes
        rw [eq_of_refused hadd htakes]
        rfl

lemma takenType?_of_named {g : Graph} {r : Request} {name : String} (h : r.name = some name)
    (hne : name ≠ "") : takenType? g r = none :=
  if_neg fun htakes => hne (htakes.2.1 name h)

/-- A call changes the counters as handing out its default name does, and not in any other way. -/
theorem counters_call (g : Graph) (c : Graph.Call) :
    (g.call c).value.1.counters = (afterDefault g (defaultType? g c)).counters := by
  cases c with
  | add r => exact counters_add g r
  | addPlaceholder name type => exact counters_add g (.placeholder name type)
  | addConstant literal name type =>
    cases hliteral : Tensor.ofLiteral literal type with
    | error e =>
      simp only [Graph.call, Logged.value_bind, addConstant_error g name hliteral, defaultType?,
        hliteral]
      rfl
    | ok t =>
      cases name with
      | some name =>
        simp only [Graph.call, Logged.value_bind, addConstant_ok g _ hliteral, defaultType?,
          hliteral]
        exact counters_add g (.constant name t)
      | none =>
        simp only [Graph.call, Logged.value_bind, addConstant_ok g _ hliteral, defaultType?,
          hliteral]
        refine (counters_add _ _).trans ?_
        rw [takenType?_of_named rfl (numbered_ne_empty "Constant" _)]
        rfl
  | defaultName _ | find _ | contains _ | operations | size | isEmpty => rfl

/-! ### Numbers that were handed out -/

/-- The number in the name is below the counter of its type, so it was handed out or passed over. -/
def Spent (g : Graph) (name : String) : Prop :=
  ∃ opType n, name = numbered opType n ∧ n < g.counter opType

lemma counter_defaultName_of_ne (g : Graph) {opType other : String} (h : other ≠ opType) :
    (g.defaultName opType).1.counter other = g.counter other := by
  unfold defaultName counter
  rw [Table.get?_insert, if_neg h]

lemma counter_le_counter_defaultName (g : Graph) (opType other : String) :
    g.counter other ≤ (g.defaultName opType).1.counter other := by
  by_cases h : other = opType
  · subst h
    exact (counter_lt_counter_defaultName g other).le
  · rw [counter_defaultName_of_ne g h]

lemma counter_call (g : Graph) (c : Graph.Call) (opType : String) :
    (g.call c).value.1.counter opType = (afterDefault g (defaultType? g c)).counter opType := by
  unfold counter
  rw [counters_call]

lemma Spent.call {g : Graph} {name : String} (h : Spent g name) (c : Graph.Call) :
    Spent (g.call c).value.1 name := by
  obtain ⟨opType, n, rfl, hlt⟩ := h
  refine ⟨opType, n, rfl, ?_⟩
  rw [counter_call]
  cases defaultType? g c with
  | none => exact hlt
  | some other => exact hlt.trans_le (counter_le_counter_defaultName g other opType)

/-- The step that carries the result: a name is not spent when it is handed out, and is after. -/
lemma spent_of_handedOut {g : Graph} {c : Graph.Call} {name : String}
    (h : handedOut? g c = some name) : ¬Spent g name ∧ Spent (g.call c).value.1 name := by
  obtain ⟨opType, hopType, rfl⟩ := Option.map_eq_some_iff.1 h
  obtain ⟨n, hname, hle, hcounter⟩ := defaultName_eq g opType
  rw [hname]
  constructor
  · rintro ⟨other, k, hk, hlt⟩
    obtain ⟨rfl, rfl⟩ := numbered_inj hk
    omega
  · refine ⟨opType, n, rfl, ?_⟩
    rw [counter_call, hopType, afterDefault, Option.elim_some, hcounter]
    omega

/-- No name that a run hands out was spent before the run. -/
lemma not_spent_of_mem_handedOut {g : Graph} {calls : List Graph.Call} {name : String}
    (h : name ∈ handedOut g calls) : ¬Spent g name := by
  induction calls generalizing g with
  | nil => cases h
  | cons c rest ih =>
    rw [handedOut, List.mem_append, Option.mem_toList] at h
    rcases h with hfirst | hrest
    · exact (spent_of_handedOut hfirst).1
    · exact fun hspent => ih hrest (hspent.call c)

theorem nodup_handedOut (g : Graph) (calls : List Graph.Call) : (handedOut g calls).Nodup := by
  induction calls generalizing g with
  | nil => exact List.nodup_nil
  | cons c rest ih =>
    rw [handedOut, List.nodup_append]
    refine ⟨?_, ih _, ?_⟩
    · cases handedOut? g c <;> simp
    · rintro name hname _ hrest rfl
      rw [Option.mem_toList] at hname
      exact not_spent_of_mem_handedOut hrest (spent_of_handedOut hname).2

/-! ### Names of added nodes -/

lemma chooseName_of_add {g : Graph} {r : Request} {node : Node}
    (h : (g.add r).value.1.nodes = g.nodes.push node) :
    ∃ s g₁, g.registry.lookup r.opType = some s ∧ g.chooseName r = .ok (g₁, node.name) := by
  cases hadd : (g.add r).value with
  | mk g' result =>
    rw [hadd] at h
    cases result with
    | error e =>
      rw [(sameStore_of_add_eq_error hadd).nodes] at h
      simpa using congrArg Array.size h
    | ok op =>
      obtain ⟨s, g₁, name, node', hs, hname, hnode, rfl, -⟩ := add_eq_ok hadd
      rw [Graph.insert, (chooseName_eq_ok hname).1.nodes, Array.push_eq_push] at h
      rw [← h.1, name_of_node hnode]
      exact ⟨s, g₁, hs, hname⟩

lemma name_eq_of_takenType? {g : Graph} {r : Request} {opType : String} {node : Node}
    (htaken : takenType? g r = some opType) (h : (g.add r).value.1.nodes = g.nodes.push node) :
    node.name = (g.defaultName opType).2 := by
  obtain ⟨s, g₁, hs, hname⟩ := chooseName_of_add h
  exact (graph_of_chooseName hs hname).2 opType htaken

lemma name_eq_of_asked {g : Graph} {r : Request} {name : String} {node : Node}
    (hasked : r.name = some name) (hne : name ≠ "")
    (h : (g.add r).value.1.nodes = g.nodes.push node) : node.name = name := by
  obtain ⟨s, g₁, -, hname⟩ := chooseName_of_add h
  have hfilter : r.name.filter (· ≠ "") = some name :=
    Option.filter_eq_some_iff.2 ⟨hasked, by simpa using hne⟩
  rw [chooseName, hfilter] at hname
  simp only at hname
  split at hname
  · cases hname
  · cases hname
    rfl

/-- A node that is added by a call that took a default name has that name. -/
theorem name_eq_of_handedOut {g : Graph} {c : Graph.Call} {name : String} {node : Node}
    (hname : handedOut? g c = some name) (h : (g.call c).value.1.nodes = g.nodes.push node) :
    node.name = name := by
  obtain ⟨opType, hopType, rfl⟩ := Option.map_eq_some_iff.1 hname
  cases c with
  | add r => exact name_eq_of_takenType? hopType h
  | addPlaceholder name type => exact name_eq_of_takenType? (r := .placeholder name type) hopType h
  | addConstant literal name type =>
    cases hliteral : Tensor.ofLiteral literal type with
    | error e => simp [defaultType?, hliteral] at hopType
    | ok t =>
      simp only [Graph.call, Logged.value_bind, addConstant_ok g _ hliteral] at h
      cases name with
      | some name =>
        simp only [defaultType?, hliteral] at hopType
        exact name_eq_of_takenType? (r := .constant name t) hopType h
      | none =>
        simp only [defaultType?, hliteral, Option.some.injEq] at hopType
        subst hopType
        exact name_eq_of_asked (g := (g.defaultName "Constant").1)
          (r := .constant (g.defaultName "Constant").2 t) rfl (numbered_ne_empty "Constant" _) h
  | defaultName opType =>
    have hsize : g.nodes.size = (g.nodes.push node).size := congrArg Array.size h
    simp at hsize
  | find _ | contains _ | operations | size | isEmpty => cases hopType

lemma handedOut?_of_reply {g : Graph} {c : Graph.Call} {name : String}
    (h : (g.call c).value.2 = .name name) : handedOut? g c = some name := by
  cases c with
  | defaultName opType =>
    injection h with h
    exact congrArg some h
  | add _ | addPlaceholder _ _ | addConstant _ _ _ | find _ | contains _ | operations | size
  | isEmpty => cases h

lemma taken_of_duplicateName {g : Graph} {r : Request} {name : String}
    (h : (g.add r).value.2 = .error (.duplicateName name)) :
    r.name = some name ∧ name ≠ "" ∧ g.contains name = true := by
  rcases add_eq_error (Prod.ext rfl h) with ⟨-, hnone | hname⟩ | ⟨s, op, -, -, hnode⟩
  · simp only [add_value, hnone] at h
    cases h
  · rcases chooseName_cases g r with ⟨asked, hasked, hne, htaken, he⟩ | ⟨asked, -, -, -, he⟩ |
      ⟨-, -, he⟩ | ⟨-, -, he⟩
    all_goals rw [he] at hname; cases hname
    exact ⟨hasked, hne, htaken⟩
  · cases failsWith_node _ _ _ _ _ hnode

lemma duplicateName_ne_of_addConstant (g : Graph) (literal : Literal) (type : Option ElementType)
    (name : String) :
    (g.addConstant literal none type).value.2 ≠ .error (.duplicateName name) := by
  cases hliteral : Tensor.ofLiteral literal type with
  | error e =>
    rw [addConstant_error g none hliteral]
    simp
  | ok t =>
    rw [addConstant_ok g none hliteral]
    intro h
    rcases bind_eq_error_iff.1 h with hadd | ⟨op, -, hfirst⟩
    · obtain ⟨hasked, -, htaken⟩ := taken_of_duplicateName hadd
      obtain rfl := Option.some.inj hasked
      rw [(sameStore_constantName g none).contains] at htaken
      exact absurd htaken (by simp [constantName, not_contains_defaultName])
    · cases (firstOutput_eq_error hfirst).2

/-! ### Runs -/

lemma Consistent.run {g : Graph} (hg : Consistent g) (hr : Loaded g.registry)
    (calls : List Graph.Call) : Consistent (g.run calls).value.1 := by
  induction calls generalizing g with
  | nil => exact hg
  | cons c rest ih =>
    have hstep := step_call g c
    exact ih (hg.step hr hstep) (hstep.registry_eq ▸ hr)

/-- What holds of the default name that a call hands out, and of calls that give no name. -/
structure NamingLaws (g : Graph) (c : Graph.Call) : Prop where
  counters : (g.call c).value.1.counters = (afterDefault g (defaultType? g c)).counters
  answered : ∀ name, (g.call c).value.2 = .name name → handedOut? g c = some name
  free : ∀ name, handedOut? g c = some name → ∀ node ∈ g.nodes, node.name ≠ name
  used : ∀ name node, handedOut? g c = some name →
    (g.call c).value.1.nodes = g.nodes.push node → node.name = name
  unnamed : ∀ r, c = .add r → Unnamed r →
    ∀ name, (g.call c).value.2 ≠ .added (.error (.duplicateName name))
  constant : ∀ literal type, c = .addConstant literal none type →
    ∀ name, (g.call c).value.2 ≠ .output (.error (.duplicateName name))

lemma Consistent.namingLaws {g : Graph} (hg : Consistent g) (c : Graph.Call) :
    NamingLaws g c where
  counters := counters_call g c
  answered name h := handedOut?_of_reply h
  free := by
    intro name hname
    obtain ⟨opType, -, rfl⟩ := Option.map_eq_some_iff.1 hname
    exact (hg.not_contains_iff _).1 (not_contains_defaultName g opType)
  used name node hname h := name_eq_of_handedOut hname h
  unnamed := by
    rintro r rfl hunnamed name h
    injection h with h
    obtain ⟨hasked, hne, -⟩ := taken_of_duplicateName h
    exact hne (hunnamed name hasked)
  constant := by
    rintro literal type rfl name h
    injection h with h
    exact duplicateName_ne_of_addConstant g literal type name h

/-- In a run on a graph that can be reached no default name is handed out twice, whatever types the
names are for and whatever names callers ask for. Each one is free when it is handed out, and a call
that gives no name never fails because its name is taken. -/
theorem defaultNames_of_reachable {w : Workspace} (hw : Reachable w) {i : Nat} {g : Graph}
    (hg : w.graphs[i]? = some g) (calls : List Graph.Call) :
    (handedOut g calls).Nodup ∧ ∀ before c after, calls = before ++ c :: after →
      NamingLaws (g.run before).value.1 c := by
  refine ⟨nodup_handedOut g calls, fun before c _ _ => ?_⟩
  have hcons := (consistent_of_reachable hw hg).run (loaded_of_reachable hw hg) before
  exact hcons.namingLaws c

/-- A node has a name like a default name, a default name is for a type that looks like one, and a
request fails after it took a default name. -/
def numberedCalls : List Graph.Call :=
  [.addPlaceholder "A_1" .float32, .defaultName "A", .defaultName "A_1", .defaultName "A",
    .addPlaceholder "Identity" .float32, .add { opType := "Identity" }, .defaultName "Identity",
    .addConstant (.scalar (.integer 1)) none none]

theorem defaultNames_numberedCalls :
    openedOnce.graphs[0]? = some (.empty 0 .standard) ∧
      handedOut (.empty 0 .standard) numberedCalls =
        ["A_0", "A_1_0", "A_2", "Identity_0", "Identity_1", "Constant_0"] ∧
      (handedOut (.empty 0 .standard) numberedCalls).Nodup ∧
      NamingLaws ((Graph.empty 0 .standard).run (numberedCalls.take 5)).value.1
        (.add { opType := "Identity" }) := by
  have hnames := defaultNames_of_reachable reachable_openedOnce (i := 0) rfl numberedCalls
  exact ⟨rfl, by decide +kernel, hnames.1, hnames.2 _ _ _ rfl⟩

end TensorGraph.Proofs
