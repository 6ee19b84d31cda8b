import Mathlib
import TensorGraph.Proofs.Graph.Completion
import TensorGraph.Proofs.Outcome

/-!
# Phases of a draft

A draft passes through its phases in order, and each phase only adds attributes behind those that
are there. So what a phase has made sure of an attribute still holds of the finished node, where
the first value of a name counts.
-/

namespace TensorGraph.Proofs
open TensorGraph.Draft TensorGraph.Attribute

lemma lookup_of_isPrefix {α : Type} {l l' : List (String × α)} (h : l <+: l') {key : String}
    {a : α} (hl : l.lookup key = some a) : l'.lookup key = some a := by
  obtain ⟨extra, rfl⟩ := h
  rw [List.lookup_append, hl, Option.some_or]

/-! ### Arity and owners -/

def MeetsArity (s : Signature) (r : Request) : Prop :=
  r.inputs.length = s.singleInputs.length ∧ r.lists.length = s.listInputs.length

lemma checkArity_eq_ok_iff {s : Signature} {op : String} {r : Request} :
    checkArity s op r = .ok () ↔ MeetsArity s r := by
  rw [checkArity, MeetsArity]
  split <;> simp_all

lemma checkArity_eq_error_iff {s : Signature} {op : String} {r : Request} {e : GraphError} :
    checkArity s op r = .error e ↔ ¬MeetsArity s r ∧
      e = .inputArity op s.singleInputs.length s.listInputs.length r.inputs.length
        r.lists.length := by
  rw [checkArity, MeetsArity]
  split
  · rename_i h
    simp [h]
  · rename_i h
    simp [h, eq_comm]

/-- The input holds an output that belongs to another graph, and its place is the error. -/
def ForeignOffence (id : Nat) (op : String) (before : List Input) (input : Input)
    (e : GraphError) : Prop :=
  (∃ output ∈ input.outputs, output.node.graph ≠ id) ∧ e = .foreignInput op before.length

lemma findIdx?_eq_some_iff_split {α : Type} {p : α → Bool} {xs : List α} {i : Nat} :
    xs.findIdx? p = some i ↔ ∃ before x after, xs = before ++ x :: after ∧ before.length = i ∧
      (∀ y ∈ before, p y = false) ∧ p x = true := by
  rw [List.findIdx?_eq_some_iff_getElem]
  constructor
  · rintro ⟨hi, hx, hbefore⟩
    refine ⟨xs.take i, xs[i], xs.drop (i + 1), ?_, List.length_take_of_le hi.le, ?_, hx⟩
    · rw [← List.drop_eq_getElem_cons hi, List.take_append_drop]
    · intro y hy
      obtain ⟨j, hj, rfl⟩ := List.mem_take_iff_getElem.1 hy
      simpa using hbefore j (by omega)
  · rintro ⟨before, x, after, rfl, rfl, hbefore, hx⟩
    refine ⟨by simp, by simpa using hx, fun j hj => ?_⟩
    rw [List.getElem_append_left hj]
    simpa using hbefore _ (List.getElem_mem hj)

lemma checkOwner_eq_error_iff {id : Nat} {op : String} {wiring : List Input} {e : GraphError} :
    checkOwner id op wiring = .error e ↔ FirstOffence (ForeignOffence id op) wiring e := by
  let foreign : Input → Bool := fun input => input.outputs.any (·.node.graph ≠ id)
  have hforeign : ∀ input, foreign input = true ↔
      ∃ output ∈ input.outputs, output.node.graph ≠ id := by
    simp [foreign]
  have hfind : checkOwner id op wiring = .error e ↔
      ∃ position, wiring.findIdx? foreign = some position ∧ e = .foreignInput op position := by
    rw [checkOwner]
    cases wiring.findIdx? foreign <;> simp [eq_comm]
  rw [hfind]
  simp only [findIdx?_eq_some_iff_split]
  constructor
  · rintro ⟨_, ⟨before, input, after, hsplit, rfl, hbefore, hinput⟩, rfl⟩
    refine ⟨before, input, after, hsplit, ?_, (hforeign input).1 hinput, rfl⟩
    intro earlier other later hsplit' e' hother
    have hclean := hbefore other (by simp [hsplit'])
    rw [(hforeign other).2 hother.1] at hclean
    cases hclean
  · rintro ⟨before, input, after, hsplit, hbefore, hinput, rfl⟩
    refine ⟨_, ⟨before, input, after, hsplit, rfl, ?_, (hforeign input).2 hinput⟩, rfl⟩
    intro other hother
    obtain ⟨earlier, later, hsplit'⟩ := List.append_of_mem hother
    rw [← Bool.not_eq_true]
    exact fun h => hbefore earlier other later hsplit' _ ⟨(hforeign other).1 h, rfl⟩

/-! ### Settings -/

/-- The attribute that is set is declared, and the entry is the encoded setting. -/
def Encodes (s : Signature) (setting : String × Setting) (entry : String × Encoded) : Prop :=
  ∃ d, s.attribute? setting.1 = some d ∧ entry.1 = setting.1 ∧
    outcome (encode setting.1 setting.2 d.kind) = .ok entry.2

inductive SettingOffence (s : Signature) (op : String) (setting : String × Setting) :
    GraphError → Prop where
  | undeclared (unknown : s.attribute? setting.1 = none) :
    SettingOffence s op setting (.unknownAttribute op setting.1)
  | unencodable (d : Declaration) (known : s.attribute? setting.1 = some d) (e : EncodeError)
    (failed : outcome (encode setting.1 setting.2 d.kind) = .error e) :
    SettingOffence s op setting (.attribute op e)

section Settings

variable {s : Signature} {op : String} {setting : String × Setting}

lemma encodeSetting_eq_ok_iff {entry : String × Encoded} :
    outcome (encodeSetting s op setting.1 setting.2) = .ok entry ↔ Encodes s setting entry := by
  constructor
  · intro h
    rw [encodeSetting] at h
    split at h
    · cases h
    · rename_i d hd
      rw [outcome_bind, outcome_adapt, bind_eq_ok_iff] at h
      obtain ⟨e, he, h⟩ := h
      cases h
      exact ⟨d, hd, rfl, mapError_eq_ok_iff.1 he⟩
  · rintro ⟨d, hd, hname, hencode⟩
    simp only [encodeSetting, hd, outcome_bind, outcome_adapt, hencode]
    exact congrArg Except.ok (Prod.ext hname.symm rfl)

lemma encodeSetting_eq_error_iff {e : GraphError} :
    outcome (encodeSetting s op setting.1 setting.2) = .error e ↔
      SettingOffence s op setting e := by
  constructor
  · intro h
    rw [encodeSetting] at h
    split at h
    · rename_i hunknown
      cases h
      exact .undeclared hunknown
    · rename_i d hd
      rw [outcome_bind, outcome_adapt] at h
      cases hencode : outcome (encode setting.1 setting.2 d.kind) with
      | ok encoded =>
        rw [hencode] at h
        cases h
      | error e' =>
        rw [hencode] at h
        cases h
        exact .unencodable d hd e' hencode
  · rintro (hunknown | ⟨d, hd, e', hencode⟩)
    · simp only [encodeSetting, hunknown, outcome_throw]
    · simp only [encodeSetting, hd, outcome_bind, outcome_adapt, hencode]
      rfl

end Settings

/-! ### Lengths -/

def HoldsLength (attributes : Attributes) (attr : String) (length : Nat) : Prop :=
  ∃ e, attributes.lookup attr = some e ∧ e.toInt? = some (Int64.ofNat length).toInt

lemma HoldsLength.of_isPrefix {l l' : Attributes} (h : l <+: l') {attr : String} {length : Nat}
    (hl : HoldsLength l attr length) : HoldsLength l' attr length := by
  obtain ⟨e, he, hint⟩ := hl
  exact ⟨e, lookup_of_isPrefix h he, hint⟩

/-- A length that fits is held once it has been added, if it was not held before. -/
lemma LengthFits.holdsLength {stored : Attributes} {pair : Argument × Nat} {attr : String}
    (h : LengthFits stored attr pair.2) (hattr : pair.1.length = some attr) :
    HoldsLength (addMissing stored (lengthEntry pair)) attr pair.2 := by
  cases hstored : stored.lookup attr with
  | some e => exact ⟨e, lookup_of_isPrefix (isPrefix_addMissing _ _) hstored, h e hstored⟩
  | none =>
    refine ⟨.int64 (Int64.ofNat pair.2), ?_, rfl⟩
    rw [lookup_addMissing, List.lookup_append, hstored, Option.none_or, lengthEntry, hattr]
    exact List.lookup_cons_self

theorem setLengths_eq_ok {op : String} {pairs : List (Argument × Nat)} {l l' : Attributes}
    (h : setLengths op pairs l = .ok l') :
    l <+: l' ∧
      (∀ entry ∈ l', entry ∈ l ∨ ∃ pair ∈ pairs, pair.1.length = some entry.1) ∧
      ∀ pair ∈ pairs, ∀ attr, pair.1.length = some attr → HoldsLength l' attr pair.2 := by
  obtain ⟨hfit, rfl⟩ := setLengths_eq_ok_iff.1 h
  refine ⟨isPrefix_addMissing l _, fun entry hentry => ?_, fun pair hpair attr hattr => ?_⟩
  · refine (mem_addMissing hentry).imp_right fun hadded => ?_
    obtain ⟨pair, hpair, hadded⟩ := List.mem_flatMap.1 hadded
    exact ⟨pair, hpair, (mem_lengthEntry_iff.1 hadded).1⟩
  · obtain ⟨before, after, rfl⟩ := List.append_of_mem hpair
    have hfits := hfit before pair.1 pair.2 after attr rfl hattr
    rw [List.flatMap_append, List.flatMap_cons, addMissing_append, addMissing_append]
    exact (hfits.holdsLength hattr).of_isPrefix (isPrefix_addMissing _ _)

/-! ### Defaults -/

/-- The declaration has a default, and this default has no encoding. -/
def LeftToRuntime (d : Declaration) : Prop :=
  ∃ value, d.default? = some value ∧
    ((∃ attr, outcome (encode d.name ⟨value, none⟩ d.kind) = .error (.unresolved attr)) ∨
      ∃ attr encoding,
        outcome (encode d.name ⟨value, none⟩ d.kind) = .error (.unsupported attr encoding))

lemma leftToRuntime_of_error {d : Declaration} {value : Value} (hdefault : d.default? = some value)
    {e : EncodeError} (herror : outcome (encode d.name ⟨value, none⟩ d.kind) = .error e)
    (hmismatch : ∀ attr expected found, e ≠ .mismatch attr expected found) : LeftToRuntime d := by
  cases e with
  | unresolved attr => exact ⟨value, hdefault, .inl ⟨attr, herror⟩⟩
  | unsupported attr encoding => exact ⟨value, hdefault, .inr ⟨attr, encoding, herror⟩⟩
  | mismatch attr expected found => exact absurd rfl (hmismatch attr expected found)

/-- A declaration that does not offend is stored once its default has been added, or it is left to
the runtime. -/
lemma isSome_lookup_or_leftToRuntime {op : String} {stored : Attributes} {d : Declaration}
    (h : ∀ e, ¬DefaultOffence op stored d e) :
    ((addMissing stored (defaultEntry d)).lookup d.name).isSome = true ∨ LeftToRuntime d := by
  cases hstored : stored.lookup d.name with
  | some e =>
    rw [lookup_of_isPrefix (isPrefix_addMissing _ _) hstored]
    exact .inl rfl
  | none =>
    cases hdefault : d.default? with
    | none => exact absurd (.missing hstored hdefault) (h _)
    | some value =>
      cases hencode : outcome (encode d.name ⟨value, none⟩ d.kind) with
      | ok e =>
        have hentry : (d.name, e) ∈ defaultEntry d :=
          mem_defaultEntry_iff.2 ⟨rfl, value, hdefault, hencode⟩
        exact .inl (isSome_lookup_addMissing hentry)
      | error e =>
        refine .inr (leftToRuntime_of_error hdefault hencode ?_)
        rintro attr expected found rfl
        exact h _ (.mismatch hstored value hdefault attr expected found hencode)

theorem setDefaults_eq_ok {op : String} {declarations : List Declaration} {l l' : Attributes}
    (h : outcome (setDefaults op declarations l) = .ok l') :
    l <+: l' ∧
      (∀ entry ∈ l', entry ∈ l ∨ ∃ d ∈ declarations, d.name = entry.1) ∧
      ∀ d ∈ declarations, (l'.lookup d.name).isSome = true ∨ LeftToRuntime d := by
  obtain ⟨hclean, rfl⟩ := setDefaults_eq_ok_iff_before.1 h
  refine ⟨isPrefix_addMissing l _, fun entry hentry => ?_, fun d hd => ?_⟩
  · refine (mem_addMissing hentry).imp_right fun hadded => ?_
    obtain ⟨d, hd, hadded⟩ := List.mem_flatMap.1 hadded
    exact ⟨d, hd, (mem_defaultEntry_iff.1 hadded).1.symm⟩
  · obtain ⟨before, after, rfl⟩ := List.append_of_mem hd
    rw [List.flatMap_append, List.flatMap_cons, addMissing_append, addMissing_append]
    refine (isSome_lookup_or_leftToRuntime (hclean before d after rfl)).imp_left fun hset => ?_
    obtain ⟨e, he⟩ := Option.isSome_iff_exists.1 hset
    rw [lookup_of_isPrefix (isPrefix_addMissing _ _) he, Option.isSome_some]

/-! ### Whole drafts -/

lemma outcome_node (id : Nat) (s : Signature) (op : String) (r : Request) :
    outcome (Draft.node id s op r) = do
      checkArity s op r
      checkOwner id op r.wiring
      let given ← r.settings.mapM fun setting => outcome (encodeSetting s op setting.1 setting.2)
      let stored ← setLengths op (s.listInputs.zip (r.lists.map List.length)) given
      let attributes ← outcome (setDefaults op s.attributes stored)
      return ⟨op, s.name, r.wiring, attributes, s.outputs.length⟩ := by
  simp only [Draft.node, outcome_bind, outcome_mapM, outcome_ofExcept, outcome_pure]
  rfl

theorem node_eq_ok {id : Nat} {s : Signature} {op : String} {r : Request} {n : Node}
    (h : outcome (Draft.node id s op r) = .ok n) :
    ∃ given measured attributes, checkArity s op r = .ok () ∧ checkOwner id op r.wiring = .ok () ∧
      List.Forall₂ (fun setting entry => outcome (encodeSetting s op setting.1 setting.2) = .ok entry)
        r.settings given ∧
      setLengths op (s.listInputs.zip (r.lists.map List.length)) given = .ok measured ∧
      outcome (setDefaults op s.attributes measured) = .ok attributes ∧
      n = ⟨op, s.name, r.wiring, attributes, s.outputs.length⟩ := by
  simp only [outcome_node, bind_eq_ok_iff] at h
  obtain ⟨⟨⟩, harity, ⟨⟩, howner, given, hgiven, measured, hmeasured, attributes, hattr, h⟩ := h
  cases h
  exact ⟨given, measured, attributes, harity, howner, mapM_eq_ok_iff.1 hgiven, hmeasured,
    hattr, rfl⟩

end TensorGraph.Proofs
