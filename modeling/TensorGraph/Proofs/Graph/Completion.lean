import Mathlib
import TensorGraph.Graph.Draft
import TensorGraph.Proofs.Offence

/-!
# Completed attributes

The lengths of lists and the defaults are entries that are added behind the settings, each only if
its attribute has no value yet. What is stored under a name is therefore the first entry of that
name among the settings, the lengths and the defaults.
-/

namespace TensorGraph.Proofs
open TensorGraph.Draft TensorGraph.Attribute

/-- Adds entries behind those that are there, but none under a name that is there already. -/
def addMissing (l : Attributes) : Attributes → Attributes
  | [] => l
  | entry :: rest => addMissing (if (l.lookup entry.1).isSome then l else l ++ [entry]) rest

section AddMissing

variable {l : Attributes}

lemma addMissing_append (es es' : Attributes) :
    addMissing l (es ++ es') = addMissing (addMissing l es) es' := by
  induction es generalizing l with
  | nil => rfl
  | cons entry rest ih => exact ih

/-- Adding entries item by item is adding the entries of all items. -/
lemma foldl_addMissing {α : Type} (entries : α → Attributes) (items : List α) :
    items.foldl (fun l item => addMissing l (entries item)) l =
      addMissing l (items.flatMap entries) := by
  induction items generalizing l with
  | nil => rfl
  | cons item rest ih => rw [List.foldl_cons, ih, List.flatMap_cons, addMissing_append]

lemma lookup_append_cons_of_isSome {entry : String × Encoded}
    (h : (l.lookup entry.1).isSome = true) (rest : Attributes) (attr : String) :
    (l ++ entry :: rest).lookup attr = (l ++ rest).lookup attr := by
  obtain ⟨value, hvalue⟩ := Option.isSome_iff_exists.1 h
  rw [List.lookup_append, List.lookup_append]
  by_cases hattr : attr = entry.1
  · rw [hattr, hvalue, Option.some_or, Option.some_or]
  · rw [List.lookup_cons, beq_false_of_ne hattr]

/-- The first entry of a name is the one that counts, whether it was there or was added. -/
lemma lookup_addMissing (es : Attributes) (attr : String) :
    (addMissing l es).lookup attr = (l ++ es).lookup attr := by
  induction es generalizing l with
  | nil => rw [addMissing, List.append_nil]
  | cons entry rest ih =>
    rw [addMissing, ih]
    split
    · rename_i hset
      rw [lookup_append_cons_of_isSome hset]
    · rw [List.append_assoc, List.singleton_append]

lemma addMissing_eq_self {es : Attributes} (h : ∀ e ∈ es, (l.lookup e.1).isSome = true) :
    addMissing l es = l := by
  induction es with
  | nil => rfl
  | cons entry rest ih =>
    rw [List.forall_mem_cons] at h
    rw [addMissing, if_pos h.1, ih h.2]

lemma isSome_lookup_iff (attr : String) :
    (l.lookup attr).isSome = true ↔ attr ∈ l.map Prod.fst := by
  rw [List.lookup_isSome_iff, List.mem_map]
  refine exists_congr fun entry => and_congr_right fun _ => ?_
  rw [beq_iff_eq]
  exact eq_comm

/-- What is added has new and distinct names. -/
lemma exists_eq_append_addMissing (l es : Attributes) : ∃ extra, addMissing l es = l ++ extra ∧
    (∀ entry ∈ extra, entry ∈ es) ∧ (extra.map Prod.fst).Nodup ∧
      ∀ entry ∈ extra, entry.1 ∉ l.map Prod.fst := by
  induction es generalizing l with
  | nil => exact ⟨[], by rw [addMissing, List.append_nil], by simp, by simp, by simp⟩
  | cons entry rest ih =>
    rw [addMissing]
    split
    · obtain ⟨extra, hextra, hmem, hnodup, hfresh⟩ := ih l
      exact ⟨extra, hextra, fun other hother => List.mem_cons_of_mem entry (hmem other hother),
        hnodup, hfresh⟩
    · rename_i hnew
      rw [isSome_lookup_iff] at hnew
      obtain ⟨extra, hextra, hmem, hnodup, hfresh⟩ := ih (l ++ [entry])
      simp only [List.map_append, List.mem_append, not_or] at hfresh
      refine ⟨entry :: extra, by rw [hextra, List.append_assoc, List.singleton_append], ?_, ?_, ?_⟩
      · exact List.forall_mem_cons.2 ⟨List.mem_cons_self,
          fun other hother => List.mem_cons_of_mem entry (hmem other hother)⟩
      · rw [List.map_cons, List.nodup_cons]
        refine ⟨fun hmem => ?_, hnodup⟩
        obtain ⟨other, hother, hname⟩ := List.mem_map.1 hmem
        exact (hfresh other hother).2 (by simp [hname])
      · exact List.forall_mem_cons.2 ⟨hnew, fun other hother => (hfresh other hother).1⟩

lemma isPrefix_addMissing (l es : Attributes) : l <+: addMissing l es := by
  obtain ⟨extra, hextra, -⟩ := exists_eq_append_addMissing l es
  exact ⟨extra, hextra.symm⟩

lemma mem_addMissing {es : Attributes} {entry : String × Encoded}
    (h : entry ∈ addMissing l es) : entry ∈ l ∨ entry ∈ es := by
  obtain ⟨extra, hextra, hmem, -⟩ := exists_eq_append_addMissing l es
  rw [hextra, List.mem_append] at h
  exact h.imp_right (hmem entry)

lemma isSome_lookup_addMissing {es : Attributes} {entry : String × Encoded} (h : entry ∈ es) :
    ((addMissing l es).lookup entry.1).isSome = true := by
  rw [lookup_addMissing, isSome_lookup_iff, List.map_append, List.mem_append]
  exact .inr (List.mem_map_of_mem h)

end AddMissing

/-! ### Lengths of lists -/

/-- The encoded integer is the length of a list. Lengths are counted in signed words, which hold the
length of every list that fits in memory. -/
def Counts (e : Encoded) (length : Nat) : Prop := e.toInt? = some (Int64.ofNat length).toInt

lemma counts_iff {length : Nat} (h : length < 2 ^ 63) (e : Encoded) :
    Counts e length ↔ e.toInt? = some (length : Int) := by
  rw [Counts, Int64.toInt_ofNat_of_lt h]

/-- The length of a list under the attribute that holds it. -/
def lengthEntry (pair : Argument × Nat) : Attributes :=
  pair.1.length.toList.map fun attr => (attr, .int64 (Int64.ofNat pair.2))

/-- What is stored under the name is the length. Nothing need be stored there yet. -/
def LengthFits (stored : Attributes) (attr : String) (length : Nat) : Prop :=
  ∀ e, stored.lookup attr = some e → Counts e length

/-- Each list in turn has the length that is stored for it, if one is stored by then. -/
def LengthsFit (given : Attributes) (pairs : List (Argument × Nat)) : Prop :=
  ∀ before argument length after attr, pairs = before ++ (argument, length) :: after →
    argument.length = some attr →
      LengthFits (addMissing given (before.flatMap lengthEntry)) attr length

def LengthOffence (op : String) (stored : Attributes) (pair : Argument × Nat)
    (e : GraphError) : Prop :=
  ∃ attr, pair.1.length = some attr ∧ ¬LengthFits stored attr pair.2 ∧
    e = .listLength op pair.1.name attr pair.2

lemma mem_lengthEntry_iff {pair : Argument × Nat} {entry : String × Encoded} :
    entry ∈ lengthEntry pair ↔
      pair.1.length = some entry.1 ∧ entry.2 = .int64 (Int64.ofNat pair.2) := by
  obtain ⟨attr, e⟩ := entry
  simp [lengthEntry, eq_comm]

lemma walk_setLengths (op : String) : Walk (fun l pairs => setLengths op pairs l)
    (fun l pair => addMissing l (lengthEntry pair)) (LengthOffence op) id where
  nil l := rfl
  cons l pair rest := by
    obtain ⟨argument, length⟩ := pair
    simp only [LengthOffence, lengthEntry]
    cases hlength : argument.length with
    | none => exact .inr ⟨by simp, by simp only [setLengths, hlength]; rfl⟩
    | some attr =>
      simp only [Option.toList_some, List.map_cons, List.map_nil, addMissing]
      cases hstored : l.lookup attr with
      | none =>
        refine .inr ⟨by simp [LengthFits, hstored], ?_⟩
        simp only [setLengths, hlength, hstored, Option.isSome_none, Bool.false_eq_true, if_false]
      | some value =>
        by_cases hcounts : Counts value length
        · refine .inr ⟨by simp [LengthFits, hstored, hcounts], ?_⟩
          simp only [setLengths, hlength, hstored, Option.isSome_some, if_true]
          exact if_pos hcounts
        · refine .inl ⟨.listLength op argument.name attr length, ?_, ?_⟩
          · simp [LengthFits, hstored, hcounts]
          · simp only [setLengths, hlength, hstored]
            exact if_neg hcounts

section Lengths

variable {op : String} {pairs : List (Argument × Nat)} {l l' : Attributes}

lemma clean_lengthOffence_iff :
    Clean (fun before => LengthOffence op (addMissing l (before.flatMap lengthEntry))) pairs ↔
      LengthsFit l pairs := by
  constructor
  · intro h before argument length after attr hsplit hattr
    by_contra hoffends
    exact h before (argument, length) after hsplit _ ⟨attr, hattr, hoffends, rfl⟩
  · rintro h before ⟨argument, length⟩ after hsplit e ⟨attr, hattr, hoffends, -⟩
    exact hoffends (h before argument length after attr hsplit hattr)

theorem setLengths_eq_ok_iff : setLengths op pairs l = .ok l' ↔
    LengthsFit l pairs ∧ l' = addMissing l (pairs.flatMap lengthEntry) := by
  simp only [(walk_setLengths op).eq_ok_iff l pairs l', foldl_addMissing, id_eq,
    clean_lengthOffence_iff]

theorem setLengths_eq_error_iff {e : GraphError} : setLengths op pairs l = .error e ↔
    FirstOffence (fun before => LengthOffence op (addMissing l (before.flatMap lengthEntry)))
      pairs e := by
  simp only [(walk_setLengths op).eq_error_iff l pairs e, foldl_addMissing]

end Lengths

/-! ### Defaults -/

/-- The default of a declaration under its name, if there is one and it can be encoded. -/
def defaultEntry (d : Declaration) : Attributes :=
  (d.default?.bind fun value =>
    (outcome (encode d.name ⟨value, none⟩ d.kind)).toOption.map fun e => (d.name, e)).toList

lemma mem_defaultEntry_iff {d : Declaration} {entry : String × Encoded} :
    entry ∈ defaultEntry d ↔ entry.1 = d.name ∧ ∃ value, d.default? = some value ∧
      outcome (encode d.name ⟨value, none⟩ d.kind) = .ok entry.2 := by
  have htoOption : ∀ (x : Except EncodeError Encoded) e, x.toOption = some e ↔ x = .ok e := by
    intro x e
    cases x <;> simp [Except.toOption]
  obtain ⟨attr, e⟩ := entry
  simp only [defaultEntry, Option.mem_toList, Option.bind_eq_some_iff, Option.map_eq_some_iff,
    htoOption, Prod.mk.injEq]
  constructor
  · rintro ⟨value, hdefault, e', hencode, rfl, rfl⟩
    exact ⟨rfl, value, hdefault, hencode⟩
  · rintro ⟨rfl, value, hdefault, hencode⟩
    exact ⟨value, hdefault, e, hencode, rfl, rfl⟩

inductive DefaultOffence (op : String) (stored : Attributes) (d : Declaration) :
    GraphError → Prop where
  | missing (absent : stored.lookup d.name = none) (undefaulted : d.default? = none) :
    DefaultOffence op stored d (.missingAttribute op d.name)
  | mismatch (absent : stored.lookup d.name = none) (value : Value)
    (default : d.default? = some value) (attr : String) (expected : Encoding) (found : Value.Form)
    (refused : outcome (encode d.name ⟨value, none⟩ d.kind) =
      .error (.mismatch attr expected found)) :
    DefaultOffence op stored d (.attribute op (.mismatch attr expected found))

lemma not_defaultOffence_of_stored {op : String} {stored : Attributes} {d : Declaration}
    {value : Encoded} (h : stored.lookup d.name = some value) (e : GraphError) :
    ¬DefaultOffence op stored d e := by
  rintro (⟨absent, -⟩ | ⟨absent, -⟩) <;> simp [h] at absent

lemma defaultOffence_iff_of_default {op : String} {stored : Attributes} {d : Declaration}
    (hstored : stored.lookup d.name = none) {value : Value} (hdefault : d.default? = some value)
    (e : GraphError) : DefaultOffence op stored d e ↔ ∃ attr expected found,
      outcome (encode d.name ⟨value, none⟩ d.kind) = .error (.mismatch attr expected found) ∧
        e = .attribute op (.mismatch attr expected found) := by
  constructor
  · rintro (⟨-, undefaulted⟩ | ⟨-, value', default, attr, expected, found, refused⟩)
    · simp [hdefault] at undefaulted
    · rw [hdefault] at default
      cases default
      exact ⟨attr, expected, found, refused, rfl⟩
  · rintro ⟨attr, expected, found, refused, rfl⟩
    exact .mismatch hstored value hdefault attr expected found refused

lemma walk_setDefaults (op : String) :
    Walk (fun l declarations => outcome (setDefaults op declarations l))
      (fun l d => addMissing l (defaultEntry d)) (DefaultOffence op) id where
  nil l := by
    rw [setDefaults]
    rfl
  cons l d rest := by
    cases hstored : l.lookup d.name with
    | some stored =>
      have hset : (l.lookup d.name).isSome = true := by rw [hstored, Option.isSome_some]
      have hkept : addMissing l (defaultEntry d) = l :=
        addMissing_eq_self fun entry hentry => by rw [(mem_defaultEntry_iff.1 hentry).1, hset]
      exact .inr ⟨not_defaultOffence_of_stored hstored, by rw [setDefaults, if_pos hset, hkept]⟩
    | none =>
      have hunset : ¬(l.lookup d.name).isSome = true := by simp [hstored]
      simp only [setDefaults, if_neg hunset]
      cases hdefault : d.default? with
      | none =>
        refine .inl ⟨.missingAttribute op d.name, fun e' => ⟨?_, ?_⟩, rfl⟩
        · rintro (⟨-, -⟩ | ⟨-, value, default, -⟩)
          · rfl
          · simp [hdefault] at default
        · rintro rfl
          exact .missing hstored hdefault
      | some value =>
        have hentry : defaultEntry d = ((outcome (encode d.name ⟨value, none⟩ d.kind)).toOption.map
            fun e => (d.name, e)).toList := by
          rw [defaultEntry, hdefault, Option.bind_some]
        simp only [defaultOffence_iff_of_default hstored hdefault, hentry, outcome_bind,
          outcome_liftM, ok_bind]
        cases hencode : outcome (encode d.name ⟨value, none⟩ d.kind) with
        | ok encoded =>
          refine .inr ⟨by simp, ?_⟩
          simp only [outcome] at hencode
          simp only [hencode, Except.toOption, Option.map_some, Option.toList_some, addMissing,
            if_neg hunset]
        | error e =>
          simp only [outcome] at hencode
          simp only [hencode]
          cases e with
          | mismatch attr expected found =>
            exact .inl ⟨.attribute op (.mismatch attr expected found), by simp, rfl⟩
          | unresolved attr => exact .inr ⟨by simp, rfl⟩
          | unsupported attr encoding => exact .inr ⟨by simp, rfl⟩

lemma DefaultOffence.congr {op : String} {stored stored' : Attributes} {d : Declaration}
    {e : GraphError} (h : DefaultOffence op stored d e)
    (heq : stored'.lookup d.name = stored.lookup d.name) : DefaultOffence op stored' d e := by
  cases h with
  | missing absent undefaulted => exact .missing (heq.trans absent) undefaulted
  | mismatch absent value default attr expected found refused =>
    exact .mismatch (heq.trans absent) value default attr expected found refused

/-- The defaults of other declarations are not stored under the name. -/
lemma lookup_addMissing_defaults (l : Attributes) {declarations : List Declaration}
    {attr : String} (h : attr ∉ declarations.map (·.name)) :
    (addMissing l (declarations.flatMap defaultEntry)).lookup attr = l.lookup attr := by
  have hnone : (declarations.flatMap defaultEntry).lookup attr = none := by
    rw [List.lookup_eq_none_iff]
    intro entry hentry
    obtain ⟨d, hd, hentry⟩ := List.mem_flatMap.1 hentry
    rw [(mem_defaultEntry_iff.1 hentry).1, bne_iff_ne]
    rintro rfl
    exact h (List.mem_map_of_mem hd)
  rw [lookup_addMissing, List.lookup_append, hnone, Option.or_none]

/-- Each attribute that is not stored has a default that does not mismatch its encoding. -/
def Completable (stored : Attributes) (declarations : List Declaration) : Prop :=
  ∀ d ∈ declarations, stored.lookup d.name = none → ∃ value, d.default? = some value ∧
    ∀ attr expected found,
      outcome (encode d.name ⟨value, none⟩ d.kind) ≠ .error (.mismatch attr expected found)

section Declarations

variable {op : String} {declarations : List Declaration} {l l' : Attributes}

lemma setDefaults_eq_ok_iff_before : outcome (setDefaults op declarations l) = .ok l' ↔
    Clean (fun before => DefaultOffence op (addMissing l (before.flatMap defaultEntry)))
      declarations ∧ l' = addMissing l (declarations.flatMap defaultEntry) := by
  simp only [(walk_setDefaults op).eq_ok_iff l declarations l', foldl_addMissing, id_eq]

lemma setDefaults_eq_error_iff_before {e : GraphError} :
    outcome (setDefaults op declarations l) = .error e ↔
      FirstOffence (fun before => DefaultOffence op (addMissing l (before.flatMap defaultEntry)))
        declarations e := by
  simp only [(walk_setDefaults op).eq_error_iff l declarations e, foldl_addMissing]

lemma clean_defaultOffence_iff :
    Clean (fun _ => DefaultOffence op l) declarations ↔ Completable l declarations := by
  rw [clean_iff_forall]
  refine forall₂_congr fun d _ => ⟨fun h habsent => ?_, fun h => ?_⟩
  · cases hdefault : d.default? with
    | none => exact absurd (.missing habsent hdefault) (h _)
    | some value =>
      refine ⟨value, rfl, fun attr expected found hrefused => ?_⟩
      exact h _ (.mismatch habsent value hdefault attr expected found hrefused)
  · rintro e (⟨habsent, hnone⟩ | ⟨habsent, value, hdefault, attr, expected, found, hrefused⟩)
    all_goals obtain ⟨value', hvalue', hencodes⟩ := h habsent
    · rw [hnone] at hvalue'
      cases hvalue'
    · rw [hdefault] at hvalue'
      cases hvalue'
      exact hencodes attr expected found hrefused

variable (hnodup : (declarations.map (·.name)).Nodup)
include hnodup

/-- Since names of declarations are distinct, the defaults of the earlier ones make no difference. -/
lemma defaultOffence_addMissing_iff (before : List Declaration) (d : Declaration)
    (after : List Declaration) (hsplit : declarations = before ++ d :: after) (e : GraphError) :
    DefaultOffence op (addMissing l (before.flatMap defaultEntry)) d e ↔
      DefaultOffence op l d e := by
  rw [hsplit, List.map_append, List.map_cons, List.nodup_append] at hnodup
  have hnew : d.name ∉ before.map (·.name) :=
    fun hmem => hnodup.2.2 d.name hmem d.name List.mem_cons_self rfl
  have hlookup := lookup_addMissing_defaults l hnew
  exact ⟨fun h => h.congr hlookup.symm, fun h => h.congr hlookup⟩

theorem setDefaults_eq_ok_iff : outcome (setDefaults op declarations l) = .ok l' ↔
    Completable l declarations ∧ l' = addMissing l (declarations.flatMap defaultEntry) := by
  rw [setDefaults_eq_ok_iff_before, clean_congr (defaultOffence_addMissing_iff hnodup),
    clean_defaultOffence_iff]

theorem setDefaults_eq_error_iff {e : GraphError} :
    outcome (setDefaults op declarations l) = .error e ↔
      FirstOffence (fun _ => DefaultOffence op l) declarations e := by
  rw [setDefaults_eq_error_iff_before, firstOffence_congr (defaultOffence_addMissing_iff hnodup)]

end Declarations

end TensorGraph.Proofs
