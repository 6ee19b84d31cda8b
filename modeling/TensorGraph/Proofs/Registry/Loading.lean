import Mathlib
import TensorGraph.Proofs.Offence
import TensorGraph.Proofs.Registry.Loaded

/-!
# Loading a registry

Loading goes through the signatures from the front, and each is admitted behind those before it or
refused. So a sequence is loaded if every signature can stand on its own and no two have the same
name in lower case. Then the registry holds just these signatures. Otherwise the first signature
that is refused decides the error.
-/

namespace TensorGraph.Proofs
open TensorGraph.Registry TensorGraph.Text

/-! ### What is asked of a signature -/

/-- An attribute of the name is declared, with the kind. -/
def Declared (s : Signature) (attr : String) (kind : Attribute.Kind) : Prop :=
  ∃ d ∈ s.attributes, d.name = attr ∧ d.kind = kind

/-- The signature has a name, its attributes have different names, and the attributes for the types
and the lengths of its arguments are declared as types and integers. -/
structure Loadable (s : Signature) : Prop where
  named : s.name ≠ ""
  distinct : (s.attributes.map (·.name)).Nodup
  typed : ∀ a ∈ s.inputs ++ s.outputs, ∀ attr, a.type = .attribute attr → Declared s attr .type
  counted : ∀ a ∈ s.inputs ++ s.outputs, ∀ attr, a.length = some attr → Declared s attr .int

/-- What the arguments refer to, inputs before outputs and the type of an argument before its
length. -/
def references (s : Signature) : List (Argument × String × Attribute.Kind) :=
  (s.inputs ++ s.outputs).flatMap fun a => a.references.map fun ref => (a, ref)

/-- The signature is refused behind the signatures `earlier`, for the first of the reasons that
apply. -/
inductive Refusal (earlier : List Signature) (s : Signature) : LoadError → Prop where
  | emptyName (unnamed : s.name = "") : Refusal earlier s (.emptyName earlier.length)
  | duplicateAttribute (named : s.name ≠ "") (before after : List String) (attr : String)
    (split : s.attributes.map (·.name) = before ++ attr :: after) (distinct : before.Nodup)
    (repeated : attr ∈ before) : Refusal earlier s (.duplicateAttribute s.name attr)
  | reference (named : s.name ≠ "") (distinct : (s.attributes.map (·.name)).Nodup)
    (before after : List (Argument × String × Attribute.Kind)) (a : Argument) (attr : String)
    (kind : Attribute.Kind) (split : references s = before ++ (a, attr, kind) :: after)
    (met : ∀ ref ∈ before, Declared s ref.2.1 ref.2.2) (unmet : ¬Declared s attr kind) :
    Refusal earlier s (.reference s.name a.name attr kind)
  | duplicate (loadable : Loadable s) (other : Signature) (mem : other ∈ earlier)
    (same : lowercase other.name = lowercase s.name) : Refusal earlier s (.duplicate s.name)

lemma declares_iff {s : Signature} (h : (s.attributes.map (·.name)).Nodup) (attr : String)
    (kind : Attribute.Kind) : s.declares attr kind = true ↔ Declared s attr kind := by
  rw [Signature.declares, Option.any_eq_true]
  constructor
  · rintro ⟨d, hd, hkind⟩
    obtain ⟨hmem, hname⟩ := attribute?_eq_some hd
    exact ⟨d, hmem, hname, by simpa using hkind⟩
  · rintro ⟨d, hmem, rfl, rfl⟩
    obtain ⟨found, hfound⟩ := Option.isSome_iff_exists.1
      (List.find?_isSome.2 ⟨d, hmem, decide_eq_true rfl⟩ : (s.attribute? d.name).isSome)
    obtain ⟨hfoundMem, hsame⟩ := attribute?_eq_some hfound
    have hd : found = d := List.inj_on_of_nodup_map h hfoundMem hmem hsame
    exact ⟨d, hd ▸ hfound, decide_eq_true rfl⟩

lemma mem_argumentReferences_iff {a : Argument} {attr : String} {kind : Attribute.Kind} :
    (attr, kind) ∈ a.references ↔
      (a.type = .attribute attr ∧ kind = .type) ∨ (a.length = some attr ∧ kind = .int) := by
  rw [Argument.references, List.mem_append]
  refine or_congr ?_ ?_
  · cases a.type <;> simp [eq_comm]
  · cases a.length <;> simp [eq_comm]

lemma loadable_iff_wellFormed (s : Signature) : Loadable s ↔ WellFormed s := by
  constructor
  · intro h
    refine ⟨h.named, h.distinct, ?_⟩
    rintro a ha ⟨attr, kind⟩ href
    rw [declares_iff h.distinct]
    rcases mem_argumentReferences_iff.1 href with ⟨htype, rfl⟩ | ⟨hlength, rfl⟩
    · exact h.typed a ha attr htype
    · exact h.counted a ha attr hlength
  · intro h
    have hdeclared : ∀ a ∈ s.inputs ++ s.outputs, ∀ attr kind, (attr, kind) ∈ a.references →
        Declared s attr kind := fun a ha attr kind href =>
      (declares_iff h.nodup_attributes attr kind).1 (h.declares_references a ha _ href)
    exact ⟨h.name_ne_empty, h.nodup_attributes,
      fun a ha attr htype => hdeclared a ha attr _ (mem_argumentReferences_iff.2 (.inl ⟨htype, rfl⟩)),
      fun a ha attr hlength =>
        hdeclared a ha attr _ (mem_argumentReferences_iff.2 (.inr ⟨hlength, rfl⟩))⟩

/-! ### Searches -/

/-- The name that is found repeats one before it, and no name before it does. -/
lemma firstRepeat_eq_some_iff {earlier names : List String} {name : String} :
    Signature.firstRepeat earlier names = some name ↔
      ∃ before after, names = before ++ name :: after ∧ before.Nodup ∧
        (∀ other ∈ before, other ∉ earlier) ∧ (name ∈ before ∨ name ∈ earlier) := by
  -- A name that is passed joins the earlier ones, so the split grows at the front.
  induction names generalizing earlier with
  | nil => simp [Signature.firstRepeat]
  | cons first rest ih =>
    rw [Signature.firstRepeat]
    split
    · rename_i hmem
      constructor
      · rintro ⟨⟩
        exact ⟨[], rest, rfl, .nil, by simp, .inr hmem⟩
      · rintro ⟨before, after, hsplit, -, hnew, -⟩
        cases before with
        | nil =>
          cases hsplit
          rfl
        | cons other before =>
          cases hsplit
          exact absurd hmem (hnew first List.mem_cons_self)
    · rename_i hfirst
      rw [ih]
      constructor
      · rintro ⟨before, after, rfl, hnodup, hnew, hrepeated⟩
        refine ⟨first :: before, after, rfl, List.nodup_cons.2 ⟨fun h => ?_, hnodup⟩,
          List.forall_mem_cons.2 ⟨hfirst, fun other h he => ?_⟩, ?_⟩
        · exact hnew first h List.mem_cons_self
        · exact hnew other h (List.mem_cons_of_mem first he)
        · simpa only [List.mem_cons, or_assoc, or_left_comm] using hrepeated
      · rintro ⟨before, after, hsplit, hnodup, hnew, hrepeated⟩
        cases before with
        | nil =>
          cases hsplit
          simp [hfirst] at hrepeated
        | cons other before =>
          cases hsplit
          rw [List.nodup_cons] at hnodup
          rw [List.forall_mem_cons] at hnew
          refine ⟨before, after, rfl, hnodup.2, fun other h he => ?_, ?_⟩
          · rcases List.mem_cons.1 he with rfl | he
            · exact hnodup.1 h
            · exact hnew.2 other h he
          · simpa only [List.mem_cons, or_assoc, or_left_comm] using hrepeated

lemma badReference?_eq_find? (s : Signature) : s.badReference? =
    ((references s).find? fun ref => !s.declares ref.2.1 ref.2.2).map fun ref =>
      .reference s.name ref.1.name ref.2.1 ref.2.2 := by
  rw [references, List.find?_flatMap, List.map_findSome?, Signature.badReference?]
  congr 1
  funext a
  rw [Function.comp_apply, List.find?_map, Option.map_map]
  rfl

lemma badReference?_eq_some_iff {s : Signature} {e : LoadError} : s.badReference? = some e ↔
    ∃ before a attr kind after, references s = before ++ (a, attr, kind) :: after ∧
      (∀ ref ∈ before, s.declares ref.2.1 ref.2.2 = true) ∧ s.declares attr kind = false ∧
      e = .reference s.name a.name attr kind := by
  simp only [badReference?_eq_find?, Option.map_eq_some_iff, List.find?_eq_some_iff_append,
    Bool.not_eq_true', Bool.not_not]
  constructor
  · rintro ⟨⟨a, attr, kind⟩, ⟨hunmet, before, after, hsplit, hmet⟩, rfl⟩
    exact ⟨before, a, attr, kind, after, hsplit, hmet, hunmet, rfl⟩
  · rintro ⟨before, a, attr, kind, after, hsplit, hmet, hunmet, rfl⟩
    exact ⟨(a, attr, kind), ⟨hunmet, before, after, hsplit, hmet⟩, rfl⟩

/-! ### One more signature -/

/-- The verdict on one more signature for a registry, which is to stand at the position. -/
def examine (r : Registry) (position : Nat) (s : Signature) : Except LoadError Unit := do
  s.check position
  if (r.lookup s.name).isSome then .error (.duplicate s.name) else .ok ()

lemma loadFrom_cons (r : Registry) (position : Nat) (s : Signature) (rest : List Signature) :
    r.loadFrom position (s :: rest) =
      examine r position s >>= fun _ => (r.add s).loadFrom (position + 1) rest := by
  rw [loadFrom, examine]
  cases s.check position with
  | error e => rfl
  | ok _ => cases (r.lookup s.name).isSome <;> rfl

lemma foldl_add (r : Registry) (signatures : List Signature) :
    (signatures.foldl Registry.add r).entries =
      r.entries ++ signatures.map fun s => (lowercase s.name, s) := by
  induction signatures generalizing r with
  | nil => simp
  | cons s rest ih => rw [List.foldl_cons, ih, Registry.add, List.map_cons, List.append_assoc]; rfl

lemma entries_ofList (signatures : List Signature) :
    (ofList signatures).entries = signatures.map fun s => (lowercase s.name, s) :=
  foldl_add .empty signatures

lemma isSome_lookup_ofList_iff {signatures : List Signature} {query : String} :
    ((ofList signatures).lookup query).isSome = true ↔
      ∃ s ∈ signatures, lowercase s.name = lowercase query := by
  rw [Registry.lookup, entries_ofList, ← not_iff_not, Bool.not_eq_true, Option.isSome_eq_false_iff,
    Option.isNone_iff_eq_none, List.lookup_eq_none_iff, List.forall_mem_map]
  simp only [bne_iff_ne, ne_eq, not_exists, not_and]
  exact forall₂_congr fun s _ => not_congr eq_comm

lemma examine_eq_ok_iff (earlier : List Signature) (position : Nat) (s : Signature) :
    examine (ofList earlier) position s = .ok () ↔
      Loadable s ∧ ∀ other ∈ earlier, lowercase other.name ≠ lowercase s.name := by
  have hnew : ¬((ofList earlier).lookup s.name).isSome = true ↔
      ∀ other ∈ earlier, lowercase other.name ≠ lowercase s.name := by
    rw [isSome_lookup_ofList_iff]
    simp only [not_exists, not_and, ne_eq]
  rw [loadable_iff_wellFormed, ← check_eq_ok_iff s position, ← hnew, examine, bind_eq_ok_iff]
  constructor
  · rintro ⟨⟨⟩, hcheck, hlookup⟩
    exact ⟨hcheck, fun hold => by simp [hold] at hlookup⟩
  · rintro ⟨hcheck, hnone⟩
    exact ⟨(), hcheck, if_neg hnone⟩

lemma refusal_of_examine {earlier : List Signature} {s : Signature} {e : LoadError}
    (h : examine (ofList earlier) earlier.length s = .error e) : Refusal earlier s e := by
  rw [examine, bind_eq_error_iff] at h
  rcases h with hcheck | ⟨⟨⟩, hcheck, hnew⟩
  · rw [Signature.check] at hcheck
    split at hcheck
    · rename_i hname
      cases hcheck
      exact .emptyName hname
    · rename_i hname
      cases hrepeat : Signature.firstRepeat [] (s.attributes.map (·.name)) with
      | some attr =>
        simp only [hrepeat, Except.error.injEq] at hcheck
        obtain ⟨before, after, hsplit, hdistinct, -, hrepeated⟩ := firstRepeat_eq_some_iff.1 hrepeat
        exact hcheck ▸ .duplicateAttribute hname before after attr hsplit hdistinct
          (hrepeated.resolve_right List.not_mem_nil)
      | none =>
        have hdistinct := ((firstRepeat_eq_none_iff _ _).1 hrepeat).1
        cases hbad : s.badReference? with
        | none => simp [hrepeat, hbad] at hcheck
        | some e' =>
          simp only [hrepeat, hbad, Except.error.injEq] at hcheck
          obtain ⟨before, a, attr, kind, after, hsplit, hmet, hunmet, rfl⟩ :=
            badReference?_eq_some_iff.1 hbad
          refine hcheck ▸ .reference hname hdistinct before after a attr kind hsplit
            (fun ref href => (declares_iff hdistinct _ _).1 (hmet ref href)) ?_
          rw [← declares_iff hdistinct, hunmet]
          exact Bool.false_ne_true
  · split at hnew
    · rename_i hold
      cases hnew
      obtain ⟨other, hmem, hsame⟩ := isSome_lookup_ofList_iff.1 hold
      exact .duplicate ((loadable_iff_wellFormed s).2 ((check_eq_ok_iff s _).1 hcheck)) other hmem
        hsame
    · cases hnew

lemma examine_of_refusal {earlier : List Signature} {s : Signature} {e : LoadError}
    (h : Refusal earlier s e) : examine (ofList earlier) earlier.length s = .error e := by
  cases h with
  | emptyName unnamed =>
    simp only [examine, Signature.check, unnamed, if_true, error_bind]
  | duplicateAttribute named before after attr split distinct repeated =>
    have hrepeat : Signature.firstRepeat [] (s.attributes.map (·.name)) = some attr :=
      firstRepeat_eq_some_iff.2 ⟨before, after, split, distinct, by simp, .inl repeated⟩
    simp only [examine, Signature.check, named, if_false, hrepeat, error_bind]
  | reference named distinct before after a attr kind split met unmet =>
    have hrepeat : Signature.firstRepeat [] (s.attributes.map (·.name)) = none :=
      (firstRepeat_eq_none_iff _ _).2 ⟨distinct, by simp⟩
    have hbad : s.badReference? = some (.reference s.name a.name attr kind) := by
      refine badReference?_eq_some_iff.2 ⟨before, a, attr, kind, after, split,
        fun ref href => (declares_iff distinct _ _).2 (met ref href), ?_, rfl⟩
      rwa [← Bool.not_eq_true, declares_iff distinct]
    simp only [examine, Signature.check, named, if_false, hrepeat, hbad, error_bind]
  | duplicate loadable other mem same =>
    have hcheck : s.check earlier.length = .ok () :=
      (check_eq_ok_iff s _).2 ((loadable_iff_wellFormed s).1 loadable)
    have hold : ((ofList earlier).lookup s.name).isSome = true :=
      isSome_lookup_ofList_iff.2 ⟨other, mem, same⟩
    simp only [examine, hcheck, ok_bind, hold, if_true]

theorem examine_eq_error_iff {earlier : List Signature} {s : Signature} {e : LoadError} :
    examine (ofList earlier) earlier.length s = .error e ↔ Refusal earlier s e :=
  ⟨refusal_of_examine, examine_of_refusal⟩

/-! ### Whole sequences -/

/-- The registry so far and the position of the next signature, after one more signature. -/
def loadStep (state : Registry × Nat) (s : Signature) : Registry × Nat :=
  (state.1.add s, state.2 + 1)

lemma foldl_loadStep (signatures : List Signature) :
    signatures.foldl loadStep (.empty, 0) = (ofList signatures, signatures.length) := by
  induction signatures using List.reverseRecOn with
  | nil => rfl
  | append_singleton signatures s ih =>
    rw [List.foldl_append, ih, List.length_append, ofList, ofList, List.foldl_append]
    rfl

lemma walk_loadFrom : Walk (fun (state : Registry × Nat) => state.1.loadFrom state.2) loadStep
    (fun state s e => examine state.1 state.2 s = .error e) Prod.fst where
  nil _ := rfl
  cons state s rest := by
    simp only [loadFrom_cons]
    cases examine state.1 state.2 s with
    | error e => exact .inl ⟨e, fun e' => by simp [eq_comm], rfl⟩
    | ok _ => exact .inr ⟨by simp, rfl⟩

theorem load_eq_ok_iff {signatures : List Signature} {r : Registry} :
    outcome (load signatures) = .ok r ↔ Clean Refusal signatures ∧ r = ofList signatures := by
  rw [outcome_load, walk_loadFrom.eq_ok_iff (.empty, 0)]
  simp only [foldl_loadStep, examine_eq_error_iff]

theorem load_eq_error_iff {signatures : List Signature} {e : LoadError} :
    outcome (load signatures) = .error e ↔ FirstOffence Refusal signatures e := by
  rw [outcome_load, walk_loadFrom.eq_error_iff (.empty, 0)]
  simp only [foldl_loadStep, examine_eq_error_iff]

/-- A relation holds between all items and the later ones if it holds, wherever the list is split,
between those before the split and the one behind it. -/
lemma pairwise_iff_forall_split {α : Type} {R : α → α → Prop} {items : List α} :
    items.Pairwise R ↔
      ∀ before item after, items = before ++ item :: after → ∀ other ∈ before, R other item := by
  constructor
  · rintro h before item after rfl other hother
    exact (List.pairwise_append.1 h).2.2 other hother item List.mem_cons_self
  · intro h
    -- The condition speaks of what stands before an item, so items are taken off at the end.
    induction items using List.reverseRecOn with
    | nil => exact .nil
    | append_singleton items last ih =>
      have hitems : items.Pairwise R := ih fun before item after hsplit =>
        h before item (after ++ [last]) (by rw [hsplit, List.append_assoc, List.cons_append])
      refine List.pairwise_append.2 ⟨hitems, List.pairwise_singleton R last, ?_⟩
      intro other hother x hx
      rw [List.mem_singleton] at hx
      exact hx ▸ h items last [] rfl other hother

theorem clean_refusal_iff (signatures : List Signature) : Clean Refusal signatures ↔
    (∀ s ∈ signatures, Loadable s) ∧ (signatures.map fun s => lowercase s.name).Nodup := by
  have hitem : ∀ earlier s, (∀ e, ¬Refusal earlier s e) ↔
      Loadable s ∧ ∀ other ∈ earlier, lowercase other.name ≠ lowercase s.name := by
    intro earlier s
    simp only [← examine_eq_error_iff, ← examine_eq_ok_iff earlier earlier.length]
    cases examine (ofList earlier) earlier.length s <;> simp
  rw [List.Nodup, List.pairwise_map, pairwise_iff_forall_split]
  simp only [Clean, hitem]
  constructor
  · intro h
    refine ⟨fun s hs => ?_, fun before s after hsplit => (h before s after hsplit).2⟩
    obtain ⟨before, after, hsplit⟩ := List.append_of_mem hs
    exact (h before s after hsplit).1
  · rintro ⟨hloadable, hdistinct⟩ before s after hsplit
    exact ⟨hloadable s (by simp [hsplit]), hdistinct before s after hsplit⟩

lemma lookup_map_eq_some_iff {α : Type} {key : α → String} {items : List α}
    (h : (items.map key).Nodup) {query : String} {x : α} :
    (items.map fun item => (key item, item)).lookup query = some x ↔ x ∈ items ∧ key x = query := by
  induction items with
  | nil => simp
  | cons item rest ih =>
    rw [List.map_cons, List.nodup_cons] at h
    rw [List.map_cons, List.lookup_cons, List.mem_cons]
    by_cases hkey : query = key item
    · have hrest : ∀ other ∈ rest, key other ≠ query := fun other hother he =>
        h.1 (List.mem_map.2 ⟨other, hother, he.trans hkey⟩)
      simp only [beq_iff_eq.2 hkey, Option.some.injEq]
      constructor
      · rintro rfl
        exact ⟨.inl rfl, hkey.symm⟩
      · rintro ⟨rfl | hx, he⟩
        · rfl
        · exact absurd he (hrest x hx)
    · simp only [beq_eq_false_iff_ne.2 hkey, ih h.2]
      constructor
      · exact fun ⟨hx, he⟩ => ⟨.inr hx, he⟩
      · rintro ⟨rfl | hx, he⟩
        · exact absurd he.symm hkey
        · exact ⟨hx, he⟩

lemma lookup_ofList_eq_some_iff {signatures : List Signature}
    (h : (signatures.map fun s => lowercase s.name).Nodup) {query : String} {s : Signature} :
    (ofList signatures).lookup query = some s ↔
      s ∈ signatures ∧ lowercase s.name = lowercase query := by
  rw [Registry.lookup, entries_ofList]
  exact lookup_map_eq_some_iff h

/-- What loading a sequence of signatures does, also from records that may not decode. -/
structure LoadingLaws (signatures : List Signature) : Prop where
  loads : (∃ r, outcome (load signatures) = .ok r) ↔
    (∀ s ∈ signatures, Loadable s) ∧ (signatures.map fun s => lowercase s.name).Nodup
  size : ∀ r, outcome (load signatures) = .ok r → r.size = signatures.length
  lookup : ∀ r, outcome (load signatures) = .ok r → ∀ query s,
    r.lookup query = some s ↔ s ∈ signatures ∧ lowercase s.name = lowercase query
  refused : ∀ e, outcome (load signatures) = .error e ↔ ∃ before s after,
    signatures = before ++ s :: after ∧ (∃ r, outcome (load before) = .ok r) ∧
      outcome (load (before ++ [s])) = .error e ∧ Refusal before s e
  undecodable : ∀ text after, outcome (loadDecoded (signatures.map .ok ++ .error text :: after)) =
    .error (.undecodable text)
  decoded : loadDecoded (signatures.map .ok) = load signatures

/-- Every sequence of signatures is loaded as a whole and without loss, or refused for the first
signature that cannot be loaded behind those before it. -/
theorem loadingLaws (signatures : List Signature) : LoadingLaws signatures := by
  have hloads : ∀ signatures, (∃ r, outcome (load signatures) = .ok r) ↔
      Clean Refusal signatures := by
    intro signatures
    simp only [load_eq_ok_iff, exists_and_left, exists_eq, and_true]
  refine ⟨(hloads signatures).trans (clean_refusal_iff signatures), fun r hr => ?_,
    fun r hr query s => ?_, fun e => ?_, fun text after => ?_, ?_⟩
  · obtain ⟨-, rfl⟩ := load_eq_ok_iff.1 hr
    rw [Registry.size, entries_ofList, List.length_map]
  · obtain ⟨hclean, rfl⟩ := load_eq_ok_iff.1 hr
    exact lookup_ofList_eq_some_iff ((clean_refusal_iff signatures).1 hclean).2
  · rw [load_eq_error_iff]
    constructor
    · rintro ⟨before, s, after, hsplit, hclean, hrefused⟩
      exact ⟨before, s, after, hsplit, (hloads before).2 hclean,
        load_eq_error_iff.2 ⟨before, s, [], rfl, hclean, hrefused⟩, hrefused⟩
    · rintro ⟨before, s, after, hsplit, hloaded, -, hrefused⟩
      exact ⟨before, s, after, hsplit, (hloads before).1 hloaded, hrefused⟩
  · have hfirst : (signatures.map .ok ++ .error text :: after : List (Except String Signature)).mapM
        id = .error text := by
      refine mapM_eq_error_iff.2 ⟨signatures.map .ok, .error text, after, rfl, ?_, rfl⟩
      exact clean_iff_forall.2 (List.forall_mem_map.2 fun s _ e he => by cases he)
    rw [loadDecoded, hfirst]
    rfl
  · have hall : (signatures.map .ok : List (Except String Signature)).mapM id = .ok signatures :=
      mapM_eq_ok_iff.2 (List.forall₂_map_left_iff.2 (List.forall₂_same.2 fun s _ => rfl))
    rw [loadDecoded, hall]

end TensorGraph.Proofs
