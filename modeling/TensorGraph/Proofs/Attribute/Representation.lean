import Mathlib
import TensorGraph.Proofs.Attribute.Encode
import TensorGraph.Proofs.Binary.Quiet
import TensorGraph.Proofs.Tensor.Construction

/-!
# Which values are encoded

An attribute is encoded exactly if an encoding is decided for it, the encoding has a writer, and the
value can be represented in it. The encoded attribute then holds the value, item by item, and the
lengths of what it holds. It is represented by itself when it is given again.
-/

namespace TensorGraph.Proofs
open TensorGraph.Attribute

/-! ### The encoding that is decided -/

/-- The kind that an operation declares for an attribute with the encoding. -/
def kindOf : Encoding → Kind
  | .string => .string
  | .stringList => .stringList
  | .int32 | .int64 => .int
  | .int32List | .int64List => .intList
  | .float32 => .float
  | .float32List => .floatList
  | .type => .type
  | .tensor => .tensor
  | .bool => .bool
  | .shape => .shape
  | .func => .func

/-- A tag decides the encoding. Without one the name does, and otherwise the declared kind, but only
if a single encoding has that kind. -/
inductive Decides (attr : String) : Option Encoding → Option Kind → Encoding → Prop where
  | tag (encoding : Encoding) (declared : Option Kind) :
    Decides attr (some encoding) declared encoding
  | name {encoding : Encoding} (declared : Option Kind)
    (listed : (attr, encoding) ∈ Encoding.overrides) : Decides attr none declared encoding
  | kind {encoding : Encoding} (unlisted : ∀ other, (attr, other) ∉ Encoding.overrides)
    (single : ∀ other, kindOf other = kindOf encoding → other = encoding) :
    Decides attr none (some (kindOf encoding)) encoding

lemma kindOf_of_ofKind? {kind : Kind} {encoding : Encoding}
    (h : Encoding.ofKind? kind = some encoding) : kindOf encoding = kind := by
  cases kind <;> cases h <;> rfl

lemma eq_of_ofKind?_kindOf {encoding other : Encoding}
    (h : Encoding.ofKind? (kindOf other) = some encoding) : other = encoding := by
  cases other <;> cases h <;> rfl

lemma ofKind?_kindOf {encoding : Encoding}
    (h : ∀ other, kindOf other = kindOf encoding → other = encoding) :
    Encoding.ofKind? (kindOf encoding) = some encoding := by
  cases encoding
  -- Each of the two widths of an integer is an encoding besides the other.
  case int32 => exact absurd (h .int64 rfl) (by decide)
  case int64 => exact absurd (h .int32 rfl) (by decide)
  case int32List => exact absurd (h .int64List rfl) (by decide)
  case int64List => exact absurd (h .int32List rfl) (by decide)
  all_goals rfl

section Decides

variable {attr : String} {value : Value} {tag : Option Encoding} {declared : Option Kind}
  {encoding : Encoding}

lemma decides_of_resolve {rule : Rule}
    (h : resolve attr ⟨value, tag⟩ declared = .ok (encoding, rule)) :
    Decides attr tag declared encoding := by
  unfold resolve at h
  split at h
  case h_1 htag =>
    cases h
    subst htag
    exact .tag _ _
  case h_2 htag hname =>
    cases h
    subst htag
    exact .name _ (ofAttribute?_eq_some_iff.1 hname)
  case h_3 htag hname hkind =>
    cases h
    subst htag
    obtain ⟨kind, rfl, hkind⟩ := Option.bind_eq_some_iff.1 hkind
    obtain rfl := kindOf_of_ofKind? hkind
    apply Decides.kind
    · intro other hlisted
      rw [ofAttribute?_eq_some_iff.2 hlisted] at hname
      cases hname
    · intro other hother
      exact eq_of_ofKind?_kindOf (hother ▸ hkind)
  case h_4 => cases h

lemma resolve_of_decides (value : Value) (h : Decides attr tag declared encoding) :
    ∃ rule, resolve attr ⟨value, tag⟩ declared = .ok (encoding, rule) := by
  cases h with
  | tag => exact ⟨.explicit, rfl⟩
  | name _ listed =>
    exact ⟨.nameOverride, by simp only [resolve, ofAttribute?_eq_some_iff.2 listed]⟩
  | kind unlisted single =>
    have hname : Encoding.ofAttribute? attr = none := by
      rw [Option.eq_none_iff_forall_ne_some]
      exact fun other hother => unlisted other (ofAttribute?_eq_some_iff.1 hother)
    exact ⟨.declared, by simp only [resolve, hname, Option.bind_some, ofKind?_kindOf single]⟩

lemma exists_resolve_eq_ok_iff (value : Value) :
    (∃ rule, resolve attr ⟨value, tag⟩ declared = .ok (encoding, rule)) ↔
      Decides attr tag declared encoding := by
  constructor
  · rintro ⟨rule, h⟩
    exact decides_of_resolve h
  · exact resolve_of_decides value

lemma Decides.unique {other : Encoding} (h : Decides attr tag declared encoding)
    (hother : Decides attr tag declared other) : encoding = other := by
  obtain ⟨rule, hresolve⟩ := resolve_of_decides (.boolean true) h
  obtain ⟨rule', hresolve'⟩ := resolve_of_decides (.boolean true) hother
  rw [hresolve] at hresolve'
  cases hresolve'
  rfl

lemma eq_unresolved_of_resolve {setting : Setting} {e : EncodeError}
    (h : resolve attr setting declared = .error e) : e = .unresolved attr := by
  unfold resolve at h
  split at h <;> cases h
  rfl

lemma resolve_eq_error_iff (value : Value) (e : EncodeError) :
    resolve attr ⟨value, tag⟩ declared = .error e ↔
      e = .unresolved attr ∧ ∀ encoding, ¬Decides attr tag declared encoding := by
  simp only [← exists_resolve_eq_ok_iff value]
  constructor
  · intro h
    refine ⟨eq_unresolved_of_resolve h, ?_⟩
    rintro encoding ⟨rule, hok⟩
    rw [h] at hok
    cases hok
  · rintro ⟨rfl, hnone⟩
    cases hresolve : resolve attr ⟨value, tag⟩ declared with
    | error e => rw [eq_unresolved_of_resolve hresolve]
    | ok found => exact absurd ⟨found.2, hresolve⟩ (hnone found.1)

end Decides

/-! ### Values that can be represented -/

/-- The encoding has room for the value. Integers are represented only as they are, and reals in
single precision unless they overflow. -/
def Representable : Encoding → Value → Prop
  | .string, .string _ => True
  | .stringList, .strings _ => True
  | .int32, .integer v => Fits .int32 (.integer v)
  | .int32List, .integers vs => ∀ v ∈ vs, Fits .int32 (.integer v)
  | .int64, .integer _ => True
  | .int64List, .integers _ => True
  | .float32, .integer v => Fits .float32 (.integer v)
  | .float32List, .integers vs => ∀ v ∈ vs, Fits .float32 (.integer v)
  | .float32, .real x => Fits .float32 (.real x)
  | .float32List, .reals xs => ∀ x ∈ xs, Fits .float32 (.real x)
  | .type, .type _ => True
  | .type, .integer v => ∃ t : ElementType, t.wireId = v.toInt
  | .tensor, .tensor _ => True
  | _, _ => False

/-- The encoded attribute holds the value. Integers stand for themselves in whatever format they are
written, and the items of a list for the items in the same places. A list of texts is recorded with
the length of each, and any other list with the number of its items. -/
inductive Represents : Value → Encoded → Prop where
  | string (s : String) : Represents (.string s) (.string s)
  | stringList (ss : List String) :
    Represents (.strings ss) (.stringList ss (ss.map String.utf8ByteSize))
  | int32 {v : Int64} {w : Int32} (same : w.toInt = v.toInt) : Represents (.integer v) (.int32 w)
  | int32List {vs : List Int64} {ws : List Int32}
    (same : List.Forall₂ (fun v w => w.toInt = v.toInt) vs ws) :
    Represents (.integers vs) (.int32List ws vs.length)
  | int64 (v : Int64) : Represents (.integer v) (.int64 v)
  | int64List (vs : List Int64) : Represents (.integers vs) (.int64List vs vs.length)
  | exact {v : Int64} {x : Binary32} (same : reading x = readingOfInt v.toInt) :
    Represents (.integer v) (.float32 x)
  | exactList {vs : List Int64} {xs : List Binary32}
    (same : List.Forall₂ (fun v x => reading x = readingOfInt v.toInt) vs xs) :
    Represents (.integers vs) (.float32List xs vs.length)
  | rounded (x : Binary64) : Represents (.real x) (.float32 (x.round .single))
  | roundedList {xs : List Binary64} {ys : List Binary32}
    (rounded : List.Forall₂ (fun x y => y = x.round .single) xs ys) :
    Represents (.reals xs) (.float32List ys xs.length)
  | type (t : ElementType) : Represents (.type t) (.type t)
  | wireId {v : Int64} {t : ElementType} (same : t.wireId = v.toInt) :
    Represents (.integer v) (.type t)
  | tensor (t : Tensor) : Represents (.tensor t) (.tensor t)

lemma toInt_of_toInt32? {v : Int64} {w : Int32} (h : toInt32? v = some w) : w.toInt = v.toInt := by
  rw [← toInt64_of_toInt32? h, Int32.toInt_toInt64]

/-- No type has a number that is too long for a short word, so whether or not the length is checked
first makes no difference to what is found under a number. -/
lemma bind_ofWireId? (v : Int64) :
    ((toInt32? v).bind fun id => ElementType.ofWireId? id.toInt) = ElementType.ofWireId? v.toInt := by
  cases hnarrow : toInt32? v with
  | some w => rw [Option.bind_some, toInt_of_toInt32? hnarrow]
  | none =>
    rw [Option.bind_none, eq_comm, Option.eq_none_iff_forall_ne_some]
    intro t ht
    have hid : (t.wireId : Int) = v.toInt := ElementType.ofWireId?_eq_some_iff.1 ht
    have hsmall : t.wireId < 2 ^ 31 := by cases t <;> decide
    have hfits : (toInt32? v).isSome = true := (isSome_toInt32?_iff v).2 (by omega)
    rw [hnarrow] at hfits
    cases hfits

lemma isSome_represent?_iff (encoding : Encoding) (value : Value) :
    (encoding.represent? value).isSome = true ↔ Representable encoding value := by
  cases encoding <;> cases value <;>
    simp only [Encoding.represent?, Representable, bind_ofWireId?, Option.isSome_map,
      isSome_mapM_iff, Option.isSome_some, Option.isSome_none, Bool.false_eq_true]
  case int32.integer v => exact isSome_store?_iff .int32 (.integer v)
  case int32List.integers vs => exact forall₂_congr fun v _ => isSome_store?_iff .int32 (.integer v)
  case float32.integer v => exact isSome_store?_iff .float32 (.integer v)
  case float32.real x => exact isSome_store?_iff .float32 (.real x)
  case float32List.integers vs =>
    exact forall₂_congr fun v _ => isSome_store?_iff .float32 (.integer v)
  case float32List.reals xs => exact forall₂_congr fun x _ => isSome_store?_iff .float32 (.real x)
  case type.integer v =>
    rw [Option.isSome_iff_exists]
    exact exists_congr fun t => ElementType.ofWireId?_eq_some_iff

lemma represents_of_represent? {encoding : Encoding} {value : Value} {e : Encoded}
    (h : encoding.represent? value = some e) : e.encoding = encoding ∧ Represents value e := by
  cases encoding <;> cases value <;>
    simp only [Encoding.represent?, bind_ofWireId?, Option.map_eq_some_iff, Option.some.injEq,
      reduceCtorEq] at h
  case string.string s =>
    subst h
    exact ⟨rfl, .string s⟩
  case stringList.strings ss =>
    subst h
    exact ⟨rfl, .stringList ss⟩
  case int32.integer v =>
    obtain ⟨w, hw, rfl⟩ := h
    exact ⟨rfl, .int32 (toInt_of_toInt32? hw)⟩
  case int32List.integers vs =>
    obtain ⟨ws, hws, rfl⟩ := h
    exact ⟨rfl, .int32List ((mapM_eq_some_iff.1 hws).imp fun _ _ => toInt_of_toInt32?)⟩
  case int64.integer v =>
    subst h
    exact ⟨rfl, .int64 v⟩
  case int64List.integers vs =>
    subst h
    exact ⟨rfl, .int64List vs⟩
  case float32.integer v =>
    obtain ⟨x, hx, rfl⟩ := h
    exact ⟨rfl, .exact (reading_of_toBinary? hx)⟩
  case float32.real x =>
    obtain ⟨y, hy, rfl⟩ := h
    obtain rfl := eq_round_of_toSingle? hy
    exact ⟨rfl, .rounded x⟩
  case float32List.integers vs =>
    obtain ⟨xs, hxs, rfl⟩ := h
    exact ⟨rfl, .exactList ((mapM_eq_some_iff.1 hxs).imp fun _ _ => reading_of_toBinary?)⟩
  case float32List.reals xs =>
    obtain ⟨ys, hys, rfl⟩ := h
    exact ⟨rfl, .roundedList ((mapM_eq_some_iff.1 hys).imp fun _ _ => eq_round_of_toSingle?)⟩
  case type.type t =>
    subst h
    exact ⟨rfl, .type t⟩
  case type.integer v =>
    obtain ⟨t, ht, rfl⟩ := h
    exact ⟨rfl, .wireId (ElementType.ofWireId?_eq_some_iff.1 ht)⟩
  case tensor.tensor t =>
    subst h
    exact ⟨rfl, .tensor t⟩

/-- The number of items in the value, if it is a list. -/
def items? : Value → Option Nat
  | .strings ss => some ss.length
  | .integers vs => some vs.length
  | .reals xs => some xs.length
  | _ => none

lemma Represents.count?_eq {value : Value} {e : Encoded} (h : Represents value e) :
    e.count? = items? value := by
  cases h <;> rfl

/-! ### Attributes that are given again -/

/-- The attribute is as encoding leaves it: the lengths that it records are those of its items, and
its singles are no NaNs, or quiet ones. -/
def Stable : Encoded → Prop
  | .stringList ss lengths => lengths = ss.map String.utf8ByteSize
  | .int32List vs length => length = vs.length
  | .int64List vs length => length = vs.length
  | .float32 x => Quiet x
  | .float32List xs length => length = xs.length ∧ ∀ x ∈ xs, Quiet x
  | .string _ | .int32 _ | .int64 _ | .type _ | .tensor _ => True

theorem Represents.stable {value : Value} {e : Encoded} (h : Represents value e) : Stable e := by
  cases h with
  | stringList => rfl
  | int32List same => exact same.length_eq
  | int64List => rfl
  | exact same => exact quiet_of_reading same
  | exactList same =>
    refine ⟨same.length_eq, fun x hx => ?_⟩
    obtain ⟨v, -, hv⟩ := exists_of_mem_right same x hx
    exact quiet_of_reading hv
  | rounded x => exact quiet_round .single x
  | roundedList rounded =>
    refine ⟨rounded.length_eq, fun y hy => ?_⟩
    obtain ⟨x, -, rfl⟩ := exists_of_mem_right rounded y hy
    exact quiet_round .single x
  | string | int32 | int64 | type | wireId | tensor => trivial

lemma stable_of_encode {attr : String} {setting : Setting} {declared : Option Kind} {e : Encoded}
    (h : outcome (encode attr setting declared) = .ok e) : Stable e := by
  obtain ⟨encoding, rule, -, -, hrepresent⟩ := encode_eq_ok h
  exact (represents_of_represent? hrepresent).2.stable

lemma mapM_map_eq_some {α β : Type} {f : α → β} {g : β → Option α} {as : List α}
    (h : ∀ a ∈ as, g (f a) = some a) : (as.map f).mapM g = some as := by
  rw [mapM_eq_some_iff, List.forall₂_map_left_iff]
  exact List.forall₂_same.2 h

/-- The value of a stable attribute is represented by the attribute itself, bit for bit. -/
theorem represent?_toValue {e : Encoded} (h : Stable e) :
    e.encoding.represent? e.toValue = some e := by
  cases e with
  | stringList ss lengths =>
    cases h
    rfl
  | int32 v =>
    simp only [Encoded.encoding, Encoded.toValue, Encoding.represent?, toInt32?_toInt64,
      Option.map_some]
  | int32List vs length =>
    cases h
    simp only [Encoded.encoding, Encoded.toValue, Encoding.represent?, List.length_map,
      mapM_map_eq_some fun v _ => toInt32?_toInt64 v, Option.map_some]
  | int64List vs length =>
    cases h
    rfl
  | float32 x =>
    simp only [Encoded.encoding, Encoded.toValue, Encoding.represent?, toSingle?_round h,
      Option.map_some]
  | float32List xs length =>
    obtain ⟨rfl, hquiet⟩ := h
    simp only [Encoded.encoding, Encoded.toValue, Encoding.represent?, List.length_map,
      mapM_map_eq_some fun x hx => toSingle?_round (hquiet x hx), Option.map_some]
  | string | int64 | type | tensor => rfl

/-! ### What comes of encoding -/

/-- The encodings that no value can be written in. -/
def unwritable : List Encoding := [.bool, .shape, .func]

lemma isSupported_iff {encoding : Encoding} :
    encoding.isSupported = true ↔ encoding ∉ unwritable := by
  cases encoding <;> decide

section Outcome

variable {attr : String} {value : Value} {tag : Option Encoding} {declared : Option Kind}

lemma encode_eq_ok_iff {e : Encoded} : outcome (encode attr ⟨value, tag⟩ declared) = .ok e ↔
    ∃ encoding, Decides attr tag declared encoding ∧ encoding ∉ unwritable ∧
      encoding.represent? value = some e := by
  simp only [← exists_resolve_eq_ok_iff value, ← isSupported_iff]
  constructor
  · intro h
    obtain ⟨encoding, rule, hresolve, hsupported, hrepresent⟩ := encode_eq_ok h
    exact ⟨encoding, ⟨rule, hresolve⟩, hsupported, hrepresent⟩
  · rintro ⟨encoding, ⟨rule, hresolve⟩, hsupported, hrepresent⟩
    simp only [outcome_encode, hresolve, hsupported, if_true, hrepresent]

lemma encode_eq_error_iff {e : EncodeError} :
    outcome (encode attr ⟨value, tag⟩ declared) = .error e ↔
      (e = .unresolved attr ∧ ∀ encoding, ¬Decides attr tag declared encoding) ∨
      ∃ encoding, Decides attr tag declared encoding ∧
        (encoding ∈ unwritable ∧ e = .unsupported attr encoding ∨
          encoding ∉ unwritable ∧ ¬Representable encoding value ∧
            e = .mismatch attr encoding value.form) := by
  rw [outcome_encode, ← resolve_eq_error_iff value]
  simp only [← exists_resolve_eq_ok_iff value, ← isSome_represent?_iff]
  cases resolve attr ⟨value, tag⟩ declared with
  | error e' => simp
  | ok found =>
    obtain ⟨encoding, rule⟩ := found
    by_cases hsupported : encoding.isSupported = true
    · have hwritable := isSupported_iff.1 hsupported
      cases hrepresent : encoding.represent? value with
      | some e' => simp [hsupported, hwritable, hrepresent]
      | none => simpa [hsupported, hwritable, hrepresent] using eq_comm
    · have hunwritable := not_not.1 (mt isSupported_iff.2 hsupported)
      simpa [hsupported, hunwritable] using eq_comm

end Outcome

/-- What an attempt to encode an attribute comes to. The encoding is the one that is decided, if any
is, and `result` is then fixed by whether the encoding can be written and has room for the value. -/
structure ExactEncoding (attr : String) (value : Value) (tag : Option Encoding)
    (declared : Option Kind) (result : Except EncodeError Encoded) : Prop where
  unique (encoding other : Encoding) : Decides attr tag declared encoding →
    Decides attr tag declared other → encoding = other
  unresolved (name : String) : result = .error (.unresolved name) ↔
    name = attr ∧ ∀ encoding, ¬Decides attr tag declared encoding
  unsupported (name : String) (encoding : Encoding) :
    result = .error (.unsupported name encoding) ↔
      name = attr ∧ Decides attr tag declared encoding ∧ encoding ∈ unwritable
  mismatch (name : String) (encoding : Encoding) (form : Value.Form) :
    result = .error (.mismatch name encoding form) ↔
      name = attr ∧ Decides attr tag declared encoding ∧ encoding ∉ unwritable ∧
        ¬Representable encoding value ∧ form = value.form
  encoded : (∃ e, result = .ok e) ↔ ∃ encoding, Decides attr tag declared encoding ∧
    encoding ∉ unwritable ∧ Representable encoding value
  held (e : Encoded) : result = .ok e → Decides attr tag declared e.encoding ∧
    Represents value e ∧ e.count? = items? value ∧
      ∀ ss, value = .strings ss → e.textLengths = ss.map String.utf8ByteSize

/-- Encoding is exact whatever an attribute is called, tagged and declared as. Integers that would
have to be cut off or rounded are refused, and so is an integer that is no element type's number. -/
theorem exactEncoding (attr : String) (value : Value) (tag : Option Encoding)
    (declared : Option Kind) : ExactEncoding attr value tag declared
      (outcome (encode attr ⟨value, tag⟩ declared)) where
  unique _ _ := Decides.unique
  unresolved name := by
    rw [encode_eq_error_iff]
    simp
  unsupported name encoding := by
    rw [encode_eq_error_iff]
    simp only [reduceCtorEq, false_and, and_false, false_or, or_false,
      EncodeError.unsupported.injEq]
    constructor
    · rintro ⟨_, hdecides, hunwritable, rfl, rfl⟩
      exact ⟨rfl, hdecides, hunwritable⟩
    · rintro ⟨rfl, hdecides, hunwritable⟩
      exact ⟨encoding, hdecides, hunwritable, rfl, rfl⟩
  mismatch name encoding form := by
    rw [encode_eq_error_iff]
    simp only [reduceCtorEq, false_and, and_false, false_or, EncodeError.mismatch.injEq]
    constructor
    · rintro ⟨_, hdecides, hwritable, hvalue, rfl, rfl, hform⟩
      exact ⟨rfl, hdecides, hwritable, hvalue, hform⟩
    · rintro ⟨rfl, hdecides, hwritable, hvalue, hform⟩
      exact ⟨encoding, hdecides, hwritable, hvalue, rfl, rfl, hform⟩
  encoded := by
    simp only [encode_eq_ok_iff, ← isSome_represent?_iff, Option.isSome_iff_exists]
    constructor
    · rintro ⟨e, encoding, hdecides, hwritable, he⟩
      exact ⟨encoding, hdecides, hwritable, e, he⟩
    · rintro ⟨encoding, hdecides, hwritable, e, he⟩
      exact ⟨e, encoding, hdecides, hwritable, he⟩
  held e h := by
    obtain ⟨encoding, hdecides, -, hrepresent⟩ := encode_eq_ok_iff.1 h
    obtain ⟨rfl, hrepresents⟩ := represents_of_represent? hrepresent
    refine ⟨hdecides, hrepresents, hrepresents.count?_eq, ?_⟩
    rintro ss rfl
    cases hrepresents
    rfl

/-- The number of an element type is not recovered from an integer that is too wide for it. -/
example : outcome (encode "dtype" ⟨.integer (2 ^ 32 + 3), none⟩ none) =
    .error (.mismatch "dtype" .type .integer) := rfl

end TensorGraph.Proofs
