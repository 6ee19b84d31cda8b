import Mathlib
import TensorGraph.Attribute.Encoded
import TensorGraph.Proofs.Outcome

/-!
# Outcomes of encoding

Encoding fails for want of an encoding, for want of a writer, or because the value does not fit. The
encodings that go with attribute names all have writers, and so has the one that a declared type
implies.
-/

namespace TensorGraph.Proofs
open TensorGraph.Attribute

theorem outcome_encode (attr : String) (setting : Setting) (declared : Option Kind) :
    outcome (encode attr setting declared) =
      match resolve attr setting declared with
      | .error e => .error e
      | .ok (encoding, _) =>
        if encoding.isSupported then
          match encoding.represent? setting.value with
          | some e => .ok e
          | none => .error (.mismatch attr encoding setting.value.form)
        else .error (.unsupported attr encoding) := by
  unfold encode
  rw [outcome_bind, outcome_ofExcept]
  cases resolve attr setting declared with
  | error e => rfl
  | ok found =>
    obtain ⟨encoding, rule⟩ := found
    rw [ok_bind, outcome_bind, outcome_liftM, ok_bind]
    by_cases hsupported : encoding.isSupported = true
    · cases hrepresent : encoding.represent? setting.value <;> simp [hsupported, hrepresent]
    · simp [hsupported]

/-- An explicit encoding is used whatever the attribute is called and declared as. -/
lemma outcome_encode_explicit (attr : String) (value : Value) {encoding : Encoding}
    (h : encoding.isSupported = true) (declared : Option Kind) :
    outcome (encode attr ⟨value, some encoding⟩ declared) =
      match encoding.represent? value with
      | some e => .ok e
      | none => .error (.mismatch attr encoding value.form) := by
  have hresolve : resolve attr ⟨value, some encoding⟩ declared = .ok (encoding, .explicit) := rfl
  cases hrepresent : encoding.represent? value <;>
    simp only [outcome_encode, hresolve, h, hrepresent, if_true]

theorem encode_eq_ok {attr : String} {setting : Setting} {declared : Option Kind} {e : Encoded}
    (h : outcome (encode attr setting declared) = .ok e) :
    ∃ encoding rule, resolve attr setting declared = .ok (encoding, rule) ∧
      encoding.isSupported = true ∧ encoding.represent? setting.value = some e := by
  rw [outcome_encode] at h
  split at h
  · cases h
  · rename_i encoding rule hresolve
    split at h
    · rename_i hsupported
      split at h
      · rename_i e' hrepresent
        cases h
        exact ⟨encoding, rule, hresolve, hsupported, hrepresent⟩
      · cases h
    · cases h

lemma ofAttribute?_eq_some_iff {attr : String} {encoding : Encoding} :
    Encoding.ofAttribute? attr = some encoding ↔ (attr, encoding) ∈ Encoding.overrides := by
  constructor
  · intro h
    obtain ⟨l₁, l₂, hsplit, -⟩ := List.lookup_eq_some_iff.1 h
    simp [hsplit]
  · intro h
    have hall : ∀ entry ∈ Encoding.overrides,
        Encoding.ofAttribute? entry.1 = some entry.2 := by decide
    exact hall _ h

lemma isSupported_of_ofAttribute? {attr : String} {encoding : Encoding}
    (h : Encoding.ofAttribute? attr = some encoding) : encoding.isSupported = true := by
  have hall : ∀ entry ∈ Encoding.overrides, entry.2.isSupported = true := by decide
  exact hall _ (ofAttribute?_eq_some_iff.1 h)

lemma resolve_type (attr : String) (value : Value) :
    ∃ encoding rule, resolve attr ⟨value, none⟩ (some .type) = .ok (encoding, rule) ∧
      encoding.isSupported = true := by
  cases h : Encoding.ofAttribute? attr with
  | some encoding =>
    exact ⟨encoding, .nameOverride, by simp [resolve, h], isSupported_of_ofAttribute? h⟩
  | none => exact ⟨.type, .declared, by simp [resolve, h, Encoding.ofKind?], rfl⟩

end TensorGraph.Proofs
