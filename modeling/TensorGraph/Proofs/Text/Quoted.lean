import Mathlib
import TensorGraph.Proofs.Text.Digits
import TensorGraph.Text.Unquoted

/-!
# Quoted text

Each character is read back from its escape, whatever follows, and the text ends at the quote that
closes it. No character of a quoted text is hidden.
-/

namespace TensorGraph.Proofs
open Text

lemma unquoteFrom?_short {c d : Char} (hc : c ≠ 'u') (hd : ofShort? c = some d) (cs : List Char) :
    unquoteFrom? .none ('\\' :: c :: cs) =
      (unquoteFrom? .none cs).map fun (text, rest) => (d :: text, rest) := by
  have hescape : unquoteFrom? .none ('\\' :: c :: cs) = unquoteFrom? .backslash (c :: cs) := by
    simp [unquoteFrom?]
  rw [hescape, unquoteFrom?, if_neg hc, hd]
  cases unquoteFrom? .none cs <;> rfl

/-! ### Code points -/

lemma hexDigit?_digitChar {d : Nat} (hd : d < 16) : hexDigit? d.digitChar = some d := by
  interval_cases d <;> rfl

lemma digitChar_ne_brace {d : Nat} (hd : d < 16) : d.digitChar ≠ '\x7d' := by
  interval_cases d <;> decide

lemma unquoteFrom?_digit (point : Nat) {d : Nat} (hd : d < 16) (cs : List Char) :
    unquoteFrom? (.code point) (d.digitChar :: cs) =
      unquoteFrom? (.code (16 * point + d)) cs := by
  rw [unquoteFrom?, if_neg (digitChar_ne_brace hd), hexDigit?_digitChar hd]
  rfl

lemma unquoteFrom?_toDigits (n : Nat) (cs : List Char) :
    unquoteFrom? (.code 0) (Nat.toDigits 16 n ++ cs) = unquoteFrom? (.code n) cs := by
  induction n using Nat.strong_induction_on generalizing cs with
  | _ n ih =>
    by_cases hn : n < 16
    · rw [Nat.toDigits_of_lt_base hn, List.singleton_append, unquoteFrom?_digit 0 hn, Nat.mul_zero,
        Nat.zero_add]
    · have hlast : n % 16 < 16 := Nat.mod_lt n (by decide)
      rw [Nat.toDigits_of_base_le (by decide) (Nat.le_of_not_lt hn), List.append_assoc,
        ih (n / 16) (by omega), List.singleton_append, unquoteFrom?_digit _ hlast, Nat.div_add_mod]

lemma unquoteFrom?_code (c : Char) (cs : List Char) :
    unquoteFrom? .none ('\\' :: 'u' :: '\x7b' :: (Nat.toDigits 16 c.toNat ++ '\x7d' :: cs)) =
      (unquoteFrom? .none cs).map fun (text, rest) => (c :: text, rest) := by
  have hescape : unquoteFrom? .none
      ('\\' :: 'u' :: '\x7b' :: (Nat.toDigits 16 c.toNat ++ '\x7d' :: cs)) =
      unquoteFrom? (.code 0) (Nat.toDigits 16 c.toNat ++ '\x7d' :: cs) := by
    simp [unquoteFrom?]
  rw [hescape, unquoteFrom?_toDigits, unquoteFrom?, if_pos rfl, Char.ofNat_toNat]

/-! ### Texts -/

lemma unquoteFrom?_escape (c : Char) (cs : List Char) :
    unquoteFrom? .none ((escape c).toList ++ cs) =
      (unquoteFrom? .none cs).map fun (text, rest) => (c :: text, rest) := by
  unfold escape
  split
  case h_7 hquote hbackslash =>
    split
    · have hcode : ("\\u\x7b" ++ String.ofList (Nat.toDigits 16 c.toNat) ++ "\x7d").toList ++ cs =
          '\\' :: 'u' :: '\x7b' :: (Nat.toDigits 16 c.toNat ++ '\x7d' :: cs) := by
        simp
      rw [hcode, unquoteFrom?_code]
    · rw [Char.toString, String.toList_singleton, List.singleton_append, unquoteFrom?, if_neg hquote,
        if_neg hbackslash]
  all_goals exact unquoteFrom?_short (by decide) rfl cs

lemma unquoteFrom?_escapes (text cs : List Char) :
    unquoteFrom? .none ((String.join (text.map escape)).toList ++ '"' :: cs) = some (text, cs) := by
  induction text with
  | nil => rfl
  | cons c text ih =>
    have hjoin : (String.join ((c :: text).map escape)).toList =
        (escape c).toList ++ (String.join (text.map escape)).toList := by simp
    rw [hjoin, List.append_assoc, unquoteFrom?_escape, ih]
    rfl

/-- A quoted text is read back, whatever characters it has. -/
theorem unquote?_quote (s : String) : unquote? (quote s) = some s := by
  have hchars : (quote s).toList =
      '"' :: ((String.join (s.toList.map escape)).toList ++ ['"']) := by simp [quote]
  rw [unquote?, hchars]
  simp only [unquoteFrom?_escapes, String.ofList_toList]

/-! ### Hidden characters -/

lemma not_isHidden_digitChar {d : Nat} (hd : d < 16) : isHidden d.digitChar = false := by
  interval_cases d <;> decide +kernel

lemma not_isHidden_of_all {cs : List Char} (h : (cs.all fun c => !isHidden c) = true) {c : Char}
    (hc : c ∈ cs) : isHidden c = false := by
  simpa using List.all_eq_true.1 h c hc

lemma not_isHidden_of_mem_escape {c e : Char} (h : e ∈ (escape c).toList) : isHidden e = false := by
  unfold escape at h
  split at h
  case h_7 =>
    split at h
    · rw [String.toList_append, String.toList_append, List.mem_append, List.mem_append] at h
      rcases h with (hstart | hdigit) | hend
      · exact not_isHidden_of_all (by decide +kernel) hstart
      · rw [String.toList_ofList] at hdigit
        obtain ⟨d, hd, rfl⟩ := exists_eq_digitChar (by decide) _ hdigit
        exact not_isHidden_digitChar hd
      · exact not_isHidden_of_all (by decide +kernel) hend
    · rename_i hvisible
      rw [Char.toString, String.toList_singleton, List.mem_singleton] at h
      rw [h]
      exact Bool.eq_false_of_not_eq_true hvisible
  all_goals exact not_isHidden_of_all (by decide +kernel) h

/-- A quoted text shows all its characters, and so it stays on one line. -/
theorem not_isHidden_of_mem_quote {s : String} {e : Char} (h : e ∈ (quote s).toList) :
    isHidden e = false := by
  rw [quote, String.toList_append, String.toList_append, List.mem_append, List.mem_append,
    String.toList_join] at h
  rcases h with (hopening | hescaped) | hclosing
  · exact not_isHidden_of_all (by decide +kernel) hopening
  · simp only [List.mem_flatMap, List.mem_map] at hescaped
    obtain ⟨_, ⟨c, -, rfl⟩, he⟩ := hescaped
    exact not_isHidden_of_mem_escape he
  · exact not_isHidden_of_all (by decide +kernel) hclosing

/-- A combining accent is written by its code point. -/
example : quote "e\u0301\n" = "\"e\\u\x7b301\x7d\\n\"" := by decide +kernel

end TensorGraph.Proofs
