import Mathlib

/-!
# Digits

The digits of a number are written from the first one that is not zero on, and the number is read
back from them.
-/

namespace TensorGraph.Proofs

/-- By induction on the number: all its digits but the last are those of its quotient. -/
lemma exists_eq_digitChar {b : Nat} (hb : 1 < b) (n : Nat) {c : Char}
    (h : c ∈ Nat.toDigits b n) : ∃ d < b, c = d.digitChar := by
  induction n using Nat.strong_induction_on with
  | _ n ih =>
    rw [Nat.toDigits_eq_if hb] at h
    split at h
    · rename_i hn
      exact ⟨n, hn, List.mem_singleton.1 h⟩
    · rename_i hn
      rcases List.mem_append.1 h with hfront | hlast
      · exact ih (n / b) (Nat.div_lt_self (by omega) hb) hfront
      · exact ⟨n % b, Nat.mod_lt n (by omega), List.mem_singleton.1 hlast⟩

lemma isDigit_digitChar {d : Nat} (hd : d < 10) : d.digitChar.isDigit = true := by
  interval_cases d <;> rfl

lemma toNat_digitChar {d : Nat} (hd : d < 10) : d.digitChar.toNat - '0'.toNat = d := by
  interval_cases d <;> rfl

lemma eq_zero_of_digitChar {d : Nat} (hd : d < 10) (h : d.digitChar = '0') : d = 0 := by
  have hvalue := toNat_digitChar hd
  rw [h] at hvalue
  exact hvalue.symm

lemma eq_zero_of_head?_toDigits {n : Nat} (h : (Nat.toDigits 10 n).head? = some '0') : n = 0 := by
  induction n using Nat.strong_induction_on with
  | _ n ih =>
    rw [Nat.toDigits_eq_if (by decide)] at h
    split at h
    · rename_i hn
      exact eq_zero_of_digitChar hn (Option.some.inj h)
    · rename_i hn
      rw [List.head?_append_of_ne_nil _ Nat.toDigits_ne_nil] at h
      have hquotient := ih (n / 10) (by omega) h
      omega

/-- The text is a minus sign, if the integer is negative, and digits that read as its size. The first
of several digits is not zero. -/
def SpellsInteger (v : Int) (text : String) : Prop :=
  ∃ digits, text = (if v < 0 then "-" else "") ++ String.ofList digits ∧ digits ≠ [] ∧
    (∀ c ∈ digits, c.isDigit = true) ∧ (digits.head? = some '0' → digits = ['0']) ∧
    Nat.ofDigitChars 10 digits 0 = v.natAbs

lemma toString_eq_sign_append (v : Int) : toString v =
    (if v < 0 then "-" else "") ++ String.ofList (Nat.toDigits 10 v.natAbs) := by
  rw [← Nat.repr_eq_ofList_toDigits]
  cases v with
  | ofNat n =>
    have hsign : ¬Int.ofNat n < 0 := Int.not_lt.2 (Int.natCast_nonneg n)
    rw [if_neg hsign, String.empty_append]
    rfl
  | negSucc n =>
    rw [if_pos (Int.negSucc_lt_zero n)]
    rfl

theorem spellsInteger_toString (v : Int) : SpellsInteger v (toString v) := by
  refine ⟨_, toString_eq_sign_append v, Nat.toDigits_ne_nil, fun c hc => ?_, fun hzero => ?_,
    Nat.ofDigitChars_toDigits (by decide) (by decide)⟩
  · exact Nat.isDigit_of_mem_toDigits (by decide) (by decide) hc
  · rw [eq_zero_of_head?_toDigits hzero]
    rfl

/-- The digits behind the first one of `10 ^ places + r` are those of `r`, filled up with zeros. -/
lemma exists_toDigits (places : Nat) {r : Nat} (hr : r < 10 ^ places) :
    ∃ fraction, Nat.toDigits 10 (10 ^ places + r) = '1' :: fraction ∧ fraction.length = places ∧
      ∀ init, Nat.ofDigitChars 10 fraction init = 10 ^ places * init + r := by
  induction places generalizing r with
  | zero =>
    obtain rfl : r = 0 := Nat.lt_one_iff.1 hr
    exact ⟨[], rfl, rfl, fun init => by simp [Nat.ofDigitChars]⟩
  | succ places ih =>
    have hpow : 10 ^ (places + 1) = 10 * 10 ^ places := Nat.pow_succ'
    have hpos : 0 < 10 ^ places := by positivity
    obtain ⟨fraction, hdigits, hlength, hvalue⟩ := ih (r := r / 10) (by omega)
    have hlast : (10 ^ (places + 1) + r) % 10 = r % 10 := by omega
    have hrest : (10 ^ (places + 1) + r) / 10 = 10 ^ places + r / 10 := by omega
    have hsmall : r % 10 < 10 := Nat.mod_lt r (by decide)
    refine ⟨fraction ++ [(r % 10).digitChar], ?_, by simp [hlength], fun init => ?_⟩
    · rw [Nat.toDigits_of_base_le (by decide) (by omega), hrest, hlast, hdigits, List.cons_append]
    · rw [Nat.ofDigitChars_append, hvalue, Nat.ofDigitChars_cons, toNat_digitChar hsmall]
      simp only [Nat.ofDigitChars, List.foldl_nil]
      rw [hpow, Nat.mul_assoc]
      omega

end TensorGraph.Proofs
