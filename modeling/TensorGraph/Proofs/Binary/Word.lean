import Mathlib
import TensorGraph.Binary.Basic

/-!
# Words of binary numbers

Below the sign bit a word tells a magnitude, up to infinity, or how far above infinity it lies. So
values and words determine each other, those of the NaNs included.
-/

namespace TensorGraph.Proofs

variable {f : Format}

lemma infinity_lt_signBit (f : Format) : f.infinity < f.signBit := by
  have hbinade := f.infinity_add_binade
  have hquiet := f.quietBit_add_quietBit
  have hpos := f.quietBit_pos
  omega

lemma signBit_pos (f : Format) : 0 < f.signBit := Nat.zero_lt_of_lt (infinity_lt_signBit f)

lemma magnitude_lt_signBit (i : Fin (f.infinity + 1)) : i.val < f.signBit :=
  (Nat.le_of_lt_succ i.isLt).trans_lt (infinity_lt_signBit f)

lemma payload_lt_signBit (p : f.Payload) : f.infinity + 1 + p.val < f.signBit := by
  have hbinade := f.infinity_add_binade
  have hp := p.isLt
  omega

section Split

variable {low : Nat} (h : low < f.signBit)
include h

lemma signed_mod (s : Bool) : ((if s then f.signBit else 0) + low) % f.signBit = low := by
  cases s with
  | false => simp [Nat.mod_eq_of_lt h]
  | true => simp [Nat.mod_eq_of_lt h]

lemma signed_div (s : Bool) : ((if s then f.signBit else 0) + low) / f.signBit = s.toNat := by
  cases s with
  | false => simp [Nat.div_eq_of_lt h]
  | true => simp [Nat.add_div_left _ (signBit_pos f), Nat.div_eq_of_lt h]

end Split

theorem ofWord_toWord (x : Binary f) : .ofWord f x.toWord = x := by
  cases x with
  | nan s p =>
    have hlow := payload_lt_signBit p
    have habove : ¬f.infinity + 1 + p.val ≤ f.infinity := by omega
    simp only [Binary.toWord, Binary.ofWord, signed_mod hlow, signed_div hlow, dif_neg habove,
      Nat.add_sub_cancel_left]
    cases s <;> rfl
  | number s i =>
    have hlow := magnitude_lt_signBit i
    simp only [Binary.toWord, Binary.ofWord, signed_mod hlow, signed_div hlow,
      dif_pos (Nat.le_of_lt_succ i.isLt)]
    cases s <;> rfl

theorem toWord_lt (x : Binary f) : x.toWord < 2 * f.signBit := by
  cases x with
  | nan s p =>
    have hlow := payload_lt_signBit p
    rw [Binary.toWord]
    split <;> omega
  | number s i =>
    have hlow := magnitude_lt_signBit i
    rw [Binary.toWord]
    split <;> omega

lemma signed_split {word : Nat} (hword : word < 2 * f.signBit) :
    (if word / f.signBit % 2 = 1 then f.signBit else 0) + word % f.signBit = word := by
  have hsplit := Nat.div_add_mod' word f.signBit
  have hsign : word / f.signBit < 2 := (Nat.div_lt_iff_lt_mul (signBit_pos f)).2 hword
  interval_cases word / f.signBit
  · simpa using hsplit
  · simpa using hsplit

/-- Every word is recovered from its value. -/
theorem toWord_ofWord {word : Nat} (hword : word < 2 * f.signBit) :
    (Binary.ofWord f word).toWord = word := by
  have hsplit := signed_split hword
  rw [Binary.ofWord]
  split
  · simpa only [Binary.toWord, decide_eq_true_eq] using hsplit
  · rename_i habove
    have hrest : f.infinity + 1 + (word % f.signBit - (f.infinity + 1)) = word % f.signBit := by
      omega
    simpa only [Binary.toWord, decide_eq_true_eq, hrest] using hsplit

end TensorGraph.Proofs
