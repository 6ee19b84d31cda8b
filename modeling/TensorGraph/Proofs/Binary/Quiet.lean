import Mathlib
import TensorGraph.Proofs.Binary.Nearest

/-!
# Quiet NaNs

A NaN that comes out of a conversion is quiet, and a quiet NaN of a narrow format is found again
after it was widened and narrowed, as a number is. So what was narrowed once is narrowed to itself
ever after, bit for bit.
-/

namespace TensorGraph.Proofs

section Quiet

variable {f g : Format}

/-- The value is a number, or a NaN whose fraction has its leading bit set. -/
def Quiet (x : Binary f) : Prop := ∀ s p, x = .nan s p → f.quietBit ≤ p.val + 1

lemma quiet_of_isNaN_eq_false {x : Binary f} (h : x.isNaN = false) : Quiet x := by
  rintro s p rfl
  cases h

lemma quiet_val (f : Format) (n : Nat) : (f.quiet n).val + 1 = f.quietBit + n % f.quietBit := by
  have hpos := f.quietBit_pos
  exact Nat.sub_add_cancel (Nat.le_add_right_of_le hpos)

theorem quiet_round (g : Format) (x : Binary f) : Quiet (x.round g) := by
  cases x with
  | nan s p =>
    rintro _ _ ⟨⟩
    rw [quiet_val]
    exact Nat.le_add_right _ _
  | number s i =>
    apply quiet_of_isNaN_eq_false
    rw [Binary.round]
    split <;> rfl

/-- A fraction that has its leading bit set stays as it is. -/
lemma quiet_val_of_le {n : Nat} (hlow : f.quietBit ≤ n) (hhigh : n < f.binade) :
    (f.quiet n).val + 1 = n := by
  have hbinade := f.quietBit_add_quietBit
  have hrest : n % f.quietBit = n - f.quietBit := by
    rw [Nat.mod_eq_sub_mod hlow, Nat.mod_eq_of_lt (by omega)]
  rw [quiet_val, hrest, Nat.add_sub_cancel' hlow]

/-- The fractions of a finer format have `k` more bits behind. -/
lemma fraction_widened {k : Nat} (hk : g.fractionBits = f.fractionBits + k) :
    g.quietBit = f.quietBit * 2 ^ k ∧ g.binade = f.binade * 2 ^ k := by
  have hpos := f.fractionBits_pos
  have hbits : f.fractionBits + k - 1 = f.fractionBits - 1 + k := by omega
  simp only [Format.quietBit, Format.binade, Nat.pow_eq, hk, hbits, pow_add, and_self]

/-- A quiet NaN finds its fraction again. -/
theorem round_round_nan (h : f.fractionBits ≤ g.fractionBits) {s : Bool} {p : f.Payload}
    (hp : f.quietBit ≤ p.val + 1) : ((.nan s p : Binary f).round g).round f = .nan s p := by
  obtain ⟨k, hk⟩ := Nat.exists_eq_add_of_le h
  obtain ⟨hquiet, hbinade⟩ := fraction_widened hk
  have hbits : g.fractionBits - f.fractionBits = k ∧ f.fractionBits - g.fractionBits = 0 := by omega
  have hlt : p.val + 1 < f.binade := by
    have := p.isLt
    omega
  have hwide : (g.quiet ((p.val + 1) * 2 ^ k)).val + 1 = (p.val + 1) * 2 ^ k := by
    apply quiet_val_of_le
    · exact hquiet ▸ Nat.mul_le_mul_right _ hp
    · exact hbinade ▸ Nat.mul_lt_mul_of_pos_right hlt (by positivity)
  have hback : f.quiet (p.val + 1) = p := Fin.ext (Nat.succ.inj (quiet_val_of_le hp hlt))
  simp only [Binary.round, hbits, Nat.pow_eq, pow_zero, Nat.div_one, Nat.mul_one, hwide]
  rw [Nat.mul_div_cancel _ (show 0 < 2 ^ k by positivity), hback]

end Quiet

lemma round_round_single {x : Binary32} (hx : Quiet x) : (x.round .double).round .single = x := by
  cases x with
  | nan s p => exact round_round_nan (by decide) (hx s p rfl)
  | number s i => exact round_eq_of_reading (by decide) rfl (reading_widen _)

/-- A single that was widened is narrowed to itself. -/
theorem toSingle?_round {x : Binary32} (hx : Quiet x) : toSingle? (x.round .double) = some x := by
  have hfinite : (x.round .double).isFinite = x.isFinite := by
    rw [Bool.eq_iff_iff, isFinite_iff, isFinite_iff, reading_widen]
  simp only [toSingle?, round_round_single hx, hfinite]
  cases x.isFinite <;> rfl

lemma quiet_of_toSingle? {v : Binary64} {x : Binary32} (h : toSingle? v = some x) : Quiet x := by
  simp only [toSingle?, Option.ite_none_right_eq_some, Option.some.injEq] at h
  exact h.2 ▸ quiet_round .single v

lemma quiet_of_reading {f : Format} {v : Int64} {x : Binary f}
    (h : reading x = readingOfInt v.toInt) : Quiet x := by
  apply quiet_of_isNaN_eq_false
  cases x with
  | nan => cases h
  | number => rfl

end TensorGraph.Proofs
