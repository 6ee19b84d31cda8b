import Mathlib
import TensorGraph.Binary.Integer
import TensorGraph.Proofs.Binary.Nearest

/-!
# Integers in binary formats

An integer is exact in a format if it fits the significand once its trailing zeros are dropped.
These are the integers that convert, and those that come back from rounding and cutting. The largest
integer comes back although it is not exact, which is why numbers from `2 ^ 63` on are refused.
-/

namespace TensorGraph.Proofs
open Binary

lemma natAbs_toInt_le (v : Int64) : v.toInt.natAbs ≤ 2 ^ 63 := by
  have hlow := v.le_toInt
  have hhigh := v.toInt_lt
  omega

lemma toInt_ofIntClamp (i : Int) :
    (Int64.ofIntClamp i).toInt = max (-2 ^ 63) (min i (2 ^ 63 - 1)) := by
  have hmin : Int64.minValue.toInt = -2 ^ 63 := Int64.toInt_minValue
  have hmax : Int64.maxValue.toInt = 2 ^ 63 - 1 := Int64.toInt_maxValue
  unfold Int64.ofIntClamp
  by_cases hlow : Int64.minValue.toInt ≤ i
  · by_cases hhigh : i ≤ Int64.maxValue.toInt
    · rw [dif_pos hlow, dif_pos hhigh, Int64.toInt_ofIntLE]
      omega
    · rw [dif_pos hlow, dif_neg hhigh]
      omega
  · rw [dif_neg hlow]
    omega

lemma log2_le_of_lt_pow {n k : Nat} (h : n < 2 ^ (k + 1)) : n.log2 ≤ k := by
  rcases Nat.eq_zero_or_pos n with rfl | hpos
  · simp
  · exact Nat.le_of_lt_succ ((Nat.log2_lt hpos.ne').2 h)

section Format

variable {f : Format}

/-- The size of an integer, in units of the format. -/
def integerUnits (f : Format) (v : Int64) : Nat := v.toInt.natAbs * 2 ^ f.quantum

/-! ### Which integers are rounded to themselves -/

lemma log2_integerUnits_le (v : Int64) : (integerUnits f v).log2 ≤ 63 + f.quantum := by
  apply log2_le_of_lt_pow
  calc integerUnits f v ≤ 2 ^ 63 * 2 ^ f.quantum := Nat.mul_le_mul_right _ (natAbs_toInt_le v)
    _ = 2 ^ (63 + f.quantum) := (pow_add _ _ _).symm
    _ < 2 ^ (63 + f.quantum + 1) := Nat.pow_lt_pow_right one_lt_two (Nat.lt_succ_self _)

/-- An integer that fits the significand, trailing zeros apart, is rounded to itself. -/
lemma units_nearest_of_dyadic {v : Int64} {m k : Nat} (hv : v.toInt.natAbs = m * 2 ^ k)
    (hm : m < 2 ^ (f.fractionBits + 1)) :
    f.units (f.nearest (integerUnits f v) 0) = integerUnits f v := by
  have hunits : integerUnits f v = m * 2 ^ (k + f.quantum) := by
    rw [integerUnits, hv, pow_add, Nat.mul_assoc]
  have hlog : (integerUnits f v).log2 ≤ f.fractionBits + (k + f.quantum) := by
    apply log2_le_of_lt_pow
    calc integerUnits f v = m * 2 ^ (k + f.quantum) := hunits
      _ < 2 ^ (f.fractionBits + 1) * 2 ^ (k + f.quantum) :=
        Nat.mul_lt_mul_of_pos_right hm (by positivity)
      _ = 2 ^ (f.fractionBits + (k + f.quantum) + 1) := by ring
  apply units_nearest_of_dvd
  rw [hunits] at hlog ⊢
  exact (pow_dvd_pow 2 (by omega)).mul_left m

/-- An integer that is a magnitude of the format fits the significand, trailing zeros apart. -/
lemma exists_dyadic_of_units {v : Int64} {i : Nat} (h : f.units i = integerUnits f v) :
    ∃ m k, v.toInt.natAbs = m * 2 ^ k ∧ m < 2 ^ (f.fractionBits + 1) := by
  have hB : 2 * f.binade = 2 ^ (f.fractionBits + 1) := by
    simp only [Format.binade, Nat.pow_eq, pow_succ, mul_comm]
  obtain ⟨m, hm, hunits⟩ := units_eq_mul f i
  rw [hunits, integerUnits] at h
  rw [hB] at hm
  generalize i / f.binade - 1 = e at h
  -- The last place of the significand is worth a whole or more, or less than a whole.
  rcases Nat.le_total f.quantum e with hle | hle
  · obtain ⟨k, rfl⟩ := Nat.exists_eq_add_of_le' hle
    rw [pow_add, ← Nat.mul_assoc] at h
    exact ⟨m, k, (Nat.eq_of_mul_eq_mul_right (by positivity) h).symm, hm⟩
  · obtain ⟨k, hk⟩ := Nat.exists_eq_add_of_le' hle
    rw [hk, pow_add, ← Nat.mul_assoc] at h
    have hm' : m = v.toInt.natAbs * 2 ^ k := Nat.eq_of_mul_eq_mul_right (by positivity) h
    have hle' : v.toInt.natAbs ≤ m := hm' ▸ Nat.le_mul_of_pos_right _ (by positivity)
    exact ⟨v.toInt.natAbs, 0, by simp, hle'.trans_lt hm⟩

lemma exists_dyadic_natAbs_iff (i : Int) (bound : Nat) :
    (∃ m k, i.natAbs = m * 2 ^ k ∧ m < bound) ↔
      ∃ (m : Int) (k : Nat), i = m * 2 ^ k ∧ |m| < bound := by
  constructor
  · rintro ⟨m, k, hi, hm⟩
    refine ⟨i.sign * m, k, ?_, ?_⟩
    · calc i = i.sign * i.natAbs := (Int.sign_mul_natAbs i).symm
        _ = i.sign * m * 2 ^ k := by
          rw [hi]
          push_cast
          ring
    · have hsign : |i.sign| ≤ 1 := by
        rcases Int.sign_trichotomy i with h | h | h <;> simp [h]
      calc |i.sign * m| = |i.sign| * m := by rw [abs_mul, Nat.abs_cast]
        _ ≤ 1 * m := mul_le_mul_of_nonneg_right hsign (Int.natCast_nonneg m)
        _ < bound := by simpa using hm
  · rintro ⟨m, k, rfl, hm⟩
    refine ⟨m.natAbs, k, by simp [Int.natAbs_mul, Int.natAbs_pow], ?_⟩
    rwa [Int.abs_eq_natAbs, Nat.cast_lt] at hm

/-- An integer is rounded to an integer. If less than a whole is dropped nothing is lost, and else
the rest is a multiple of a whole. -/
lemma exists_units_nearest (f : Format) (v : Int64) :
    ∃ w, f.units (f.nearest (integerUnits f v) 0) = w * 2 ^ f.quantum := by
  obtain ⟨s, hs⟩ : ∃ s, (integerUnits f v).log2 - f.fractionBits = s := ⟨_, rfl⟩
  rcases Nat.le_total s f.quantum with hle | hle
  · have hdvd : 2 ^ ((integerUnits f v).log2 - f.fractionBits) ∣ integerUnits f v := by
      rw [hs]
      exact (pow_dvd_pow 2 hle).mul_left _
    exact ⟨v.toInt.natAbs, units_nearest_of_dvd f hdvd⟩
  · obtain ⟨d, rfl⟩ := Nat.exists_eq_add_of_le' hle
    have hs' : (integerUnits f v / 2 ^ 0).log2 - f.fractionBits = d + f.quantum := by simpa using hs
    refine ⟨divNearest (integerUnits f v) (2 ^ (0 + (d + f.quantum))) * 2 ^ d, ?_⟩
    rw [units_nearest f _ 0 hs', pow_add 2 d, Nat.mul_assoc]

/-! ### There and back -/

lemma units_eq_integerUnits_iff {v : Int64} {i w : Nat} (hw : f.units i = w * 2 ^ f.quantum) :
    f.units i = integerUnits f v ↔ w = v.toInt.natAbs := by
  rw [hw, integerUnits]
  exact Nat.mul_left_inj (by positivity)

section Wide

variable (hf : 8 ≤ f.exponentBits)
include hf

/-- With eight bits for the exponent no integer is rounded to infinity. -/
lemma nearest_integerUnits_lt (v : Int64) : f.nearest (integerUnits f v) 0 < f.infinity := by
  have hlog := log2_integerUnits_le (f := f) v
  have hexponents : 2 ^ f.exponentBits = 2 * 2 ^ (f.exponentBits - 1) := by
    rw [← pow_succ', Nat.sub_add_cancel (by omega)]
  have hmany : 2 ^ 7 ≤ 2 ^ (f.exponentBits - 1) := Nat.pow_le_pow_right two_pos (by omega)
  have hquantum : f.quantum = 2 ^ (f.exponentBits - 1) - 2 + f.fractionBits := rfl
  obtain ⟨-, hbound⟩ := nearest_bounds f (integerUnits f v) 0 rfl
  rw [pow_zero, Nat.div_one] at hbound
  calc f.nearest (integerUnits f v) 0
      ≤ ((integerUnits f v).log2 - f.fractionBits + 2) * f.binade := hbound
    _ < (2 ^ f.exponentBits - 1) * f.binade :=
      Nat.mul_lt_mul_of_pos_right (by omega) (binade_pos f)
    _ = f.infinity := by simp only [Format.infinity, Nat.pow_eq]

lemma ofInt64_eq_number (v : Int64) : ofInt64 f v = .number (v.toInt < 0)
    ⟨f.nearest (integerUnits f v) 0, Nat.lt_succ_of_lt (nearest_integerUnits_lt hf v)⟩ := by
  have hlt := nearest_integerUnits_lt hf v
  exact congrArg (Binary.number _) (Fin.ext (Nat.min_eq_left hlt.le))

/-- The nearest number is taken if nothing was rounded off. -/
lemma toBinary?_eq_ite (v : Int64) : toBinary? f v =
    if f.units (f.nearest (integerUnits f v) 0) = integerUnits f v then some (ofInt64 f v)
    else none := by
  have hlt := nearest_integerUnits_lt hf v
  rw [ofInt64_eq_number hf]
  by_cases hexact : f.units (f.nearest (integerUnits f v) 0) = integerUnits f v
  · rw [if_pos hexact]
    exact dif_pos ⟨hlt, hexact⟩
  · rw [if_neg hexact]
    exact dif_neg fun h => hexact h.2

section Rounded

variable {v : Int64} {w : Nat}
  (hw : f.units (f.nearest (integerUnits f v) 0) = w * 2 ^ f.quantum)
include hw

lemma reading_ofInt64 : reading (ofInt64 f v) = .finite (v.toInt < 0) w := by
  rw [ofInt64_eq_number hf, reading_eq_finite_iff]
  refine ⟨nearest_integerUnits_lt hf v, rfl, ?_⟩
  rw [hw]
  push_cast
  field_simp

lemma isBelow_ofInt64 : (ofInt64 f v).isBelow (2 ^ 63) = true ↔ v.toInt < 0 ∨ w < 2 ^ 63 := by
  have hlt := nearest_integerUnits_lt hf v
  rw [ofInt64_eq_number hf, isBelow, hw]
  simp [hlt]

lemma toInt64_ofInt64 :
    (ofInt64 f v).toInt64 = Int64.ofIntClamp (if v.toInt < 0 then -w else w) := by
  have hlt := nearest_integerUnits_lt hf v
  rw [ofInt64_eq_number hf, toInt64, if_neg hlt.ne, hw]
  simp only [Nat.pow_eq, Nat.mul_div_cancel w (show 0 < 2 ^ f.quantum by positivity),
    decide_eq_true_eq, Int.ofNat_eq_natCast]

end Rounded

/-- The integers that convert are those that fit the significand, trailing zeros apart. -/
theorem exists_toBinary?_iff (v : Int64) : (∃ x, toBinary? f v = some x) ↔
    ∃ (m : Int) (k : Nat), v.toInt = m * 2 ^ k ∧ |m| < 2 ^ (f.fractionBits + 1) := by
  have hdyadic := exists_dyadic_natAbs_iff v.toInt (2 ^ (f.fractionBits + 1))
  push_cast at hdyadic
  rw [← hdyadic, toBinary?_eq_ite hf]
  constructor
  · rintro ⟨x, hx⟩
    rw [Option.ite_none_right_eq_some] at hx
    exact exists_dyadic_of_units hx.1
  · rintro ⟨m, k, hv, hm⟩
    exact ⟨_, if_pos (units_nearest_of_dyadic hv hm)⟩

lemma toBinary?_zero : toBinary? f 0 = some .zero := by
  have hpos : 0 < f.infinity := Nat.zero_lt_of_lt (nearest_integerUnits_lt hf 0)
  rw [toBinary?_eq_some_iff]
  apply reading_eq_finite_iff.2
  exact ⟨hpos, rfl, by simp [units_of_lt (binade_pos f)]⟩

/-- An integer is exact if it comes back. On the negative side no bound is needed: what is cut into
range there becomes `-2 ^ 63`, which is exact. -/
theorem toBinary?_eq_roundTrip? (v : Int64) : toBinary? f v = roundTrip? f v := by
  obtain ⟨w, hw⟩ := exists_units_nearest f v
  have hlow := v.le_toInt
  have hhigh := v.toInt_lt
  have hleast : v.toInt.natAbs = 2 ^ 63 → w = v.toInt.natAbs := by
    intro hv
    rw [← units_eq_integerUnits_iff hw]
    exact units_nearest_of_dyadic (m := 1) (k := 63) (by omega) (Nat.one_lt_two_pow (by omega))
  have hback : (ofInt64 f v).isBelow (2 ^ 63) = true ∧ (ofInt64 f v).toInt64 = v ↔
      w = v.toInt.natAbs := by
    rw [isBelow_ofInt64 hf hw, toInt64_ofInt64 hf hw, ← Int64.toInt_inj, toInt_ofIntClamp]
    split <;> omega
  simp only [toBinary?_eq_ite hf, units_eq_integerUnits_iff hw, roundTrip?, Nat.pow_eq, hback]

/-- An integer that is rounded up to `2 ^ 63` does not convert, although it may come back. -/
lemma saturated_of_reading {v : Int64} (h : reading (ofInt64 f v) = .finite false (2 ^ 63)) :
    toBinary? f v = none ∧ (ofInt64 f v).toInt64 = Int64.maxValue := by
  obtain ⟨w, hw⟩ := exists_units_nearest f v
  rw [reading_ofInt64 hf hw, Reading.finite.injEq, decide_eq_false_iff_not] at h
  obtain ⟨hnonneg, hsize⟩ := h
  have hwide : w = 2 ^ 63 := by exact_mod_cast hsize
  have hhigh := v.toInt_lt
  constructor
  · rw [toBinary?_eq_ite hf, if_neg]
    rw [units_eq_integerUnits_iff hw]
    omega
  · rw [toInt64_ofInt64 hf hw, if_neg hnonneg, hwide]
    rfl

end Wide

end Format

/-- A format converts the integers that fit a significand of `bits` bits once their trailing zeros
are dropped, and no others. It converts them to themselves, and they are those that come back. -/
structure ExactIntegers (f : Format) (bits : Nat) : Prop where
  accepted : ∀ v, (∃ x, toBinary? f v = some x) ↔
    ∃ (m : Int) (k : Nat), v.toInt = m * 2 ^ k ∧ |m| < 2 ^ bits
  exact : ∀ v x, toBinary? f v = some x → reading x = readingOfInt v.toInt
  zero : toBinary? f 0 = some .zero
  least : ∃ x, toBinary? f Int64.minValue = some x
  comesBack : ∀ v, toBinary? f v = roundTrip? f v
  saturated : ∀ v, reading (ofInt64 f v) = .finite false (2 ^ 63) →
    toBinary? f v = none ∧ (ofInt64 f v).toInt64 = Int64.maxValue

lemma exactIntegers_of_wide {f : Format} (hf : 8 ≤ f.exponentBits) :
    ExactIntegers f (f.fractionBits + 1) where
  accepted := exists_toBinary?_iff hf
  exact _ _ := reading_of_toBinary?
  zero := toBinary?_zero hf
  least := by
    apply (exists_toBinary?_iff hf _).2
    exact ⟨-1, 63, rfl, by simpa using one_lt_pow₀ one_lt_two (by simp)⟩
  comesBack := toBinary?_eq_roundTrip? hf
  saturated _ := saturated_of_reading hf

/-- In double and in single precision, of all integers those and only those convert that are exact
there. -/
theorem exactIntegers : ExactIntegers .double 53 ∧ ExactIntegers .single 24 :=
  ⟨exactIntegers_of_wide (by decide), exactIntegers_of_wide (by decide)⟩

/-- The largest integer is rounded up to `2 ^ 63`, and only the cut into range brings it back. -/
example : toBinary? .double Int64.maxValue = none ∧
    (ofInt64 .double Int64.maxValue).toInt64 = Int64.maxValue := by decide +kernel

end TensorGraph.Proofs
