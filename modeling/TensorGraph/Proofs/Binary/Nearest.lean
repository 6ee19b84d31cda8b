import Mathlib
import TensorGraph.Proofs.Binary.Reading

/-!
# Nearest magnitudes

A size that is a magnitude of the format is rounded to itself, at whatever precision it is given.
Any other size is rounded to one of its neighbours, and it overflows from halfway between the
largest finite magnitude and the one that would come next. This decides which numbers convert.
-/

namespace TensorGraph.Proofs

/-! ### Quotients -/

lemma divNearest_mul_right (n : Nat) {d c : Nat} (hc : 0 < c) :
    divNearest (n * c) (d * c) = divNearest n d := by
  have hcompare : compare (2 * (n * c % (d * c))) (d * c) = compare (2 * (n % d)) d := by
    rw [Nat.mul_mod_mul_right, ← Nat.mul_assoc]
    rcases Nat.lt_trichotomy (2 * (n % d)) d with h | h | h
    · rw [Nat.compare_eq_lt.2 h, Nat.compare_eq_lt.2 (Nat.mul_lt_mul_of_pos_right h hc)]
    · rw [h]
      simp
    · rw [Nat.compare_eq_gt.2 h, Nat.compare_eq_gt.2 (Nat.mul_lt_mul_of_pos_right h hc)]
  simp only [divNearest, hcompare, Nat.mul_div_mul_right n d hc]

/-- A quotient is rounded up past an odd number from halfway on, since a half goes to the even
neighbour. -/
lemma lt_divNearest_iff {n d k : Nat} (hd : 0 < d) (hk : k % 2 = 1) :
    k < divNearest n d ↔ (2 * k + 1) * d ≤ 2 * n := by
  have hn := Nat.div_add_mod n d
  have hr := Nat.mod_lt n hd
  have hsplit : (2 * k + 1) * d = 2 * (d * k) + d := by ring
  -- the multiples of `d` on both sides of `n`, as atoms of linear arithmetic
  have hside : d * k + d ≤ d * (n / d) ∧ k < n / d ∨ d * k = d * (n / d) ∧ k = n / d ∨
      d * (n / d) + d ≤ d * k ∧ n / d < k := by
    rcases Nat.lt_trichotomy k (n / d) with h | h | h
    · exact .inl ⟨Nat.mul_le_mul_left d h, h⟩
    · exact .inr (.inl ⟨congrArg (d * ·) h, h⟩)
    · exact .inr (.inr ⟨Nat.mul_le_mul_left d h, h⟩)
  rw [hsplit, divNearest]
  split
  · rename_i hlt
    rw [Nat.compare_eq_lt] at hlt
    omega
  · rename_i htie
    rw [Nat.compare_eq_eq] at htie
    omega
  · rename_i hgt
    rw [Nat.compare_eq_gt] at hgt
    omega

/-! ### Magnitudes -/

lemma nearest_mul_pow (f : Format) (n d : Nat) : f.nearest (n * 2 ^ d) d = f.nearest n 0 := by
  have hd : 0 < 2 ^ d := by positivity
  simp only [Format.nearest, Nat.pow_eq, Nat.mul_div_cancel _ hd, pow_zero, Nat.div_one]
  rw [pow_add, mul_comm (2 ^ d), divNearest_mul_right _ hd, Nat.zero_add]

lemma log2_units_binade (f : Format) (e : Nat) {r : Nat} (hr : r < f.binade) :
    ((f.binade + r) * 2 ^ e).log2 = e + f.fractionBits := by
  have hB : f.binade = 2 ^ f.fractionBits := by simp only [Format.binade, Nat.pow_eq]
  have hpos := binade_pos f
  have hne : (f.binade + r) * 2 ^ e ≠ 0 := by positivity
  rw [Nat.log2_eq_iff hne]
  constructor
  · calc 2 ^ (e + f.fractionBits) = f.binade * 2 ^ e := by rw [hB, ← pow_add, Nat.add_comm]
      _ ≤ (f.binade + r) * 2 ^ e := Nat.mul_le_mul_right _ (Nat.le_add_right _ _)
  · calc (f.binade + r) * 2 ^ e < (2 * f.binade) * 2 ^ e :=
          Nat.mul_lt_mul_of_pos_right (by omega) (by positivity)
      _ = 2 ^ (e + f.fractionBits + 1) := by
        rw [hB]
        ring

/-- Magnitudes are rounded to themselves. -/
theorem nearest_units (f : Format) (i d : Nat) : f.nearest (f.units i * 2 ^ d) d = i := by
  have hB : f.binade = 2 ^ f.fractionBits := by simp only [Format.binade, Nat.pow_eq]
  rw [nearest_mul_pow]
  by_cases hi : i < f.binade
  · have hshift : i.log2 - f.fractionBits = 0 := by
      rcases Nat.eq_zero_or_pos i with rfl | hpos
      · simp
      · have := (Nat.log2_lt hpos.ne').2 (hB ▸ hi)
        omega
    have hdvd : 2 ^ (i.log2 - f.fractionBits) ∣ i := by
      rw [hshift, pow_zero]
      exact one_dvd i
    rw [units_of_lt hi, nearest_of_dvd f hdvd, hshift, Nat.zero_mul, Nat.zero_add, pow_zero,
      Nat.div_one]
  · obtain ⟨e, r, hr, rfl⟩ : ∃ e r, r < f.binade ∧ i = (e + 1) * f.binade + r := by
      have hdiv : 1 ≤ i / f.binade := (Nat.one_le_div_iff (binade_pos f)).2 (by omega)
      refine ⟨i / f.binade - 1, i % f.binade, Nat.mod_lt i (binade_pos f), ?_⟩
      rw [Nat.sub_add_cancel hdiv, Nat.mul_comm, Nat.div_add_mod]
    have hshift : ((f.binade + r) * 2 ^ e).log2 - f.fractionBits = e := by
      rw [log2_units_binade f e hr, Nat.add_sub_cancel]
    have hdvd : 2 ^ (((f.binade + r) * 2 ^ e).log2 - f.fractionBits) ∣ (f.binade + r) * 2 ^ e := by
      rw [hshift]
      exact Nat.dvd_mul_left _ _
    rw [units_binade f e r hr, nearest_of_dvd f hdvd, hshift, Nat.mul_div_cancel _ (by positivity)]
    ring

lemma nearest_bounds (f : Format) (n d : Nat) {s : Nat}
    (hs : (n / 2 ^ d).log2 - f.fractionBits = s) :
    (0 < s → (s + 1) * f.binade ≤ f.nearest n d) ∧ f.nearest n d ≤ (s + 2) * f.binade := by
  obtain ⟨hfull, hroom⟩ := significand_bounds f n d hs
  simp only [Format.nearest, Nat.pow_eq, hs, Nat.add_mul]
  exact ⟨fun hpos => by have := hfull hpos; omega, by omega⟩

/-- The size halfway between the largest finite magnitude and the one that would come next, in parts
of `1 / 2 ^ d` units. -/
def overflowSize (f : Format) (d : Nat) : Nat :=
  (4 * f.binade - 1) * 2 ^ (2 ^ f.exponentBits - 4 + d)

/-- In the last binade of finite magnitudes it is the rounding of the significand that overflows. -/
lemma infinity_le_nearest_iff_last {f : Format} {e : Nat} (he : 2 ^ f.exponentBits = 4 + e) (n d : Nat)
    (hs : (n / 2 ^ d).log2 - f.fractionBits = e + 1) :
    f.infinity ≤ f.nearest n d ↔ overflowSize f d ≤ n := by
  have hpos := binade_pos f
  have hodd : (2 * f.binade - 1) % 2 = 1 := by omega
  have hhalf := lt_divNearest_iff (n := n) (show 0 < 2 ^ (d + (e + 1)) by positivity) hodd
  have htwice : (2 * (2 * f.binade - 1) + 1) * 2 ^ (d + (e + 1)) = 2 * overflowSize f d := by
    have hthreshold : 2 * (2 * f.binade - 1) + 1 = 4 * f.binade - 1 := by omega
    rw [hthreshold, overflowSize, he, Nat.add_sub_cancel_left]
    ring
  have hinfinity : f.infinity = (e + 1) * f.binade + 2 * f.binade := by
    simp only [Format.infinity, Nat.pow_eq, he]
    rw [← Nat.add_mul]
    congr 1
    omega
  rw [htwice] at hhalf
  simp only [Format.nearest, Nat.pow_eq, hs, hinfinity]
  omega

/-- Sizes overflow from halfway between the largest finite magnitude and the next one on. -/
theorem infinity_le_nearest_iff {f : Format} (hf : 4 ≤ 2 ^ f.exponentBits) (n d : Nat) :
    f.infinity ≤ f.nearest n d ↔ overflowSize f d ≤ n := by
  obtain ⟨e, he⟩ := Nat.exists_eq_add_of_le hf
  have hinfinity : f.infinity = (e + 3) * f.binade := by
    simp only [Format.infinity, Nat.pow_eq, he]
    congr 1
    omega
  have hsize : overflowSize f d + 2 ^ (d + e) = 4 * (f.binade * 2 ^ (d + e)) := by
    have hpos := binade_pos f
    rw [overflowSize, he, Nat.add_sub_cancel_left, Nat.add_comm e d, ← Nat.succ_mul,
      Nat.succ_eq_add_one, Nat.sub_add_cancel (by omega)]
    ring
  have hsmall : 2 ^ (d + e) ≤ f.binade * 2 ^ (d + e) := Nat.le_mul_of_pos_left _ (binade_pos f)
  have hpow : 0 < 2 ^ (d + e) := by positivity
  obtain ⟨s, hs⟩ : ∃ s, (n / 2 ^ d).log2 - f.fractionBits = s := ⟨_, rfl⟩
  obtain ⟨hlow, hhigh⟩ := shift_bounds f n d hs
  obtain ⟨habove, hbelow⟩ := nearest_bounds f n d hs
  rcases Nat.lt_trichotomy s (e + 1) with hcase | rfl | hcase
  · have hfinite : f.nearest n d < f.infinity := by
      rw [hinfinity]
      exact hbelow.trans_lt (Nat.mul_lt_mul_of_pos_right (by omega) (binade_pos f))
    have hless : n < 2 * (f.binade * 2 ^ (d + e)) := by
      rw [Nat.mul_assoc] at hhigh
      exact hhigh.trans_le (Nat.mul_le_mul_left _ (Nat.mul_le_mul_left _
        (Nat.pow_le_pow_right two_pos (by omega))))
    omega
  · exact infinity_le_nearest_iff_last he n d hs
  · have hoverflow : f.infinity ≤ f.nearest n d := by
      rw [hinfinity]
      exact (Nat.mul_le_mul_right _ (by omega)).trans (habove (by omega))
    have hmore : 4 * (f.binade * 2 ^ (d + e)) ≤ n := by
      calc 4 * (f.binade * 2 ^ (d + e)) = f.binade * 2 ^ (d + e + 2) := by ring
        _ ≤ f.binade * 2 ^ (d + s) :=
          Nat.mul_le_mul_left _ (Nat.pow_le_pow_right two_pos (by omega))
        _ ≤ n := hlow (by omega)
    omega

/-! ### Conversions -/

lemma reading_eq_finite_iff {f : Format} {s : Bool} {i : Fin (f.infinity + 1)} {t : Bool} {size : ℚ} :
    reading (.number s i : Binary f) = .finite t size ↔
      i.val < f.infinity ∧ s = t ∧ (f.units i.val : ℚ) / 2 ^ f.quantum = size := by
  rw [reading]
  split
  · rename_i hi
    simp [hi]
  · rename_i hi
    simp [hi]

lemma reading_eq_infinite_iff {f : Format} {s : Bool} {i : Fin (f.infinity + 1)} {t : Bool} :
    reading (.number s i : Binary f) = .infinite t ↔ i.val = f.infinity ∧ s = t := by
  have hle := Nat.le_of_lt_succ i.isLt
  rw [reading]
  split
  · rename_i hi
    simp [hi.ne]
  · rename_i hi
    simp [Nat.le_antisymm hle (Nat.le_of_not_lt hi)]

lemma reading_eq_nan_iff {f : Format} (x : Binary f) : reading x = .nan ↔ x.isNaN = true := by
  cases x with
  | nan s p => simp [reading, Binary.isNaN]
  | number s i =>
    rw [reading]
    split <;> simp [Binary.isNaN]

lemma isFinite_iff {f : Format} (x : Binary f) :
    x.isFinite = true ↔ ∃ s size, reading x = .finite s size := by
  cases x with
  | nan => simp [Binary.isFinite, reading]
  | number s i => simp [Binary.isFinite, reading_eq_finite_iff]

/-- Rounding to a coarser format keeps the numbers that it has. -/
theorem round_eq_of_reading {f g : Format} (hq : g.quantum ≤ f.quantum) {x : Binary f}
    {y : Binary g} (hy : y.isNaN = false) (h : reading x = reading y) : x.round g = y := by
  cases y with
  | nan => cases hy
  | number t j =>
    cases x with
    | nan => cases (reading_eq_nan_iff _).1 h.symm
    | number s i =>
      rw [Binary.round]
      by_cases hj : j.val < g.infinity
      · rw [reading_eq_finite_iff.2 ⟨hj, rfl, rfl⟩, reading_eq_finite_iff] at h
        obtain ⟨hi, rfl, hsize⟩ := h
        obtain ⟨d, hd⟩ := Nat.exists_eq_add_of_le hq
        have hunits : f.units i.val = g.units j.val * 2 ^ d := by
          rw [hd, pow_add] at hsize
          field_simp at hsize
          rw [mul_comm]
          exact_mod_cast hsize
        have hsub : g.quantum - f.quantum = 0 := by omega
        have hsub' : f.quantum - g.quantum = d := by omega
        rw [if_neg hi.ne]
        simp only [hsub, hsub', hunits, Nat.pow_eq, pow_zero, Nat.mul_one, nearest_units,
          Binary.clamp, Nat.min_eq_left hj.le]
      · have hinf : j.val = g.infinity := by omega
        rw [reading_eq_infinite_iff.2 ⟨hinf, rfl⟩, reading_eq_infinite_iff] at h
        obtain ⟨hi, rfl⟩ := h
        rw [if_pos hi, Binary.clamp]
        exact congrArg (Binary.number s) (Fin.ext (by simp [hinf]))

/-- An integer converts to the number that stands for it, if there is one. -/
theorem toBinary?_eq_some_iff {f : Format} {v : Int64} {x : Binary f} :
    toBinary? f v = some x ↔ reading x = readingOfInt v.toInt := by
  refine ⟨reading_of_toBinary?, fun h => ?_⟩
  cases x with
  | nan => cases h
  | number s i =>
    obtain ⟨hi, rfl, hsize⟩ := reading_eq_finite_iff.1 h
    have hunits : v.toInt.natAbs * 2 ^ f.quantum = f.units i.val := by
      rw [div_eq_iff (by positivity)] at hsize
      exact_mod_cast hsize.symm
    have hnearest : f.nearest (f.units i.val) 0 = i.val := by
      simpa using nearest_units f i.val 0
    simp only [toBinary?, Nat.pow_eq, hunits, hnearest, hi, and_self, dite_true]

/-- The number is finite, and halfway between the largest single and `2 ^ 128` or beyond. -/
def Overflows (x : Binary64) : Prop :=
  ∃ negative size, reading x = .finite negative size ∧ 2 ^ 128 - 2 ^ 103 ≤ size

lemma toSingle?_eq_none_iff_isFinite (x : Binary64) :
    toSingle? x = none ↔ x.isFinite = true ∧ (x.round .single).isFinite = false := by
  simp only [toSingle?]
  cases x.isFinite <;> cases (x.round Format.single).isFinite <;> simp

lemma single_infinity_le_nearest_iff (i : Nat) :
    Format.single.infinity ≤ Format.single.nearest (Format.double.units i) 925 ↔
      (2 : ℚ) ^ 128 - 2 ^ 103 ≤ (Format.double.units i : ℚ) / 2 ^ Format.double.quantum := by
  have hfields : 4 * Format.single.binade - 1 = 2 ^ 25 - 1 ∧
      2 ^ Format.single.exponentBits - 4 + 925 = 103 + 1074 ∧
      Format.double.quantum = 1074 := by decide
  have hthreshold : ∀ k : Nat, (((2 ^ 25 - 1) * 2 ^ (103 + k) : Nat) : ℚ) =
      (2 ^ 128 - 2 ^ 103) * 2 ^ k := by
    intro k
    rw [pow_add]
    push_cast
    ring
  rw [infinity_le_nearest_iff (by decide), overflowSize, le_div_iff₀ (by positivity), hfields.1,
    hfields.2.1, hfields.2.2, ← hthreshold, Nat.cast_le]

theorem toSingle?_eq_none_iff (x : Binary64) : toSingle? x = none ↔ Overflows x := by
  rw [toSingle?_eq_none_iff_isFinite, Overflows]
  cases x with
  | nan => simp [Binary.isFinite, reading]
  | number s i =>
    have hfinite : (Binary.number s i : Binary64).isFinite = true ↔
        i.val < Format.double.infinity := decide_eq_true_iff
    simp only [hfinite, reading_eq_finite_iff]
    by_cases hi : i.val < Format.double.infinity
    · have hround : ((Binary.number s i : Binary64).round .single).isFinite = false ↔
          Format.single.infinity ≤ Format.single.nearest (Format.double.units i.val) 925 := by
        have hquanta : Format.single.quantum - Format.double.quantum = 0 ∧
            Format.double.quantum - Format.single.quantum = 925 := by decide
        simp only [Binary.round, if_neg hi.ne, hquanta, Nat.pow_eq, pow_zero, Nat.mul_one,
          Binary.clamp, Binary.isFinite, decide_eq_false_iff_not, Nat.not_lt]
        omega
      rw [hround, single_infinity_le_nearest_iff]
      simp [hi]
    · simp [hi]

end TensorGraph.Proofs
