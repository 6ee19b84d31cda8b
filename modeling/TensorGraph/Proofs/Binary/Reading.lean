import Mathlib
import TensorGraph.Conversion

/-!
# Exact values of binary numbers

`reading x` is what a binary number stands for, whatever its format: its sign and its exact
size. All NaNs have the same reading. An integer that converts is read back as itself, and widening
from single to double precision changes no reading.
-/

namespace TensorGraph.Proofs

inductive Reading where
  | nan
  | infinite (negative : Bool)
  | finite (negative : Bool) (size : ℚ)

def reading {f : Format} : Binary f → Reading
  | .nan .. => .nan
  | .number s i =>
    if i.val < f.infinity then .finite s ((f.units i.val : ℚ) / 2 ^ f.quantum) else .infinite s

/-- The reading of an integer. Zero has no sign. -/
def readingOfInt (v : Int) : Reading := .finite (v < 0) v.natAbs

lemma binade_pos (f : Format) : 0 < f.binade := by
  simp only [Format.binade, Nat.pow_eq]
  positivity

lemma units_of_lt {f : Format} {i : Nat} (h : i < f.binade) : f.units i = i := by
  simp only [Format.units, if_pos h]

/-- Magnitudes numbered from `(e + 1) * binade` on are spaced `2 ^ e` units apart. -/
lemma units_binade (f : Format) (e r : Nat) (hr : r < f.binade) :
    f.units ((e + 1) * f.binade + r) = (f.binade + r) * 2 ^ e := by
  have hB := binade_pos f
  have hge : ¬(e + 1) * f.binade + r < f.binade := by
    have : f.binade ≤ (e + 1) * f.binade := Nat.le_mul_of_pos_left _ (Nat.succ_pos e)
    omega
  have hdiv : ((e + 1) * f.binade + r) / f.binade = e + 1 := by
    rw [Nat.add_comm, Nat.add_mul_div_right _ _ hB, Nat.div_eq_of_lt hr, Nat.zero_add]
  have hmod : ((e + 1) * f.binade + r) % f.binade = r := by
    rw [Nat.add_comm, Nat.add_mul_mod_self_right, Nat.mod_eq_of_lt hr]
  simp only [Format.units, if_neg hge, hdiv, hmod, Nat.add_sub_cancel, Nat.pow_eq]

lemma units_eq_mul (f : Format) (i : Nat) :
    ∃ m, m < 2 * f.binade ∧ f.units i = m * 2 ^ (i / f.binade - 1) := by
  by_cases h : i < f.binade
  · refine ⟨i, by omega, ?_⟩
    rw [units_of_lt h, Nat.div_eq_of_lt h, Nat.zero_sub, pow_zero, Nat.mul_one]
  · refine ⟨f.binade + i % f.binade, ?_, ?_⟩
    · have := Nat.mod_lt i (binade_pos f)
      omega
    · simp only [Format.units, if_neg h, Nat.pow_eq]

/-- The magnitude whose significand `q` is shifted up by `s` bits. A significand that fills two
binades has carried into the next one. -/
lemma units_shift (f : Format) {s q : Nat} (hfull : 0 < s → f.binade ≤ q)
    (hq : q ≤ 2 * f.binade) : f.units (s * f.binade + q) = q * 2 ^ s := by
  rcases hq.lt_or_eq with hlt | rfl
  · by_cases hlow : q < f.binade
    · have hs : s = 0 := by omega
      rw [hs, Nat.zero_mul, Nat.zero_add, units_of_lt hlow, pow_zero, Nat.mul_one]
    · have hsplit : s * f.binade + q = (s + 1) * f.binade + (q - f.binade) := by
        rw [Nat.succ_mul]
        omega
      rw [hsplit, units_binade f s _ (by omega), Nat.add_sub_cancel' (Nat.le_of_not_lt hlow)]
  · have hsplit : s * f.binade + 2 * f.binade = (s + 1 + 1) * f.binade + 0 := by ring
    rw [hsplit, units_binade f (s + 1) 0 (binade_pos f)]
    ring

lemma divNearest_of_dvd {n d : Nat} (hd : 0 < d) (h : d ∣ n) : divNearest n d = n / d := by
  have hmod : n % d = 0 := Nat.mod_eq_zero_of_dvd h
  have hlt : compare (2 * (n % d)) d = .lt := by
    rw [hmod, Nat.mul_zero, Nat.compare_eq_lt]
    exact hd
  simp only [divNearest, hlt]

lemma nearest_of_dvd (f : Format) {n : Nat} (h : 2 ^ (n.log2 - f.fractionBits) ∣ n) :
    f.nearest n 0 =
      (n.log2 - f.fractionBits) * f.binade + n / 2 ^ (n.log2 - f.fractionBits) := by
  simp only [Format.nearest, Nat.pow_eq, pow_zero, Nat.div_one, Nat.zero_add]
  rw [divNearest_of_dvd (by positivity) h]

lemma divNearest_bounds (n d : Nat) : n / d ≤ divNearest n d ∧ divNearest n d ≤ n / d + 1 := by
  unfold divNearest
  split <;> omega

/-- After the low bits were dropped there is room for the significand, and it is filled if any were
dropped. -/
lemma shift_bounds (f : Format) (n d : Nat) {s : Nat}
    (hs : (n / 2 ^ d).log2 - f.fractionBits = s) :
    (0 < s → f.binade * 2 ^ (d + s) ≤ n) ∧ n < 2 * f.binade * 2 ^ (d + s) := by
  have hB : f.binade = 2 ^ f.fractionBits := by simp only [Format.binade, Nat.pow_eq]
  constructor
  · intro hpos
    have hne : n / 2 ^ d ≠ 0 := by
      intro hzero
      rw [hzero, Nat.log2_zero] at hs
      omega
    have hle := Nat.log2_self_le hne
    rw [Nat.le_div_iff_mul_le (by positivity)] at hle
    calc f.binade * 2 ^ (d + s) = 2 ^ (n / 2 ^ d).log2 * 2 ^ d := by
          rw [hB, ← pow_add, ← pow_add]
          congr 1
          omega
      _ ≤ n := hle
  · have hlt : n / 2 ^ d < 2 ^ ((n / 2 ^ d).log2 + 1) := Nat.lt_log2_self
    rw [Nat.div_lt_iff_lt_mul (by positivity)] at hlt
    calc n < 2 ^ ((n / 2 ^ d).log2 + 1) * 2 ^ d := hlt
      _ ≤ 2 ^ (f.fractionBits + 1 + s) * 2 ^ d :=
        Nat.mul_le_mul_right _ (Nat.pow_le_pow_right two_pos (by omega))
      _ = 2 * f.binade * 2 ^ (d + s) := by
        rw [hB]
        ring

lemma significand_bounds (f : Format) (n d : Nat) {s : Nat}
    (hs : (n / 2 ^ d).log2 - f.fractionBits = s) :
    (0 < s → f.binade ≤ divNearest n (2 ^ (d + s))) ∧
      divNearest n (2 ^ (d + s)) ≤ 2 * f.binade := by
  obtain ⟨hlow, hhigh⟩ := shift_bounds f n d hs
  obtain ⟨hquotient, hround⟩ := divNearest_bounds n (2 ^ (d + s))
  have hpow : 0 < 2 ^ (d + s) := by positivity
  have hlt : n / 2 ^ (d + s) < 2 * f.binade := (Nat.div_lt_iff_lt_mul hpow).2 hhigh
  refine ⟨fun hpos => ?_, by omega⟩
  have hfull : f.binade ≤ n / 2 ^ (d + s) := (Nat.le_div_iff_mul_le hpow).2 (hlow hpos)
  omega

/-- Rounding gives a multiple of the unit that the dropped bits leave. -/
theorem units_nearest (f : Format) (n d : Nat) {s : Nat}
    (hs : (n / 2 ^ d).log2 - f.fractionBits = s) :
    f.units (f.nearest n d) = divNearest n (2 ^ (d + s)) * 2 ^ s := by
  obtain ⟨hfull, hroom⟩ := significand_bounds f n d hs
  simp only [Format.nearest, Nat.pow_eq, hs]
  exact units_shift f hfull hroom

/-- A size whose low bits are zero is a magnitude of the format, and is rounded to itself. -/
theorem units_nearest_of_dvd (f : Format) {n : Nat} (h : 2 ^ (n.log2 - f.fractionBits) ∣ n) :
    f.units (f.nearest n 0) = n := by
  have hs : (n / 2 ^ 0).log2 - f.fractionBits = n.log2 - f.fractionBits := by simp
  rw [units_nearest f n 0 hs, Nat.zero_add, divNearest_of_dvd (by positivity) h,
    Nat.div_mul_cancel h]

lemma nearest_lt_infinity (f : Format) {n : Nat} (h : 2 ^ (n.log2 - f.fractionBits) ∣ n)
    (hbits : n.log2 + 3 ≤ f.fractionBits + 2 ^ f.exponentBits) (he : 3 ≤ 2 ^ f.exponentBits) :
    f.nearest n 0 < f.infinity := by
  have hB : f.binade = 2 ^ f.fractionBits := by simp only [Format.binade, Nat.pow_eq]
  rw [nearest_of_dvd f h]
  generalize hs : n.log2 - f.fractionBits = s
  have hq : n / 2 ^ s < 2 * f.binade := by
    rw [Nat.div_lt_iff_lt_mul (by positivity)]
    have hlt : n < 2 ^ (n.log2 + 1) := Nat.lt_log2_self
    calc n < 2 ^ (n.log2 + 1) := hlt
      _ ≤ 2 ^ (f.fractionBits + 1 + s) := Nat.pow_le_pow_right two_pos (by omega)
      _ = 2 * f.binade * 2 ^ s := by rw [hB]; ring
  calc s * f.binade + n / 2 ^ s < (s + 2) * f.binade := by linarith
    _ ≤ (2 ^ f.exponentBits - 1) * f.binade := Nat.mul_le_mul_right _ (by omega)
    _ = f.infinity := by simp only [Format.infinity, Nat.pow_eq]

lemma log2_units_le (f : Format) (i k : Nat) :
    (f.units i * 2 ^ k).log2 ≤ f.fractionBits + (i / f.binade - 1) + k := by
  obtain ⟨m, hm, hu⟩ := units_eq_mul f i
  rw [hu, mul_assoc, ← pow_add]
  rcases Nat.eq_zero_or_pos m with rfl | hpos
  · simp
  · have hne : m * 2 ^ (i / f.binade - 1 + k) ≠ 0 := by positivity
    have hlt : m * 2 ^ (i / f.binade - 1 + k) <
        2 ^ (f.fractionBits + (i / f.binade - 1) + k + 1) := by
      have hB : 2 * f.binade = 2 ^ (f.fractionBits + 1) := by
        simp only [Format.binade, Nat.pow_eq, pow_succ, mul_comm]
      rw [hB] at hm
      calc _ < 2 ^ (f.fractionBits + 1) * 2 ^ (i / f.binade - 1 + k) :=
            Nat.mul_lt_mul_of_pos_right hm (by positivity)
        _ = _ := by rw [← pow_add]; congr 1; omega
    have := (Nat.log2_lt hne).2 hlt
    omega

/-- Rounding to a format with more significant bits and a wider range keeps the reading. -/
theorem reading_round_of_wider {f g : Format} (hp : f.fractionBits ≤ g.fractionBits)
    (hq : f.quantum ≤ g.quantum) (hf : 3 ≤ 2 ^ f.exponentBits) (hg : 3 ≤ 2 ^ g.exponentBits)
    (hrange : f.fractionBits + 2 ^ f.exponentBits + (g.quantum - f.quantum) ≤
      g.fractionBits + 2 ^ g.exponentBits) (x : Binary f) :
    reading (x.round g) = reading x := by
  cases x with
  | nan s p => rfl
  | number s i =>
    by_cases hi : i.val = f.infinity
    · rw [Binary.round, if_pos hi]
      simp only [Binary.clamp, reading, hi, lt_irrefl, if_false, Nat.min_self]
    · have hlt : i.val < f.infinity := lt_of_le_of_ne (Nat.le_of_lt_succ i.isLt) hi
      have he : i.val / f.binade < 2 ^ f.exponentBits - 1 := by
        rw [Nat.div_lt_iff_lt_mul (binade_pos f)]
        simpa only [Format.infinity, Nat.pow_eq] using hlt
      have hbits := log2_units_le f i.val (g.quantum - f.quantum)
      generalize hn : f.units i.val * 2 ^ (g.quantum - f.quantum) = n at hbits
      have hdvd : 2 ^ (n.log2 - g.fractionBits) ∣ n := by
        obtain ⟨m, -, hu⟩ := units_eq_mul f i.val
        rw [hu, mul_assoc, ← pow_add] at hn
        exact (pow_dvd_pow 2 (by omega)).trans (Dvd.intro_left m hn)
      have hfin := nearest_lt_infinity g hdvd (by omega) hg
      have hsub : f.quantum - g.quantum = 0 := by omega
      have hunits : (f.units i.val : ℚ) / 2 ^ f.quantum = (n : ℚ) / 2 ^ g.quantum := by
        obtain ⟨k, hk⟩ := Nat.exists_eq_add_of_le hq
        rw [← hn, hk, Nat.add_sub_cancel_left, pow_add]
        push_cast
        field_simp
      simp only [Binary.round, if_neg hi, Nat.pow_eq, hn, hsub, Binary.clamp, reading,
        Nat.min_eq_left hfin.le, if_pos hfin, if_pos hlt, units_nearest_of_dvd g hdvd, hunits]

theorem reading_widen (x : Binary32) : reading (x.round .double) = reading x :=
  reading_round_of_wider (by decide) (by decide) (by decide) (by decide) (by decide) x

theorem reading_of_toBinary? {f : Format} {v : Int64} {x : Binary f} (h : toBinary? f v = some x) :
    reading x = readingOfInt v.toInt := by
  simp only [toBinary?] at h
  split at h
  · rename_i hex
    cases h
    rw [reading, if_pos hex.1, hex.2, readingOfInt, Nat.pow_eq]
    congr 1
    push_cast
    field_simp
  · cases h

end TensorGraph.Proofs
