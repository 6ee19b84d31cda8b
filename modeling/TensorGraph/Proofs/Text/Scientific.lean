import Mathlib
import TensorGraph.Proofs.Binary.Narrowing
import TensorGraph.Proofs.Text.Digits
import TensorGraph.Text.Scientific

/-!
# Numbers in scientific notation

A number is printed as the nearest decimal with the given count of digits, ties going to the even
one. Decimals with a larger exponent are multiples of the same unit. Those with a smaller one lie
below the power of ten that starts the exponent, which is such a multiple itself. The digits and the
exponent are read back from the text.
-/

namespace TensorGraph.Proofs
open Text Text.Scientific

/-! ### Nearest multiples -/

/-- No multiple of the unit is nearer to `size` than that by `i`, and if another is as near then `i`
is even. -/
structure NearestMultiple (unit size : ℚ) (i : Nat) : Prop where
  le : ∀ j : Nat, |i * unit - size| ≤ |j * unit - size|
  even : ∀ j : Nat, j ≠ i → |j * unit - size| = |i * unit - size| → i % 2 = 0

lemma nearestMultiple_divNearest {n d : Nat} {unit size c : ℚ} (hd : 0 < d) (hc : 0 < c)
    (hunit : unit * c = d) (hsize : size * c = n) :
    NearestMultiple unit size (divNearest n d) := by
  have hdist : ∀ j : Nat, |j * unit - size| = (Nat.dist (j * d) n : ℚ) / c := by
    intro j
    have hscaled : (j * unit - size) * c = ((j * d : Nat) : ℚ) - n := by
      rw [sub_mul, mul_assoc, hunit, hsize, Nat.cast_mul]
    rw [← abs_cast_sub_cast, ← hscaled, abs_mul, abs_of_pos hc,
      mul_div_cancel_right₀ _ hc.ne']
  constructor
  · intro j
    rw [hdist, hdist, div_le_div_iff_of_pos_right hc, Nat.cast_le]
    exact (isNearest_divNearest hd (j + 1) n).le j (Nat.lt_succ_self j)
  · intro j hj h
    rw [hdist, hdist, div_left_inj' hc.ne', Nat.cast_inj] at h
    exact (isNearest_divNearest hd (j + 1) n).even j (Nat.lt_succ_self j) hj h

/-! ### Nearest decimals -/

/-- The number with the digits of `m`, of which `places` stand after the point, times a power of
ten. -/
def decimal (places m : Nat) (exponent : Int) : ℚ := m * 10 ^ (exponent - places)

/-- No decimal of `places + 1` digits is nearer to `size`, with whatever exponent, and if a
different one is as near then the last digit is even. -/
structure NearestDecimal (places : Nat) (size : ℚ) (m : Nat) (exponent : Int) : Prop where
  leading : 10 ^ places ≤ m
  lt : m < 10 ^ (places + 1)
  le : ∀ k e, k < 10 ^ (places + 1) →
    |decimal places m exponent - size| ≤ |decimal places k e - size|
  even : ∀ k e, k < 10 ^ (places + 1) → decimal places k e ≠ decimal places m exponent →
    |decimal places k e - size| = |decimal places m exponent - size| → m % 2 = 0

lemma decimal_pow (places : Nat) (e : Int) : decimal places (10 ^ places) e = 10 ^ e := by
  rw [decimal, Nat.cast_pow, Nat.cast_ofNat, ← zpow_natCast, ← zpow_add₀ (by norm_num),
    add_sub_cancel]

lemma decimal_pow_succ (places : Nat) (e : Int) :
    decimal places (10 ^ (places + 1)) e = 10 ^ (e + 1) := by
  rw [decimal, Nat.cast_pow, Nat.cast_ofNat, ← zpow_natCast, ← zpow_add₀ (by norm_num)]
  congr 1
  push_cast
  ring

lemma decimal_lt_decimal_iff {places m k : Nat} {e : Int} :
    decimal places m e < decimal places k e ↔ m < k := by
  rw [decimal, decimal, mul_lt_mul_iff_left₀ (by positivity), Nat.cast_lt]

lemma exists_multiple_or_lt {places k : Nat} (hk : k < 10 ^ (places + 1)) (e e' : Int) :
    (∃ j, decimal places k e' = decimal places j e) ∨ decimal places k e' < 10 ^ e := by
  rcases le_or_gt e e' with h | h
  · obtain ⟨i, rfl⟩ := Int.le.dest h
    refine .inl ⟨k * 10 ^ i, ?_⟩
    have hpow : (10 : ℚ) ^ (e + i - places) = 10 ^ i * 10 ^ (e - places) := by
      rw [← zpow_natCast, ← zpow_add₀ (by norm_num)]
      congr 1
      ring
    rw [decimal, decimal, hpow, Nat.cast_mul, Nat.cast_pow, Nat.cast_ofNat, mul_assoc]
  · refine .inr ?_
    calc decimal places k e' < decimal places (10 ^ (places + 1)) e' :=
          decimal_lt_decimal_iff.2 hk
      _ = 10 ^ (e' + 1) := decimal_pow_succ places e'
      _ ≤ 10 ^ e := zpow_le_zpow_right₀ (by norm_num) h

section Nearest

variable {places m : Nat} {size : ℚ} {e : Int} (hlow : 10 ^ e ≤ size)
  (hm : NearestMultiple (10 ^ (e - places)) size m)
include hlow hm

/-- What lies below the power of ten is farther than that power. -/
lemma abs_decimal_sub_lt {x : ℚ} (hx : x < 10 ^ e) :
    |decimal places m e - size| < |x - size| := by
  calc |decimal places m e - size| ≤ |decimal places (10 ^ places) e - size| := hm.le _
    _ = size - 10 ^ e := by rw [decimal_pow, abs_sub_comm, abs_of_nonneg (by linarith)]
    _ < size - x := by linarith
    _ ≤ |x - size| := by
      rw [abs_sub_comm]
      exact le_abs_self _

lemma abs_decimal_sub_le {k : Nat} (hk : k < 10 ^ (places + 1)) (e' : Int) :
    |decimal places m e - size| ≤ |decimal places k e' - size| := by
  rcases exists_multiple_or_lt hk e e' with ⟨j, hj⟩ | hlt
  · rw [hj]
    exact hm.le j
  · exact (abs_decimal_sub_lt hlow hm hlt).le

lemma even_of_abs_decimal_sub_eq {k : Nat} (hk : k < 10 ^ (places + 1)) {e' : Int}
    (hne : decimal places k e' ≠ decimal places m e)
    (h : |decimal places k e' - size| = |decimal places m e - size|) : m % 2 = 0 := by
  rcases exists_multiple_or_lt hk e e' with ⟨j, hj⟩ | hlt
  · rw [hj] at hne h
    exact hm.even j (fun hjm => hne (hjm ▸ rfl)) h
  · exact absurd h (abs_decimal_sub_lt hlow hm hlt).ne'

lemma pow_le_of_nearestMultiple : 10 ^ places ≤ m := by
  by_contra hless
  have hbelow : decimal places m e < decimal places (10 ^ places) e :=
    decimal_lt_decimal_iff.2 (Nat.lt_of_not_le hless)
  rw [decimal_pow] at hbelow
  exact lt_irrefl _ (abs_decimal_sub_lt hlow hm hbelow)

end Nearest

lemma le_pow_of_nearestMultiple {places m : Nat} {size : ℚ} {e : Int} (hhigh : size < 10 ^ (e + 1))
    (hm : NearestMultiple (10 ^ (e - places)) size m) : m ≤ 10 ^ (places + 1) := by
  by_contra hmore
  have habove : decimal places (10 ^ (places + 1)) e < decimal places m e :=
    decimal_lt_decimal_iff.2 (Nat.lt_of_not_le hmore)
  rw [decimal_pow_succ] at habove
  have hle : |decimal places m e - size| ≤ |decimal places (10 ^ (places + 1)) e - size| := hm.le _
  rw [decimal_pow_succ, abs_of_pos (by linarith), abs_of_pos (by linarith)] at hle
  linarith

/-- A multiple that reaches the next power of ten is written with the exponent of that power, and
its last digit is a zero after the point. -/
lemma nearestDecimal_of_nearestMultiple {places m : Nat} {size : ℚ} {e : Int}
    (hplaces : 0 < places) (hlow : 10 ^ e ≤ size) (hhigh : size < 10 ^ (e + 1))
    (hm : NearestMultiple (10 ^ (e - places)) size m) :
    if m = 10 ^ (places + 1) then NearestDecimal places size (10 ^ places) (e + 1)
    else NearestDecimal places size m e := by
  split
  · rename_i hcarry
    have hsame : decimal places (10 ^ places) (e + 1) = decimal places m e := by
      rw [decimal_pow, hcarry, decimal_pow_succ]
    refine ⟨le_rfl, Nat.pow_lt_pow_succ (by norm_num), ?_, ?_⟩
    · intro k e' hk
      rw [hsame]
      exact abs_decimal_sub_le hlow hm hk e'
    · intro k e' _ _ _
      obtain ⟨p, rfl⟩ := Nat.exists_eq_succ_of_ne_zero hplaces.ne'
      rw [Nat.pow_succ, Nat.mul_mod]
      simp
  · rename_i hm'
    have hle := le_pow_of_nearestMultiple hhigh hm
    exact ⟨pow_le_of_nearestMultiple hlow hm, lt_of_le_of_ne hle hm',
      fun k e' hk => abs_decimal_sub_le hlow hm hk e',
      fun k e' hk => even_of_abs_decimal_sub_eq hlow hm hk⟩

/-! ### Exponents -/

lemma digitCount_pos (n : Nat) : 0 < digitCount n := Nat.length_toDigits_pos

lemma lt_pow_digitCount (n : Nat) : n < 10 ^ digitCount n :=
  (Nat.length_toDigits_le_iff (by norm_num) (digitCount_pos n)).1 le_rfl

lemma pow_digitCount_le {n : Nat} (hn : 0 < n) : 10 ^ (digitCount n - 1) ≤ n := by
  have hpos := digitCount_pos n
  rcases Nat.eq_zero_or_pos (digitCount n - 1) with hone | hmore
  · rw [hone]
    exact hn
  · have hlength : digitCount n ≤ digitCount n - 1 ↔ n < 10 ^ (digitCount n - 1) :=
      Nat.length_toDigits_le_iff (by norm_num) hmore
    exact Nat.le_of_not_lt fun hless => absurd (hlength.2 hless) (by omega)

section Decompose

variable {places n d : Nat}

lemma bounds_of_le (hd : 0 < d) (h : d ≤ n) :
    (10 : ℚ) ^ ((digitCount (n / d) - 1 : Nat) : Int) ≤ n / d ∧
      (n / d : ℚ) < 10 ^ (((digitCount (n / d) - 1 : Nat) : Int) + 1) := by
  have hcount : digitCount (n / d) - 1 + 1 = digitCount (n / d) :=
    Nat.sub_add_cancel (digitCount_pos _)
  have hlow := pow_digitCount_le (Nat.div_pos h hd)
  have hhigh := lt_pow_digitCount (n / d)
  rw [Nat.le_div_iff_mul_le hd] at hlow
  rw [Nat.div_lt_iff_lt_mul hd] at hhigh
  have hd' : (0 : ℚ) < d := by exact_mod_cast hd
  rw [le_div_iff₀ hd', div_lt_iff₀ hd', ← Nat.cast_succ, Nat.succ_eq_add_one, hcount, zpow_natCast,
    zpow_natCast]
  exact ⟨by exact_mod_cast hlow, by exact_mod_cast hhigh⟩

lemma bounds_of_lt (hn : 0 < n) (h : n < d) :
    (10 : ℚ) ^ (-(digitCount ((d - 1) / n) : Int)) ≤ n / d ∧
      (n / d : ℚ) < 10 ^ (-(digitCount ((d - 1) / n) : Int) + 1) := by
  have hpos := digitCount_pos ((d - 1) / n)
  have hlow := lt_pow_digitCount ((d - 1) / n)
  have hhigh := pow_digitCount_le (Nat.div_pos (Nat.le_sub_one_of_lt h) hn)
  rw [Nat.div_lt_iff_lt_mul hn] at hlow
  rw [Nat.le_div_iff_mul_le hn] at hhigh
  generalize digitCount ((d - 1) / n) = k at *
  have hbelow : d ≤ 10 ^ k * n := by omega
  have habove : 10 ^ (k - 1) * n < d := by omega
  have hd' : (0 : ℚ) < d := by exact_mod_cast Nat.zero_lt_of_lt h
  have hexponent : -(k : Int) + 1 = -((k - 1 : Nat) : Int) := by omega
  rw [hexponent, zpow_neg, zpow_neg, zpow_natCast, zpow_natCast, le_div_iff₀ hd',
    div_lt_iff₀ hd', inv_mul_le_iff₀ (by positivity), lt_inv_mul_iff₀ (by positivity)]
  exact ⟨by exact_mod_cast hbelow, by exact_mod_cast habove⟩

lemma exists_decompose (hn : 0 < n) (hd : 0 < d) (places : Nat) :
    ∃ (e : Int) (m : Nat), (10 : ℚ) ^ e ≤ n / d ∧ (n / d : ℚ) < 10 ^ (e + 1) ∧
      NearestMultiple (10 ^ (e - places)) (n / d) m ∧
      decompose places n d =
        if m = 10 ^ (places + 1) then (e + 1, 10 ^ places) else (e, m) := by
  have hd' : (d : ℚ) ≠ 0 := by exact_mod_cast hd.ne'
  by_cases h : d ≤ n
  · obtain ⟨hlow, hhigh⟩ := bounds_of_le hd h
    refine ⟨_, divNearest (n * 10 ^ places) (d * 10 ^ (digitCount (n / d) - 1)), hlow, hhigh, ?_,
      ?_⟩
    · apply nearestMultiple_divNearest (c := d * 10 ^ places) (by positivity) (by positivity)
      · rw [zpow_sub₀ (by norm_num), zpow_natCast, zpow_natCast]
        push_cast
        field_simp
      · push_cast
        field_simp
    · rw [decompose, if_pos h]
      rfl
  · obtain ⟨hlow, hhigh⟩ := bounds_of_lt hn (Nat.lt_of_not_le h)
    refine ⟨_, divNearest (n * 10 ^ (digitCount ((d - 1) / n) + places)) d, hlow, hhigh, ?_, ?_⟩
    · apply nearestMultiple_divNearest (c := d * 10 ^ (digitCount ((d - 1) / n) + places)) hd
        (by positivity)
      · rw [← neg_add', zpow_neg, ← Nat.cast_add, zpow_natCast]
        field_simp
      · push_cast
        field_simp
    · rw [decompose, if_neg h]
      rfl

theorem nearestDecimal_decompose (hplaces : 0 < places) (hn : 0 < n) (hd : 0 < d) :
    NearestDecimal places (n / d) (decompose places n d).2 (decompose places n d).1 := by
  obtain ⟨e, m, hlow, hhigh, hm, heq⟩ := exists_decompose hn hd places
  have hnearest := nearestDecimal_of_nearestMultiple hplaces hlow hhigh hm
  rw [heq]
  by_cases hcarry : m = 10 ^ (places + 1)
  · rw [if_pos hcarry] at hnearest ⊢
    exact hnearest
  · rw [if_neg hcarry] at hnearest ⊢
    exact hnearest

end Decompose

/-! ### Texts -/

/-- The text has one digit before the point and `places` after it, which read as `m` without the
point, and after them the exponent. -/
def Spells (places m : Nat) (exponent : Int) (text : String) : Prop :=
  ∃ (lead : Char) (fraction : List Char) (power : String),
    text = String.ofList (lead :: '.' :: fraction) ++ "e" ++ power ∧ fraction.length = places ∧
      (∀ c ∈ lead :: fraction, c.isDigit = true) ∧
      Nat.ofDigitChars 10 (lead :: fraction) 0 = m ∧ SpellsInteger exponent power

lemma spells_significand {places m : Nat} (hm : m < 10 ^ (places + 1)) (exponent : Int) :
    Spells places m exponent (Scientific.significand places m ++ "e" ++ toString exponent) := by
  have hpos : 0 < 10 ^ places := by positivity
  have hlead : m / 10 ^ places < 10 := Nat.div_lt_of_lt_mul hm
  obtain ⟨fraction, hdigits, hlength, hvalue⟩ := exists_toDigits places (Nat.mod_lt m hpos)
  refine ⟨(m / 10 ^ places).digitChar, fraction, toString exponent, ?_, hlength, ?_, ?_,
    spellsInteger_toString exponent⟩
  · simp only [Scientific.significand, Nat.pow_eq, hdigits, List.drop_one, List.tail_cons,
      Nat.toString_eq_repr, Nat.repr_eq_ofList_toDigits, Nat.toDigits_of_lt_base hlead]
    simp [← String.toList_inj]
  · rintro c (_ | ⟨_, hc⟩)
    · exact isDigit_digitChar hlead
    · exact Nat.isDigit_of_mem_toDigits (by decide) (by decide) (hdigits ▸ List.mem_cons_of_mem _ hc)
  · rw [Nat.ofDigitChars_cons, Nat.mul_zero, Nat.zero_add, toNat_digitChar hlead, hvalue,
      Nat.div_add_mod]

/-! ### Numbers -/

/-- What a text shows of a real number, with `plus` for the sign of those that are not negative. -/
structure ShowsReal (places : Nat) (plus : String) {f : Format} (x : Binary f) (text : String) :
    Prop where
  nan : reading x = .nan → text = "NaN"
  infinite : ∀ negative, reading x = .infinite negative →
    text = (if negative then "-" else plus) ++ "inf"
  finite : ∀ negative size, reading x = .finite negative size →
    ∃ m exponent rest, text = (if negative then "-" else plus) ++ rest ∧
      Spells places m exponent rest ∧
      if size = 0 then m = 0 ∧ exponent = 0 else NearestDecimal places size m exponent

lemma size_eq_zero_iff (f : Format) (i : Nat) : (f.units i : ℚ) / 2 ^ f.quantum = 0 ↔ i = 0 := by
  have hzero : f.units 0 = 0 := units_of_lt (binade_pos f)
  rw [div_eq_zero_iff, or_iff_left (by positivity), Nat.cast_eq_zero]
  constructor
  · exact fun h => (strictMono_units f).injective (h.trans hzero.symm)
  · rintro rfl
    exact hzero

lemma exists_spells {places : Nat} (hplaces : 0 < places) (f : Format) (i : Nat) :
    ∃ m exponent, (if i = 0 then (0, 0) else decompose places (f.units i) (Nat.pow 2 f.quantum)) =
        (exponent, m) ∧
      m < 10 ^ (places + 1) ∧
      if (f.units i : ℚ) / 2 ^ f.quantum = 0 then m = 0 ∧ exponent = 0
      else NearestDecimal places (f.units i / 2 ^ f.quantum) m exponent := by
  simp only [size_eq_zero_iff]
  by_cases hi : i = 0
  · simp only [if_pos hi]
    exact ⟨0, 0, rfl, by positivity, rfl, rfl⟩
  · simp only [if_neg hi]
    have hunits : 0 < f.units i := (Nat.zero_le _).trans_lt
      (strictMono_units f (Nat.pos_of_ne_zero hi))
    have hnearest := nearestDecimal_decompose (d := 2 ^ f.quantum) hplaces hunits (by positivity)
    rw [Nat.cast_pow, Nat.cast_ofNat] at hnearest
    exact ⟨_, _, rfl, hnearest.lt, hnearest⟩

/-- Every number is printed as its nearest decimal. -/
theorem showsReal_render (style : Scientific) {f : Format} (x : Binary f) :
    ShowsReal style.places (if style.plusSign then "+" else "") x (style.render x) := by
  cases x with
  | nan s p =>
    constructor
    case nan => exact fun _ => rfl
    case infinite => exact fun _ h => nomatch h
    case finite => exact fun _ _ h => nomatch h
  | number s i =>
    constructor
    case nan => exact fun h => nomatch (reading_eq_nan_iff _).1 h
    case infinite =>
      intro negative h
      obtain ⟨hi, rfl⟩ := reading_eq_infinite_iff.1 h
      simp only [Scientific.render, if_pos hi]
    case finite =>
      intro negative size h
      obtain ⟨hi, rfl, rfl⟩ := reading_eq_finite_iff.1 h
      obtain ⟨m, exponent, hdecompose, hm, hnearest⟩ := exists_spells style.places_pos f i.val
      refine ⟨m, exponent, _, ?_, spells_significand hm exponent, hnearest⟩
      simp only [Scientific.render, if_neg hi.ne, hdecompose, String.append_assoc]

/-- The double next to 9999.9 is rounded up to the next power of ten. -/
example : (⟨3, false, by decide⟩ : Scientific).render (.ofWord .double 0x40c387f333333333) =
    "1.000e4" := by decide +kernel

end TensorGraph.Proofs
