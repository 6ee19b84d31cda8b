import Mathlib
import TensorGraph.Proofs.Binary.Quiet
import TensorGraph.Proofs.Binary.Word

/-!
# Narrowing to single precision

A number is rounded to the nearest one of the coarser format, and of two that are as near to the one
with the even significand. The magnitudes that have as many low zeros as were dropped are found by
rounding the quotient. All others lie below the size and are farther from it than the lowest of
these. This determines what every double is narrowed to, if it is not refused.
-/

namespace TensorGraph.Proofs

/-! ### Nearest points of a grid -/

/-- Among the first `bound` points of the grid none is nearer to `n` than the point `i`, and if
another is as near then `i` is even. -/
structure IsNearest (grid : Nat → Nat) (bound n i : Nat) : Prop where
  le : ∀ j < bound, Nat.dist (grid i) n ≤ Nat.dist (grid j) n
  even : ∀ j < bound, j ≠ i → Nat.dist (grid j) n = Nat.dist (grid i) n → i % 2 = 0

/-- Two points that are as near lie on both sides, and if both are even there is one between. -/
lemma IsNearest.not_lt {grid : Nat → Nat} (hgrid : StrictMono grid) {bound n i j : Nat}
    (hi : IsNearest grid bound n i) (hj : IsNearest grid bound n j) (hjb : j < bound) : ¬i < j := by
  intro hij
  have hdist : Nat.dist (grid j) n = Nat.dist (grid i) n :=
    Nat.le_antisymm (hj.le i (by omega)) (hi.le j hjb)
  have hieven := hi.even j hjb hij.ne' hdist
  have hjeven := hj.even i (by omega) hij.ne hdist.symm
  have hlow : grid i < grid (i + 1) := hgrid (Nat.lt_succ_self i)
  have hhigh : grid (i + 1) < grid j := hgrid (by omega)
  have hbetween := hi.le (i + 1) (by omega)
  unfold Nat.dist at hdist hbetween
  omega

lemma IsNearest.unique {grid : Nat → Nat} (hgrid : StrictMono grid) {bound n i j : Nat}
    (hi : IsNearest grid bound n i) (hj : IsNearest grid bound n j) (hib : i < bound)
    (hjb : j < bound) : i = j :=
  Nat.le_antisymm (Nat.le_of_not_lt (hj.not_lt hgrid hi hib))
    (Nat.le_of_not_lt (hi.not_lt hgrid hj hjb))

/-- A quotient is rounded by half a divisor at most, and by just half only to an even number. -/
lemma two_mul_dist_divNearest {n d : Nat} (hd : 0 < d) :
    2 * Nat.dist (divNearest n d * d) n < d ∨
      2 * Nat.dist (divNearest n d * d) n = d ∧ divNearest n d % 2 = 0 := by
  have hn := Nat.div_add_mod' n d
  have hr := Nat.mod_lt n hd
  have hnext : (n / d + 1) * d = n / d * d + d := Nat.succ_mul _ _
  unfold divNearest Nat.dist
  split
  · rename_i hlt
    rw [Nat.compare_eq_lt] at hlt
    omega
  · rename_i htie
    rw [Nat.compare_eq_eq] at htie
    rcases Nat.mod_two_eq_zero_or_one (n / d) with heven | hodd
    · rw [heven, Nat.add_zero]
      omega
    · rw [hodd]
      omega
  · rename_i hgt
    rw [Nat.compare_eq_gt] at hgt
    omega

/-- Of the multiples of `d` the nearest to `n` is the one the quotient is rounded to. -/
lemma isNearest_divNearest {d : Nat} (hd : 0 < d) (bound n : Nat) :
    IsNearest (· * d) bound n (divNearest n d) := by
  have hhalf := two_mul_dist_divNearest (n := n) hd
  have hother : ∀ j, j ≠ divNearest n d →
      j * d + d ≤ divNearest n d * d ∨ divNearest n d * d + d ≤ j * d := by
    intro j hj
    rcases Nat.lt_or_gt_of_ne hj with h | h
    · exact .inl (Nat.succ_mul j d ▸ Nat.mul_le_mul_right d h)
    · exact .inr (Nat.succ_mul _ d ▸ Nat.mul_le_mul_right d h)
  unfold Nat.dist at hhalf
  constructor
  · intro j _
    by_cases hj : j = divNearest n d
    · rw [hj]
    · have hapart := hother j hj
      unfold Nat.dist
      omega
  · intro j _ hj hdist
    have hapart := hother j hj
    unfold Nat.dist at hdist
    omega

/-! ### Magnitudes as a grid -/

section Format

variable (f : Format)

lemma strictMono_units : StrictMono f.units := by
  apply strictMono_nat_of_lt_succ
  intro i
  have hpos := binade_pos f
  have hi := Nat.div_add_mod' i f.binade
  have hr := Nat.mod_lt i hpos
  obtain ⟨s, q, rfl, hfull, hq⟩ : ∃ s q, i = s * f.binade + q ∧ (0 < s → f.binade ≤ q) ∧
      q < 2 * f.binade := by
    rcases Nat.eq_zero_or_pos (i / f.binade) with hlow | hhigh
    · refine ⟨0, i, by rw [Nat.zero_mul, Nat.zero_add], fun h => absurd h (Nat.lt_irrefl 0), ?_⟩
      rw [hlow] at hi
      omega
    · refine ⟨i / f.binade - 1, f.binade + i % f.binade, ?_, fun _ => Nat.le_add_right _ _, ?_⟩
      · rw [← Nat.add_assoc, ← Nat.succ_mul, Nat.succ_eq_add_one, Nat.sub_add_cancel hhigh, hi]
      · omega
  have hnext : 0 < s → f.binade ≤ q + 1 := fun h => Nat.le_succ_of_le (hfull h)
  rw [Nat.add_assoc, units_shift f hfull hq.le, units_shift f hnext hq]
  exact Nat.mul_lt_mul_of_pos_right (Nat.lt_succ_self q) (by positivity)

/-- Magnitudes with a smaller spacing than `2 ^ s` lie below all that have a filled significand at
this spacing. -/
lemma exists_units_eq_mul_or_lt (s j : Nat) :
    (∃ c, f.units j = c * 2 ^ s) ∨ 0 < s ∧ f.units j < f.binade * 2 ^ s := by
  obtain ⟨m, hm, hunits⟩ := units_eq_mul f j
  generalize j / f.binade - 1 = e at hunits
  rcases Nat.lt_or_ge e s with hlt | hge
  · refine .inr ⟨by omega, ?_⟩
    calc f.units j = m * 2 ^ e := hunits
      _ < 2 * f.binade * 2 ^ e := Nat.mul_lt_mul_of_pos_right hm (by positivity)
      _ = f.binade * 2 ^ (e + 1) := by ring
      _ ≤ f.binade * 2 ^ s := Nat.mul_le_mul_left _ (Nat.pow_le_pow_right two_pos hlt)
  · obtain ⟨k, rfl⟩ := Nat.exists_eq_add_of_le' hge
    exact .inl ⟨m * 2 ^ k, by rw [hunits, pow_add, Nat.mul_assoc]⟩

lemma binade_mod_two : f.binade % 2 = 0 := by
  have hquiet := f.quietBit_add_quietBit
  omega

/-- No magnitude is nearer to `n / 2 ^ d` units than the one it is rounded to. -/
theorem isNearest_nearest (bound n d : Nat) :
    IsNearest (fun i => f.units i * 2 ^ d) bound n (f.nearest n d) := by
  obtain ⟨s, hs⟩ : ∃ s, (n / 2 ^ d).log2 - f.fractionBits = s := ⟨_, rfl⟩
  have hunits := units_nearest f n d hs
  have hnearest : f.nearest n d = s * f.binade + divNearest n (2 ^ (d + s)) := by
    simp only [Format.nearest, Nat.pow_eq, hs]
  have hscale : ∀ c, c * 2 ^ s * 2 ^ d = c * 2 ^ (d + s) := fun c => by ring
  have hquotient := fun k => isNearest_divNearest (show 0 < 2 ^ (d + s) by positivity) (k + 1) n
  -- What lies below the filled significands is farther than the lowest of them.
  have hfarther : ∀ j, 0 < s → f.units j < f.binade * 2 ^ s →
      Nat.dist (divNearest n (2 ^ (d + s)) * 2 ^ (d + s)) n < Nat.dist (f.units j * 2 ^ d) n := by
    intro j hpos hlow
    have hn := (shift_bounds f n d hs).1 hpos
    have hlowest := (hquotient f.binade).le f.binade (Nat.lt_succ_self _)
    have hbelow : f.units j * 2 ^ d < f.binade * 2 ^ (d + s) :=
      hscale f.binade ▸ Nat.mul_lt_mul_of_pos_right hlow (by positivity)
    unfold Nat.dist at hlowest ⊢
    omega
  constructor
  · intro j _
    simp only [hunits, hscale]
    rcases exists_units_eq_mul_or_lt f s j with ⟨c, hc⟩ | ⟨hpos, hlow⟩
    · rw [hc, hscale]
      exact (hquotient c).le c (Nat.lt_succ_self c)
    · exact (hfarther j hpos hlow).le
  · intro j _ hj hdist
    simp only [hunits, hscale] at hdist
    rcases exists_units_eq_mul_or_lt f s j with ⟨c, hc⟩ | ⟨hpos, hlow⟩
    · have hne : c ≠ divNearest n (2 ^ (d + s)) := by
        rintro rfl
        exact hj ((strictMono_units f).injective (hc.trans hunits.symm))
      rw [hc, hscale] at hdist
      have heven := (hquotient c).even c (Nat.lt_succ_self c) hne hdist
      rw [hnearest, Nat.add_mod, Nat.mul_mod, binade_mod_two f, heven]
      simp
    · exact absurd hdist (hfarther j hpos hlow).ne'

end Format

/-! ### Values -/

section Value

variable {f g : Format}

/-- The exact value of a number that is finite. -/
def value (x : Binary f) : ℚ :=
  match reading x with
  | .finite negative size => if negative then -size else size
  | _ => 0

/-- The significand of a number, with the leading bit that its word leaves out. -/
def significand : Binary f → Nat
  | .nan .. => 0
  | .number _ i => if i.val < f.binade then i.val else f.binade + i.val % f.binade

/-- Among all finite numbers of the format none is nearer to the value, and if a different one is as
near then the significand is even. -/
structure NearestEven (exact : ℚ) (y : Binary f) : Prop where
  finite : y.isFinite = true
  le : ∀ z : Binary f, z.isFinite = true → |value y - exact| ≤ |value z - exact|
  even : ∀ z : Binary f, z.isFinite = true → value z ≠ value y →
    |value z - exact| = |value y - exact| → significand y % 2 = 0

lemma significand_mod_two (s : Bool) (i : Fin (f.infinity + 1)) :
    significand (.number s i : Binary f) % 2 = i.val % 2 := by
  have hbinade := binade_mod_two f
  rw [significand]
  split
  · rfl
  · rw [Nat.add_mod, hbinade, Nat.zero_add, Nat.mod_mod,
      Nat.mod_mod_of_dvd _ (Nat.dvd_of_mod_eq_zero hbinade)]

lemma isFinite_number_iff {s : Bool} {i : Fin (f.infinity + 1)} :
    (.number s i : Binary f).isFinite = true ↔ i.val < f.infinity := decide_eq_true_iff

lemma value_number {i : Fin (f.infinity + 1)} (hi : i.val < f.infinity) (s : Bool) :
    value (.number s i : Binary f) =
      if s then -((f.units i.val : ℚ) / 2 ^ f.quantum)
      else (f.units i.val : ℚ) / 2 ^ f.quantum := by
  rw [value, reading_eq_finite_iff.2 ⟨hi, rfl, rfl⟩]

lemma size_nonneg (f : Format) (i : Nat) : (0 : ℚ) ≤ (f.units i : ℚ) / 2 ^ f.quantum := by
  positivity

lemma abs_value_number {i : Fin (f.infinity + 1)} (hi : i.val < f.infinity) (s : Bool) :
    |value (.number s i : Binary f)| = (f.units i.val : ℚ) / 2 ^ f.quantum := by
  rw [value_number hi]
  split
  · rw [abs_neg, abs_of_nonneg (size_nonneg f i.val)]
  · rw [abs_of_nonneg (size_nonneg f i.val)]

lemma value_eq_value_iff {j k : Fin (f.infinity + 1)} (hj : j.val < f.infinity)
    (hk : k.val < f.infinity) (s : Bool) :
    value (.number s j : Binary f) = value (.number s k) ↔ j.val = k.val := by
  have hpos : (2 : ℚ) ^ f.quantum ≠ 0 := by positivity
  rw [value_number hj, value_number hk, ← (strictMono_units f).injective.eq_iff]
  cases s <;> simp [div_left_inj' hpos]

lemma abs_cast_sub_cast (a b : Nat) : |(a : ℚ) - b| = Nat.dist a b := by
  rcases Nat.le_total a b with h | h
  · rw [abs_sub_comm, abs_of_nonneg (by simpa using h), Nat.dist_eq_sub_of_le h, Nat.cast_sub h]
  · rw [abs_of_nonneg (by simpa using h), Nat.dist_eq_sub_of_le_right h, Nat.cast_sub h]

/-- The size of magnitude number `i` of `f`, in the smaller one of the two units. -/
def finerUnits (f g : Format) (i : Nat) : Nat := f.units i * 2 ^ (g.quantum - f.quantum)

lemma strictMono_finerUnits (f g : Format) : StrictMono (finerUnits f g) := fun _ _ h =>
  Nat.mul_lt_mul_of_pos_right (strictMono_units f h) (by positivity)

lemma abs_size_sub_size (f g : Format) (i j : Nat) :
    |(g.units j : ℚ) / 2 ^ g.quantum - f.units i / 2 ^ f.quantum| =
      (Nat.dist (finerUnits g f j) (finerUnits f g i) : ℚ) /
        2 ^ (f.quantum - g.quantum + g.quantum) := by
  have hcommon : (g.units j : ℚ) / 2 ^ g.quantum - f.units i / 2 ^ f.quantum =
      ((finerUnits g f j : ℚ) - finerUnits f g i) / 2 ^ (f.quantum - g.quantum + g.quantum) := by
    unfold finerUnits
    rcases Nat.le_total f.quantum g.quantum with h | h
    · obtain ⟨k, hk⟩ := Nat.exists_eq_add_of_le h
      rw [hk, Nat.sub_eq_zero_of_le (Nat.le_add_right _ _), Nat.add_sub_cancel_left, pow_add,
        pow_add]
      push_cast
      field_simp
      ring
    · obtain ⟨k, hk⟩ := Nat.exists_eq_add_of_le h
      rw [hk, Nat.sub_eq_zero_of_le (Nat.le_add_right _ _), Nat.add_sub_cancel_left, pow_add,
        pow_add]
      push_cast
      field_simp
  have hpos : (0 : ℚ) < 2 ^ (f.quantum - g.quantum + g.quantum) := by positivity
  rw [hcommon, abs_div, abs_cast_sub_cast, abs_of_pos hpos]

section Rounded

variable {s : Bool} {i : Fin (f.infinity + 1)} (hi : i.val < f.infinity)
include hi

/-- With the same sign the distance of two numbers is that of their sizes. -/
lemma abs_value_sub_value {j : Fin (g.infinity + 1)} (hj : j.val < g.infinity) :
    |value (.number s j : Binary g) - value (.number s i : Binary f)| =
      (Nat.dist (finerUnits g f j.val) (finerUnits f g i.val) : ℚ) /
        2 ^ (f.quantum - g.quantum + g.quantum) := by
  rw [value_number hi, value_number hj, ← abs_size_sub_size]
  cases s with
  | false => rfl
  | true =>
    rw [if_pos rfl, if_pos rfl, abs_sub_comm]
    congr 1
    ring

/-- With different signs it is their sum. -/
lemma abs_value_sub_value_of_ne {t : Bool} (hts : t ≠ s) {j : Fin (g.infinity + 1)}
    (hj : j.val < g.infinity) :
    |value (.number t j : Binary g) - value (.number s i : Binary f)| =
      (g.units j.val : ℚ) / 2 ^ g.quantum + f.units i.val / 2 ^ f.quantum := by
  have hz := size_nonneg g j.val
  have hx := size_nonneg f i.val
  rw [value_number hi, value_number hj]
  cases s with
  | false =>
    rw [Bool.eq_true_of_not_eq_false hts, if_pos rfl, if_neg Bool.false_ne_true]
    rw [abs_sub_comm, abs_of_nonneg (by linarith)]
    ring
  | true =>
    rw [Bool.eq_false_of_not_eq_true hts, if_pos rfl, if_neg Bool.false_ne_true]
    rw [abs_of_nonneg (by linarith)]
    ring

variable (s) in
lemma distance_le_iff {j k : Fin (g.infinity + 1)} (hj : j.val < g.infinity)
    (hk : k.val < g.infinity) :
    |value (.number s j : Binary g) - value (.number s i : Binary f)| ≤
        |value (.number s k : Binary g) - value (.number s i : Binary f)| ↔
      Nat.dist (finerUnits g f j.val) (finerUnits f g i.val) ≤
        Nat.dist (finerUnits g f k.val) (finerUnits f g i.val) := by
  rw [abs_value_sub_value hi hj, abs_value_sub_value hi hk,
    div_le_div_iff_of_pos_right (by positivity), Nat.cast_le]

lemma isNearest_of_nearestEven {j : Fin (g.infinity + 1)}
    (hj : j.val < g.infinity)
    (h : NearestEven (value (.number s i : Binary f)) (.number s j : Binary g)) :
    IsNearest (finerUnits g f) g.infinity (finerUnits f g i.val) j.val := by
  constructor
  · intro k hk
    exact (distance_le_iff s hi hj hk).1
      (h.le (.number s ⟨k, Nat.lt_succ_of_lt hk⟩) (isFinite_number_iff.2 hk))
  · intro k hk hkj hdist
    rw [← significand_mod_two s j]
    apply h.even (.number s ⟨k, Nat.lt_succ_of_lt hk⟩) (isFinite_number_iff.2 hk)
    · rwa [ne_eq, value_eq_value_iff hk hj]
    · rw [abs_value_sub_value hi hk, abs_value_sub_value hi hj, hdist]

/-- A number of the other sign is as near as zero only if it is zero. -/
lemma value_eq_of_near {j k : Fin (g.infinity + 1)} (hj : j.val < g.infinity)
    (hk : k.val < g.infinity) (hzero : j.val = 0) {t : Bool}
    (h : |value (.number t k : Binary g) - value (.number s i : Binary f)| ≤
      |value (.number s j : Binary g) - value (.number s i : Binary f)|) :
    value (.number t k : Binary g) = value (.number s k) := by
  by_cases hts : t = s
  · rw [hts]
  · have hx := size_nonneg f i.val
    have hz := size_nonneg g k.val
    have horigin : |value (.number s j : Binary g) - value (.number s i : Binary f)| =
        (f.units i.val : ℚ) / 2 ^ f.quantum := by
      rw [abs_value_sub_value hi hj, ← abs_size_sub_size, hzero, units_of_lt (binade_pos g)]
      simpa using abs_of_nonneg hx
    rw [horigin, abs_value_sub_value_of_ne hi hts hk] at h
    have hk0 : (g.units k.val : ℚ) / 2 ^ g.quantum = 0 := by linarith
    rw [value_number hk, value_number hk, hk0]
    simp

lemma nearestEven_of_isNearest {j : Fin (g.infinity + 1)}
    (hj : j.val < g.infinity)
    (h : IsNearest (finerUnits g f) g.infinity (finerUnits f g i.val) j.val) :
    NearestEven (value (.number s i : Binary f)) (.number s j : Binary g) := by
  have hle : ∀ k : Fin (g.infinity + 1), k.val < g.infinity →
      |value (.number s j : Binary g) - value (.number s i : Binary f)| ≤
        |value (.number s k : Binary g) - value (.number s i : Binary f)| :=
    fun k hk => (distance_le_iff s hi hj hk).2 (h.le k.val hk)
  refine ⟨isFinite_number_iff.2 hj, ?_, ?_⟩
  · intro z hz
    cases z with
    | nan => cases hz
    | number t k =>
      rw [isFinite_number_iff] at hz
      by_cases hts : t = s
      · exact hts ▸ hle k hz
      · -- Of two numbers of one size the one with the same sign is nearer.
        have hsum := abs_sub ((g.units k.val : ℚ) / 2 ^ g.quantum)
          ((f.units i.val : ℚ) / 2 ^ f.quantum)
        rw [abs_of_nonneg (size_nonneg g k.val), abs_of_nonneg (size_nonneg f i.val)] at hsum
        refine (hle k hz).trans ?_
        rwa [abs_value_sub_value_of_ne hi hts hz, abs_value_sub_value hi hz, ← abs_size_sub_size]
  · intro z hz hne hdist
    cases z with
    | nan => cases hz
    | number t k =>
      rw [isFinite_number_iff] at hz
      have hsame : value (.number t k : Binary g) = value (.number s k) :=
        value_eq_of_near hi (j := ⟨0, Nat.succ_pos _⟩) (Nat.zero_lt_of_lt hj) hz rfl
          (hdist.trans_le (hle _ (Nat.zero_lt_of_lt hj)))
      rw [hsame, ne_eq, value_eq_value_iff hz hj] at hne
      rw [hsame, abs_value_sub_value hi hz, abs_value_sub_value hi hj,
        div_left_inj' (by positivity), Nat.cast_inj] at hdist
      rw [significand_mod_two]
      exact h.even k.val hz hne hdist

end Rounded

end Value

/-! ### Rounding -/

section Rounding

variable {f g : Format} {s : Bool} {i : Fin (f.infinity + 1)}

lemma round_number (hi : i.val < f.infinity)
    (h : ((.number s i : Binary f).round g).isFinite = true) :
    ∃ j : Fin (g.infinity + 1), j.val < g.infinity ∧
      j.val = g.nearest (finerUnits f g i.val) (f.quantum - g.quantum) ∧
      (.number s i : Binary f).round g = .number s j := by
  have hround : (.number s i : Binary f).round g =
      .clamp g s (g.nearest (finerUnits f g i.val) (f.quantum - g.quantum)) := by
    rw [Binary.round, if_neg hi.ne]
    rfl
  rw [hround] at h ⊢
  have hmin : min (g.nearest (finerUnits f g i.val) (f.quantum - g.quantum)) g.infinity <
      g.infinity := isFinite_number_iff.1 h
  exact ⟨_, hmin, Nat.min_eq_left (by omega), rfl⟩

/-- A finite number that stays finite is rounded to the nearest one, and no other number of its sign is
nearest. -/
theorem nearestEven_round (hi : i.val < f.infinity)
    (h : ((.number s i : Binary f).round g).isFinite = true) (z : Binary g) :
    (∃ j, z = .number s j) ∧ NearestEven (value (.number s i : Binary f)) z ↔
      z = (.number s i : Binary f).round g := by
  obtain ⟨j, hj, hnearest, hround⟩ := round_number hi h
  have hbest : IsNearest (finerUnits g f) g.infinity (finerUnits f g i.val) j.val :=
    hnearest ▸ isNearest_nearest g g.infinity _ _
  rw [hround]
  constructor
  · rintro ⟨⟨k, rfl⟩, hz⟩
    have hk := isFinite_number_iff.1 hz.finite
    have hsame := (isNearest_of_nearestEven hi hk hz).unique (strictMono_finerUnits g f) hbest
      hk hj
    exact congrArg (Binary.number s) (Fin.ext hsame)
  · rintro rfl
    exact ⟨⟨j, rfl⟩, nearestEven_of_isNearest hi hj hbest⟩

end Rounding

/-! ### Singles -/

def isNegative {f : Format} : Binary f → Bool
  | .nan s _ => s
  | .number s _ => s

/-- What a double is narrowed to. -/
structure Narrowing (v : Binary64) : Prop where
  refused : toSingle? v = none ↔ v.isFinite = true ∧ 2 ^ 128 - 2 ^ 103 ≤ |value v|
  nan : v.isNaN = true → ∃ y, toSingle? v = some y ∧ y.isNaN = true
  infinite : ∀ negative, reading v = .infinite negative →
    ∃ y, toSingle? v = some y ∧ reading y = .infinite negative
  nearest : v.isFinite = true → |value v| < 2 ^ 128 - 2 ^ 103 →
    ∃ y, toSingle? v = some y ∧ isNegative y = isNegative v ∧ NearestEven (value v) y ∧
      ∀ z, isNegative z = isNegative v → NearestEven (value v) z → z = y

lemma overflows_iff (v : Binary64) :
    Overflows v ↔ v.isFinite = true ∧ 2 ^ 128 - 2 ^ 103 ≤ |value v| := by
  cases v with
  | nan => simp [Overflows, reading, Binary.isFinite]
  | number s i =>
    simp only [Overflows, reading_eq_finite_iff, isFinite_number_iff]
    constructor
    · rintro ⟨_, _, ⟨hi, rfl, rfl⟩, hsize⟩
      exact ⟨hi, (abs_value_number hi s).symm ▸ hsize⟩
    · rintro ⟨hi, hsize⟩
      exact ⟨s, _, ⟨hi, rfl, rfl⟩, abs_value_number hi s ▸ hsize⟩

lemma toSingle?_eq_some_round {v : Binary64} (h : ¬Overflows v) :
    toSingle? v = some (v.round .single) := by
  rw [← toSingle?_eq_none_iff] at h
  unfold toSingle? at h ⊢
  exact if_pos (by_contra fun hnone => h (if_neg hnone))

lemma isFinite_round_single {v : Binary64} (hv : v.isFinite = true) (h : ¬Overflows v) :
    (v.round .single).isFinite = true := by
  by_contra hround
  exact h ((toSingle?_eq_none_iff v).1
    ((toSingle?_eq_none_iff_isFinite v).2 ⟨hv, Bool.eq_false_of_not_eq_true hround⟩))

lemma eq_number_of_isFinite {f : Format} {z : Binary f} (hz : z.isFinite = true) :
    ∃ j, z = .number (isNegative z) j := by
  cases z with
  | nan => cases hz
  | number s j => exact ⟨j, rfl⟩

theorem narrowing_double (v : Binary64) : Narrowing v := by
  have hrefused := overflows_iff v
  refine ⟨(toSingle?_eq_none_iff v).trans hrefused, ?_, ?_, ?_⟩
  · intro hv
    cases v with
    | nan s p => exact ⟨_, rfl, rfl⟩
    | number s i => cases hv
  · intro negative hv
    cases v with
    | nan => cases hv
    | number s i =>
      obtain ⟨hi, rfl⟩ := reading_eq_infinite_iff.1 hv
      have hinfinite : ¬Overflows (.number s i) := by
        rw [hrefused, isFinite_number_iff]
        omega
      refine ⟨_, toSingle?_eq_some_round hinfinite, ?_⟩
      rw [Binary.round, if_pos hi]
      exact reading_eq_infinite_iff.2 ⟨Nat.min_self _, rfl⟩
  · intro hv hsize
    have hfits : ¬Overflows v := fun h => absurd (hrefused.1 h).2 (not_le.2 hsize)
    have hround := isFinite_round_single hv hfits
    have hsome := toSingle?_eq_some_round hfits
    cases v with
    | nan => cases hv
    | number s i =>
      have hi := isFinite_number_iff.1 hv
      have hnearest := nearestEven_round (g := .single) hi hround
      obtain ⟨⟨j, hj⟩, heven⟩ := (hnearest _).2 rfl
      refine ⟨_, hsome, by rw [hj, isNegative, isNegative], heven, fun z hsign hz => ?_⟩
      obtain ⟨k, hk⟩ := eq_number_of_isFinite hz.finite
      exact (hnearest z).1 ⟨⟨k, by rw [hk, hsign, isNegative]⟩, hz⟩

/-- Every double is narrowed to the nearest single, ties going to the even significand, unless it is
finite and halfway between the largest single and `2 ^ 128` or beyond. A single that is not a NaN is
narrowed to itself, bit for bit, after it was widened. -/
theorem narrowing :
    (∀ bits : UInt64, Narrowing (.ofWord .double bits.toNat)) ∧
    ∀ bits : UInt32, (Binary.ofWord .single bits.toNat).isNaN = false →
      ∃ y, toSingle? ((Binary.ofWord .single bits.toNat).round .double) = some y ∧
        y.toWord = bits.toNat := by
  refine ⟨fun bits => narrowing_double _, fun bits hnan => ?_⟩
  exact ⟨_, toSingle?_round (quiet_of_isNaN_eq_false hnan), toWord_ofWord bits.toNat_lt⟩

theorem narrowing_tenth :
    (∃ y, toSingle? (.ofWord .double 0x3fb999999999999a) = some y ∧
      NearestEven (value (.ofWord .double 0x3fb999999999999a)) y) ∧
    ∃ y, toSingle? ((Binary.ofWord .single 0x3dcccccd).round .double) = some y ∧
      y.toWord = 0x3dcccccd := by
  refine ⟨?_, narrowing.2 0x3dcccccd (by decide)⟩
  have htenth := narrowing.1 0x3fb999999999999a
  have hkept : toSingle? (.ofWord .double 0x3fb999999999999a) ≠ none := by decide +kernel
  have hfinite : (Binary.ofWord .double 0x3fb999999999999a).isFinite = true := by decide
  obtain ⟨y, hy, -, heven, -⟩ := htenth.nearest hfinite
    (not_le.1 fun hle => hkept (htenth.refused.2 ⟨hfinite, hle⟩))
  exact ⟨y, hy, heven⟩

/-- The size `1 + 2 ^ -24` is halfway between two singles, and so is `1 + 3 * 2 ^ -24`. -/
example : toSingle? (.ofWord .double 0x3ff0000010000000) = some (.ofWord .single 0x3f800000) ∧
    toSingle? (.ofWord .double 0x3ff0000030000000) = some (.ofWord .single 0x3f800002) := by
  decide +kernel

end TensorGraph.Proofs
