import Mathlib
import TensorGraph.Bytes.VarintByShift
import TensorGraph.Proofs.Bytes.Reading

/-!
# Variable-length integers

A number has many forms in groups of seven bits, because empty groups can be put behind the last.
What is written is the canonical one, without such groups. The loops that shift a word write these
bytes and count them: both take a round for each division by 128.
-/

namespace TensorGraph.Proofs
open TensorGraph.Bytes

/-! ### Words -/

section Words

variable {word : UInt64} {buffer result : List UInt8}

lemma toNat_shift (word : UInt64) : (word >>> 7).toNat = word.toNat / 128 := by
  rw [UInt64.toNat_shiftRight]
  exact Nat.shiftRight_eq_div_pow word.toNat 7

/-- The cast leaves the lowest byte of a word, and the mask seven bits of it. -/
lemma toNat_lowest (word : UInt64) : (word.toUInt8 &&& 0x7f).toNat = word.toNat % 128 := by
  have hmask : (0x7f : UInt8).toNat = 2 ^ 7 - 1 := rfl
  rw [UInt8.toNat_and, UInt64.toNat_toUInt8, hmask, Nat.and_two_pow_sub_one_eq_mod]
  omega

lemma continued_eq (word : UInt64) :
    word.toUInt8 &&& 0x7f ||| 0x80 = UInt8.ofNat (128 + word.toNat % 128) := by
  have hbit : (0x80 : UInt8).toNat = 2 ^ 7 * 1 := rfl
  have hlow : word.toNat % 128 < 2 ^ 7 := Nat.mod_lt _ (by decide)
  -- The mask leaves the high bit free, so setting it adds 128.
  rw [← UInt8.toNat_inj, UInt8.toNat_or, toNat_lowest, UInt8.toNat_ofNat', hbit, Nat.or_comm,
    ← Nat.two_pow_add_eq_or_of_lt hlow]
  omega

lemma more_iff : 0x80 ≤ word ↔ 128 ≤ word.toNat := UInt64.le_iff_toNat_le

lemma varint_of_few (few : ¬0x80 ≤ word) : varint word.toNat = [word.toUInt8] := by
  have hlt : word.toNat < 128 := not_le.1 (mt more_iff.2 few)
  have hbyte : word.toUInt8 = UInt8.ofNat word.toNat := UInt8.toNat_inj.1 rfl
  rw [varint, if_pos hlt, hbyte]

lemma varint_of_more (more : 0x80 ≤ word) : varint word.toNat =
    (word.toUInt8 &&& 0x7f ||| 0x80) :: varint (word >>> 7).toNat := by
  rw [varint, if_neg (not_lt.2 (more_iff.1 more)), continued_eq, toNat_shift]

lemma shift_lt (more : 0x80 ≤ word) : (word >>> 7).toNat < word.toNat := by
  have hle := more_iff.1 more
  rw [toNat_shift]
  omega

/-- A property of words holds if it holds of those that end a loop and if a round passes it on. -/
lemma word_induction {P : UInt64 → Prop} (last : ∀ word : UInt64, ¬0x80 ≤ word → P word)
    (next : ∀ word : UInt64, 0x80 ≤ word → P (word >>> 7) → P word) (word : UInt64) : P word := by
  induction hn : word.toNat using Nat.strong_induction_on generalizing word with
  | _ n ih =>
    by_cases more : 0x80 ≤ word
    · exact next word more (ih _ (hn ▸ shift_lt more) _ rfl)
    · exact last word more

theorem pushesVarint_iff :
    PushesVarint buffer word result ↔ result = buffer ++ varint word.toNat := by
  constructor
  · intro h
    induction h with
    | last few => rw [varint_of_few few]
    | next more rest ih => rw [ih, varint_of_more more, List.append_assoc, List.singleton_append]
  · rintro rfl
    induction word using word_induction generalizing buffer with
    | last word few =>
      rw [varint_of_few few]
      exact .last few
    | next word more ih =>
      rw [varint_of_more more, ← List.singleton_append, ← List.append_assoc]
      exact .next more ih

theorem countsVarint_iff {counted total : Nat} :
    CountsVarint counted word total ↔ total + 1 = counted + (varint word.toNat).length := by
  constructor
  · intro h
    induction h with
    | last few => rw [varint_of_few few, List.length_singleton]
    | next more rest ih =>
      rw [ih, varint_of_more more, List.length_cons]
      omega
  · intro h
    induction word using word_induction generalizing counted with
    | last word few =>
      rw [varint_of_few few, List.length_singleton, Nat.add_right_cancel_iff] at h
      exact h ▸ .last few
    | next word more ih =>
      rw [varint_of_more more, List.length_cons] at h
      exact .next more (ih (by omega))

end Words

/-! ### The canonical form -/

/-- The bytes write the number in groups of seven bits, the lowest first. All but the last have the
high bit, and the last is not zero unless it is the only one. -/
structure Canonical (n : Nat) (bs : List UInt8) : Prop where
  continued : ∀ b ∈ bs.dropLast, 128 ≤ b.toNat
  ended : ∃ b, bs.getLast? = some b ∧ b.toNat < 128
  significant : bs.getLast? = some 0 → bs = [0]
  value : Nat.ofDigits 128 (bs.map fun b => b.toNat % 128) = n

section Canonical

variable {n : Nat} {b : UInt8} {bs : List UInt8}

lemma Canonical.ne_nil (h : Canonical n bs) : bs ≠ [] := by
  rintro rfl
  obtain ⟨b, hb, -⟩ := h.ended
  cases hb

lemma Canonical.eq_zero (h : Canonical n bs) (hlast : bs.getLast? = some 0) : n = 0 := by
  rw [← h.value, h.significant hlast]
  rfl

lemma canonical_singleton (hb : b.toNat < 128) : Canonical b.toNat [b] where
  continued := by simp
  ended := ⟨b, rfl, hb⟩
  significant h := congrArg (fun b => [b]) (Option.some.inj h)
  value := by simp [Nat.mod_eq_of_lt hb]

/-- A group can be put in front of the groups of a number that is not zero. -/
lemma Canonical.cons (h : Canonical n bs) (hn : n ≠ 0) (hb : 128 ≤ b.toNat) :
    Canonical (b.toNat % 128 + 128 * n) (b :: bs) := by
  have hlast : (b :: bs).getLast? = bs.getLast? := List.getLast?_cons_of_ne_nil h.ne_nil
  constructor
  case continued =>
    rw [List.dropLast_cons_of_ne_nil h.ne_nil, List.forall_mem_cons]
    exact ⟨hb, h.continued⟩
  case ended => exact hlast ▸ h.ended
  case significant => exact fun hzero => absurd (h.eq_zero (hlast ▸ hzero)) hn
  case value => rw [List.map_cons, Nat.ofDigits_cons, h.value]

/-- The groups behind the first are those of the quotient. -/
lemma Canonical.tail (h : Canonical n (b :: bs)) (hbs : bs ≠ []) :
    128 ≤ b.toNat ∧ ∃ m, Canonical m bs ∧ n = b.toNat % 128 + 128 * m := by
  have hlast : (b :: bs).getLast? = bs.getLast? := List.getLast?_cons_of_ne_nil hbs
  have hcontinued := h.continued
  rw [List.dropLast_cons_of_ne_nil hbs, List.forall_mem_cons] at hcontinued
  have hvalue := h.value
  rw [List.map_cons, Nat.ofDigits_cons] at hvalue
  refine ⟨hcontinued.1, _, ⟨hcontinued.2, hlast ▸ h.ended, fun hzero => ?_, rfl⟩, hvalue.symm⟩
  exact absurd (List.cons.inj (h.significant (hlast.trans hzero))).2 hbs

theorem canonical_varint (n : Nat) : Canonical n (varint n) := by
  fun_induction varint n with
  | case1 n hn =>
    have hbyte : (UInt8.ofNat n).toNat = n :=
      UInt8.toNat_ofNat_of_lt' (Nat.lt_trans hn (by decide))
    have h : Canonical (UInt8.ofNat n).toNat [UInt8.ofNat n] := canonical_singleton (by omega)
    rwa [hbyte] at h
  | case2 n hn ih =>
    have hbyte : (UInt8.ofNat (128 + n % 128)).toNat = 128 + n % 128 :=
      UInt8.toNat_ofNat_of_lt' (show 128 + n % 128 < 256 by omega)
    have hvalue : (128 + n % 128) % 128 + 128 * (n / 128) = n := by omega
    have h : Canonical _ (UInt8.ofNat (128 + n % 128) :: varint (n / 128)) :=
      ih.cons (by omega) (by omega)
    rwa [hbyte, hvalue] at h

/-- No other bytes are canonical. -/
theorem Canonical.eq_varint (h : Canonical n bs) : bs = varint n := by
  induction bs generalizing n with
  | nil => exact absurd rfl h.ne_nil
  | cons b rest ih =>
    by_cases hrest : rest = []
    · subst hrest
      obtain ⟨last, hb, hlt⟩ := h.ended
      obtain rfl : b = last := Option.some.inj hb
      obtain rfl : b.toNat = n := by simpa [Nat.mod_eq_of_lt hlt] using h.value
      rw [varint, if_pos hlt, UInt8.ofNat_toNat]
    · obtain ⟨hb, m, hm, rfl⟩ := h.tail hrest
      have hwritten := ih hm
      have hne : m ≠ 0 := by
        rintro rfl
        have hzero : rest = [0] := hwritten.trans (by rw [varint]; rfl)
        have hone := h.significant (by rw [hzero]; rfl)
        exact hrest (List.cons.inj hone).2
      have hbyte : UInt8.ofNat (128 + (b.toNat % 128 + 128 * m) % 128) = b := by
        have hlt := b.toNat_lt
        rw [← UInt8.toNat_inj, UInt8.toNat_ofNat']
        omega
      have hquotient : (b.toNat % 128 + 128 * m) / 128 = m := by omega
      rw [varint, if_neg (by omega), hbyte, hquotient, hwritten]

end Canonical

/-! ### Lengths -/

lemma varintLength_mono : Monotone varintLength := by
  intro m n h
  unfold varintLength
  rw [Nat.log2_eq_log_two, Nat.log2_eq_log_two]
  gcongr

lemma varintLength_le_ten (word : UInt64) : varintLength word.toNat ≤ 10 := by
  have hlast : varintLength (2 ^ 64 - 1) = 10 := by decide
  rw [← hlast]
  exact varintLength_mono (Nat.le_sub_one_of_lt word.toNat_lt)

/-- What is promised of a word that is written as a variable-length integer. -/
structure VarintLaws (word : UInt64) : Prop where
  written : ∀ buffer result, PushesVarint buffer word result ↔ result = buffer ++ varint word.toNat
  counted : ∀ total, CountsVarint 1 word total ↔ total = varintLength word.toNat
  length : (varint word.toNat).length = varintLength word.toNat
  atLeast : 1 ≤ varintLength word.toNat
  atMost : varintLength word.toNat ≤ 10
  canonical : ∀ bs, Canonical word.toNat bs ↔ bs = varint word.toNat
  zero : (varint word.toNat).getLast? = some 0 → word = 0
  read : ∀ rest, readVarint (varint word.toNat ++ rest) = some (word.toNat, rest)
  monotone : ∀ other, word ≤ other → varintLength word.toNat ≤ varintLength other.toNat

/-- Both loops end on every word. They agree on the number of bytes, which is from one to ten and
never less for a larger word. What is written is the canonical form, and it is read back whatever
stands behind it. -/
theorem varintLaws (word : UInt64) : VarintLaws word where
  written buffer result := pushesVarint_iff
  counted total := by
    rw [countsVarint_iff, length_varint]
    omega
  length := length_varint _
  atLeast := Nat.le_add_left 1 _
  atMost := varintLength_le_ten word
  canonical bs := ⟨Canonical.eq_varint, fun h => h ▸ canonical_varint _⟩
  zero h := UInt64.toNat_inj.1 ((canonical_varint _).eq_zero h)
  read := reads_varint _
  monotone other h := varintLength_mono (UInt64.le_iff_toNat_le.1 h)

end TensorGraph.Proofs
