import Mathlib
import TensorGraph.Bytes.Reader

/-!
# Reading what was written

A reader undoes a writer if it takes the written value from the front of the bytes and leaves
whatever follows. Readers that do can be put one behind the other, so the law of a format is put
together from the laws of its fields.
-/

namespace TensorGraph.Proofs
open TensorGraph.Bytes

/-- From bytes that start with `written` the reader takes `a`, and it leaves what follows. -/
def Reads {α : Type} (read : Reader α) (a : α) (written : List UInt8) : Prop :=
  ∀ rest, read (written ++ rest) = some (a, rest)

section Reads

variable {α β : Type} {read : Reader α} {a : α} {written : List UInt8}

lemma bind_apply (read : Reader α) (next : α → Reader β) (bs : List UInt8) :
    (read >>= next) bs = (read bs).bind fun p => next p.1 p.2 := rfl

lemma Reads.pure (a : α) : Reads (pure a) a [] := fun _ => rfl

lemma Reads.ofOption {x : Option α} (h : x = some a) : Reads (Reader.ofOption x) a [] := by
  intro rest
  rw [h]
  rfl

lemma Reads.bind {next : α → Reader β} {b : β} {written' : List UInt8}
    (ha : Reads read a written) (hb : Reads (next a) b written') :
    Reads (read >>= next) b (written ++ written') := by
  intro rest
  rw [bind_apply, List.append_assoc, ha, Option.bind_some, hb]

lemma Reads.map (f : α → β) (ha : Reads read a written) :
    Reads (do return f (← read)) (f a) written := by
  rw [← List.append_nil written]
  exact ha.bind (.pure (f a))

/-- What was read and what is left are determined by the bytes, so two values that can be read from
the front of one list of bytes are equal, and so are the bytes they were written as. -/
lemma Reads.unique {b : α} {written' rest rest' : List UInt8} (ha : Reads read a written)
    (hb : Reads read b written') (h : written ++ rest = written' ++ rest') :
    a = b ∧ rest = rest' := by
  have hread := ha rest
  rw [h, hb rest'] at hread
  simp only [Option.some.injEq, Prod.mk.injEq] at hread
  exact ⟨hread.1.symm, hread.2.symm⟩

/-- Values that are written one behind the other can be told apart. -/
lemma flatMap_injective_of_reads {write : α → List UInt8} (hne : ∀ x, write x ≠ []) {xs ys : List α}
    (hx : ∀ x ∈ xs, Reads read x (write x)) (hy : ∀ y ∈ ys, Reads read y (write y))
    (h : xs.flatMap write = ys.flatMap write) : xs = ys := by
  induction xs generalizing ys with
  | nil =>
    cases ys with
    | nil => rfl
    | cons y ys => exact absurd (List.append_eq_nil_iff.1 h.symm).1 (hne y)
  | cons x xs ih =>
    cases ys with
    | nil => exact absurd (List.append_eq_nil_iff.1 h).1 (hne x)
    | cons y ys =>
      rw [List.forall_mem_cons] at hx hy
      obtain ⟨hhead, htail⟩ := hx.1.unique hy.1 h
      rw [hhead, ih hx.2 hy.2 htail]

lemma Reads.many {write : α → List UInt8} (xs : List α)
    (h : ∀ x ∈ xs, Reads read x (write x)) :
    Reads (readMany read xs.length) xs (xs.flatMap write) := by
  induction xs with
  | nil => exact .pure []
  | cons x xs ih =>
    rw [List.forall_mem_cons] at h
    exact h.1.bind ((ih h.2).map (x :: ·))

end Reads

lemma reads_byte (b : UInt8) : Reads readByte b [b] := fun _ => rfl

lemma reads_bytes (bs : List UInt8) : Reads (readBytes bs.length) bs bs := by
  intro rest
  have hle : bs.length ≤ (bs ++ rest).length := by simp
  rw [readBytes, if_pos hle, List.take_left, List.drop_left]

theorem reads_littleEndian {width n : Nat} (h : n < 256 ^ width) :
    Reads (readLittleEndian width) n (littleEndian width n) := by
  induction width generalizing n with
  | zero =>
    have hn : n = 0 := by simpa using h
    rw [hn]
    exact .pure 0
  | succ width ih =>
    have hhigh : n / 256 < 256 ^ width := by
      rw [Nat.div_lt_iff_lt_mul (by omega), ← Nat.pow_succ]
      exact h
    have hlow : (UInt8.ofNat n).toNat + 256 * (n / 256) = n := by
      rw [UInt8.toNat_ofNat']
      exact Nat.mod_add_div n 256
    have hread : Reads (readLittleEndian (width + 1)) ((UInt8.ofNat n).toNat + 256 * (n / 256))
        (littleEndian (width + 1) n) :=
      (reads_byte (UInt8.ofNat n)).bind
        ((ih hhigh).map fun high => (UInt8.ofNat n).toNat + 256 * high)
    rwa [hlow] at hread

lemma reads_count {n : Nat} (h : n < 2 ^ 63) : Reads readCount n (count n) :=
  reads_littleEndian (by omega)

lemma reads_int32 (v : Int32) : Reads readInt32 v (ofInt32 v) := by
  have hlt : v.toUInt32.toNat < 256 ^ 4 := v.toUInt32.toNat_lt
  have hread := (reads_littleEndian hlt).map fun n => (UInt32.ofNat n).toInt32
  rwa [UInt32.ofNat_toNat] at hread

lemma reads_int64 (v : Int64) : Reads readInt64 v (ofInt64 v) := by
  have hlt : v.toUInt64.toNat < 256 ^ 8 := v.toUInt64.toNat_lt
  have hread := (reads_littleEndian hlt).map fun n => (UInt64.ofNat n).toInt64
  rwa [UInt64.ofNat_toNat] at hread

lemma fromUTF8?_toByteArray (s : String) : String.fromUTF8? s.toByteArray = some s := by
  rw [String.fromUTF8?, dif_pos s.isValidUTF8]
  rfl

lemma reads_string (s : String) : Reads (readString s.utf8ByteSize) s (ofString s) := by
  rw [← List.append_nil (ofString s)]
  exact (reads_bytes (ofString s)).bind (.ofOption (fromUTF8?_toByteArray s))

theorem reads_varint (n : Nat) : Reads readVarint n (varint n) := by
  intro rest
  fun_induction varint n with
  | case1 n hn =>
    have hbyte : (UInt8.ofNat n).toNat = n := by
      rw [UInt8.toNat_ofNat']
      omega
    rw [List.singleton_append, readVarint, hbyte, if_pos hn]
  | case2 n hn ih =>
    have hbyte : (UInt8.ofNat (128 + n % 128)).toNat = 128 + n % 128 := by
      rw [UInt8.toNat_ofNat']
      omega
    have hcontinued : ¬128 + n % 128 < 128 := by omega
    have hvalue : 128 + n % 128 - 128 + 128 * (n / 128) = n := by omega
    rw [List.cons_append, readVarint, hbyte, if_neg hcontinued, ih, Option.map_some]
    simp only [hvalue]

/-- A group of seven bits less is seven less in the logarithm. -/
lemma log2_div_128 {n : Nat} (h : 128 ≤ n) : n.log2 = (n / 128).log2 + 7 := by
  have hne : n / 128 ≠ 0 := by omega
  obtain ⟨hlow, hhigh⟩ := (Nat.log2_eq_iff hne).1 rfl
  rw [Nat.log2_eq_iff (by omega)]
  constructor
  · rw [pow_add]
    exact (Nat.le_div_iff_mul_le (by omega)).1 hlow
  · rw [Nat.add_right_comm, pow_add]
    exact (Nat.div_lt_iff_lt_mul (by omega)).1 hhigh

/-- The length that is worked out without writing is the one of what is written. -/
theorem length_varint (n : Nat) : (varint n).length = varintLength n := by
  fun_induction varint n with
  | case1 n hn =>
    have hlog : n.log2 < 7 := by
      rcases Nat.eq_zero_or_pos n with rfl | hpos
      · simp
      · exact (Nat.log2_lt hpos.ne').2 hn
    rw [varintLength, Nat.div_eq_of_lt hlog]
    rfl
  | case2 n hn ih =>
    have hlog := log2_div_128 (Nat.le_of_not_lt hn)
    rw [List.length_cons, ih, varintLength, varintLength, hlog]
    omega

lemma reads_list {α : Type} {read : Reader α} {write : α → List UInt8} {xs : List α}
    (hlength : xs.length < 2 ^ 63) (h : ∀ x ∈ xs, Reads read x (write x)) :
    Reads (readList read) xs (count xs.length ++ xs.flatMap write) :=
  (reads_count hlength).bind (.many xs h)

lemma reads_strings (ss : List String) :
    Reads (readStrings (ss.map String.utf8ByteSize)) ss (ss.flatMap ofString) := by
  induction ss with
  | nil => exact .pure []
  | cons s ss ih => exact (reads_string s).bind (ih.map (s :: ·))

end TensorGraph.Proofs
