import Mathlib
import TensorGraph.Tensor.Reader
import TensorGraph.Proofs.Binary.Word
import TensorGraph.Proofs.Bytes.Reading
import TensorGraph.Proofs.Tensor.Lookup

/-!
# Native buffers

The length of a buffer, the table of offsets and the data section are worked out separately and
agree. So each element is found at its place, the records of texts follow each other without gap or
overlap, and the buffer can be read back.
-/

namespace TensorGraph.Proofs
open TensorGraph.Bytes

section Elements

/-- The bytes are the word `n` of the given width, the least significant byte first. -/
def IsWord (width n : Nat) (bs : List UInt8) : Prop :=
  bs.length = width ∧ Nat.ofDigits 256 (bs.map UInt8.toNat) = n

lemma isWord_littleEndian {width n : Nat} (h : n < 256 ^ width) :
    IsWord width n (littleEndian width n) := by
  refine ⟨length_littleEndian width n, ?_⟩
  induction width generalizing n with
  | zero =>
    have hn : n = 0 := by simpa using h
    rw [hn]
    rfl
  | succ width ih =>
    have hhigh : n / 256 < 256 ^ width := by
      rw [Nat.div_lt_iff_lt_mul (by omega), ← Nat.pow_succ]
      exact h
    rw [littleEndian, List.map_cons, Nat.ofDigits_cons, ih hhigh, UInt8.toNat_ofNat']
    exact Nat.mod_add_div n 256

/-- The bytes are those of the element: the word of a number, in two's complement or as the bits of
its format, the two parts of a complex number one behind the other, and a text behind its length,
which is a variable-length integer. -/
def Written : (type : ElementType) → type.Element → List UInt8 → Prop
  | .int32, v, bs => IsWord 4 v.toUInt32.toNat bs
  | .int64, v, bs => IsWord 8 v.toUInt64.toNat bs
  | .float32, x, bs => IsWord 4 x.toWord bs
  | .float64, x, bs => IsWord 8 x.toWord bs
  | .bool, b, bs => IsWord 1 b.toNat bs
  | .complex128, z, bs =>
    ∃ re im, bs = re ++ im ∧ IsWord 8 z.re.toWord re ∧ IsWord 8 z.im.toWord im
  | .string, s, bs =>
    ∃ header, bs = header ++ ofString s ∧ readVarint header = some (s.utf8ByteSize, [])

lemma toWord_single_lt (x : Binary32) : x.toWord < 256 ^ 4 := toWord_lt x

lemma toWord_double_lt (x : Binary64) : x.toWord < 256 ^ 8 := toWord_lt x

lemma written_bytes (type : ElementType) (x : type.Element) : Written type x (type.bytes x) := by
  cases type with
  | int32 => exact isWord_littleEndian (UInt32.toNat_lt _)
  | int64 => exact isWord_littleEndian (UInt64.toNat_lt _)
  | float32 => exact isWord_littleEndian (toWord_single_lt x)
  | float64 => exact isWord_littleEndian (toWord_double_lt x)
  | string =>
    refine ⟨varint x.utf8ByteSize, rfl, ?_⟩
    have hread := reads_varint x.utf8ByteSize []
    rwa [List.append_nil] at hread
  | bool => cases x <;> exact ⟨rfl, rfl⟩
  | complex128 =>
    exact ⟨_, _, rfl, isWord_littleEndian (toWord_double_lt _),
      isWord_littleEndian (toWord_double_lt _)⟩

lemma length_bytes {type : ElementType} (h : type ≠ .string) (x : type.Element) :
    (type.bytes x).length = type.size := by
  cases type with
  | string => exact absurd rfl h
  | int32 => exact length_littleEndian 4 _
  | int64 => exact length_littleEndian 8 _
  | float32 => exact length_littleEndian 4 _
  | float64 => exact length_littleEndian 8 _
  | bool => rfl
  | complex128 =>
    rw [ElementType.bytes, List.length_append, ofBinary, ofBinary, length_littleEndian,
      length_littleEndian]
    rfl

lemma reads_binary {f : Format} {width : Nat} (x : Binary f) (h : x.toWord < 256 ^ width) :
    Reads (readBinary f width) x (ofBinary width x) := by
  have hread := (reads_littleEndian h).map (Binary.ofWord f)
  rwa [ofWord_toWord] at hread

lemma reads_single (x : Binary32) : Reads (readBinary .single 4) x (ofBinary 4 x) :=
  reads_binary x (toWord_single_lt x)

lemma reads_double (x : Binary64) : Reads (readBinary .double 8) x (ofBinary 8 x) :=
  reads_binary x (toWord_double_lt x)

theorem reads_bytes_element (type : ElementType) (x : type.Element) :
    Reads type.read x (type.bytes x) := by
  cases type with
  | int32 => exact reads_int32 x
  | int64 => exact reads_int64 x
  | float32 => exact reads_single x
  | float64 => exact reads_double x
  | string => exact (reads_varint _).bind (reads_string x)
  | bool =>
    have hread : Reads (ElementType.read .bool) (decide ((if x then 1 else 0 : UInt8) ≠ 0))
        [if x then 1 else 0] := (reads_byte _).map fun b => decide (b ≠ 0)
    cases x <;> exact hread
  | complex128 =>
    exact (reads_double x.re).bind ((reads_double x.im).map (Complex.mk x.re))

end Elements

lemma extract_middle {α : Type} (before middle after : List α) :
    (before ++ (middle ++ after)).extract before.length (before.length + middle.length) =
      middle := by
  rw [List.extract_eq_take_drop, List.drop_left, Nat.add_sub_cancel_left, List.take_left]

section Texts

lemma length_textRecord (s : String) : (textRecord s).length = textRecordLength s := by
  rw [textRecord, List.length_append, length_varint, length_ofString, textRecordLength]

lemma length_offsetTable (start : Nat) (texts : List String) :
    (offsetTable start texts).length = 8 * texts.length := by
  induction texts generalizing start with
  | nil => rfl
  | cons s rest ih =>
    rw [offsetTable, List.length_append, ih, count, length_littleEndian, List.length_cons]
    omega

lemma textsLength_eq (texts : List String) :
    textsLength texts = 8 * texts.length + (texts.flatMap textRecord).length := by
  induction texts with
  | nil => rfl
  | cons s rest ih =>
    rw [textsLength, ih, List.flatMap_cons, List.length_append, length_textRecord,
      List.length_cons]
    omega

/-- Entries behind those of `before` start where the records of `before` end. -/
lemma offsetTable_append (start : Nat) (before after : List String) :
    offsetTable start (before ++ after) = offsetTable start before ++
      offsetTable (start + (before.flatMap textRecord).length) after := by
  induction before generalizing start with
  | nil => rfl
  | cons s rest ih =>
    rw [List.cons_append, offsetTable, ih, offsetTable, List.append_assoc, List.flatMap_cons,
      List.length_append, length_textRecord, Nat.add_assoc]

/-- The offsets divide what stands behind the table into one record for each text, up to the end of
the buffer. -/
structure TextLayout (texts : List String) (buffer : List UInt8) (offset : Nat → Nat) : Prop where
  first : offset 0 = 0
  last : 8 * texts.length + offset texts.length = buffer.length
  entry : ∀ i < texts.length, IsWord 8 (offset i) (buffer.extract (8 * i) (8 * i + 8))
  record : ∀ (i : Nat) (s : String), texts[i]? = some s → ∃ bs, Written .string s bs ∧
    buffer.extract (8 * texts.length + offset i) (8 * texts.length + offset (i + 1)) = bs ∧
    offset (i + 1) = offset i + bs.length

/-- Where the record of text number `i` starts in the data section. -/
def recordOffset (texts : List String) (i : Nat) : Nat :=
  ((texts.take i).flatMap textRecord).length

lemma recordOffset_length (texts : List String) :
    recordOffset texts texts.length = (texts.flatMap textRecord).length := by
  rw [recordOffset, List.take_length]

lemma recordOffset_le (texts : List String) (i : Nat) :
    recordOffset texts i ≤ (texts.flatMap textRecord).length := by
  conv_rhs => rw [← List.take_append_drop i texts, List.flatMap_append, List.length_append]
  exact Nat.le_add_right _ _

lemma recordOffset_succ {texts : List String} {i : Nat} {s : String} (h : texts[i]? = some s) :
    recordOffset texts (i + 1) = recordOffset texts i + (textRecord s).length := by
  rw [recordOffset, List.take_add_one, h, Option.toList_some, List.flatMap_append,
    List.length_append, List.flatMap_singleton, recordOffset]

lemma eq_take_append_cons {α : Type} {xs : List α} {i : Nat} {x : α} (h : xs[i]? = some x) :
    xs = xs.take i ++ x :: xs.drop (i + 1) ∧ (xs.take i).length = i := by
  obtain ⟨hi, rfl⟩ := List.getElem?_eq_some_iff.1 h
  refine ⟨?_, List.length_take_of_le hi.le⟩
  rw [List.getElem_cons_drop, List.take_append_drop]

lemma extract_table (texts : List String) {i : Nat} {s : String} (h : texts[i]? = some s) :
    (offsetTable 0 texts ++ texts.flatMap textRecord).extract (8 * i) (8 * i + 8) =
      count (recordOffset texts i) := by
  obtain ⟨hsplit, hlength⟩ := eq_take_append_cons h
  have hstart : (offsetTable 0 (texts.take i)).length = 8 * i := by
    rw [length_offsetTable, hlength]
  have hwidth : (count (recordOffset texts i)).length = 8 := length_littleEndian 8 _
  have htable : offsetTable 0 texts = offsetTable 0 (texts.take i) ++
      (count (recordOffset texts i) ++
        offsetTable (recordOffset texts i + textRecordLength s) (texts.drop (i + 1))) := by
    conv_lhs => rw [hsplit, offsetTable_append, Nat.zero_add, offsetTable]
    rfl
  rw [htable, List.append_assoc, List.append_assoc, ← hstart]
  conv_lhs => rw [← hwidth]
  rw [extract_middle]

lemma extract_record (texts : List String) {i : Nat} {s : String} (h : texts[i]? = some s) :
    (offsetTable 0 texts ++ texts.flatMap textRecord).extract
      (8 * texts.length + recordOffset texts i)
      (8 * texts.length + recordOffset texts (i + 1)) = textRecord s := by
  obtain ⟨hsplit, -⟩ := eq_take_append_cons h
  have hdata : texts.flatMap textRecord = (texts.take i).flatMap textRecord ++
      (textRecord s ++ (texts.drop (i + 1)).flatMap textRecord) := by
    conv_lhs => rw [hsplit, List.flatMap_append, List.flatMap_cons]
  have hstart : 8 * texts.length + recordOffset texts i =
      (offsetTable 0 texts ++ (texts.take i).flatMap textRecord).length := by
    rw [List.length_append, length_offsetTable, recordOffset]
  rw [recordOffset_succ h, hdata, ← List.append_assoc, ← Nat.add_assoc, hstart, extract_middle]

lemma textLayout_buffer {texts : List String} (h : textsLength texts < 2 ^ 63) :
    TextLayout texts (offsetTable 0 texts ++ texts.flatMap textRecord) (recordOffset texts) := by
  rw [textsLength_eq] at h
  constructor
  case first => rfl
  case last => rw [List.length_append, length_offsetTable, recordOffset_length]
  case entry =>
    intro i hi
    have hoffset := recordOffset_le texts i
    rw [extract_table texts (List.getElem?_eq_getElem hi)]
    exact isWord_littleEndian (by omega)
  case record =>
    intro i s hs
    exact ⟨textRecord s, written_bytes .string s, extract_record texts hs, recordOffset_succ hs⟩

end Texts

lemma buffer_of_ne_string {t : Tensor} (h : t.type ≠ .string) :
    t.buffer = t.data.flatMap t.type.bytes := by
  obtain ⟨type, shape, data⟩ := t
  cases type with
  | string => exact absurd rfl h
  | _ => rfl

lemma bufferLength_of_ne_string {t : Tensor} (h : t.type ≠ .string) :
    t.bufferLength = t.data.length * t.type.size := by
  obtain ⟨type, shape, data⟩ := t
  cases type with
  | string => exact absurd rfl h
  | _ => rfl

theorem length_buffer (t : Tensor) : t.buffer.length = t.bufferLength := by
  by_cases h : t.type = .string
  · obtain ⟨type, shape, texts⟩ := t
    cases h
    rw [Tensor.buffer, List.length_append, Tensor.offsetTable, length_offsetTable,
      Tensor.bufferLength, textsLength_eq]
    rfl
  · rw [buffer_of_ne_string h, bufferLength_of_ne_string h]
    exact length_flatMap_of_forall t.data fun x _ => length_bytes h x

/-- In a buffer of elements of one width, each stands at its multiple of the width. -/
lemma extract_buffer {t : Tensor} (h : t.type ≠ .string) {i : Nat} {x : t.type.Element}
    (hx : t.data[i]? = some x) :
    t.buffer.extract (i * t.type.size) ((i + 1) * t.type.size) = t.type.bytes x := by
  obtain ⟨hsplit, hlength⟩ := eq_take_append_cons hx
  have hstart : ((t.data.take i).flatMap t.type.bytes).length = i * t.type.size := by
    rw [length_flatMap_of_forall _ fun y _ => length_bytes h y, hlength]
  have hend : (i + 1) * t.type.size = i * t.type.size + (t.type.bytes x).length := by
    rw [length_bytes h, Nat.succ_mul]
  have hdata : t.data.flatMap t.type.bytes = (t.data.take i).flatMap t.type.bytes ++
      (t.type.bytes x ++ (t.data.drop (i + 1)).flatMap t.type.bytes) := by
    conv_lhs => rw [hsplit, List.flatMap_append, List.flatMap_cons]
  rw [buffer_of_ne_string h, hdata, hend, ← hstart, extract_middle]

theorem reads_buffer (t : Tensor) : Reads (t.type.readBuffer t.data.length) t.data t.buffer := by
  have htable : t.offsetTable.length = t.type.tableLength t.data.length := by
    obtain ⟨type, shape, data⟩ := t
    cases type with
    | string => exact length_offsetTable 0 data
    | _ => rfl
  have hread : Reads (readBytes (t.type.tableLength t.data.length)) t.offsetTable t.offsetTable :=
    htable ▸ reads_bytes t.offsetTable
  exact hread.bind (.many t.data fun x _ => reads_bytes_element t.type x)

lemma eq_of_buffer_eq {t u : Tensor} (htype : u.type = t.type) (hshape : u.shape = t.shape)
    (hlength : u.data.length = t.data.length) (hbuffer : u.buffer = t.buffer) : u = t := by
  obtain ⟨type, shape, data⟩ := t
  obtain ⟨type', shape', data'⟩ := u
  cases htype
  cases hshape
  have hread := reads_buffer ⟨type, shape, data⟩
  have hread' := reads_buffer ⟨type, shape, data'⟩
  rw [hlength] at hread'
  have hbytes := congrArg (· ++ []) hbuffer
  have hdata : data' = data := (hread'.unique hread hbytes).1
  rw [hdata]

/-- The buffer of a tensor has the length that is worked out for it, each element stands at its
place, texts are laid out behind a table of their offsets, and a tensor of the same type and shape
that has the same buffer is the same tensor. -/
theorem buffer_ofLiteral {literal : Literal} {type? : Option ElementType} {t : Tensor}
    (h : Tensor.ofLiteral literal type? = .ok t) (hsize : t.bufferLength < 2 ^ 63) :
    t.buffer.length = t.bufferLength ∧
      (t.type ≠ .string → ∀ i < t.shape.numElements, ∃ x, t.data[i]? = some x ∧
        Written t.type x (t.buffer.extract (i * t.type.size) ((i + 1) * t.type.size))) ∧
      (∀ (shape : Shape) (texts : List String), t = ⟨.string, shape, texts⟩ →
        texts.length = shape.numElements ∧ ∃ offset, TextLayout texts t.buffer offset) ∧
      ∀ (literal' : Literal) (type?' : Option ElementType) (u : Tensor),
        Tensor.ofLiteral literal' type?' = .ok u → u.type = t.type → u.shape = t.shape →
          u.buffer = t.buffer → u = t := by
  refine ⟨length_buffer t, ?_, ?_, ?_⟩
  · intro hne i hi
    rw [← length_data h] at hi
    have hx := List.getElem?_eq_getElem hi
    refine ⟨t.data[i], hx, ?_⟩
    rw [extract_buffer hne hx]
    exact written_bytes t.type _
  · rintro shape texts rfl
    exact ⟨length_data h, recordOffset texts, textLayout_buffer hsize⟩
  · intro literal' type?' u hu htype hshape hbuffer
    have hlength : u.data.length = t.data.length := by
      rw [length_data hu, length_data h, hshape]
    exact eq_of_buffer_eq htype hshape hlength hbuffer

/-- An empty text, and one whose length takes two bytes. -/
def sampleTexts : List String := ["ab", "", "".pushn 'x' 200]

theorem buffer_sampleTexts : ∃ t,
    Tensor.ofLiteral (.sequence (sampleTexts.map fun s => .scalar (.text s))) none = .ok t ∧
      t.bufferLength = 230 ∧ t.buffer.length = 230 ∧
      ∃ offset, TextLayout sampleTexts t.buffer offset := by
  have ht : Tensor.ofLiteral (.sequence (sampleTexts.map fun s => .scalar (.text s))) none =
      .ok ⟨.string, [3], sampleTexts⟩ := rfl
  have hlength : Tensor.bufferLength ⟨.string, [3], sampleTexts⟩ = 230 := by decide +kernel
  obtain ⟨hbuffer, -, hlayout, -⟩ := buffer_ofLiteral ht (by rw [hlength]; decide)
  exact ⟨_, ht, hlength, hbuffer.trans hlength, (hlayout [3] sampleTexts rfl).2⟩

end TensorGraph.Proofs
