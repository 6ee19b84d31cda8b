import Mathlib
import TensorGraph.Attribute.Reader
import TensorGraph.Proofs.Attribute.Representation
import TensorGraph.Proofs.Tensor.Buffer

/-!
# Serialized attributes are uniquely decodable

The reader of attributes undoes their serialization whatever follows it. So no two attributes have
the same bytes, no serialized attribute starts another one, and attributes that are written one
behind the other can be told apart.
-/

namespace TensorGraph.Proofs
open TensorGraph.Attribute TensorGraph.Bytes

/-- The tensor was made from a literal. -/
def Built (t : Tensor) : Prop := ∃ literal type?, Tensor.ofLiteral literal type? = .ok t

/-- The attributes that nodes get: encoded settings and defaults, whose tensors were made from
literals, and the lengths of lists. -/
inductive Produced : Encoded → Prop where
  | encode (attr : String) (setting : Setting) (declared : Option Kind) (e : Encoded)
    (built : ∀ t, setting.value = .tensor t → Built t)
    (h : outcome (encode attr setting declared) = .ok e) : Produced e
  | length (n : Nat) : Produced (.int64 (Int64.ofNat n))

/-- All lengths, and the sizes of all axes, fit in a signed word. -/
def Sized : Encoded → Prop
  | .string s => s.utf8ByteSize < 2 ^ 63
  | .stringList ss _ => ss.length < 2 ^ 63 ∧ ∀ s ∈ ss, s.utf8ByteSize < 2 ^ 63
  | .int32List vs _ => vs.length < 2 ^ 63
  | .int64List vs _ => vs.length < 2 ^ 63
  | .float32List xs _ => xs.length < 2 ^ 63
  | .tensor t => t.rank < 2 ^ 63 ∧ (∀ d ∈ t.shape, d < 2 ^ 63) ∧ t.buffer.length < 2 ^ 63
  | .int32 _ | .int64 _ | .float32 _ | .type _ => True

lemma eq_tensor_of_represent? {encoding : Encoding} {value : Value} {t : Tensor}
    (h : encoding.represent? value = some (.tensor t)) : value = .tensor t := by
  cases (represents_of_represent? h).2
  rfl

lemma Produced.stable {e : Encoded} (h : Produced e) : Stable e := by
  cases h with
  | encode attr setting declared e built h => exact stable_of_encode h
  | length n => trivial

lemma Produced.built {t : Tensor} (h : Produced (.tensor t)) : Built t := by
  cases h with
  | encode attr setting declared e built h =>
    obtain ⟨encoding, rule, -, -, hrepresent⟩ := encode_eq_ok h
    exact built t (eq_tensor_of_represent? hrepresent)

lemma wireId_lt (type : ElementType) : type.wireId < 256 ^ 4 := by
  cases type <;> decide

lemma reads_elementType (type : ElementType) :
    Reads readElementType type (ofElementType type) := by
  rw [← List.append_nil (ofElementType type)]
  exact (reads_littleEndian (wireId_lt type)).bind (.ofOption (ElementType.ofWireId?_eq_some_iff.2 rfl))

lemma map_dims {t : Tensor} (h : ∀ d ∈ t.shape, d < 2 ^ 63) :
    t.dims.map (fun d => d.toInt.toNat) = t.shape := by
  rw [Tensor.dims, List.map_map]
  conv_rhs => rw [← List.map_id t.shape]
  refine List.map_congr_left fun d hd => ?_
  rw [Function.comp_apply, Int64.toInt_ofNat_of_lt (h d hd), Int.toNat_natCast, id]

lemma reads_dims (t : Tensor) (h : t.rank < 2 ^ 63) :
    Reads (readList readInt64) t.dims (count t.rank ++ t.dims.flatMap ofInt64) := by
  have hlength : t.dims.length = t.rank := List.length_map _
  rw [← hlength] at h ⊢
  exact reads_list h fun d _ => reads_int64 d

lemma reads_tensor {t : Tensor} (ht : Built t) (hsized : Sized (.tensor t)) :
    Reads readTensor t (ofTensor t) := by
  obtain ⟨literal, type?, ht⟩ := ht
  obtain ⟨hrank, haxes, hbuffer⟩ := hsized
  have hdata := reads_buffer t []
  rw [List.append_nil, length_data ht] at hdata
  have hbytes : ofTensor t = ofElementType t.type ++ (count t.rank ++ t.dims.flatMap ofInt64 ++
      (count t.buffer.length ++ (t.buffer ++ []))) := by
    simp only [ofTensor, List.append_assoc, List.append_nil]
  rw [hbytes]
  refine (reads_elementType t.type).bind ((reads_dims t hrank).bind
    ((reads_count hbuffer).bind ((reads_bytes t.buffer).bind ?_)))
  simp only [map_dims haxes, hdata]
  exact .pure t

lemma reads_lengths {ss : List String} (hcount : ss.length < 2 ^ 63)
    (hlengths : ∀ s ∈ ss, s.utf8ByteSize < 2 ^ 63) :
    Reads (readList readCount) (ss.map String.utf8ByteSize)
      (count ss.length ++ (ss.map String.utf8ByteSize).flatMap count) := by
  have hread : Reads (readList readCount) (ss.map String.utf8ByteSize)
      (count (ss.map String.utf8ByteSize).length ++ (ss.map String.utf8ByteSize).flatMap count) :=
    reads_list (by rwa [List.length_map])
      (List.forall_mem_map.2 fun s hs => reads_count (hlengths s hs))
  rwa [List.length_map] at hread

/-- A list whose recorded length is the number of its items is read back with this length. -/
lemma reads_counted {α : Type} (ofList : List α → Nat → Encoded) {read : Reader α}
    {write : α → List UInt8} {xs : List α} (hlength : xs.length < 2 ^ 63)
    (h : ∀ x, Reads read x (write x)) :
    Reads (Encoded.readCounted ofList read) (ofList xs xs.length)
      (count xs.length ++ xs.flatMap write) :=
  (reads_list hlength fun x _ => h x).map fun xs => ofList xs xs.length

theorem reads_payload {e : Encoded} (he : Produced e) (hsized : Sized e) :
    Reads (Encoded.readPayload e.encoding) e e.payload := by
  have hstable := he.stable
  cases e with
  | string s => exact (reads_count hsized).bind ((reads_string s).map Encoded.string)
  | stringList ss lengths =>
    cases hstable
    exact (reads_lengths hsized.1 hsized.2).bind
      ((reads_strings ss).map fun ss' => Encoded.stringList ss' (ss.map String.utf8ByteSize))
  | int32 v => exact (reads_int32 v).map Encoded.int32
  | int32List vs length =>
    cases hstable
    exact reads_counted .int32List hsized reads_int32
  | int64 v => exact (reads_int64 v).map Encoded.int64
  | int64List vs length =>
    cases hstable
    exact reads_counted .int64List hsized reads_int64
  | float32 x => exact (reads_single x).map Encoded.float32
  | float32List xs length =>
    obtain ⟨rfl, -⟩ := hstable
    exact reads_counted .float32List hsized reads_single
  | type t => exact (reads_elementType t).map Encoded.type
  | tensor t => exact (reads_tensor he.built hsized).map Encoded.tensor

lemma id_lt (encoding : Encoding) : encoding.id < 256 := by
  cases encoding <;> decide

theorem reads_toBytes {e : Encoded} (he : Produced e) (hsized : Sized e) :
    Reads Encoded.read e e.toBytes := by
  have htag : Encoding.ofId? (UInt8.ofNat e.encoding.id).toNat = some e.encoding := by
    rw [UInt8.toNat_ofNat_of_lt' (id_lt e.encoding), Encoding.ofId?_id]
  have hbytes : e.toBytes = [UInt8.ofNat e.encoding.id] ++ ([] ++ e.payload) := rfl
  rw [hbytes]
  exact (reads_byte _).bind ((Reads.ofOption htag).bind (reads_payload he hsized))

/-- An attribute is read back from its bytes whatever follows them. So if the bytes of one attribute
start those of another, or are the same, the two attributes are the same one, and a concatenation of
serialized attributes splits in only one way. -/
theorem toBytes_uniquelyDecodable :
    (∀ e, Produced e → Sized e → ∀ rest, Encoded.read (e.toBytes ++ rest) = some (e, rest)) ∧
      (∀ e e', Produced e → Sized e → Produced e' → Sized e' →
        e.toBytes <+: e'.toBytes → e = e') ∧
      ∀ es es' : List Encoded, (∀ e ∈ es, Produced e ∧ Sized e) →
        (∀ e ∈ es', Produced e ∧ Sized e) →
        es.flatMap Encoded.toBytes = es'.flatMap Encoded.toBytes → es = es' := by
  refine ⟨fun e he hsized => reads_toBytes he hsized, ?_, ?_⟩
  · rintro e e' he hsized he' hsized' ⟨rest, hrest⟩
    rw [← List.append_nil e'.toBytes] at hrest
    exact ((reads_toBytes he hsized).unique (reads_toBytes he' hsized') hrest).1
  · intro es es' hes hes' h
    exact flatMap_injective_of_reads (fun e => List.cons_ne_nil _ _)
      (fun e he => reads_toBytes (hes e he).1 (hes e he).2)
      (fun e he => reads_toBytes (hes' e he).1 (hes' e he).2) h

def sampleStrings : Encoded := .stringList ["a", "", "bc"] [1, 0, 2]

def sampleTensor : Encoded := .tensor ⟨.string, [2], ["a", ""]⟩

lemma produced_sampleStrings : Produced sampleStrings :=
  .encode "labels" ⟨.strings ["a", "", "bc"], none⟩ (some .stringList) _ (by simp) rfl

lemma produced_sampleTensor : Produced sampleTensor := by
  refine .encode "value" ⟨.tensor ⟨.string, [2], ["a", ""]⟩, none⟩ none _ ?_ rfl
  rintro t ⟨⟩
  exact ⟨.sequence [.scalar (.text "a"), .scalar (.text "")], none, rfl⟩

lemma sized_sampleStrings : Sized sampleStrings := by
  refine ⟨by decide, ?_⟩
  decide

lemma sized_sampleTensor : Sized sampleTensor := by
  refine ⟨by decide, by decide, ?_⟩
  rw [length_buffer]
  decide

theorem uniquelyDecodable_sample :
    Encoded.read (sampleStrings.toBytes ++ sampleTensor.toBytes) =
      some (sampleStrings, sampleTensor.toBytes) ∧
    ¬sampleStrings.toBytes <+: sampleTensor.toBytes ∧
    [sampleStrings, sampleTensor].flatMap Encoded.toBytes ≠
      [sampleTensor, sampleStrings].flatMap Encoded.toBytes := by
  obtain ⟨hread, hprefix, hsplit⟩ := toBytes_uniquelyDecodable
  refine ⟨hread _ produced_sampleStrings sized_sampleStrings _, ?_, ?_⟩
  · intro h
    have := hprefix _ _ produced_sampleStrings sized_sampleStrings produced_sampleTensor
      sized_sampleTensor h
    cases this
  · intro h
    have hstrings := And.intro produced_sampleStrings sized_sampleStrings
    have htensor := And.intro produced_sampleTensor sized_sampleTensor
    have := hsplit _ _ (by simp [hstrings, htensor]) (by simp [hstrings, htensor]) h
    cases this

end TensorGraph.Proofs
