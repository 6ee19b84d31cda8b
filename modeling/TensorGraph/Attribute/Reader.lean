import TensorGraph.Attribute.Serialized
import TensorGraph.Tensor.Reader

/-!
# Reading attributes back

The encoded attribute at the front of the bytes. The number of its encoding tells how to read the
rest.
-/

namespace TensorGraph

namespace Bytes

def readElementType : Reader ElementType := do
  Reader.ofOption (ElementType.ofWireId? (← readLittleEndian 4))

/-- A tensor: its type, its shape, and a buffer of the length that is given for it. -/
def readTensor : Reader Tensor := do
  let type ← readElementType
  let dims ← readList readInt64
  let shape : Shape := dims.map fun d => d.toInt.toNat
  let length ← readCount
  let buffer ← readBytes length
  match type.readBuffer shape.numElements buffer with
  | some (data, []) => return ⟨type, shape, data⟩
  | _ => Reader.ofOption none

end Bytes

namespace Attribute

def Encoding.ofId? : Nat → Option Encoding
  | 0 => some .string
  | 1 => some .stringList
  | 2 => some .int32
  | 3 => some .int32List
  | 4 => some .int64
  | 5 => some .int64List
  | 6 => some .float32
  | 7 => some .float32List
  | 8 => some .type
  | 9 => some .tensor
  | 10 => some .bool
  | 11 => some .shape
  | 12 => some .func
  | _ => none

theorem Encoding.ofId?_id (e : Encoding) : Encoding.ofId? e.id = some e := by cases e <;> rfl

namespace Encoded

/-- A list of numbers whose recorded length is the number of its items. -/
def readCounted {α : Type} (ofList : List α → Nat → Encoded) (read : Bytes.Reader α) :
    Bytes.Reader Encoded := do
  let xs ← Bytes.readList read
  return ofList xs xs.length

def readPayload : Encoding → Bytes.Reader Encoded
  | .string => do return .string (← Bytes.readString (← Bytes.readCount))
  | .stringList => do
    let lengths ← Bytes.readList Bytes.readCount
    return .stringList (← Bytes.readStrings lengths) lengths
  | .int32 => do return .int32 (← Bytes.readInt32)
  | .int32List => readCounted .int32List Bytes.readInt32
  | .int64 => do return .int64 (← Bytes.readInt64)
  | .int64List => readCounted .int64List Bytes.readInt64
  | .float32 => do return .float32 (← Bytes.readBinary .single 4)
  | .float32List => readCounted .float32List (Bytes.readBinary .single 4)
  | .type => do return .type (← Bytes.readElementType)
  | .tensor => do return .tensor (← Bytes.readTensor)
  | .bool | .shape | .func => Bytes.Reader.ofOption none

def read : Bytes.Reader Encoded := do
  let id ← Bytes.readByte
  let encoding ← Bytes.Reader.ofOption (Encoding.ofId? id.toNat)
  readPayload encoding

end Encoded

end Attribute

end TensorGraph
