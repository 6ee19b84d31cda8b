import TensorGraph.Attribute.Encoded
import TensorGraph.Tensor.Buffer

/-!
# Serialized attributes

An encoded attribute as bytes: the number of its encoding, then the value, little-endian. A list
carries its recorded length before its elements, and a list of texts the recorded length of each
text before the first of them. A tensor carries its type, its rank, the sizes of its axes and the
length of its buffer.
-/

namespace TensorGraph

namespace Bytes

def ofElementType (type : ElementType) : List UInt8 := littleEndian 4 type.wireId

def ofTensor (t : Tensor) : List UInt8 :=
  ofElementType t.type ++ count t.rank ++ t.dims.flatMap ofInt64 ++
    (count t.buffer.length ++ t.buffer)

end Bytes

namespace Attribute.Encoded

def payload : Encoded → List UInt8
  | .string s => Bytes.count s.utf8ByteSize ++ Bytes.ofString s
  | .stringList ss lengths =>
    Bytes.count ss.length ++ lengths.flatMap Bytes.count ++ ss.flatMap Bytes.ofString
  | .int32 v => Bytes.ofInt32 v
  | .int32List vs length => Bytes.count length ++ vs.flatMap Bytes.ofInt32
  | .int64 v => Bytes.ofInt64 v
  | .int64List vs length => Bytes.count length ++ vs.flatMap Bytes.ofInt64
  | .float32 x => Bytes.ofBinary 4 x
  | .float32List xs length => Bytes.count length ++ xs.flatMap (Bytes.ofBinary 4)
  | .type t => Bytes.ofElementType t
  | .tensor t => Bytes.ofTensor t

def toBytes (e : Encoded) : List UInt8 := UInt8.ofNat e.encoding.id :: e.payload

end Attribute.Encoded

end TensorGraph
