import TensorGraph.Bytes.LittleEndian
import TensorGraph.Bytes.Varint
import TensorGraph.Tensor.Basic

/-!
# Buffers

The elements of a tensor as one block of bytes, in row-major order and little-endian. Texts differ
in length, so a table of their offsets into the data section stands before the data section; there
each text is written as its length, a variable-length integer, and its bytes.
-/

namespace TensorGraph

namespace Bytes

def ofBinary {f : Format} (width : Nat) (x : Binary f) : List UInt8 :=
  littleEndian width x.toWord

def textRecord (s : String) : List UInt8 := varint s.utf8ByteSize ++ ofString s

def textRecordLength (s : String) : Nat := varintLength s.utf8ByteSize + s.utf8ByteSize

def textsLength : List String → Nat
  | [] => 0
  | s :: rest => 8 + textRecordLength s + textsLength rest

/-- The offsets of the records of texts, the first of which starts at `start`. -/
def offsetTable (start : Nat) : List String → List UInt8
  | [] => []
  | s :: rest => count start ++ offsetTable (start + textRecordLength s) rest

end Bytes

def ElementType.bytes : (type : ElementType) → type.Element → List UInt8
  | .int32, v => Bytes.ofInt32 v
  | .int64, v => Bytes.ofInt64 v
  | .float32, x => Bytes.ofBinary 4 x
  | .float64, x => Bytes.ofBinary 8 x
  | .string, s => Bytes.textRecord s
  | .bool, b => [if b then 1 else 0]
  | .complex128, z => Bytes.ofBinary 8 z.re ++ Bytes.ofBinary 8 z.im

namespace Tensor

def offsetTable : Tensor → List UInt8
  | ⟨.string, _, texts⟩ => Bytes.offsetTable 0 texts
  | _ => []

def buffer (t : Tensor) : List UInt8 := t.offsetTable ++ t.data.flatMap t.type.bytes

/-- Bytes of the buffer, without building it. -/
def bufferLength : Tensor → Nat
  | ⟨.string, _, texts⟩ => Bytes.textsLength texts
  | t => t.data.length * t.type.size

end Tensor

end TensorGraph
