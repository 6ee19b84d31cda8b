import TensorGraph.Bytes.Reader
import TensorGraph.Tensor.Buffer

/-!
# Reading tensors back

The elements of a buffer, given their type and their number. The table that stands before texts is
passed over, since the records follow each other without gaps.
-/

namespace TensorGraph

namespace Bytes

def readBinary (f : Format) (width : Nat) : Reader (Binary f) := do
  return .ofWord f (← readLittleEndian width)

def readTextRecord : Reader String := do readString (← readVarint)

end Bytes

namespace ElementType

def read : (type : ElementType) → Bytes.Reader type.Element
  | .int32 => Bytes.readInt32
  | .int64 => Bytes.readInt64
  | .float32 => Bytes.readBinary .single 4
  | .float64 => Bytes.readBinary .double 8
  | .string => Bytes.readTextRecord
  | .bool => do return (← Bytes.readByte) ≠ 0
  | .complex128 => do
    let re ← Bytes.readBinary .double 8
    let im ← Bytes.readBinary .double 8
    return ⟨re, im⟩

def tableLength (type : ElementType) (count : Nat) : Nat := if type = .string then 8 * count else 0

def readBuffer (type : ElementType) (count : Nat) : Bytes.Reader (List type.Element) := do
  let _ ← Bytes.readBytes (type.tableLength count)
  Bytes.readMany type.read count

end ElementType

end TensorGraph
