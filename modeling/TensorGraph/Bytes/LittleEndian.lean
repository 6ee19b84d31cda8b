/-!
# Little-endian words
-/

namespace TensorGraph.Bytes

def littleEndian : (width : Nat) → (n : Nat) → List UInt8
  | 0, _ => []
  | width + 1, n => UInt8.ofNat n :: littleEndian width (n / 256)

theorem length_littleEndian (width n : Nat) : (littleEndian width n).length = width := by
  induction width generalizing n with
  | zero => rfl
  | succ width ih => simp [littleEndian, ih]

def count (n : Nat) : List UInt8 := littleEndian 8 n

def ofInt32 (v : Int32) : List UInt8 := littleEndian 4 v.toUInt32.toNat

def ofInt64 (v : Int64) : List UInt8 := littleEndian 8 v.toUInt64.toNat

def ofString (s : String) : List UInt8 := s.toByteArray.data.toList

theorem length_ofString (s : String) : (ofString s).length = s.utf8ByteSize := rfl

end TensorGraph.Bytes
