/-!
# Variable-length integers

A natural number is written in groups of seven bits, the lowest group first. Every byte but the
last has its high bit set. `varintLength` says how many bytes that takes without writing them.
-/

namespace TensorGraph.Bytes

/-- The number in groups of seven bits, the lowest first, with a continuation bit on all but the
last. -/
def varint (n : Nat) : List UInt8 :=
  if n < 128 then [UInt8.ofNat n]
  else UInt8.ofNat (128 + n % 128) :: varint (n / 128)
termination_by n

/-- Bytes of the written number: one for each seven bits begun, and one for zero. -/
def varintLength (n : Nat) : Nat := n.log2 / 7 + 1

end TensorGraph.Bytes
