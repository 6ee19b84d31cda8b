import TensorGraph.Binary.Rounding

/-!
# Binary numbers and machine integers

An integer is rounded to the nearest number of a format. A number is cut to an integer toward zero,
and into the range of the integers. An integer that comes back from the format unchanged is exact
there, unless it was cut into range on the way back.
-/

namespace TensorGraph.Binary

variable {f : Format}

/-- The number nearest to the integer, ties going to the even significand. -/
def ofInt64 (f : Format) (v : Int64) : Binary f :=
  clamp f (v.toInt < 0) (f.nearest (v.toInt.natAbs * Nat.pow 2 f.quantum) 0)

/-- The number without its fraction. What lies beyond the integers becomes the last one on its side,
and NaN becomes zero. -/
def toInt64 : Binary f → Int64
  | .nan .. => 0
  | .number s i =>
    if i.val = f.infinity then
      if s then Int64.minValue else Int64.maxValue
    else
      let size : Int := Int.ofNat (f.units i.val / Nat.pow 2 f.quantum)
      Int64.ofIntClamp (if s then -size else size)

/-- The number is less than `bound`, which is positive. -/
def isBelow (bound : Nat) : Binary f → Bool
  | .nan .. => false
  | .number s i => s || (i.val < f.infinity && f.units i.val < bound * Nat.pow 2 f.quantum)

/-- The integer as a number, if it is the integer that the number is cut to. From `2 ^ 63` on every
number is cut to the same integer, so these numbers are refused. -/
def roundTrip? (f : Format) (v : Int64) : Option (Binary f) :=
  let x := ofInt64 f v
  if x.isBelow (Nat.pow 2 63) ∧ x.toInt64 = v then some x else none

end TensorGraph.Binary
