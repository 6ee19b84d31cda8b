import TensorGraph.Binary.Basic

/-!
# Rounding to a binary format

The magnitude nearest to `n / 2 ^ d` units is found in exact arithmetic: drop as many low bits as
the significand has no room for, round the quotient to the nearest integer, and number the result.
A carry into the next power of two needs no case of its own, since magnitudes are numbered through.
-/

namespace TensorGraph

/-- The quotient `n / d` rounded to the nearest integer, a half going to the even neighbour. -/
def divNearest (n d : Nat) : Nat :=
  match compare (2 * (n % d)) d with
  | .lt => n / d
  | .eq => n / d + n / d % 2
  | .gt => n / d + 1

/-- The number of the magnitude nearest to `n / 2 ^ d` units, ties going to the even significand.
It runs past the number of infinity for sizes that round beyond the finite magnitudes. -/
def Format.nearest (f : Format) (n d : Nat) : Nat :=
  let shift := (n / Nat.pow 2 d).log2 - f.fractionBits
  shift * f.binade + divNearest n (Nat.pow 2 (d + shift))

namespace Binary

/-- The value with sign `negative` whose magnitude is number `i`, or infinite if that is too big. -/
def clamp (f : Format) (negative : Bool) (i : Nat) : Binary f :=
  .number negative ⟨min i f.infinity, Nat.lt_succ_of_le (Nat.min_le_right i f.infinity)⟩

/-- The value in another format. A NaN keeps its sign and the leading bits of its fraction, and it
becomes quiet. -/
def round {f : Format} (g : Format) : Binary f → Binary g
  | .nan s p =>
    let fraction := (p.val + 1) * Nat.pow 2 (g.fractionBits - f.fractionBits)
    .nan s (g.quiet (fraction / Nat.pow 2 (f.fractionBits - g.fractionBits)))
  | .number s i =>
    if i.val = f.infinity then clamp g s g.infinity
    else
      let size := f.units i.val * Nat.pow 2 (g.quantum - f.quantum)
      clamp g s (g.nearest size (f.quantum - g.quantum))

end Binary

end TensorGraph
