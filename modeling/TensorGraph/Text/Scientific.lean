import TensorGraph.Binary.Rounding

/-!
# Scientific notation

A number is printed as one digit, a point, a fixed count of further digits and a decimal exponent.
The digits are those of the exact value, rounded once, a half going to the even neighbour.
-/

namespace TensorGraph.Text

/-- How numbers are written: the count of digits after the point, and whether a number that is not
negative carries a plus sign. -/
structure Scientific where
  places : Nat
  plusSign : Bool
  places_pos : 0 < places

namespace Scientific

def digitCount (n : Nat) : Nat := (Nat.toDigits 10 n).length

/-- The decimal exponent of the positive quotient `n / d` and its first `places + 1` digits, read
as an integer. A quotient of at least one has the digits of its integer part before the point. A
smaller one is at least `10 ^ -k` for the number `k` of digits of `(d - 1) / n`, and for no smaller
`k`. Rounding up to the next power of ten gives it the exponent of that power. -/
def decompose (places n d : Nat) : Int × Nat :=
  let (exponent, digits) : Int × Nat :=
    if d ≤ n then
      let e := digitCount (n / d) - 1
      (e, divNearest (n * Nat.pow 10 places) (d * Nat.pow 10 e))
    else
      let k := digitCount ((d - 1) / n)
      (-k, divNearest (n * Nat.pow 10 (k + places)) d)
  if digits = Nat.pow 10 (places + 1) then (exponent + 1, Nat.pow 10 places)
  else (exponent, digits)

/-- Writes an integer of `places + 1` digits with a point after the first of them. -/
def significand (places digits : Nat) : String :=
  let unit := Nat.pow 10 places
  let fraction := Nat.toDigits 10 (unit + digits % unit)
  toString (digits / unit) ++ "." ++ String.ofList (fraction.drop 1)

def render (style : Scientific) {f : Format} : Binary f → String
  | .nan .. => "NaN"
  | .number negative i =>
    let sign := if negative then "-" else if style.plusSign then "+" else ""
    if i.val = f.infinity then
      sign ++ "inf"
    else
      let (exponent, digits) :=
        if i.val = 0 then (0, 0) else decompose style.places (f.units i.val) (Nat.pow 2 f.quantum)
      sign ++ significand style.places digits ++ "e" ++ toString exponent

end Scientific

end TensorGraph.Text
