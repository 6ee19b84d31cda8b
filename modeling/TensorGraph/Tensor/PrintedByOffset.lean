import TensorGraph.Tensor.Printed

/-!
# Printing by offset

The text of a tensor, written element by element, each looked up at its offset in the data. The
matrices are numbered, and the coordinate of a matrix is computed back from its number by the
strides of the axes before the last two. There is no text if a look-up leaves the data or a stride
to divide by is zero.
-/

namespace TensorGraph

namespace Shape

/-- The strides of one or more axes, found from the innermost axis outward: the stride of an axis is
the stride of the next axis times the size of the next axis. -/
def outwardStrides (axes : Shape) : List Nat :=
  axes.tail.foldr (fun size found => found.headD 1 * size :: found) [1]

/-- The coordinate, counting from 0, with a number: a quotient for each stride, and the remainder
goes on to the next. -/
def coordinate? : (strides : List Nat) → (number : Nat) → Option (List Nat)
  | [], _ => some []
  | stride :: rest, number =>
    if stride = 0 then none
    else (coordinate? rest (number % stride)).map (number / stride :: ·)

end Shape

namespace Tensor

def elementText? (t : Tensor) (offset : Nat) : Option String :=
  t.data[offset]?.map fun x => t.type.text x ++ " "

def rowText? (t : Tensor) (start cols : Nat) : Option String := do
  let elements ← (List.range cols).mapM fun c => t.elementText? (start + c)
  return String.join elements ++ "\n"

/-- The lines of a matrix whose elements stand in the data from the offset `start` on. -/
def matrixText? (t : Tensor) (start rows cols : Nat) : Option String := do
  let lines ← (List.range rows).mapM fun r => t.rowText? (start + r * cols) cols
  return String.join lines

/-- Matrix number `i` under its coordinate. -/
def slabText? (t : Tensor) (strides : List Nat) (rows cols i : Nat) : Option String := do
  let which ← Shape.coordinate? strides i
  let matrix ← t.matrixText? (i * rows * cols) rows cols
  return s!"<{rows}x{cols}>" ++ Irregularity.bracketed which ++ "\n" ++ matrix

def print? (t : Tensor) : Option String :=
  match t.shape with
  | [] => (t.matrixText? 0 1 1).map ("<>" ++ "\n" ++ ·)
  | [length] => (t.matrixText? 0 length 1).map (s!"<{length}>" ++ "\n" ++ ·)
  | [rows, cols] => (t.matrixText? 0 rows cols).map (s!"<{rows}x{cols}>" ++ "\n" ++ ·)
  | shape => do
    let (batch, rows, cols) := shape.matrices
    let strides := batch.outwardStrides
    let slabs ← (List.range (batch.headD 0 * strides.headD 0)).mapM
      (t.slabText? strides rows cols)
    return String.join slabs

end Tensor

end TensorGraph
