import TensorGraph.Tensor.Basic
import TensorGraph.Text.Quoted
import TensorGraph.Text.Scientific

/-!
# Printed tensors

A tensor is printed as a sequence of slabs, one matrix for each coordinate of the axes before the
last two. A tensor of rank below two is a single matrix: a scalar of one row and one column, a
vector of one column.
-/

namespace TensorGraph

/-- Real numbers are printed with three places after the point. -/
def realStyle : Text.Scientific := ⟨3, false, Nat.succ_pos 2⟩

/-- The imaginary part always has a sign, so that it stands apart from the real part. -/
def imaginaryStyle : Text.Scientific := ⟨3, true, Nat.succ_pos 2⟩

def ElementType.text : (type : ElementType) → type.Element → String
  | .int32, v => toString v.toInt
  | .int64, v => toString v.toInt
  | .float32, x => realStyle.render x
  | .float64, x => realStyle.render x
  | .string, s => Text.quote s
  | .bool, b => if b then "true" else "false"
  | .complex128, z => realStyle.render z.re ++ imaginaryStyle.render z.im ++ "i"

def pieces {α : Type} (size : Nat) : (count : Nat) → List α → List (List α)
  | 0, _ => []
  | count + 1, xs => xs.take size :: pieces size count (xs.drop size)

/-- The axes that number the matrices of a shape, and the rows and columns of each: the last two
axes. A scalar is a matrix of one row and one column, a vector a matrix of one column. -/
def Shape.matrices : Shape → Shape × Nat × Nat
  | [] => ([], 1, 1)
  | [length] => ([], length, 1)
  | [rows, cols] => ([], rows, cols)
  | size :: inner =>
    let (batch, rows, cols) := matrices inner
    (size :: batch, rows, cols)

/-- One matrix of a printed tensor: its coordinate, counting from 0, on the axes before the last
two, and its rows. -/
structure Slab (α : Type) where
  coordinate : List Nat
  rows : List (List α)

namespace Slab

variable {α : Type}

def heading (shape : Shape) (coordinate : List Nat) : String :=
  match shape with
  | [] => "<>"
  | [length] => s!"<{length}>"
  | _ =>
    let (_, rows, cols) := shape.matrices
    let which := if coordinate.isEmpty then "" else
      "[" ++ ", ".intercalate (coordinate.map toString) ++ "]"
    s!"<{rows}x{cols}>" ++ which

/-- The text of a slab: the heading and each row on a line of its own, every element followed by a
space. -/
def render (shape : Shape) (text : α → String) (slab : Slab α) : String :=
  let row (xs : List α) : String := String.join (xs.map fun x => text x ++ " ") ++ "\n"
  heading shape slab.coordinate ++ "\n" ++ String.join (slab.rows.map row)

end Slab

def Shape.slabs {α : Type} (shape : Shape) (xs : List α) : List (Slab α) :=
  let (batch, rows, cols) := shape.matrices
  let coordinates := batch.coordinates
  (coordinates.zip (pieces (rows * cols) coordinates.length xs)).map fun (coordinate, matrix) =>
    ⟨coordinate, pieces cols rows matrix⟩

namespace Tensor

def slabs (t : Tensor) : List (Slab t.type.Element) := t.shape.slabs t.data

def render (t : Tensor) : String := String.join (t.slabs.map (Slab.render t.shape t.type.text))

end Tensor

end TensorGraph
