/-!
# Shapes and row-major order

A shape lists the sizes of the axes, the outermost first. Elements are stored in row-major order,
where the innermost coordinate runs fastest. Coordinates of an index count from 1.
-/

namespace TensorGraph

abbrev Shape := List Nat

inductive IndexError where
  | arity (rank found : Nat)
  | outOfRange (axis value size : Nat)
  deriving DecidableEq

def IndexError.message : IndexError → String
  | .arity rank found => s!"index has {found} coordinates but the tensor has rank {rank}"
  | .outOfRange axis value size => s!"coordinate {value} on axis {axis} is outside [1, {size}]"

namespace Shape

def numElements (shape : Shape) : Nat := shape.foldr (· * ·) 1

def strides : Shape → List Nat
  | [] => []
  | _ :: inner => numElements inner :: strides inner

/-- The first axis, counting from `axis`, whose coordinate is outside its size. Each pair holds a
coordinate and the size of its axis. -/
def firstOutside (axis : Nat) : List (Nat × Nat) → Option IndexError
  | [] => none
  | (value, size) :: rest =>
    if value < 1 ∨ size < value then some (.outOfRange axis value size)
    else firstOutside (axis + 1) rest

/-- The offset of coordinates inside their sizes, and the number of elements of all their axes,
taken from the innermost axis outward: each axis weighs as much as the axes inside it have
elements. -/
def accumulate : List (Nat × Nat) → Nat × Nat
  | [] => (0, 1)
  | (value, size) :: inner =>
    let (offset, weight) := accumulate inner
    (offset + (value - 1) * weight, weight * size)

/-- The offset in row-major order of an index, which has one coordinate for each axis. -/
def offset (shape : Shape) (index : List Nat) : Except IndexError Nat :=
  if index.length ≠ shape.length then
    .error (.arity shape.length index.length)
  else
    let pairs := index.zip shape
    match firstOutside 0 pairs with
    | some e => .error e
    | none => .ok (accumulate pairs).1

/-- All coordinates of a shape, counting from 0, in row-major order. -/
def coordinates : Shape → List (List Nat)
  | [] => [[]]
  | size :: inner => (List.range size).flatMap fun i => (coordinates inner).map (i :: ·)

end Shape

end TensorGraph
