import TensorGraph.Literal
import TensorGraph.Shape.Basic

/-!
# Shapes of literals

A literal is regular if siblings agree on their whole shape at every level. Its shape then lists
the lengths of its sequences from the outermost inward. An empty sequence has the shape `[0]`.
-/

namespace TensorGraph

/-- The item at `path` has the shape `found`, unlike the `expected` one of its first sibling. -/
structure Irregularity where
  path : List Nat
  expected : Shape
  found : Shape
  deriving DecidableEq

namespace Irregularity

/-- The same finding seen from the sequence whose item number `i` it was made in. -/
def within (i : Nat) (e : Irregularity) : Irregularity := { e with path := i :: e.path }

def bracketed (xs : List Nat) : String := "[" ++ ", ".intercalate (xs.map toString) ++ "]"

def message (e : Irregularity) : String :=
  s!"irregular nesting at {bracketed e.path}: expected sub-shape {bracketed e.expected}, " ++
    s!"found {bracketed e.found}"

end Irregularity

namespace Literal

inductive HasShape : Literal → Shape → Prop where
  | scalar (s : Scalar) : HasShape (.scalar s) []
  | empty : HasShape (.sequence []) [0]
  | sequence (items : List Literal) (inner : Shape) (nonempty : items ≠ [])
    (agree : ∀ item ∈ items, HasShape item inner) :
    HasShape (.sequence items) (items.length :: inner)

/-- The literal of a shape that has the given scalar at each coordinate, which counts from 0. -/
def tabulate : Shape → (List Nat → Scalar) → Literal
  | [], f => .scalar (f [])
  | size :: inner, f =>
    .sequence ((List.range size).map fun i => tabulate inner fun rest => f (i :: rest))

mutual

/-- The shape of a regular literal. The irregularity found first, depth first and from left to
right, is reported. -/
def shape : Literal → Except Irregularity Shape
  | .scalar _ => .ok []
  | .sequence [] => .ok [0]
  | .sequence (item :: rest) =>
    match shape item with
    | .error e => .error (e.within 0)
    | .ok inner =>
      match agree inner 1 rest with
      | .error e => .error e
      | .ok () => .ok ((rest.length + 1) :: inner)

/-- Checks that all items, which are numbered from `i`, have the expected shape. -/
def agree (expected : Shape) (i : Nat) : List Literal → Except Irregularity Unit
  | [] => .ok ()
  | item :: rest =>
    match shape item with
    | .error e => .error (e.within i)
    | .ok found =>
      if expected = found then agree expected (i + 1) rest else .error ⟨[i], expected, found⟩

end

end Literal

end TensorGraph
