import TensorGraph.ElementType

/-!
# Nested literals

A literal is a scalar or a sequence of literals. Its leaves are its scalars, depth first and from
left to right.
-/

namespace TensorGraph

inductive Scalar where
  | integer (value : Int64)
  | real (value : Binary64)
  | text (value : String)
  | boolean (value : Bool)
  | complex (value : Complex)
  deriving DecidableEq

inductive Scalar.Kind where
  | integer | real | text | boolean | complex
  deriving DecidableEq

namespace Scalar

namespace Kind

def name : Kind → String
  | .integer => "integer"
  | .real => "real"
  | .text => "text"
  | .boolean => "boolean"
  | .complex => "complex"

def isNumeric : Kind → Bool
  | .integer | .real => true
  | .text | .boolean | .complex => false

def elementType : Kind → ElementType
  | .integer => .int64
  | .real => .float64
  | .text => .string
  | .boolean => .bool
  | .complex => .complex128

end Kind

def kind : Scalar → Kind
  | .integer _ => .integer
  | .real _ => .real
  | .text _ => .text
  | .boolean _ => .boolean
  | .complex _ => .complex

end Scalar

inductive Literal where
  | scalar (value : Scalar)
  | sequence (items : List Literal)

instance : Inhabited Literal := ⟨.sequence []⟩

inductive Literal.Kind where
  | scalar (kind : Scalar.Kind)
  | sequence
  deriving DecidableEq

namespace Literal

namespace Kind

def name : Kind → String
  | .scalar k => k.name
  | .sequence => "sequence"

def isNumeric : Kind → Bool
  | .scalar k => k.isNumeric
  | .sequence => false

end Kind

def kind : Literal → Kind
  | .scalar s => .scalar s.kind
  | .sequence _ => .sequence

def isSequence : Literal → Bool
  | .scalar _ => false
  | .sequence _ => true

mutual

/-- The scalars of a literal, depth first and from left to right. -/
def leaves : Literal → List Scalar
  | .scalar s => [s]
  | .sequence items => leavesAll items

def leavesAll : List Literal → List Scalar
  | [] => []
  | item :: rest => leaves item ++ leavesAll rest

end

/-- The scalar that is reached from a literal by going to the items at the given positions, which
count from 0. -/
def at? : Literal → List Nat → Option Scalar
  | .scalar s, [] => some s
  | .sequence items, i :: path => items[i]?.bind fun item => item.at? path
  | _, _ => none

theorem leavesAll_eq_flatMap (items : List Literal) : leavesAll items = items.flatMap leaves := by
  induction items with
  | nil => rfl
  | cons item rest ih => simp [leavesAll, ih]

end Literal

end TensorGraph
