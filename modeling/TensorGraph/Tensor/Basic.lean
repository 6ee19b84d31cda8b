import TensorGraph.Conversion
import TensorGraph.Shape.Regular

/-!
# Tensors

A tensor is built from a regular literal. Its element type is given or inferred from the kinds of
the leaves, and every leaf is stored under that type, in row-major order, as the conversions of
numbers allow.
-/

namespace TensorGraph

/-- Leaf number `index` is not of the kind that the leaves before it hold. -/
structure MixedKinds where
  index : Nat
  expected : Scalar.Kind
  found : Scalar.Kind
  deriving DecidableEq

structure NotRepresentable where
  index : Nat
  type : ElementType
  found : Scalar.Kind
  deriving DecidableEq

inductive TensorError where
  | irregular (e : Irregularity)
  | mixedKinds (e : MixedKinds)
  | notRepresentable (e : NotRepresentable)
  deriving DecidableEq

def MixedKinds.message (e : MixedKinds) : String :=
  s!"leaf {e.index} is {e.found.name} but the tensor holds {e.expected.name} values"

def NotRepresentable.message (e : NotRepresentable) : String :=
  s!"leaf {e.index} ({e.found.name}) is not representable as {e.type.name}"

def TensorError.message : TensorError → String
  | .irregular e => e.message
  | .mixedKinds e => e.message
  | .notRepresentable e => e.message

namespace ElementType

/-- Continues the inference at leaf number `i`: the kind of the first leaf is `first`, and `type`
holds the leaves so far. -/
def inferFrom (first : Scalar.Kind) (i : Nat) (type : ElementType) :
    List Scalar.Kind → Except MixedKinds ElementType
  | [] => .ok type
  | kind :: rest =>
    if first.isNumeric && kind.isNumeric then
      inferFrom first (i + 1) (if kind = .real then .float64 else type) rest
    else if kind = first then
      inferFrom first (i + 1) type rest
    else
      .error ⟨i, first, kind⟩

/-- The element type of leaves of the given kinds. All must be of one kind, but integers and reals
mix, as reals. No leaves are stored as reals. -/
def infer : List Scalar.Kind → Except MixedKinds ElementType
  | [] => .ok .float64
  | first :: rest => inferFrom first 1 first.elementType rest

def store? : (type : ElementType) → Scalar → Option type.Element
  | .int32, .integer v => toInt32? v
  | .int64, .integer v => some v
  | .float32, .integer v => toBinary? .single v
  | .float32, .real v => toSingle? v
  | .float64, .integer v => toBinary? .double v
  | .float64, .real v => some v
  | .string, .text s => some s
  | .bool, .boolean b => some b
  | .complex128, .complex z => some z
  | .complex128, .integer v => (toBinary? .double v).map fun re => ⟨re, .zero⟩
  | .complex128, .real v => some ⟨v, .zero⟩
  | _, _ => none

def load : (type : ElementType) → type.Element → Scalar
  | .int32, v => .integer v.toInt64
  | .int64, v => .integer v
  | .float32, v => .real (v.round .double)
  | .float64, v => .real v
  | .string, s => .text s
  | .bool, b => .boolean b
  | .complex128, z => .complex z

/-- Equality of elements as values: real numbers compare as numbers. -/
def sameElement : (type : ElementType) → type.Element → type.Element → Bool
  | .int32, a, b => a = b
  | .int64, a, b => a = b
  | .float32, a, b => a.sameNumber b
  | .float64, a, b => a.sameNumber b
  | .string, a, b => a = b
  | .bool, a, b => a = b
  | .complex128, a, b => a.sameNumber b

def storeAll (type : ElementType) (i : Nat) :
    List Scalar → Except NotRepresentable (List type.Element)
  | [] => .ok []
  | leaf :: rest =>
    match type.store? leaf with
    | none => .error ⟨i, type, leaf.kind⟩
    | some x => (storeAll type (i + 1) rest).map (x :: ·)

end ElementType

structure Tensor where
  type : ElementType
  shape : Shape
  data : List type.Element
  deriving DecidableEq

def Literal.inferType (literal : Literal) : Except MixedKinds ElementType :=
  ElementType.infer (literal.leaves.map Scalar.kind)

namespace Tensor

/-- The tensor of a literal. The shape is looked at first, then the kinds of the leaves if no type
is given, then the leaves. -/
def ofLiteral (literal : Literal) (type? : Option ElementType) : Except TensorError Tensor := do
  let shape ← literal.shape.mapError .irregular
  let type ← match type? with
    | some type => .ok type
    | none => literal.inferType.mapError .mixedKinds
  let data ← (type.storeAll 0 literal.leaves).mapError .notRepresentable
  return ⟨type, shape, data⟩

def rank (t : Tensor) : Nat := t.shape.length

def numElements (t : Tensor) : Nat := t.data.length

def isEmpty (t : Tensor) : Bool := t.data.isEmpty

def elementSize (t : Tensor) : Nat := t.type.size

def strides (t : Tensor) : List Nat := t.shape.strides

def dims (t : Tensor) : List Int64 := t.shape.map Int64.ofNat

def at? (t : Tensor) (offset : Nat) : Option Scalar := t.data[offset]?.map t.type.load

/-- The element at an index, which has one coordinate for each axis, counting from 1. -/
def get (t : Tensor) (index : List Nat) : Except IndexError Scalar := do
  let offset ← t.shape.offset index
  match t.at? offset with
  | some x => .ok x
  | none => .error (.outOfRange 0 (offset + 1) t.numElements)

def sameElements (type : ElementType) : List type.Element → List type.Element → Bool
  | [], [] => true
  | x :: xs, y :: ys => type.sameElement x y && sameElements type xs ys
  | _, _ => false

def sameValue (t u : Tensor) : Bool :=
  if h : t.type = u.type then
    t.shape = u.shape && sameElements u.type (h ▸ t.data) u.data
  else
    false

end Tensor

end TensorGraph
