import TensorGraph.Tensor.Basic

/-!
# Columns

The elements of a tensor as one list under the tag of their type. A column tells its type, its
length and its elements by itself, without the tensor that it is the data of.
-/

namespace TensorGraph

inductive Column where
  | int32 (values : List Int32)
  | int64 (values : List Int64)
  | float32 (values : List Binary32)
  | float64 (values : List Binary64)
  | string (values : List String)
  | bool (values : List Bool)
  | complex128 (values : List Complex)
  deriving DecidableEq

namespace Column

/-- The column of leaves under a type, which has to hold each of them. -/
def ofLeaves (leaves : List Scalar) : ElementType → Except NotRepresentable Column
  | .int32 => (ElementType.storeAll .int32 0 leaves).map int32
  | .int64 => (ElementType.storeAll .int64 0 leaves).map int64
  | .float32 => (ElementType.storeAll .float32 0 leaves).map float32
  | .float64 => (ElementType.storeAll .float64 0 leaves).map float64
  | .string => (ElementType.storeAll .string 0 leaves).map string
  | .bool => (ElementType.storeAll .bool 0 leaves).map bool
  | .complex128 => (ElementType.storeAll .complex128 0 leaves).map complex128

def type : Column → ElementType
  | int32 _ => .int32
  | int64 _ => .int64
  | float32 _ => .float32
  | float64 _ => .float64
  | string _ => .string
  | bool _ => .bool
  | complex128 _ => .complex128

def length : Column → Nat
  | int32 values => values.length
  | int64 values => values.length
  | float32 values => values.length
  | float64 values => values.length
  | string values => values.length
  | bool values => values.length
  | complex128 values => values.length

/-- The element at an offset as a scalar. Single numbers widen. -/
def at? (offset : Nat) : Column → Option Scalar
  | int32 values => values[offset]?.map fun v => .integer v.toInt64
  | int64 values => values[offset]?.map .integer
  | float32 values => values[offset]?.map fun x => .real (x.round .double)
  | float64 values => values[offset]?.map .real
  | string values => values[offset]?.map .text
  | bool values => values[offset]?.map .boolean
  | complex128 values => values[offset]?.map .complex

end Column

/-- The data of a tensor under the tag of its type. -/
def Tensor.column : Tensor → Column
  | ⟨.int32, _, values⟩ => .int32 values
  | ⟨.int64, _, values⟩ => .int64 values
  | ⟨.float32, _, values⟩ => .float32 values
  | ⟨.float64, _, values⟩ => .float64 values
  | ⟨.string, _, values⟩ => .string values
  | ⟨.bool, _, values⟩ => .bool values
  | ⟨.complex128, _, values⟩ => .complex128 values

end TensorGraph
