import TensorGraph.Binary.Basic

/-!
# Element types

The types of value that a tensor can hold, with their names, sizes and wire numbers.
-/

namespace TensorGraph

inductive ElementType where
  | int32 | int64 | float32 | float64 | string | bool | complex128
  deriving DecidableEq

structure UnknownElementType where
  name : String
  deriving DecidableEq

def UnknownElementType.message (e : UnknownElementType) : String :=
  s!"unknown data type \"{e.name}\""

namespace ElementType

abbrev Element : ElementType → Type
  | .int32 => Int32
  | .int64 => Int64
  | .float32 => Binary32
  | .float64 => Binary64
  | .string => String
  | .bool => Bool
  | .complex128 => Complex

instance : (type : ElementType) → DecidableEq type.Element
  | .int32 => inferInstanceAs (DecidableEq Int32)
  | .int64 => inferInstanceAs (DecidableEq Int64)
  | .float32 => inferInstanceAs (DecidableEq Binary32)
  | .float64 => inferInstanceAs (DecidableEq Binary64)
  | .string => inferInstanceAs (DecidableEq String)
  | .bool => inferInstanceAs (DecidableEq Bool)
  | .complex128 => inferInstanceAs (DecidableEq Complex)

def all : List ElementType := [.int32, .int64, .float32, .float64, .string, .bool, .complex128]

def name : ElementType → String
  | .int32 => "int32"
  | .int64 => "int64"
  | .float32 => "float32"
  | .float64 => "float64"
  | .string => "string"
  | .bool => "bool"
  | .complex128 => "complex128"

def ofName : String → Except UnknownElementType ElementType
  | "int32" => .ok .int32
  | "int64" => .ok .int64
  | "float32" | "float" => .ok .float32
  | "float64" | "double" => .ok .float64
  | "string" => .ok .string
  | "bool" => .ok .bool
  | "complex128" | "complex" => .ok .complex128
  | s => .error ⟨s⟩

/-- Bytes that one element takes; a text counts as the slot of its offset. -/
def size : ElementType → Nat
  | .int32 | .float32 => 4
  | .int64 | .float64 | .string => 8
  | .bool => 1
  | .complex128 => 16

def isFixedWidth (t : ElementType) : Bool := t ≠ .string

def isSingleNumber : ElementType → Bool
  | .int32 | .int64 | .float32 | .float64 => true
  | .string | .bool | .complex128 => false

def wireId : ElementType → Nat
  | .float32 => 1
  | .float64 => 2
  | .int32 => 3
  | .string => 7
  | .int64 => 9
  | .bool => 10
  | .complex128 => 18

def ofWireId? (id : Int) : Option ElementType := all.find? fun t => t.wireId = id

theorem mem_all (t : ElementType) : t ∈ all := by cases t <;> decide

theorem wireId_injective {t u : ElementType} (h : t.wireId = u.wireId) : t = u := by
  cases t <;> cases u <;> first | rfl | contradiction

theorem ofWireId?_eq_some_iff {id : Int} {t : ElementType} :
    ofWireId? id = some t ↔ t.wireId = id := by
  constructor
  · intro h
    have hfound := List.find?_some h
    exact of_decide_eq_true hfound
  · intro h
    subst h
    cases t <;> rfl

end ElementType

end TensorGraph
