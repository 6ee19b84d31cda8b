/-!
# Declared kinds and encodings of attributes

An operation declares a kind for each of its attributes. What goes on the wire is an encoding. A
declared integer leaves the width of the encoding open; every other kind implies one.
-/

namespace TensorGraph.Attribute

inductive Kind where
  | string | stringList | int | intList | float | floatList | bool | type | tensor | shape | func
  deriving DecidableEq

def Kind.name : Kind → String
  | .string => "string"
  | .stringList => "list(string)"
  | .int => "int"
  | .intList => "list(int)"
  | .float => "float"
  | .floatList => "list(float)"
  | .bool => "bool"
  | .type => "type"
  | .tensor => "tensor"
  | .shape => "shape"
  | .func => "func"

def Kind.all : List Kind :=
  [.string, .stringList, .int, .intList, .float, .floatList, .bool, .type, .tensor, .shape, .func]

inductive Encoding where
  | string | stringList | int32 | int32List | int64 | int64List | float32 | float32List
  | type | tensor | bool | shape | func
  deriving DecidableEq

structure UnknownEncoding where
  name : String
  deriving DecidableEq

def UnknownEncoding.message (e : UnknownEncoding) : String :=
  s!"unknown attribute type tag \"{e.name}\""

namespace Encoding

def name : Encoding → String
  | .string => "string"
  | .stringList => "string_list"
  | .int32 => "int32"
  | .int32List => "int32_list"
  | .int64 => "int64"
  | .int64List => "int64_list"
  | .float32 => "float32"
  | .float32List => "float32_list"
  | .type => "type"
  | .tensor => "tensor"
  | .bool => "bool"
  | .shape => "shape"
  | .func => "func"

/-- The encoding of a name. A list may also be called an array, and types and tensors have a
second spelling. -/
def ofName : String → Except UnknownEncoding Encoding
  | "string" => .ok .string
  | "string_list" | "string_array" => .ok .stringList
  | "int32" => .ok .int32
  | "int32_list" | "int32_array" => .ok .int32List
  | "int64" => .ok .int64
  | "int64_list" | "int64_array" => .ok .int64List
  | "float32" => .ok .float32
  | "float32_list" | "float32_array" => .ok .float32List
  | "type" | "DataType" => .ok .type
  | "tensor" | "Tensor" => .ok .tensor
  | "bool" => .ok .bool
  | "shape" => .ok .shape
  | "func" => .ok .func
  | s => .error ⟨s⟩

def id : Encoding → Nat
  | .string => 0
  | .stringList => 1
  | .int32 => 2
  | .int32List => 3
  | .int64 => 4
  | .int64List => 5
  | .float32 => 6
  | .float32List => 7
  | .type => 8
  | .tensor => 9
  | .bool => 10
  | .shape => 11
  | .func => 12

def isSupported : Encoding → Bool
  | .bool | .shape | .func => false
  | _ => true

/-- The one encoding that a declared kind implies, if there is only one. -/
def ofKind? : Kind → Option Encoding
  | .string => some .string
  | .stringList => some .stringList
  | .float => some .float32
  | .floatList => some .float32List
  | .bool => some .bool
  | .type => some .type
  | .tensor => some .tensor
  | .shape => some .shape
  | .func => some .func
  | .int | .intList => none

/-- Attribute names that have an encoding of their own, which their values do not tell. -/
def overrides : List (String × Encoding) :=
  [("dtype", .type), ("value", .tensor), ("channels", .int64), ("DstT", .type),
    ("size/Const", .int32List)]

def ofAttribute? (attr : String) : Option Encoding := overrides.lookup attr

end Encoding

inductive Rule where
  | explicit | nameOverride | declared
  deriving DecidableEq

def Rule.name : Rule → String
  | .explicit => "Explicit"
  | .nameOverride => "NameOverride"
  | .declared => "Declared"

end TensorGraph.Attribute
