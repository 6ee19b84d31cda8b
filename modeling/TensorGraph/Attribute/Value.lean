import TensorGraph.Attribute.Encoding
import TensorGraph.Tensor.Basic

/-!
# Attribute values

The value of an attribute as a caller gives it, which says nothing about the width of its numbers,
and the settings that pair it with an explicit encoding.
-/

namespace TensorGraph.Attribute

inductive Value where
  | string (value : String)
  | strings (values : List String)
  | integer (value : Int64)
  | integers (values : List Int64)
  | real (value : Binary64)
  | reals (values : List Binary64)
  | boolean (value : Bool)
  | type (value : ElementType)
  | tensor (value : Tensor)
  deriving DecidableEq

inductive Value.Form where
  | string | strings | integer | integers | real | reals | boolean | type | tensor
  deriving DecidableEq

def Value.Form.name : Value.Form → String
  | .string => "string"
  | .strings => "string list"
  | .integer => "integer"
  | .integers => "integer list"
  | .real => "real"
  | .reals => "real list"
  | .boolean => "boolean"
  | .type => "data type"
  | .tensor => "tensor"

def Value.form : Value → Value.Form
  | .string _ => .string
  | .strings _ => .strings
  | .integer _ => .integer
  | .integers _ => .integers
  | .real _ => .real
  | .reals _ => .reals
  | .boolean _ => .boolean
  | .type _ => .type
  | .tensor _ => .tensor

structure Setting where
  value : Value
  tag : Option Encoding
  deriving DecidableEq

end TensorGraph.Attribute
