import TensorGraph.Attribute.Value

/-!
# Signatures of operations

A signature declares the inputs, the outputs and the attributes of an operation type. The element
type of an argument is fixed or given by an attribute, and an argument that is a list has its length
given by an attribute.
-/

namespace TensorGraph

inductive ArgumentType where
  | fixed (type : ElementType)
  | attribute (attr : String)
  deriving DecidableEq

/-- An input or output of an operation. The `length` of a list argument names the attribute that
holds its length. -/
structure Argument where
  name : String
  type : ArgumentType
  length : Option String
  deriving DecidableEq

def Argument.isList (a : Argument) : Bool := a.length.isSome

/-- The attributes that an argument refers to, with the kinds they must be declared with. -/
def Argument.references (a : Argument) : List (String × Attribute.Kind) :=
  let typeAttribute := match a.type with
    | .fixed _ => []
    | .attribute attr => [(attr, .type)]
  typeAttribute ++ (a.length.toList.map fun attr => (attr, .int))

structure Declaration where
  name : String
  kind : Attribute.Kind
  default? : Option Attribute.Value
  deriving DecidableEq

structure Signature where
  name : String
  inputs : List Argument
  outputs : List Argument
  attributes : List Declaration
  deriving DecidableEq

namespace Signature

def attribute? (s : Signature) (attr : String) : Option Declaration :=
  s.attributes.find? (·.name = attr)

def listInputs (s : Signature) : List Argument := s.inputs.filter (·.isList)

def singleInputs (s : Signature) : List Argument := s.inputs.filter (!·.isList)

end Signature

end TensorGraph
