import TensorGraph.Attribute.Encoded

/-!
# Nodes and their identities

A node is known by the graph it was added to and its position there, and so is each of its outputs.
Neither ever changes, so these identities stay good while the graph grows, and after it is gone.
-/

namespace TensorGraph

/-- The identity of a node: its graph and its position in it. -/
structure NodeRef where
  graph : Nat
  position : Nat
  deriving DecidableEq

structure Output where
  node : NodeRef
  slot : Nat
  deriving DecidableEq

inductive Input where
  | single (output : Output)
  | list (outputs : List Output)
  deriving DecidableEq

def Input.outputs : Input → List Output
  | .single output => [output]
  | .list outputs => outputs

abbrev Attributes := List (String × Attribute.Encoded)

structure Node where
  name : String
  opType : String
  inputs : List Input
  attributes : Attributes
  numOutputs : Nat
  deriving DecidableEq

def Node.attribute? (n : Node) (attr : String) : Option Attribute.Encoded :=
  n.attributes.lookup attr

structure Operation where
  ref : NodeRef
  node : Node
  deriving DecidableEq

namespace Operation

/-- Operations are compared by the identities of their nodes and by nothing else. -/
def same (a b : Operation) : Bool := a.ref = b.ref

def output? (op : Operation) (slot : Nat) : Option Output :=
  if slot < op.node.numOutputs then some ⟨op.ref, slot⟩ else none

def outputs (op : Operation) : List Output :=
  (List.range op.node.numOutputs).map fun slot => ⟨op.ref, slot⟩

end Operation

end TensorGraph
