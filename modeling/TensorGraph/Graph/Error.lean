import TensorGraph.Attribute.Encoded

/-!
# Errors of graphs
-/

namespace TensorGraph

inductive GraphError where
  | unknownOperation (opType : String)
  | duplicateName (name : String)
  | foreignInput (op : String) (position : Nat)
  | inputArity (op : String) (expected expectedLists found foundLists : Nat)
  | unknownAttribute (op attr : String)
  | missingAttribute (op attr : String)
  /-- The attribute does not hold the length of the list that an argument is fed with. -/
  | listLength (op argument attr : String) (length : Nat)
  | noOutput (op : String)
  | attribute (op : String) (e : Attribute.EncodeError)
  | tensor (e : TensorError)
  deriving DecidableEq

def GraphError.message : GraphError → String
  | .unknownOperation opType => s!"operation type \"{opType}\" is not in the registry"
  | .duplicateName name => s!"an operation named \"{name}\" already exists"
  | .foreignInput op position =>
    s!"input #{position} of operation \"{op}\" comes from another graph"
  | .inputArity op expected expectedLists found foundLists =>
    s!"operation \"{op}\" takes {expected} inputs and {expectedLists} input lists, " ++
      s!"got {found} and {foundLists}"
  | .unknownAttribute op attr =>
    s!"operation \"{op}\" has no attribute \"{attr}\" in its definition"
  | .missingAttribute op attr => s!"operation \"{op}\" is missing required attribute \"{attr}\""
  | .listLength op argument attr length =>
    s!"operation \"{op}\": attribute \"{attr}\" does not match the {length} elements of " ++
      s!"input list \"{argument}\""
  | .noOutput op => s!"operation \"{op}\" declares no outputs"
  | .attribute op e => s!"operation \"{op}\": {e.message}"
  | .tensor e => e.message

end TensorGraph
