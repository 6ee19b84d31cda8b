import TensorGraph.Graph.Basic
import TensorGraph.Graph.Draft

/-!
# Adding nodes

A request either adds one node behind all others or fails and adds none. A default name that was
handed out on the way stays used even if the request fails after that. Placeholders and constants are
asked for by their first output; an operation type that declares none has its node added all the
same.
-/

namespace TensorGraph.Graph

/-- Settles the name of the requested node. A name that was asked for must be free. Otherwise the
operation type is the name, or if that is taken a default name. -/
def chooseName (g : Graph) (r : Request) : Except GraphError (Graph × String) :=
  match r.name.filter (· ≠ "") with
  | some name => if g.contains name then .error (.duplicateName name) else .ok (g, name)
  | none => .ok (if g.contains r.opType then g.defaultName r.opType else (g, r.opType))

def add (g : Graph) (r : Request) : Logged (Graph × Except GraphError Operation) :=
  match g.registry.lookup r.opType with
  | none => pure (g, .error (.unknownOperation r.opType))
  | some signature =>
    match g.chooseName r with
    | .error e => pure (g, .error e)
    | .ok (g, name) => do
      match ← (Draft.node g.id signature name r).run with
      | .error e =>
        Logged.emit (.dropped name)
        return (g, .error e)
      | .ok node =>
        Logged.emit (.added node.name node.opType node.inputs.length)
        let (g, op) := g.insert node
        return (g, .ok op)

def firstOutput (op : Operation) : Except GraphError Output :=
  match op.output? 0 with
  | some output => .ok output
  | none => .error (.noOutput op.node.name)

def addPlaceholder (g : Graph) (name : String) (type : ElementType) :
    Logged (Graph × Except GraphError Output) := do
  let (g, result) ← g.add (.placeholder name type)
  return (g, result.bind firstOutput)

def addConstant (g : Graph) (literal : Literal) (name : Option String)
    (type : Option ElementType) : Logged (Graph × Except GraphError Output) :=
  match Tensor.ofLiteral literal type with
  | .error e => pure (g, .error (.tensor e))
  | .ok value => do
    let (g, name) := match name with
      | some name => (g, name)
      | none => g.defaultName "Constant"
    let (g, result) ← g.add (.constant name value)
    return (g, result.bind firstOutput)

end TensorGraph.Graph
