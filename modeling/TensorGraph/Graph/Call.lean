import TensorGraph.Graph.Workspace

/-!
# Calls

Everything a caller can do to a graph or a workspace, as data. A call is answered by a reply, and a
sequence of calls by the sequence of their replies.
-/

namespace TensorGraph

namespace Graph

inductive Call where
  | add (r : Request)
  | addPlaceholder (name : String) (type : ElementType)
  | addConstant (literal : Literal) (name : Option String) (type : Option ElementType)
  | defaultName (opType : String)
  | find (name : String)
  | contains (name : String)
  | operations
  | size
  | isEmpty

inductive Reply where
  | added (result : Except GraphError Operation)
  | output (result : Except GraphError Output)
  | name (name : String)
  | found (operation? : Option Operation)
  | operations (operations : List Operation)
  | size (size : Nat)
  | truth (value : Bool)

def call (g : Graph) : Call → Logged (Graph × Reply)
  | .add r => do
    let (g, result) ← g.add r
    return (g, .added result)
  | .addPlaceholder name type => do
    let (g, result) ← g.addPlaceholder name type
    return (g, .output result)
  | .addConstant literal name type => do
    let (g, result) ← g.addConstant literal name type
    return (g, .output result)
  | .defaultName opType =>
    let (g, name) := g.defaultName opType
    return (g, .name name)
  | .find name => do
    let operation? ← g.find name
    return (g, .found operation?)
  | .contains name => return (g, .truth (g.contains name))
  | .operations => return (g, .operations g.operations)
  | .size => return (g, .size g.size)
  | .isEmpty => return (g, .truth g.isEmpty)

def run (g : Graph) : List Call → Logged (Graph × List Reply)
  | [] => return (g, [])
  | c :: rest => do
    let (g, reply) ← g.call c
    let (g, replies) ← g.run rest
    return (g, reply :: replies)

end Graph

namespace Workspace

inductive Call where
  | openGraph (registry : Registry)
  | share (handle : Nat)
  | replace (handle : Nat) (registry : Registry)
  | onGraph (handle : Nat) (call : Graph.Call)

/-- The workspace after a call. A call with a handle that does not exist changes nothing. -/
def after (w : Workspace) : Call → Workspace
  | .openGraph registry => w.openGraph registry
  | .share handle => w.share handle
  | .replace handle registry => w.replace handle registry
  | .onGraph handle call =>
    match w.change handle (·.call call) with
    | some x => x.value.1
    | none => w

def afterAll (w : Workspace) (calls : List Call) : Workspace := calls.foldl after w

end Workspace

end TensorGraph
