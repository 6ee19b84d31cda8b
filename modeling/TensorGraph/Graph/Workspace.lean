import TensorGraph.Graph.Add
import TensorGraph.Text.Quoted

/-!
# Workspaces

A workspace holds graphs and handles to them. Several handles may lead to one graph. A graph that no
handle leads to any more is gone: it takes no new nodes, and its outputs belong to no graph that
does, but its nodes can still be looked at.
-/

namespace TensorGraph

/-- Graphs, each at the index that is its identity, and for each handle the graph it leads to. -/
structure Workspace where
  graphs : Array Graph
  handles : Array Nat
  deriving DecidableEq

namespace Workspace

def empty : Workspace := ⟨#[], #[]⟩

def graph? (w : Workspace) (handle : Nat) : Option Graph := do
  let id ← w.handles[handle]?
  w.graphs[id]?

def openGraph (w : Workspace) (registry : Registry) : Workspace :=
  ⟨w.graphs.push (.empty w.graphs.size registry), w.handles.push w.graphs.size⟩

def share (w : Workspace) (handle : Nat) : Workspace :=
  match w.handles[handle]? with
  | some id => { w with handles := w.handles.push id }
  | none => w

def replace (w : Workspace) (handle : Nat) (registry : Registry) : Workspace :=
  ⟨w.graphs.push (.empty w.graphs.size registry), w.handles.setIfInBounds handle w.graphs.size⟩

def update (w : Workspace) (g : Graph) : Workspace :=
  { w with graphs := w.graphs.setIfInBounds g.id g }

def change {α : Type} (w : Workspace) (handle : Nat) (f : Graph → Logged (Graph × α)) :
    Option (Logged (Workspace × α)) :=
  (w.graph? handle).map fun g => do
    let (g, a) ← f g
    return (w.update g, a)

def sizes (w : Workspace) : List Nat :=
  w.handles.toList.filterMap fun id => w.graphs[id]?.map Graph.size

/-- A node by its identity, even of a graph that is gone. -/
def operation? (w : Workspace) (ref : NodeRef) : Option Operation := do
  let g ← w.graphs[ref.graph]?
  g.operationAt? ref.position

def owner? (w : Workspace) (ref : NodeRef) : Option Graph :=
  if w.handles.contains ref.graph then w.graphs[ref.graph]? else none

def outputText (w : Workspace) (output : Output) : String :=
  let name := (w.operation? output.node).elim "" (·.node.name)
  s!"{name}:{output.slot}"

def describe (w : Workspace) (output : Output) : String :=
  let (name, opType) := (w.operation? output.node).elim ("", "") fun op =>
    (op.node.name, op.node.opType)
  "Output \x7b op: Operation \x7b name: " ++ Text.quote name ++ ", op_type: " ++
    Text.quote opType ++ " \x7d, index: " ++ toString output.slot ++ " \x7d"

end Workspace

end TensorGraph
