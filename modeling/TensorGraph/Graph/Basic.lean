import TensorGraph.Graph.Node
import TensorGraph.Registry.Basic
import TensorGraph.Table

/-!
# Graphs

A graph is a list of nodes that only grows. Nodes are found by their names in a table that is kept
beside the list. Default names are numbered for each operation type, and a counter remembers which
numbers were handed out.
-/

namespace TensorGraph

structure Graph where
  /-- Tells the graph from all others. -/
  id : Nat
  registry : Registry
  nodes : Array Node
  names : Table Nat
  /-- For each operation type that was given default names, the least number not used yet. -/
  counters : Table Nat
  deriving DecidableEq

namespace Graph

def empty (id : Nat) (registry : Registry) : Graph := ⟨id, registry, #[], .empty, .empty⟩

def size (g : Graph) : Nat := g.nodes.size

def isEmpty (g : Graph) : Bool := g.nodes.isEmpty

def position? (g : Graph) (name : String) : Option Nat := g.names.get? name

def contains (g : Graph) (name : String) : Bool := (g.position? name).isSome

def operationAt? (g : Graph) (position : Nat) : Option Operation :=
  g.nodes[position]?.map fun node => ⟨⟨g.id, position⟩, node⟩

def operation? (g : Graph) (name : String) : Option Operation :=
  (g.position? name).bind g.operationAt?

/-- The node with the given name. That there is none is logged. -/
def find (g : Graph) (name : String) : Logged (Option Operation) := do
  match g.operation? name with
  | some op => return some op
  | none =>
    Logged.emit (.notFound name)
    return none

def operations (g : Graph) : List Operation := (List.range g.size).filterMap g.operationAt?

/-- Adds a finished node behind all others and puts its position under its name. -/
def insert (g : Graph) (node : Node) : Graph × Operation :=
  ({ g with nodes := g.nodes.push node, names := g.names.insert node.name g.size },
    ⟨⟨g.id, g.size⟩, node⟩)

/-! ### Default names -/

def numbered (opType : String) (n : Nat) : String := opType ++ "_" ++ toString n

def counter (g : Graph) (opType : String) : Nat := (g.counters.get? opType).getD 0

/-- The first number from `n` on whose name is not taken, looking at no more than `tries` taken
ones. -/
def freeNumber (g : Graph) (opType : String) : (tries : Nat) → (n : Nat) → Nat
  | 0, n => n
  | tries + 1, n => if g.contains (numbered opType n) then freeNumber g opType tries (n + 1) else n

/-- Hands out a default name: the one with the least number that was neither handed out before nor
is part of a node's name. No more numbers have to be skipped than there are names in the graph. -/
def defaultName (g : Graph) (opType : String) : Graph × String :=
  let n := g.freeNumber opType g.names.size (g.counter opType)
  ({ g with counters := g.counters.insert opType (n + 1) }, numbered opType n)

end Graph

end TensorGraph
