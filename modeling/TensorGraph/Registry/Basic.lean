import TensorGraph.Log
import TensorGraph.Registry.Signature
import TensorGraph.Text.Lowercase

/-!
# Registries

A registry holds signatures under their names in lower case. Loading checks every signature: that
it has a name, that no attribute is declared twice, that its arguments refer to attributes of the
right kind, and that its name is new. The first signature that fails decides the error.
-/

namespace TensorGraph

inductive LoadError where
  | undecodable (text : String)
  | emptyName (position : Nat)
  | duplicate (name : String)
  | duplicateAttribute (op attr : String)
  | reference (op argument attr : String) (kind : Attribute.Kind)
  deriving DecidableEq

def LoadError.message : LoadError → String
  | .undecodable text => s!"failed to decode operation definitions: {text}"
  | .emptyName position => s!"operation definition #{position} has an empty name"
  | .duplicate name => s!"operation \"{name}\" is defined more than once"
  | .duplicateAttribute op attr => s!"attribute \"{attr}\" of \"{op}\" is declared more than once"
  | .reference op argument attr kind =>
    s!"argument \"{argument}\" of \"{op}\" refers to \"{attr}\", " ++
      s!"which is not declared with kind {kind.name}"

namespace Signature

/-- The first name that repeats an earlier one, given the `earlier` names. -/
def firstRepeat (earlier : List String) : List String → Option String
  | [] => none
  | name :: rest => if name ∈ earlier then some name else firstRepeat (name :: earlier) rest

def declares (s : Signature) (attr : String) (kind : Attribute.Kind) : Bool :=
  (s.attribute? attr).any (·.kind = kind)

/-- The first reference of an argument that no declaration meets, inputs before outputs. -/
def badReference? (s : Signature) : Option LoadError :=
  (s.inputs ++ s.outputs).findSome? fun a =>
    (a.references.find? fun (attr, kind) => !s.declares attr kind).map fun (attr, kind) =>
      .reference s.name a.name attr kind

def check (s : Signature) (position : Nat) : Except LoadError Unit :=
  if s.name = "" then
    .error (.emptyName position)
  else
    match firstRepeat [] (s.attributes.map (·.name)) with
    | some attr => .error (.duplicateAttribute s.name attr)
    | none =>
      match s.badReference? with
      | some e => .error e
      | none => .ok ()

end Signature

/-- Signatures under their names in lower case, in the order they were loaded. -/
structure Registry where
  entries : List (String × Signature)
  deriving DecidableEq

namespace Registry

def empty : Registry := ⟨[]⟩

/-- The signature of an operation type, whatever the case of its name. -/
def lookup (r : Registry) (opType : String) : Option Signature :=
  r.entries.lookup (Text.lowercase opType)

def add (r : Registry) (s : Signature) : Registry := ⟨r.entries ++ [(Text.lowercase s.name, s)]⟩

/-- Takes signatures in without any check. -/
def ofList (signatures : List Signature) : Registry := signatures.foldl add empty

def size (r : Registry) : Nat := r.entries.length

def isEmpty (r : Registry) : Bool := r.entries.isEmpty

def names (r : Registry) : List String :=
  (r.entries.map (·.2.name)).mergeSort fun a b => a ≤ b

def loadFrom (r : Registry) (position : Nat) : List Signature → Except LoadError Registry
  | [] => .ok r
  | s :: rest =>
    match s.check position with
    | .error e => .error e
    | .ok () =>
      if (r.lookup s.name).isSome then .error (.duplicate s.name)
      else loadFrom (r.add s) (position + 1) rest

def load (signatures : List Signature) : LoggedExcept LoadError Registry := do
  let r ← LoggedExcept.ofExcept (empty.loadFrom 0 signatures)
  Logged.emit (.loaded r.size)
  return r

/-- Loads signatures from records, each of which may have failed to decode with some text. The
first such record is reported before anything is loaded. -/
def loadDecoded (records : List (Except String Signature)) : LoggedExcept LoadError Registry :=
  match records.mapM id with
  | .error text => throw (.undecodable text)
  | .ok signatures => load signatures

end Registry

end TensorGraph
