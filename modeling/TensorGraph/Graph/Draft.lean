import TensorGraph.Graph.Error
import TensorGraph.Graph.Request
import TensorGraph.Registry.Basic

/-!
# Drafting a node

A request is checked against the signature of its operation type and turned into a node. The checks
come in a fixed order, and the first one that fails decides the error: the number of inputs, the
graph they belong to, the attributes that were set, the lengths of the lists, and the attributes
that were not set.
-/

namespace TensorGraph.Draft

def checkArity (s : Signature) (op : String) (r : Request) : Except GraphError Unit :=
  if r.inputs.length = s.singleInputs.length ∧ r.lists.length = s.listInputs.length then .ok ()
  else
    .error (.inputArity op s.singleInputs.length s.listInputs.length r.inputs.length r.lists.length)

def checkOwner (id : Nat) (op : String) (wiring : List Input) : Except GraphError Unit :=
  match wiring.findIdx? fun input => input.outputs.any (·.node.graph ≠ id) with
  | some position => .error (.foreignInput op position)
  | none => .ok ()

def encodeSetting (s : Signature) (op attr : String) (setting : Attribute.Setting) :
    LoggedExcept GraphError (String × Attribute.Encoded) :=
  match s.attribute? attr with
  | none => throw (.unknownAttribute op attr)
  | some declaration => do
    let encoded ← (Attribute.encode attr setting declaration.kind).adapt (.attribute op)
    return (attr, encoded)

/-- Sets the attributes that hold the lengths of list arguments, as signed words. One that is set
already has to hold the length; of several values with its name the first counts. -/
def setLengths (op : String) : List (Argument × Nat) → Attributes → Except GraphError Attributes
  | [], attributes => .ok attributes
  | (argument, length) :: rest, attributes =>
    match argument.length with
    | none => setLengths op rest attributes
    | some attr =>
      match attributes.lookup attr with
      | none => setLengths op rest (attributes ++ [(attr, .int64 (Int64.ofNat length))])
      | some value =>
        if value.toInt? = some (Int64.ofNat length).toInt then setLengths op rest attributes
        else .error (.listLength op argument.name attr length)

/-- Sets declared attributes that are not set yet to their defaults. An attribute without a default
is missing; a default that has no encoding is left to the runtime. -/
def setDefaults (op : String) :
    List Declaration → Attributes → LoggedExcept GraphError Attributes
  | [], attributes => return attributes
  | declaration :: rest, attributes =>
    if (attributes.lookup declaration.name).isSome then
      setDefaults op rest attributes
    else
      match declaration.default? with
      | none => throw (.missingAttribute op declaration.name)
      | some value => do
        match ← (Attribute.encode declaration.name ⟨value, none⟩ declaration.kind).run with
        | .ok encoded => setDefaults op rest (attributes ++ [(declaration.name, encoded)])
        | .error (.mismatch attr expected found) =>
          throw (.attribute op (.mismatch attr expected found))
        | .error _ => do
          Logged.emit (.leftToRuntime declaration.name op)
          setDefaults op rest attributes

def node (id : Nat) (s : Signature) (op : String) (r : Request) : LoggedExcept GraphError Node := do
  LoggedExcept.ofExcept (checkArity s op r)
  LoggedExcept.ofExcept (checkOwner id op r.wiring)
  let given ← r.settings.mapM fun (attr, setting) => encodeSetting s op attr setting
  let lengths := s.listInputs.zip (r.lists.map List.length)
  let measured ← LoggedExcept.ofExcept (setLengths op lengths given)
  let attributes ← setDefaults op s.attributes measured
  return ⟨op, s.name, r.wiring, attributes, s.outputs.length⟩

end TensorGraph.Draft
