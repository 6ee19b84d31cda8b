import TensorGraph.Graph.Node

/-!
# Requests for nodes

What a caller asks for: an operation type, inputs and attribute settings, and perhaps a name.
Settings keep the order in which their attributes were first set.
-/

namespace TensorGraph

/-- A node to be added. Without a name, or with an empty one, it is named for its type. -/
structure Request where
  opType : String
  name : Option String := none
  inputs : List Output := []
  lists : List (List Output) := []
  settings : List (String × Attribute.Setting) := []
  deriving DecidableEq

namespace Request

/-- Sets one attribute in a list of settings: in place if it was set before, else at the end. -/
def setIn (attr : String) (setting : Attribute.Setting) :
    List (String × Attribute.Setting) → List (String × Attribute.Setting)
  | [] => [(attr, setting)]
  | first :: rest =>
    if first.1 = attr then (attr, setting) :: rest else first :: setIn attr setting rest

/-- Sets an attribute. A later setting replaces an earlier one in place. -/
def set (r : Request) (attr : String) (setting : Attribute.Setting) : Request :=
  { r with settings := setIn attr setting r.settings }

/-- Adds a setting at the end, even if the attribute was set before. -/
def push (r : Request) (attr : String) (setting : Attribute.Setting) : Request :=
  { r with settings := r.settings ++ [(attr, setting)] }

/-- Sets an attribute whose encoding is left to resolution. -/
def setUntyped (r : Request) (attr : String) (value : Attribute.Value) : Request :=
  r.set attr ⟨value, none⟩

def setTyped (r : Request) (attr : String) (value : Attribute.Value) (tag : Attribute.Encoding) :
    Request := r.set attr ⟨value, some tag⟩

/-- A call that sets an attribute. -/
inductive SetCall where
  | untyped (attr : String) (value : Attribute.Value)
  | typed (attr : String) (value : Attribute.Value) (tag : Attribute.Encoding)
  | setting (attr : String) (setting : Attribute.Setting)
  deriving DecidableEq

/-- The attribute that a call sets and the setting it gives it. -/
def SetCall.entry : SetCall → String × Attribute.Setting
  | .untyped attr value => (attr, ⟨value, none⟩)
  | .typed attr value tag => (attr, ⟨value, some tag⟩)
  | .setting attr given => (attr, given)

def SetCall.attr (call : SetCall) : String := call.entry.1

def after (r : Request) : SetCall → Request
  | .untyped attr value => r.setUntyped attr value
  | .typed attr value tag => r.setTyped attr value tag
  | .setting attr given => r.set attr given

def afterAll (r : Request) (calls : List SetCall) : Request := calls.foldl after r

def wiring (r : Request) : List Input := r.inputs.map .single ++ r.lists.map .list

def like (n : Node) (name : String) : Request where
  opType := n.opType
  name := some name
  inputs := n.inputs.filterMap fun
    | .single output => some output
    | .list _ => none
  lists := n.inputs.filterMap fun
    | .single _ => none
    | .list outputs => some outputs
  settings := n.attributes.map fun (attr, e) => (attr, e.toSetting)

def placeholder (name : String) (type : ElementType) : Request :=
  let r : Request := { opType := "Placeholder", name := some name }
  r.set "dtype" ⟨.type type, some .type⟩

def constant (name : String) (value : Tensor) : Request :=
  let r : Request := { opType := "Const", name := some name }
  (r.set "dtype" ⟨.type value.type, some .type⟩).set "value" ⟨.tensor value, some .tensor⟩

end Request

end TensorGraph
