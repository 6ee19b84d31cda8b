import TensorGraph.Attribute.Value
import TensorGraph.Log

/-!
# Encoded attributes

The encoding of an attribute is the one its setting is tagged with, else the one that goes with its
name, else the one its declared kind implies. The value is then represented in that encoding, or
refused.
-/

namespace TensorGraph.Attribute

/-- A list of numbers comes with its recorded length, and a list of texts with that of each text. -/
inductive Encoded where
  | string (value : String)
  | stringList (values : List String) (lengths : List Nat)
  | int32 (value : Int32)
  | int32List (values : List Int32) (length : Nat)
  | int64 (value : Int64)
  | int64List (values : List Int64) (length : Nat)
  | float32 (value : Binary32)
  | float32List (values : List Binary32) (length : Nat)
  | type (value : ElementType)
  | tensor (value : Tensor)
  deriving DecidableEq

namespace Encoded

def encoding : Encoded → Encoding
  | .string _ => .string
  | .stringList .. => .stringList
  | .int32 _ => .int32
  | .int32List .. => .int32List
  | .int64 _ => .int64
  | .int64List .. => .int64List
  | .float32 _ => .float32
  | .float32List .. => .float32List
  | .type _ => .type
  | .tensor _ => .tensor

/-- The value that is represented, without the width of its numbers. -/
def toValue : Encoded → Value
  | .string s => .string s
  | .stringList ss _ => .strings ss
  | .int32 v => .integer v.toInt64
  | .int32List vs _ => .integers (vs.map Int32.toInt64)
  | .int64 v => .integer v
  | .int64List vs _ => .integers vs
  | .float32 x => .real (x.round .double)
  | .float32List xs _ => .reals (xs.map (Binary.round .double))
  | .type t => .type t
  | .tensor t => .tensor t

def toSetting (e : Encoded) : Setting := ⟨e.toValue, some e.encoding⟩

/-- The number that is written before the items of a list: texts are counted, and for numbers it is
the recorded length. -/
def count? : Encoded → Option Nat
  | .stringList values _ => some values.length
  | .int32List _ length => some length
  | .int64List _ length => some length
  | .float32List _ length => some length
  | _ => none

def textLengths : Encoded → List Nat
  | .stringList _ lengths => lengths
  | _ => []

def toInt? : Encoded → Option Int
  | .int32 v => some v.toInt
  | .int64 v => some v.toInt
  | _ => none

end Encoded

inductive EncodeError where
  | unresolved (attr : String)
  | unsupported (attr : String) (encoding : Encoding)
  | mismatch (attr : String) (expected : Encoding) (found : Value.Form)
  deriving DecidableEq

def EncodeError.message : EncodeError → String
  | .unresolved attr => s!"cannot determine the encoding of attribute \"{attr}\""
  | .unsupported attr encoding =>
    s!"attribute \"{attr}\" resolved to {encoding.name}, which has no encoder"
  | .mismatch attr expected found =>
    s!"attribute \"{attr}\" is encoded as {expected.name} but the value is a {found.name} " ++
      "it cannot represent"

/-- The encoding of an attribute and the rule that decides it; the first rule that applies wins. -/
def resolve (attr : String) (setting : Setting) (declared : Option Kind) :
    Except EncodeError (Encoding × Rule) :=
  match setting.tag, Encoding.ofAttribute? attr, declared.bind Encoding.ofKind? with
  | some encoding, _, _ => .ok (encoding, .explicit)
  | none, some encoding, _ => .ok (encoding, .nameOverride)
  | none, none, some encoding => .ok (encoding, .declared)
  | none, none, none => .error (.unresolved attr)

/-- The value in the given encoding, if it can be represented. A list is represented if all its
elements are, and its length is that of the list as it was given. A type may also be given by the
number that stands for it, if the number fits the shorter word that such numbers have. -/
def Encoding.represent? : Encoding → Value → Option Encoded
  | .string, .string s => some (.string s)
  | .stringList, .strings ss => some (.stringList ss (ss.map String.utf8ByteSize))
  | .int32, .integer v => (toInt32? v).map .int32
  | .int32List, .integers vs => (vs.mapM toInt32?).map fun ws => .int32List ws vs.length
  | .int64, .integer v => some (.int64 v)
  | .int64List, .integers vs => some (.int64List vs vs.length)
  | .float32, .real x => (toSingle? x).map .float32
  | .float32, .integer v => (toBinary? .single v).map .float32
  | .float32List, .reals xs => (xs.mapM toSingle?).map fun ys => .float32List ys xs.length
  | .float32List, .integers vs =>
    (vs.mapM (toBinary? .single)).map fun xs => .float32List xs vs.length
  | .type, .type t => some (.type t)
  | .type, .integer v => ((toInt32? v).bind fun id => ElementType.ofWireId? id.toInt).map .type
  | .tensor, .tensor t => some (.tensor t)
  | _, _ => none

def encode (attr : String) (setting : Setting) (declared : Option Kind) :
    LoggedExcept EncodeError Encoded := do
  let (encoding, rule) ← LoggedExcept.ofExcept (resolve attr setting declared)
  Logged.emit (.resolved attr encoding rule)
  if !encoding.isSupported then
    throw (.unsupported attr encoding)
  match encoding.represent? setting.value with
  | some encoded => return encoded
  | none => throw (.mismatch attr encoding setting.value.form)

end TensorGraph.Attribute
