import TensorGraph.Registry.Basic

/-!
# The common operations

Signatures for graphs that are built without a registry of their own.
-/

namespace TensorGraph

namespace Signature

def typedBy (attr name : String) : Argument := ⟨name, .attribute attr, none⟩

def required (name : String) (kind : Attribute.Kind) : Declaration := ⟨name, kind, none⟩

def optional (name : String) (kind : Attribute.Kind) (value : Attribute.Value) : Declaration :=
  ⟨name, kind, some value⟩

def binary (name : String) : Signature :=
  ⟨name, ["x", "y"].map (typedBy "T"), [typedBy "T" "z"], [required "T" .type]⟩

def standard : List Signature := [
  binary "Add",
  ⟨"AddN", [⟨"inputs", .attribute "T", some "N"⟩], [typedBy "T" "sum"],
    [required "N" .int, required "T" .type]⟩,
  ⟨"Cast", [typedBy "SrcT" "x"], [typedBy "DstT" "y"],
    [required "SrcT" .type, required "DstT" .type, optional "Truncate" .bool (.boolean false)]⟩,
  ⟨"Const", [], [typedBy "dtype" "output"], [required "value" .tensor, required "dtype" .type]⟩,
  ⟨"Fill", [typedBy "index_type" "dims", typedBy "T" "value"], [typedBy "T" "output"],
    [required "T" .type, optional "index_type" .type (.type .int32)]⟩,
  ⟨"Identity", [typedBy "T" "input"], [typedBy "T" "output"], [required "T" .type]⟩,
  ⟨"MatMul", ["a", "b"].map (typedBy "T"), [typedBy "T" "product"],
    [optional "transpose_a" .bool (.boolean false), optional "transpose_b" .bool (.boolean false),
      required "T" .type]⟩,
  binary "Mul",
  ⟨"Placeholder", [], [typedBy "dtype" "output"], [required "dtype" .type]⟩,
  ⟨"Reshape", [typedBy "T" "tensor", typedBy "Tshape" "shape"], [typedBy "T" "output"],
    [required "T" .type, optional "Tshape" .type (.type .int32)]⟩,
  ⟨"StringJoin", [⟨"inputs", .fixed .string, some "N"⟩], [⟨"output", .fixed .string, none⟩],
    [required "N" .int, optional "separator" .string (.string "")]⟩,
  binary "Sub"]

end Signature

def Registry.standard : Registry := .ofList Signature.standard

end TensorGraph
