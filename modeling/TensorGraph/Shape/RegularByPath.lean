import TensorGraph.Shape.Regular

/-!
# Shapes found along a path

The shape of a literal, found with one path that is kept on the way: the position of an item is put
at its end before the item is looked at, and taken off again behind the item. An irregularity is
reported with the path as it is then.
-/

namespace TensorGraph.Literal

mutual

/-- The shape of the literal that `path` leads to, and the path afterwards. -/
def shapeFrom (path : List Nat) : Literal → Except Irregularity (Shape × List Nat)
  | .scalar _ => .ok ([], path)
  | .sequence items =>
    match itemsFrom path none 0 items with
    | .error e => .error e
    | .ok (tail, path) => .ok (items.length :: tail.getD [], path)

/-- Goes on with the items that are numbered from `i`. The first item of the sequence gives the
shape `tail` that all others are compared with. -/
def itemsFrom (path : List Nat) (tail : Option Shape) (i : Nat) :
    List Literal → Except Irregularity (Option Shape × List Nat)
  | [] => .ok (tail, path)
  | item :: rest =>
    match shapeFrom (path ++ [i]) item with
    | .error e => .error e
    | .ok (found, path) =>
      match tail with
      | none => itemsFrom path.dropLast (some found) (i + 1) rest
      | some expected =>
        if expected = found then itemsFrom path.dropLast (some expected) (i + 1) rest
        else .error ⟨path, expected, found⟩

end

def shapeByPath (l : Literal) : Except Irregularity Shape := (shapeFrom [] l).map Prod.fst

end TensorGraph.Literal
