import TensorGraph.Text.CaseTable

/-!
# Lower-casing

Each character is replaced by its lower-case form, whatever its neighbours are, with one exception:
a capital sigma that ends a word becomes a final sigma. It ends a word if a cased letter precedes it
and none follows, passing over case-ignorable characters on both sides. The dotted capital I is
the one character with a lower-case form of two characters.
-/

namespace TensorGraph.Text

def startsCased (cs : List Char) : Bool :=
  match cs.dropWhile isCaseIgnorable with
  | [] => false
  | c :: _ => isCased c

def lowerChar (c : Char) : List Char :=
  if c = 'İ' then ['i', '\u0307']
  else
    match caseRuns.find? (·.covers c.toNat) with
    | some run => [Char.ofNat (run.target + (c.toNat - run.first))]
    | none => [c]

/-- Lower-cases the rest of a text, given what precedes it, nearest character first. -/
def lowerFrom : (before : List Char) → List Char → List Char
  | _, [] => []
  | before, 'Σ' :: after =>
    let sigma := if startsCased before && !startsCased after then 'ς' else 'σ'
    sigma :: lowerFrom ('Σ' :: before) after
  | before, c :: after => lowerChar c ++ lowerFrom (c :: before) after

def lowercase (s : String) : String := String.ofList (lowerFrom [] s.toList)

end TensorGraph.Text
