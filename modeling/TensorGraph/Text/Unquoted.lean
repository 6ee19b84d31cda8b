import TensorGraph.Text.Quoted

/-!
# Reading quoted text

The reader knows an escape by what follows the backslash, and it accepts a code point of any number
of hexadecimal digits. It stops at the first quote that no backslash precedes.
-/

namespace TensorGraph.Text

/-- What was read of an escape before the next character. -/
inductive Escape where
  | none
  | backslash
  | letter
  | code (point : Nat)

def hexDigit? (c : Char) : Option Nat :=
  if c.isDigit then some (c.toNat - '0'.toNat)
  else if 'a' ≤ c ∧ c ≤ 'f' then some (c.toNat - 'a'.toNat + 10)
  else none

/-- The character that a short escape stands for. -/
def ofShort? : Char → Option Char
  | '0' => some '\x00'
  | 't' => some '\t'
  | 'r' => some '\r'
  | 'n' => some '\n'
  | '"' => some '"'
  | '\\' => some '\\'
  | _ => none

/-- Reads up to the closing quote: the text, and what follows the quote. -/
def unquoteFrom? : Escape → List Char → Option (List Char × List Char)
  | _, [] => none
  | .none, c :: cs =>
    if c = '"' then some ([], cs)
    else if c = '\\' then unquoteFrom? .backslash cs
    else (unquoteFrom? .none cs).map fun (text, rest) => (c :: text, rest)
  | .backslash, c :: cs =>
    if c = 'u' then unquoteFrom? .letter cs
    else do
      let short ← ofShort? c
      let (text, rest) ← unquoteFrom? .none cs
      return (short :: text, rest)
  | .letter, c :: cs => if c = '\x7b' then unquoteFrom? (.code 0) cs else none
  | .code point, c :: cs =>
    if c = '\x7d' then
      (unquoteFrom? .none cs).map fun (text, rest) => (Char.ofNat point :: text, rest)
    else do
      let digit ← hexDigit? c
      unquoteFrom? (.code (16 * point + digit)) cs

/-- The text between the quotes, if there is nothing else. -/
def unquote? (s : String) : Option String :=
  match s.toList with
  | '"' :: cs =>
    match unquoteFrom? .none cs with
    | some (text, []) => some (String.ofList text)
    | _ => none
  | _ => none

end TensorGraph.Text
