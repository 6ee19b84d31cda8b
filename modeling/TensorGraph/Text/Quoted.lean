import TensorGraph.Text.Hidden

/-!
# Quoted text

Text between double quotes. Quotes, backslashes and the common control characters have short
escapes; every other hidden character is written by its code point in hexadecimal, and all else
stands for itself.
-/

namespace TensorGraph.Text

def escape (c : Char) : String :=
  match c with
  | '\x00' => "\\0"
  | '\t' => "\\t"
  | '\r' => "\\r"
  | '\n' => "\\n"
  | '"' => "\\\""
  | '\\' => "\\\\"
  | c =>
    if isHidden c then "\\u\x7b" ++ String.ofList (Nat.toDigits 16 c.toNat) ++ "\x7d"
    else c.toString

def quote (s : String) : String := "\"" ++ String.join (s.toList.map escape) ++ "\""

end TensorGraph.Text
