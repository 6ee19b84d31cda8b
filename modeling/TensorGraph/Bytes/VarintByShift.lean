/-!
# Variable-length integers by shifting

A 64-bit word is written by a loop that takes off its lowest seven bits while more than seven are
left. How many bytes that takes is counted by a loop of its own, which shifts the word in the same
way. No bound is set on the rounds of either, so a run is a relation, which holds only if the loop
ends.
-/

namespace TensorGraph.Bytes

/-- Puts a word behind what a buffer holds. -/
inductive PushesVarint :
    (buffer : List UInt8) → (word : UInt64) → (result : List UInt8) → Prop where
  | last {buffer : List UInt8} {word : UInt64} (few : ¬0x80 ≤ word) :
    PushesVarint buffer word (buffer ++ [word.toUInt8])
  | next {buffer result : List UInt8} {word : UInt64} (more : 0x80 ≤ word)
    (rest : PushesVarint (buffer ++ [word.toUInt8 &&& 0x7f ||| 0x80]) (word >>> 7) result) :
    PushesVarint buffer word result

/-- Counts the bytes of a word. The last byte is counted before the loop starts. -/
inductive CountsVarint : (counted : Nat) → (word : UInt64) → (total : Nat) → Prop where
  | last {counted : Nat} {word : UInt64} (few : ¬0x80 ≤ word) : CountsVarint counted word counted
  | next {counted total : Nat} {word : UInt64} (more : 0x80 ≤ word)
    (rest : CountsVarint (counted + 1) (word >>> 7) total) : CountsVarint counted word total

end TensorGraph.Bytes
