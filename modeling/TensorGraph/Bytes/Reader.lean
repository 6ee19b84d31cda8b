import TensorGraph.Bytes.LittleEndian
import TensorGraph.Bytes.Varint

/-!
# Reading bytes back

A reader takes a value from the front of a list of bytes and leaves the rest, or fails. There is one
reader for each way of writing a value.
-/

namespace TensorGraph.Bytes

abbrev Reader (α : Type) := StateT (List UInt8) Option α

def Reader.ofOption {α : Type} (x : Option α) : Reader α := fun bs => x.map fun a => (a, bs)

def readByte : Reader UInt8
  | [] => none
  | b :: rest => some (b, rest)

def readBytes (n : Nat) : Reader (List UInt8) := fun bs =>
  if n ≤ bs.length then some (bs.take n, bs.drop n) else none

def readLittleEndian : (width : Nat) → Reader Nat
  | 0 => pure 0
  | width + 1 => do
    let low ← readByte
    let high ← readLittleEndian width
    return low.toNat + 256 * high

def readVarint : Reader Nat
  | [] => none
  | b :: rest =>
    if b.toNat < 128 then some (b.toNat, rest)
    else (readVarint rest).map fun (high, rest) => (b.toNat - 128 + 128 * high, rest)

def readCount : Reader Nat := readLittleEndian 8

def readInt32 : Reader Int32 := do return (UInt32.ofNat (← readLittleEndian 4)).toInt32

def readInt64 : Reader Int64 := do return (UInt64.ofNat (← readLittleEndian 8)).toInt64

def readString (length : Nat) : Reader String := do
  let bs ← readBytes length
  Reader.ofOption (String.fromUTF8? ⟨bs.toArray⟩)

def readMany {α : Type} (read : Reader α) : (n : Nat) → Reader (List α)
  | 0 => pure []
  | n + 1 => do
    let x ← read
    let xs ← readMany read n
    return x :: xs

def readList {α : Type} (read : Reader α) : Reader (List α) := do readMany read (← readCount)

def readStrings : List Nat → Reader (List String)
  | [] => pure []
  | length :: lengths => do
    let s ← readString length
    let ss ← readStrings lengths
    return s :: ss

end TensorGraph.Bytes
