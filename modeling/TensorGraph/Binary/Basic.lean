/-!
# Binary floating-point numbers

A format is given by the widths of its two fields. The magnitudes of a format, from zero over the
finite ones up to infinity, are numbered upward from 0, and this number is also the word of the
magnitude without its sign bit. A number is then a sign and a magnitude. The words above infinity
are NaNs, and a NaN is a sign and a payload. So every word is the word of one value.

Sizes are natural numbers of units, one unit being the smallest positive magnitude of the format,
`2 ^ -quantum`. Nothing here uses machine floating point, so every fact about these numbers is a
fact about natural numbers.
-/

namespace TensorGraph

/-- Widths of the fields of a binary interchange format, the sign bit apart. A fraction of one bit is
what it takes to tell a NaN from infinity. -/
structure Format where
  fractionBits : Nat
  exponentBits : Nat
  fractionBits_pos : 0 < fractionBits
  deriving DecidableEq

namespace Format

def single : Format := ⟨23, 8, Nat.succ_pos 22⟩

def double : Format := ⟨52, 11, Nat.succ_pos 51⟩

def width (f : Format) : Nat := 1 + f.exponentBits + f.fractionBits

def signBit (f : Format) : Nat := Nat.pow 2 (f.exponentBits + f.fractionBits)

def binade (f : Format) : Nat := Nat.pow 2 f.fractionBits

/-- The leading bit of the fraction, which is set in the NaNs that are quiet. -/
def quietBit (f : Format) : Nat := Nat.pow 2 (f.fractionBits - 1)

/-- The number of the infinite magnitude, which is also the number of finite magnitudes. -/
def infinity (f : Format) : Nat := (Nat.pow 2 f.exponentBits - 1) * f.binade

/-- The smallest positive magnitude is `2 ^ -quantum`. -/
def quantum (f : Format) : Nat := Nat.pow 2 (f.exponentBits - 1) - 2 + f.fractionBits

/-- The size of magnitude number `i`, in units of the smallest positive one. The magnitudes of the
first binade are spaced one unit apart, and so are those of the second; from then on the spacing
doubles with every binade. The number of infinity gets the size that the next finite magnitude would
have. -/
def units (f : Format) (i : Nat) : Nat :=
  if i < f.binade then i else (f.binade + i % f.binade) * Nat.pow 2 (i / f.binade - 1)

theorem quietBit_pos (f : Format) : 0 < f.quietBit := Nat.pow_pos (Nat.succ_pos 1)

theorem quietBit_add_quietBit (f : Format) : f.quietBit + f.quietBit = f.binade := by
  have hbits : f.fractionBits - 1 + 1 = f.fractionBits := Nat.sub_add_cancel f.fractionBits_pos
  rw [binade, ← hbits, Nat.pow_eq, Nat.pow_succ, Nat.mul_two]
  rfl

/-- Magnitudes and NaNs fill the words below the sign bit: the NaNs follow infinity, one fewer than
a binade of them. -/
theorem infinity_add_binade (f : Format) : f.infinity + f.binade = f.signBit := by
  have hone : 1 ≤ Nat.pow 2 f.exponentBits := Nat.pow_pos (Nat.succ_pos 1)
  rw [infinity, ← Nat.succ_mul, Nat.succ_eq_add_one, Nat.sub_add_cancel hone, signBit, binade,
    Nat.pow_eq, Nat.pow_eq, Nat.pow_eq, Nat.pow_add]

/-- The NaN fractions are those above zero, and payload number `p` is the fraction `p + 1`. -/
abbrev Payload (f : Format) : Type := Fin (f.binade - 1)

/-- The payload of a fraction that was made quiet: its leading bit is set, whatever it was. -/
def quiet (f : Format) (fraction : Nat) : f.Payload :=
  ⟨f.quietBit + fraction % f.quietBit - 1, by
    have hrest := Nat.mod_lt fraction f.quietBit_pos
    have hbinade := f.quietBit_add_quietBit
    omega⟩

end Format

/-- A value of the format `f`: a sign, and the payload of a NaN or the number of a magnitude. -/
inductive Binary (f : Format) where
  | nan (negative : Bool) (payload : f.Payload)
  | number (negative : Bool) (magnitude : Fin (f.infinity + 1))
  deriving DecidableEq

abbrev Binary32 := Binary .single

abbrev Binary64 := Binary .double

namespace Binary

variable {f : Format}

def zero : Binary f := .number false 0

def isFinite : Binary f → Bool
  | .nan .. => false
  | .number _ i => i.val < f.infinity

def isNaN : Binary f → Bool
  | .nan .. => true
  | .number .. => false

/-- Equality of numbers: the two zeros are equal, and a NaN equals nothing. -/
def sameNumber : Binary f → Binary f → Bool
  | .number s i, .number t j => i = j && (s = t || i.val = 0)
  | _, _ => false

/-- The word of a value: the sign bit, and below it the magnitude or what follows infinity. -/
def toWord : Binary f → Nat
  | .nan s p => (if s then f.signBit else 0) + (f.infinity + 1 + p.val)
  | .number s i => (if s then f.signBit else 0) + i.val

/-- The value of a word. Every magnitude above infinity is a NaN. -/
def ofWord (f : Format) (word : Nat) : Binary f :=
  let negative : Bool := word / f.signBit % 2 = 1
  let magnitude := word % f.signBit
  if h : magnitude ≤ f.infinity then
    .number negative ⟨magnitude, Nat.lt_succ_of_le h⟩
  else
    .nan negative ⟨magnitude - (f.infinity + 1), by
      have hbinade := f.infinity_add_binade
      have hquiet := f.quietBit_add_quietBit
      have hpos := f.quietBit_pos
      have hbelow : magnitude < f.signBit := Nat.mod_lt word (by omega)
      omega⟩

end Binary

structure Complex where
  re : Binary64
  im : Binary64
  deriving DecidableEq

def Complex.sameNumber (a b : Complex) : Bool :=
  a.re.sameNumber b.re && a.im.sameNumber b.im

end TensorGraph
