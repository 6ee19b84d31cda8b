import TensorGraph.Binary.Rounding

/-!
# Conversions of numbers that are stored under a given type

An integer converts only if its value survives: into a shorter word only within its range, into a
real format only exactly. A real number is narrowed to single precision by rounding, as a real
literal is rounded anyway; only a finite number that would become infinite is refused.
-/

namespace TensorGraph

def toInt32? (v : Int64) : Option Int32 :=
  let w := v.toInt32
  if w.toInt64 = v then some w else none

def toBinary? (f : Format) (v : Int64) : Option (Binary f) :=
  let size := v.toInt.natAbs * Nat.pow 2 f.quantum
  let i := f.nearest size 0
  if h : i < f.infinity ∧ f.units i = size then
    some (.number (v.toInt < 0) ⟨i, Nat.lt_succ_of_lt h.1⟩)
  else
    none

/-- The double rounded to single precision, unless it is finite and overflows. -/
def toSingle? (v : Binary64) : Option Binary32 :=
  let w := v.round .single
  if w.isFinite || !v.isFinite then some w else none

end TensorGraph
