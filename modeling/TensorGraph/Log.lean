import TensorGraph.Attribute.Encoding

/-!
# Log

Computations that keep a log of what happened. The log of a failed computation is kept as well: a
failure is a value like any other.
-/

namespace TensorGraph

inductive Event where
  | resolved (attr : String) (encoding : Attribute.Encoding) (rule : Attribute.Rule)
  | added (node opType : String) (inputs : Nat)
  /-- A node was given up before it was finished. -/
  | dropped (node : String)
  /-- The default of an attribute cannot be encoded and is left to the runtime. -/
  | leftToRuntime (attr node : String)
  | notFound (name : String)
  | loaded (definitions : Nat)
  deriving DecidableEq

namespace Event

def level : Event → String
  | .resolved .. => "TRACE"
  | .added .. | .dropped .. | .leftToRuntime .. => "DEBUG"
  | .loaded .. => "INFO"
  | .notFound .. => "WARN"

def text : Event → String
  | .resolved attr encoding rule =>
    s!"attribute \"{attr}\" encoded as {encoding.name} ({rule.name})"
  | .added node opType inputs => s!"add operation \"{node}\" ({opType}) with {inputs} inputs"
  | .dropped node => s!"dropping unfinished operation \"{node}\""
  | .leftToRuntime attr node => s!"default of \"{attr}\" on \"{node}\" left to the runtime"
  | .notFound name => s!"no operation named \"{name}\" in the graph"
  | .loaded definitions => s!"loaded {definitions} operation definitions"

def line (e : Event) : String := e.level ++ " " ++ e.text

end Event

/-- A value and the events on the way to it, in order. -/
structure Logged (α : Type) where
  log : List Event
  value : α

namespace Logged

instance : Monad Logged where
  pure a := ⟨[], a⟩
  bind x f := ⟨x.log ++ (f x.value).log, (f x.value).value⟩

variable {α β : Type}

@[simp] theorem log_pure (a : α) : (pure a : Logged α).log = [] := rfl

@[simp] theorem value_pure (a : α) : (pure a : Logged α).value = a := rfl

@[simp] theorem log_bind (x : Logged α) (f : α → Logged β) :
    (x >>= f).log = x.log ++ (f x.value).log := rfl

@[simp] theorem value_bind (x : Logged α) (f : α → Logged β) :
    (x >>= f).value = (f x.value).value := rfl

instance : LawfulMonad Logged := LawfulMonad.mk' Logged
  (fun _ => by simp [Functor.map]) (fun _ _ => rfl) (fun _ _ _ => by simp [bind])

def emit (e : Event) : Logged Unit := ⟨[e], ()⟩

end Logged

/-- A computation that logs and may fail; what it logged before it failed stays. -/
abbrev LoggedExcept (ε α : Type) := ExceptT ε Logged α

def LoggedExcept.ofExcept {ε α : Type} (x : Except ε α) : LoggedExcept ε α := ExceptT.mk (pure x)

end TensorGraph
