import StoredDocs.Error

/-!
# Faults of a scripted step

A step of a script fails either with an error of the library, which a caller can handle, or
with an abort: a broken precondition of the step itself, such as an index out of range or
values that cannot be encoded, which stops that step.
-/

namespace StoredDocs

/-- How a scripted step failed. -/
inductive Fault where
  | error (e : Error)
  | abort (message : String)
  deriving DecidableEq, Repr

/-- A result of a scripted step. -/
abbrev Outcome (α : Type) := Except Fault α

/-- A library result as the outcome of a step. -/
def Outcome.ofExcept {α : Type} (r : Except Error α) : Outcome α := r.mapError .error

end StoredDocs
