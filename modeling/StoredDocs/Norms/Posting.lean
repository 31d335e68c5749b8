import StoredDocs.Norms.NormArray
import StoredDocs.Norms.Vint

/-!
# Postings

A posting names one document of a field's posting list and may carry that document's norm
payload. The payload must be a single byte; a posting without one has the default norm.
-/

namespace StoredDocs

/-- One entry of a posting list: an ordinal and, perhaps, its norm payload. -/
structure Posting where
  ordinal : UInt32
  norm : Option Bytes
  deriving DecidableEq, Repr

namespace Posting

/-- A posting with a single norm byte. -/
def withNorm (ordinal : UInt32) (norm : UInt8) : Posting := ⟨ordinal, some [norm]⟩

/-- The posting stored in a column: its name is the ordinal as a variable-length integer. -/
def fromColumn (name : Bytes) (norm : Option Bytes) : Except Error Posting := do
  let ordinal ← Vint.read name
  pure ⟨ordinal, norm⟩

/-- The norm byte of a posting of `field`. -/
def resolveNorm (p : Posting) (field : String) : Except Error UInt8 :=
  match p.norm with
  | none => pure defaultNorm
  | some [b] => pure b
  | some other => throw (.invalidNorm field other.length)

end Posting

end StoredDocs
