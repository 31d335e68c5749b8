import StoredDocs.Bytes

/-!
# Stored fields

A stored field is a named value of a document: either text or opaque bytes. A document may
hold several fields of one name, in the order in which they were stored.
-/

namespace StoredDocs

/-- The two kinds of stored value. -/
inductive FieldKind where
  | binary
  | text
  deriving DecidableEq, Repr

/-- A stored value: opaque bytes or text. -/
inductive FieldValue where
  | binary (bytes : Bytes)
  | text (value : String)
  deriving DecidableEq, Repr

namespace FieldValue

/-- The kind of a value. -/
def kind : FieldValue → FieldKind
  | binary _ => .binary
  | text _ => .text

/-- The text of a text value. -/
def asText? : FieldValue → Option String
  | text s => some s
  | binary _ => none

/-- The bytes of a binary value. -/
def asBinary? : FieldValue → Option Bytes
  | binary b => some b
  | text _ => none

end FieldValue

/-- A named stored value. -/
structure StoredField where
  name : String
  value : FieldValue
  deriving DecidableEq, Repr

/-- The kind of a field's value. -/
def StoredField.kind (f : StoredField) : FieldKind := f.value.kind

end StoredDocs
