import StoredDocs.Field

/-!
# Documents

A materialized document is the ordinal of a row with the fields decoded from its columns,
in column order. A selection says which further documents to read along with a requested
one and which fields to read.
-/

namespace StoredDocs

/-- A document: its ordinal and its fields in stored order. -/
structure Document where
  ordinal : UInt32
  fields : List StoredField
  deriving DecidableEq, Repr

namespace Document

/-- The number of field values. -/
def len (d : Document) : Nat := d.fields.length

/-- Whether the document has no field values. -/
def isEmpty (d : Document) : Bool := d.fields.isEmpty

/-- The values of the fields with the given name, in order. -/
def values (d : Document) (name : String) : List FieldValue :=
  (d.fields.filter (·.name == name)).map (·.value)

/-- The text values of the fields with the given name, in order. -/
def texts (d : Document) (name : String) : List String :=
  (d.values name).filterMap FieldValue.asText?

/-- The value of the first field with the given name. -/
def get? (d : Document) (name : String) : Option FieldValue :=
  (d.fields.find? (·.name == name)).map (·.value)

end Document

/-- What a document read asks for besides the requested document. -/
structure Selection where
  /-- Further ordinals to read in the same batch, when they are not cached yet. -/
  prefetch : List UInt32 := []
  /-- The fields to read; all fields when empty. -/
  fields : List String := []
  deriving DecidableEq, Repr

end StoredDocs
