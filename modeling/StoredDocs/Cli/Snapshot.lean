import StoredDocs.Cli.HexText
import StoredDocs.Codec
import StoredDocs.Json.Decode
import StoredDocs.Key
import StoredDocs.Store.Memory

/-!
# Row snapshots

A snapshot is a JSON list of rows, each with an `ordinal` and a map `columns` from column
names to values, where a value is `{"text": [...]}`, `{"binary_hex": "..."}` or
`{"raw_hex": "..."}`. Rows may also be written as arrays `[ordinal, columns]`; the columns may
be left out. Of two columns of one name the later is kept, and columns are loaded in
ascending name order.

Loading encodes text and binary values as the indexer writes them and stores raw values as
they are, tag included, under the storage key of each row's ordinal; a later row of an
ordinal replaces an earlier one.
-/

namespace StoredDocs.Cli

/-- A column value of a snapshot. -/
inductive ColumnSpec where
  | text (values : List String)
  | binaryHex (hex : String)
  | rawHex (hex : String)
  deriving DecidableEq, Repr

/-- A row of a snapshot. -/
structure SnapshotRow where
  ordinal : UInt32
  columns : List (String × ColumnSpec) := []
  deriving DecidableEq, Repr

/-- The names of the column value forms, in order. -/
def columnFormNames : List String := ["text", "binary_hex", "raw_hex"]

/-- Reads a column value. -/
def columnSpecReader : Json.Reader ColumnSpec :=
  Json.variantOf columnFormNames
    (fun
      | 0 => do pure (.text (← Json.seqOf Json.string))
      | 1 => do pure (.binaryHex (← Json.string))
      | _ => do pure (.rawHex (← Json.string)))
    (fun _ => .error (.invalidType .unitVariant "newtype variant"))

/-- Reads the columns of a row. -/
def columnsReader : Json.Reader (List (String × ColumnSpec)) := Json.mapOf columnSpecReader

/-- The members of a row as they are read, each once at most. -/
structure RowMembers where
  ordinal : Option UInt32 := none
  columns : Option (List (String × ColumnSpec)) := none

/-- Reads one member of a row in object form. -/
def readRowMember (m : RowMembers) : String → Json.Reader RowMembers
  | "ordinal" => do
    if m.ordinal.isSome then Json.refuse (.duplicateField "ordinal")
    pure { m with ordinal := some (← Json.memberValue Json.u32) }
  | "columns" => do
    if m.columns.isSome then Json.refuse (.duplicateField "columns")
    pure { m with columns := some (← Json.memberValue columnsReader) }
  | _ => do Json.skipMember; pure m

/-- The row of the members read. -/
def rowOfMembers (m : RowMembers) : Json.Reader SnapshotRow :=
  match m.ordinal with
  | none => Json.refuse (.missingField "ordinal")
  | some o => pure { ordinal := o, columns := m.columns.getD [] }

/-- Reads a row in array form. -/
def rowFromArray : Json.Reader SnapshotRow := do
  let o ← match ← Json.nextElement true Json.u32 with
    | some o => pure o
    | none => Json.refuse (.invalidLength 0 "struct SnapshotRow with 2 elements")
  let columns ← Json.nextElement false columnsReader
  pure { ordinal := o, columns := columns.getD [] }

/-- Reads a row. -/
def rowReader : Json.Reader SnapshotRow :=
  Json.recordOf "struct SnapshotRow" rowFromArray (do rowOfMembers (← Json.fieldsOf {} readRowMember))

/-- Reads a snapshot. -/
def parseSnapshot (text : String) : Except Json.Failure (List SnapshotRow) :=
  Json.readText text (Json.seqOf rowReader)

/-- The stored bytes of a column value. -/
def ColumnSpec.encode : ColumnSpec → Except Report Bytes
  | .text values => (Codec.encodeText values).mapError fun e => ⟨e.message, []⟩
  | .binaryHex hex => (readHex hex).map Codec.encodeBinary |>.mapError HexError.report
  | .rawHex hex => (readHex hex).mapError HexError.report

/-- The stored row of a snapshot row of index `index`. -/
def SnapshotRow.toRow (index : String) (row : SnapshotRow) : Except Report RawRow := do
  let columns ← row.columns.mapM fun (name, spec) => do
    let value ← (spec.encode).mapError
      (Report.context ("Invalid column '" ++ name ++ "' of ordinal " ++ toString row.ordinal.toNat))
    pure (Column.mk (Utf8.encode name) value)
  pure ⟨(StorageKey.forDocument index row.ordinal).bytes, columns⟩

/-- A memory store holding the rows of a snapshot of index `index`, in order. -/
def loadSnapshot (index : String) (rows : List SnapshotRow) : Except Report MemoryStore :=
  rows.foldlM (fun store row => do pure (store.insertRow (← row.toRow index))) .empty

end StoredDocs.Cli
