import StoredDocs.Codec
import StoredDocs.RowBuilder

/-!
# Rows of a script

A script names the rows it stores in one of three ways: as columns under an address, where
each value is given as text values to encode, bytes of a binary field, or bytes to store as
they are; as the sample document of an ordinal; or as the operations of a row builder.

An address is a storage key given as bytes, or the ordinal of a document, filed under its
index or under the default index of the script.
-/

namespace StoredDocs.Session

/-- How a column value is given. -/
inductive ValueSpec where
  /-- Text values, encoded as a text field. -/
  | text (values : List String)
  /-- Bytes of a binary field. -/
  | binary (bytes : Bytes)
  /-- Bytes stored as they are. -/
  | raw (bytes : Bytes)
  deriving DecidableEq, Repr

/-- The stored bytes of a value; text values that cannot be encoded are refused. -/
def ValueSpec.encode : ValueSpec → Except Error Bytes
  | .text values => Codec.encodeText values
  | .binary bytes => pure (Codec.encodeBinary bytes)
  | .raw bytes => pure bytes

/-- Where a row is stored. -/
inductive RowAddress where
  /-- The document `ordinal` of `index`, or of the default index. -/
  | ordinal (o : UInt32) (index : Option String)
  /-- A storage key. -/
  | key (bytes : Bytes)
  deriving DecidableEq, Repr

/-- The storage key of an address. -/
def RowAddress.bytes (defaultIndex : String) : RowAddress → Bytes
  | .ordinal o index => (StorageKey.forDocument (index.getD defaultIndex) o).bytes
  | .key bytes => bytes

/-- An operation of a row builder. -/
inductive BuilderOp where
  | text (name : String) (values : List String)
  | binary (name : String) (bytes : Bytes)
  | raw (name : String) (bytes : Bytes)
  | metadata (value : Bytes)
  deriving DecidableEq, Repr

/-- Applies a builder operation; text values that cannot be encoded abort. -/
def BuilderOp.apply (b : RowBuilder) : BuilderOp → Outcome RowBuilder
  | .text name values => b.text name values
  | .binary name bytes => pure (b.binary name bytes)
  | .raw name bytes => pure (b.raw name bytes)
  | .metadata value => pure (b.metadata value)

/-- A row made by a row builder. -/
inductive BuilderSpec where
  /-- The sample document of an ordinal. -/
  | sample (o : UInt32) (index : Option String)
  /-- The row of an ordinal built by the given operations, in order. -/
  | ops (o : UInt32) (index : Option String) (ops : List BuilderOp)
  deriving DecidableEq, Repr

/-- The builder of a spec, with the default index where the spec names none. -/
def BuilderSpec.builder (defaultIndex : String) : BuilderSpec → Outcome RowBuilder
  | .sample o index => pure (RowBuilder.sample (index.getD defaultIndex) o)
  | .ops o index steps => steps.foldlM BuilderOp.apply (RowBuilder.new (index.getD defaultIndex) o)

/-- A row of a script. -/
inductive RowSpec where
  /-- Columns, by name, under an address. -/
  | columns (address : RowAddress) (columns : List (Bytes × ValueSpec))
  /-- A row made by a row builder. -/
  | built (spec : BuilderSpec)
  deriving DecidableEq, Repr

/-- The row of a spec, with the default index where the spec names none. -/
def RowSpec.row (defaultIndex : String) : RowSpec → Outcome RawRow
  | .columns address cols => do
    let encoded ← Outcome.ofExcept (cols.mapM fun (name, v) => do pure ⟨name, ← v.encode⟩)
    pure ⟨address.bytes defaultIndex, encoded⟩
  | .built spec => do pure (← spec.builder defaultIndex).build

end StoredDocs.Session
