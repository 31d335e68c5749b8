import StoredDocs.Fault
import StoredDocs.Key
import StoredDocs.Store.Memory

/-!
# Building document rows

A row builder collects the encoded columns of one document row, in the order they are
added, and files the row under the document's storage key. Text values must be encodable: a
builder given values that the text encoding refuses aborts.

The sample document of an ordinal `o` has the text field `title` with the value `doc o`, the
text field `tags` with the values `alpha` and `beta`, the binary field `id` holding the
ordinal as four big-endian bytes, and the metadata value `meta`.
-/

namespace StoredDocs

/-- A document row under construction. -/
structure RowBuilder where
  index : String
  ordinal : UInt32
  columns : List Column := []
  deriving DecidableEq, Repr

namespace RowBuilder

/-- A builder of the row of document `ordinal` of index `index`, with no columns yet. -/
def new (index : String) (ordinal : UInt32) : RowBuilder := { index, ordinal }

/-- Adds a column with a value stored as given. -/
def raw (b : RowBuilder) (name : String) (value : Bytes) : RowBuilder :=
  { b with columns := b.columns ++ [⟨Utf8.encode name, value⟩] }

/-- Adds a binary field. -/
def binary (b : RowBuilder) (name : String) (bytes : Bytes) : RowBuilder :=
  b.raw name (Codec.encodeBinary bytes)

/-- Adds a text field; aborts when the values cannot be encoded. -/
def text (b : RowBuilder) (name : String) (values : List String) : Outcome RowBuilder :=
  match Codec.encodeText values with
  | .ok encoded => pure (b.raw name encoded)
  | .error e => throw (.abort ("encodable text values: " ++ e.describe))

/-- Adds the metadata column. -/
def metadata (b : RowBuilder) (value : Bytes) : RowBuilder :=
  { b with columns := b.columns ++ [⟨Codec.metadataColumn, value⟩] }

/-- The storage key of the row. -/
def key (b : RowBuilder) : StorageKey := StorageKey.forDocument b.index b.ordinal

/-- The finished row. -/
def build (b : RowBuilder) : RawRow := ⟨b.key.bytes, b.columns⟩

/-- The four big-endian bytes of an ordinal. -/
def bigEndian (o : UInt32) : Bytes :=
  let n := o.toNat
  [(n / 16777216 % 256).toUInt8, (n / 65536 % 256).toUInt8, (n / 256 % 256).toUInt8,
    (n % 256).toUInt8]

/-- The sample document of an ordinal. -/
def sample (index : String) (o : UInt32) : RowBuilder :=
  let titled := (new index o).raw "title" (Utf8.encode ("doc " ++ toString o.toNat) ++ [Codec.textTag])
  let tagged := titled.raw "tags" (Utf8.encode "alpha" ++ Codec.delimiterBytes ++ Utf8.encode "beta" ++ [Codec.textTag])
  (tagged.binary "id" (bigEndian o)).metadata (Utf8.encode "meta")

/-- A memory store holding the sample document of each ordinal, in order. -/
def storeWithSamples (index : String) (ordinals : List UInt32) : MemoryStore :=
  ordinals.foldl (fun s o => s.insertRow (sample index o).build) .empty

end RowBuilder

end StoredDocs
