import StoredDocs.Codec

/-!
# Storage keys

The row of a document is stored under the key made of the UTF-8 bytes of the index name, the
delimiter U+FFFF, and the lowercase hexadecimal digits of the ordinal without leading zeros.
A key is shown as the hexadecimal digits of its bytes, and diagnosed as
`StorageKey(<its bytes decoded lossily>)`.
-/

namespace StoredDocs

/-- The key of a stored row. Keys are ordered by their bytes. -/
structure StorageKey where
  bytes : Bytes
  deriving DecidableEq, Repr

namespace StorageKey

/-- The bytes of a hexadecimal ordinal. -/
def ordinalBytes (ordinal : UInt32) : Bytes :=
  (Hex.ofNat ordinal.toNat).map fun c => c.toNat.toUInt8

/-- The key of the row of document `ordinal` of index `index`. -/
def forDocument (index : String) (ordinal : UInt32) : StorageKey :=
  ⟨Utf8.encode index ++ Codec.delimiterBytes ++ ordinalBytes ordinal⟩

/-- The hexadecimal digits of the key's bytes. -/
def display (k : StorageKey) : String := Hex.ofBytes k.bytes

/-- The diagnostic form of a key. -/
def describe (k : StorageKey) : String := "StorageKey(" ++ Utf8.decodeLossy k.bytes ++ ")"

/-- Inserts a key into a list of distinct keys in ascending byte order, unless it is there. -/
def insertSorted (k : StorageKey) : List StorageKey → List StorageKey
  | [] => [k]
  | k' :: rest =>
    match Bytes.compareLex k.bytes k'.bytes with
    | .lt => k :: k' :: rest
    | .eq => k' :: rest
    | .gt => k' :: insertSorted k rest

/-- The distinct keys of a list, in ascending byte order. -/
def sortedSet (keys : List StorageKey) : List StorageKey := keys.foldr insertSorted []

end StorageKey

end StoredDocs
