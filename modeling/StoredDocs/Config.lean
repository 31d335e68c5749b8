import StoredDocs.Error
import StoredDocs.Store.Row

/-!
# Reader configuration

An index reader is configured with the index name, its capacity `maxDocs`, the starting length
of its norm arrays and the consistency level of its reads. The capacity is configured, never
discovered from the store: ordinals live in `[0, maxDocs]`, so the reader reports `maxDocs`
documents and a capacity bound of `maxDocs + 1`.
-/

namespace StoredDocs

/-- The configured capacity of an index when none is given. -/
def defaultMaxDocs : UInt32 := 131072

/-- The starting length of a norm array when none is given. -/
def defaultInitialNormsLen : Nat := 1024

/-- The configuration of one index reader. -/
structure ReaderConfig where
  indexName : String
  maxDocs : UInt32 := defaultMaxDocs
  /-- The starting length of a norm array; a 64-bit size. -/
  initialNormsLen : Nat := defaultInitialNormsLen
  consistency : Consistency := .one
  deriving DecidableEq, Repr

namespace ReaderConfig

/-- Checks, in order, that the index name is not empty, the capacity is positive and the
starting norm length is positive. -/
def validate (c : ReaderConfig) : Except Error Unit := do
  verifyArg (!c.indexName.isEmpty) "index_name" "!self.index_name.is_empty()"
  verifyArg (c.maxDocs > 0) "max_docs" "self.max_docs > 0"
  verifyArg (c.initialNormsLen > 0) "initial_norms_len" "self.initial_norms_len > 0"

/-- The document count reported to callers. -/
def numDocs (c : ReaderConfig) : Nat := c.maxDocs.toNat

/-- The number of addressable ordinals, which bounds norm arrays and the observed set. -/
def capacityBound (c : ReaderConfig) : Nat := c.maxDocs.toNat + 1

/-- The starting norm array length, cut down to the capacity bound. -/
def clampedInitialNormsLen (c : ReaderConfig) : Nat := min c.initialNormsLen c.capacityBound

end ReaderConfig

end StoredDocs
