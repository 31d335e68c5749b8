import StoredDocs.Bindings
import StoredDocs.Key
import StoredDocs.Store.Memory

/-!
# Batched row reads

The rows of several documents are read in one batched read, under their storage keys. A read
of all fields asks for the columns named from the empty name up to the final token
(`U+FFFE U+FFFE`), so that the metadata column, whose name sorts after it, is left out; a read
of some fields asks for exactly those names. Reading no ordinals makes no read at all.
-/

namespace StoredDocs.Fetch

/-- The filter of a read restricted to `fields`, or of all fields when `fields` is empty. -/
def filterFor (fields : List String) : ColumnFilter :=
  if fields.isEmpty then .slice [] Codec.finalToken else .names (fields.map Utf8.encode)

/-- The rows of the documents `ordinals` of index `index`, by storage key; of two rows of one
key the later is kept. -/
def rows (store : MemoryStore) (index : String) (consistency : Consistency)
    (ordinals : List UInt32) (fields : List String) :
    MemoryStore × Except Error (Bindings StorageKey RawRow) :=
  if ordinals.isEmpty then (store, .ok [])
  else
    let keys := ordinals.map fun o => (StorageKey.forDocument index o).bytes
    let (store', read) := store.batchRead keys (filterFor fields) consistency
    (store', read.map fun rows =>
      rows.foldl (fun m row => Bindings.put m ⟨row.key⟩ row) [])

end StoredDocs.Fetch
