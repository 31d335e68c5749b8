import StoredDocs.Cache
import StoredDocs.Fetch

/-!
# Materializing documents

A document read is served from the worker's document cache when it can be. Otherwise one
batched read fetches the requested ordinal together with the prefetch ordinals that are not
cached yet (each once, in the order given), and every row found is decoded into a document.

Decoding skips the metadata column and decodes every other column in row order; a corrupt
column fails the whole read with the ordinal of its row, and then nothing is cached. When all
rows decode, every one of them is cached, and the result is the document of the requested
ordinal, if its row was found.
-/

namespace StoredDocs.Assembly

variable {C : Type}

/-- The ordinals a read fetches: the requested one, then each prefetch ordinal that is neither
cached nor already listed. -/
def fetchSet (c : CacheSet C) (ordinal : UInt32) (prefetch : List UInt32) : List UInt32 :=
  prefetch.foldl (fun acc o => if c.containsDocument o || acc.contains o then acc else acc ++ [o])
    [ordinal]

/-- The document decoded from a row: every column but the metadata column, in row order. -/
def assemble (ordinal : UInt32) (row : RawRow) : Except Error Document := do
  let fields ← row.columns.filter (fun col => !Codec.isMetadataColumn col.name) |>.mapM
    fun col => (Codec.decodeColumn col.name col.value).mapError (·.withOrdinal ordinal)
  pure ⟨ordinal, fields.flatten⟩

/-- The documents of the fetched ordinals that have a row, in fetch order. -/
def assembleAll (index : String) (rows : Bindings StorageKey RawRow) :
    List UInt32 → Except Error (List Document)
  | [] => pure []
  | o :: os =>
    match rows.lookup (StorageKey.forDocument index o) with
    | none => assembleAll index rows os
    | some row => do
      let d ← assemble o row
      let ds ← assembleAll index rows os
      pure (d :: ds)

/-- Reads the document `ordinal` of index `index` through the worker's caches. The store is
returned with its read counted; on success, so are the updated caches. -/
def getDocument (store : MemoryStore) (index : String) (consistency : Consistency)
    (c : CacheSet C) (ordinal : UInt32) (sel : Selection) :
    MemoryStore × Except Error (Option Document × CacheSet C) :=
  match c.document? ordinal with
  | some d => (store, .ok (some d, c))
  | none =>
    let ordinals := fetchSet c ordinal sel.prefetch
    let (store', fetched) := Fetch.rows store index consistency ordinals sel.fields
    (store', do
      let rows ← fetched
      let docs ← assembleAll index rows ordinals
      pure (docs.find? (·.ordinal == ordinal), c.putDocuments docs))

end StoredDocs.Assembly
