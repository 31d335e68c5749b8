import StoredDocs.Error
import StoredDocs.Store.ByteMap
import StoredDocs.Store.Row

/-!
# The memory store

An in-memory store: a map from row keys to rows, each row a map from column names to
values. It counts the batched reads it serves and remembers the consistency level of the
last one; a read counts, and records its level, even when the store is marked unavailable
and refuses it.

A read returns, in the order of the requested keys, one row per key that the store holds (a
key asked twice gives its row twice), each with the columns that the filter accepts, in
ascending name order.
-/

namespace StoredDocs

/-- The columns of one stored row, by name. -/
abbrev StoredRow := ByteMap Bytes

/-- An in-memory store of rows. -/
structure MemoryStore where
  rows : ByteMap StoredRow := .empty
  /-- The number of batched reads made so far. -/
  reads : Nat := 0
  /-- Whether reads are refused. -/
  unavailable : Bool := false
  /-- The consistency level of the last read. -/
  lastConsistency : Option Consistency := none
  deriving Repr

namespace MemoryStore

/-- The empty, available store. -/
def empty : MemoryStore := {}

/-- Writes a row, replacing any row of that key; of two columns of one name the later wins. -/
def insertRow (s : MemoryStore) (row : RawRow) : MemoryStore :=
  { s with rows := s.rows.insert row.key (ByteMap.ofList (row.columns.map fun c => (c.name, c.value))) }

/-- Writes one column of a row, creating the row when it is missing. -/
def insertColumn (s : MemoryStore) (key name value : Bytes) : MemoryStore :=
  { s with rows := s.rows.alter key .empty fun row => row.insert name value }

/-- Removes a row; tells whether it was there. -/
def removeRow (s : MemoryStore) (key : Bytes) : Bool × MemoryStore :=
  (s.rows.contains key, { s with rows := s.rows.erase key })

/-- The number of rows. -/
def rowCount (s : MemoryStore) : Nat := s.rows.size

/-- Marks the store as refusing reads, or as serving them again. -/
def setUnavailable (s : MemoryStore) (unavailable : Bool) : MemoryStore :=
  { s with unavailable }

/-- The row read under `key`: the columns the filter accepts, by ascending name. -/
def readRow (s : MemoryStore) (filter : ColumnFilter) (key : Bytes) : Option RawRow :=
  (s.rows.get? key).map fun row =>
    ⟨key, (row.toList.filter fun (n, _) => filter.accepts n).map fun (n, v) => ⟨n, v⟩⟩

/-- The rows served for a list of keys. -/
def rowsFor (s : MemoryStore) (keys : List Bytes) (filter : ColumnFilter) : List RawRow :=
  keys.filterMap (s.readRow filter)

/-- A row read under a key carries that key. -/
theorem readRow_key {s : MemoryStore} {filter : ColumnFilter} {key : Bytes} {row : RawRow}
    (h : s.readRow filter key = some row) : row.key = key := by
  unfold readRow at h
  cases hget : s.rows.get? key with
  | none => simp [hget] at h
  | some r =>
    simp only [hget, Option.map_some, Option.some.injEq] at h
    rw [← h]

/-- The rows served for some keys are the rows read under those of the keys that are stored. -/
theorem mem_rowsFor {s : MemoryStore} {keys : List Bytes} {filter : ColumnFilter} {row : RawRow} :
    row ∈ s.rowsFor keys filter ↔ row.key ∈ keys ∧ s.readRow filter row.key = some row := by
  unfold rowsFor
  rw [List.mem_filterMap]
  constructor
  · rintro ⟨k, hk, hrow⟩
    rw [readRow_key hrow]
    exact ⟨hk, hrow⟩
  · rintro ⟨hk, hrow⟩
    exact ⟨row.key, hk, hrow⟩

/-- One batched read: counted and recorded first, then refused or served. -/
def batchRead (s : MemoryStore) (keys : List Bytes) (filter : ColumnFilter)
    (consistency : Consistency) : MemoryStore × Except Error (List RawRow) :=
  let s' := { s with reads := s.reads + 1, lastConsistency := some consistency }
  if s.unavailable then
    (s', .error (.storageUnavailable "memory store" "store is marked unavailable"))
  else (s', .ok (s.rowsFor keys filter))

/-- A batched read is counted whether or not it is served. -/
theorem reads_batchRead (s : MemoryStore) (keys : List Bytes) (filter : ColumnFilter)
    (consistency : Consistency) : (s.batchRead keys filter consistency).1.reads = s.reads + 1 := by
  unfold batchRead
  split <;> rfl

/-- A batched read is served, with the rows of the keys the store holds, unless the store is
marked unavailable. -/
theorem batchRead_eq_ok_iff (s : MemoryStore) (keys : List Bytes) (filter : ColumnFilter)
    (consistency : Consistency) (rows : List RawRow) :
    (s.batchRead keys filter consistency).2 = .ok rows ↔
      s.unavailable = false ∧ rows = s.rowsFor keys filter := by
  unfold batchRead
  cases s.unavailable <;> simp [eq_comm]

end MemoryStore

end StoredDocs
