import StoredDocs.Fault
import StoredDocs.Session.Rows
import StoredDocs.Session.Trace

/-!
# Store scripts

A script writes rows and columns into a memory store, removes rows, marks the store
unavailable and reads batches of rows. Read rows are answered in ascending key order, a key
asked twice giving its row twice.

A script may also read through a null store, which holds nothing: its reads return no rows
and are neither counted nor refused, while writes still go to the memory store.
-/

namespace StoredDocs.Session

/-- Rows in ascending key order; rows of one key keep their order. -/
def sortRows (rows : List RawRow) : List RawRow :=
  rows.mergeSort fun a b => a.key.le b.key

/-- A step on a store. -/
inductive StoreStep where
  | insertRow (key : Bytes) (columns : List (Bytes × ValueSpec))
  | insertColumn (key name : Bytes) (value : ValueSpec)
  | removeRow (key : Bytes)
  | setUnavailable (flag : Bool)
  /-- A batched read; with `lookup`, each returned row is also asked for that column. -/
  | batchRead (keys : List Bytes) (filter : ColumnFilter) (consistency : Consistency)
      (lookup : Option Bytes)
  deriving DecidableEq, Repr

/-- The answer of a store step. -/
inductive StoreReply where
  | done
  | removed (wasThere : Bool)
  /-- The rows read, and for a look-up the key of each with the value of its first column of
  the looked-up name. -/
  | rows (rows : List RawRow) (lookup : Option (List (Bytes × Option Bytes)))
  deriving DecidableEq, Repr

/-- Runs one step; `null` sends reads to the null store. -/
def StoreStep.run (null : Bool) (s : MemoryStore) : StoreStep → Outcome StoreReply × MemoryStore
  | .insertRow key columns =>
    match columns.mapM fun (name, v) => do pure (Column.mk name (← v.encode)) with
    | .ok cols => (.ok .done, s.insertRow ⟨key, cols⟩)
    | .error e => (.error (.error e), s)
  | .insertColumn key name value =>
    match value.encode with
    | .ok v => (.ok .done, s.insertColumn key name v)
    | .error e => (.error (.error e), s)
  | .removeRow key =>
    let (wasThere, s') := s.removeRow key
    (.ok (.removed wasThere), s')
  | .setUnavailable flag => (.ok .done, s.setUnavailable flag)
  | .batchRead keys filter consistency lookup =>
    let (s', read) := if null then (s, .ok []) else s.batchRead keys filter consistency
    match read with
    | .ok rows =>
      let rows := sortRows rows
      let found := lookup.map fun name => rows.map fun row => (row.key, (row.column? name).map (·.value))
      (.ok (.rows rows found), s')
    | .error e => (.error (.error e), s')

/-- The trace of a script on an empty memory store. -/
def runStore (null : Bool) (steps : List StoreStep) : List (Outcome StoreReply × MemoryStore) :=
  trace (StoreStep.run null) .empty steps

end StoredDocs.Session
