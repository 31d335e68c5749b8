import Mathlib
import StoredDocs.Proofs.Reader.DocumentCache
import StoredDocs.Proofs.Store.Ordered

/-!
# Which columns a document read decodes

A document read that misses the cache asks the store for the row of the ordinal through a
column filter. A read of all fields asks for the columns from the empty name up to the final
token (two U+FFFE characters), a read of some fields for exactly the columns they name, and
assembly then drops the metadata column. So the fields of a document are the decoded columns of
its row that the read selects (`Fetch.readsColumn`), in the order the store keeps them: every
column up to the final token when no field is named, the columns named by a field otherwise,
never the metadata column.

A read of all fields therefore drops every column whose name sorts above the final token, not
only the metadata column: a column named with a character above U+FFFE, such as an emoji, is
read only when a field names it (`all_fields_read_drops_column_above_final_token`). The main
statement, `document_fields_are_selected_columns`, says what a successful read that misses the
cache returns, for any store, ordinal and field list, and how a read of all fields and a read
of some fields agree. The columns come in ascending name order because every store a reader
script reaches keeps its rows so (`ReaderState.ordered_start`, `ReaderState.ordered_trace`).
-/

namespace StoredDocs

/-! ### The columns a read selects -/

namespace Fetch

/-- Whether a read of `fields` decodes a column of this name into the document: never the
metadata column; when no field is named, every column whose name sorts at or below the final
token; otherwise exactly the columns named by a field. -/
def readsColumn (fields : List String) (name : Bytes) : Bool :=
  !Codec.isMetadataColumn name &&
    if fields.isEmpty then Bytes.le name Codec.finalToken else fields.any (name == Utf8.encode ·)

/-- The columns of a stored row that a read of `fields` decodes, in the order the store keeps
them. -/
def readColumns (fields : List String) (row : StoredRow) : List (Bytes × Bytes) :=
  row.toList.filter fun p => readsColumn fields p.1

/-- The fields decoded from columns, in order; the first corrupt column fails them all. -/
def decodeColumns (cols : List (Bytes × Bytes)) : Except Error (List StoredField) :=
  (cols.mapM fun p => Codec.decodeColumn p.1 p.2).map List.flatten

/-- The filter of a read accepts the columns up to the final token when no field is named, and
exactly the named columns otherwise. -/
lemma accepts_filterFor (fields : List String) (name : Bytes) :
    (filterFor fields).accepts name =
      if fields.isEmpty then Bytes.le name Codec.finalToken
      else fields.any (name == Utf8.encode ·) := by
  by_cases h : fields.isEmpty
  · simp [filterFor, ColumnFilter.accepts, Codec.finalToken, h]
  · simp only [filterFor, h, ColumnFilter.accepts, List.contains_map, if_false,
      Bool.false_eq_true]

/-- No read decodes the metadata column. -/
lemma readsColumn_metadataColumn (fields : List String) :
    readsColumn fields Codec.metadataColumn = false := by
  simp [readsColumn, Codec.isMetadataColumn]

/-- The metadata column sorts above the final token, so a read of all fields leaves it out. -/
lemma metadataColumn_above_finalToken :
    Bytes.le Codec.metadataColumn Codec.finalToken = false := by
  decide

/-- On the columns that a read of all fields and a read of some fields can both return, the two
read the same columns: those named by a field, up to the final token. -/
lemma readColumns_agree {fields : List String} (hfields : fields ≠ []) (row : StoredRow) :
    (readColumns fields row).filter (fun p => Bytes.le p.1 Codec.finalToken) =
      (readColumns [] row).filter fun p => fields.any (p.1 == Utf8.encode ·) := by
  have hne : fields.isEmpty = false := List.isEmpty_eq_false_iff.2 hfields
  simp only [readColumns, List.filter_filter]
  apply List.filter_congr
  intro p _
  simp only [readsColumn, hne, List.isEmpty_nil, if_true, Bool.false_eq_true, if_false]
  cases Codec.isMetadataColumn p.1 <;> cases Bytes.le p.1 Codec.finalToken <;>
    cases fields.any (p.1 == Utf8.encode ·) <;> rfl

/-- The columns read from a row kept in name order come in name order. -/
lemma readColumns_ordered (fields : List String) {row : StoredRow} (hrow : row.Ordered) :
    (readColumns fields row).Pairwise fun p q => Bytes.compareLex p.1 q.1 = .lt :=
  List.Pairwise.filter _ hrow

/-- Fetching rows reads the store and changes none of its rows. -/
lemma rows_fetchRows (store : MemoryStore) (index : String) (cons : Consistency)
    (ordinals : List UInt32) (fields : List String) :
    (Fetch.rows store index cons ordinals fields).1.rows = store.rows := by
  unfold Fetch.rows
  split
  · rfl
  · exact MemoryStore.rows_batchRead store _ (filterFor fields) cons

end Fetch

/-! ### Assembling the row of one ordinal -/

/-- Tagging the error of each step of a traversal tags the error of the traversal. -/
lemma mapM_mapError {α β ε ε' : Type} (f : α → Except ε β) (g : ε → ε')
    (xs : List α) :
    (xs.mapM fun x => (f x).mapError g) = (xs.mapM f).mapError g := by
  induction xs with
  | nil => rfl
  | cons x xs ih =>
    simp only [List.mapM_cons, ih]
    cases f x <;> cases xs.mapM f <;> rfl

namespace Assembly

variable {C : Type}

/-- A row assembles into the fields decoded from its columns other than the metadata column, in
row order; a corrupt column fails with the ordinal. -/
lemma assemble_eq (o : UInt32) (row : RawRow) :
    assemble o row =
      (((row.columns.filter fun col => !Codec.isMetadataColumn col.name).mapM
        fun col => Codec.decodeColumn col.name col.value).mapError (·.withOrdinal o)).map
        fun fss => ⟨o, fss.flatten⟩ := by
  unfold assemble
  rw [mapM_mapError]
  cases ((row.columns.filter fun col => !Codec.isMetadataColumn col.name).mapM
    fun col => Codec.decodeColumn col.name col.value) <;> rfl

/-- The row a read of `fields` returns assembles into the selected columns, decoded. -/
lemma assemble_readRow (o : UInt32) (fields : List String) (key : Bytes) (row : StoredRow) :
    assemble o ⟨key, (row.toList.filter fun p => (Fetch.filterFor fields).accepts p.1).map
        fun p => ⟨p.1, p.2⟩⟩ =
      ((Fetch.decodeColumns (Fetch.readColumns fields row)).mapError (·.withOrdinal o)).map
        fun fs => ⟨o, fs⟩ := by
  -- the filter of the read, then the metadata filter of assembly, select `readsColumn`
  have hcols : (((row.toList.filter fun p => (Fetch.filterFor fields).accepts p.1).map
      fun p => (⟨p.1, p.2⟩ : Column)).filter fun col => !Codec.isMetadataColumn col.name) =
      (Fetch.readColumns fields row).map fun p => ⟨p.1, p.2⟩ := by
    rw [List.filter_map, List.filter_filter, Fetch.readColumns]
    congr 1
    apply List.filter_congr
    intro p _
    simp only [Function.comp_apply, Fetch.accepts_filterFor, Fetch.readsColumn]
  rw [assemble_eq, hcols, List.mapM_map]
  simp only [Fetch.decodeColumns, Function.comp_def]
  cases (Fetch.readColumns fields row).mapM (fun p => Codec.decodeColumn p.1 p.2) <;> rfl

/-- The documents assembled for a single ordinal: none without its row, else its row's. -/
lemma assembleAll_singleton (index : String) (rows : Bindings StorageKey RawRow) (o : UInt32) :
    assembleAll index rows [o] =
      match rows.lookup (StorageKey.forDocument index o) with
      | none => .ok []
      | some row => (assemble o row).map ([·]) := by
  simp only [assembleAll]
  cases rows.lookup (StorageKey.forDocument index o) with
  | none => rfl
  | some row => cases assemble o row <;> rfl

/-- A document read that misses the cache and prefetches nothing, from a store that serves
reads: without a row for the ordinal it finds nothing and caches nothing new; with one it
decodes the columns the read selects, failing with the ordinal on a corrupt one, and caches the
document. -/
theorem getDocument_without_prefetch {store : MemoryStore} {index : String}
    {cons : Consistency} {c : CacheSet C} {o : UInt32} (ho : c.document? o = none)
    (fields : List String) (havail : store.unavailable = false) :
    (getDocument store index cons c o { fields }).2 =
      match store.rows.get? (StorageKey.forDocument index o).bytes with
      | none => .ok (none, c.putDocuments [])
      | some row =>
        ((Fetch.decodeColumns (Fetch.readColumns fields row)).mapError (·.withOrdinal o)).map
          fun fs => (some ⟨o, fs⟩, c.putDocuments [⟨o, fs⟩]) := by
  have hset : fetchSet c o [] = [o] := rfl
  have hread : (store.batchRead (Fetch.keysOf index [o]) (Fetch.filterFor fields) cons).2 =
      .ok (store.rowsFor (Fetch.keysOf index [o]) (Fetch.filterFor fields)) :=
    (MemoryStore.batchRead_eq_ok_iff _ _ _ _ _).2 ⟨havail, rfl⟩
  -- the bindings of the batch answer the ordinal's key with the row read under it
  have hlookup := MemoryStore.lookup_rowsFor store (Fetch.keysOf index [o])
    (Fetch.filterFor fields) (StorageKey.forDocument index o)
    (Fetch.mem_keysOf (List.mem_singleton_self o))
  rw [getDocument_miss ho, hset]
  simp only [hread, bind, Except.bind, assembleAll_singleton, hlookup, MemoryStore.readRow]
  cases store.rows.get? (StorageKey.forDocument index o).bytes with
  | none => rfl
  | some row =>
    simp only [Option.map_some, assemble_readRow]
    cases Fetch.decodeColumns (Fetch.readColumns fields row) <;>
      simp [Except.map, Except.mapError, pure, Except.pure]

lemma rows_getDocument (store : MemoryStore) (index : String) (cons : Consistency)
    (c : CacheSet C) (o : UInt32) (sel : Selection) :
    (getDocument store index cons c o sel).1.rows = store.rows := by
  unfold getDocument
  split
  · rfl
  · exact Fetch.rows_fetchRows store index cons _ sel.fields

end Assembly

namespace Session

variable {C : Type}

namespace ReaderStep

/-! ### A document read that misses the cache -/

/-- A successful document read that missed the cache was served by the store. -/
lemma available_of_document_miss_ok {ix : Index C} {w : Worker C} {sh : Shared} {o : UInt32}
    {sel : Selection} {query : Option (List String)} {r : ReaderReply}
    (ho : w.caches.document? o = none) (hok : ((document o sel query).run ix w sh).1 = .ok r) :
    sh.store.unavailable = false := by
  rw [run_document] at hok
  rcases hg : Assembly.getDocument sh.store ix.name ix.config.consistency w.caches o sel with
    ⟨store, e | ⟨d, c⟩⟩
  · rw [hg] at hok
    cases hok
  · exact ((MemoryStore.batchRead_eq_ok_iff _ _ _ _ _).1 (Assembly.getDocument_miss_ok ho hg).1).1

/-- A document read of some fields that misses the cache and prefetches nothing, from a store
that serves reads, answers the ordinal's row decoded from the columns the read selects, or
nothing without a row. -/
theorem run_document_without_prefetch (ix : Index C) (w : Worker C) (sh : Shared) (o : UInt32)
    (fields : List String) (query : Option (List String)) (ho : w.caches.document? o = none)
    (havail : sh.store.unavailable = false) :
    ((document o { fields } query).run ix w sh).1 =
      match sh.store.rows.get? (StorageKey.forDocument ix.name o).bytes with
      | none => .ok (.document none query)
      | some row =>
        match Fetch.decodeColumns (Fetch.readColumns fields row) with
        | .ok fs => .ok (.document (some ⟨o, fs⟩) query)
        | .error e => .error (.error (e.withOrdinal o)) := by
  have hget := @Assembly.getDocument_without_prefetch _ sh.store ix.name ix.config.consistency
    w.caches o ho fields havail
  rw [run_document]
  rcases hg : Assembly.getDocument sh.store ix.name ix.config.consistency w.caches o
    { fields } with ⟨store, res⟩
  rw [hg] at hget
  simp only at hget
  subst hget
  cases sh.store.rows.get? (StorageKey.forDocument ix.name o).bytes with
  | none => rfl
  | some row =>
    simp only
    cases Fetch.decodeColumns (Fetch.readColumns fields row) <;> rfl

/-- A successful document read of some fields that misses the cache, with no prefetch, finds a
document exactly when the store holds the ordinal's row, and decodes its fields from the
columns the read selects. -/
lemma document_miss_ok_fields {ix : Index C} {w : Worker C} {sh : Shared} {o : UInt32}
    {fields : List String} {query : Option (List String)} {r : Option Document}
    (ho : w.caches.document? o = none)
    (hok : ((document o { fields } query).run ix w sh).1 = .ok (.document r query)) :
    (r.isSome ↔ (sh.store.rows.get? (StorageKey.forDocument ix.name o).bytes).isSome) ∧
    ∀ row, sh.store.rows.get? (StorageKey.forDocument ix.name o).bytes = some row →
      ∃ d, r = some d ∧ d.ordinal = o ∧
        Fetch.decodeColumns (Fetch.readColumns fields row) = .ok d.fields := by
  rw [run_document_without_prefetch ix w sh o fields query ho
    (available_of_document_miss_ok ho hok)] at hok
  cases hrow : sh.store.rows.get? (StorageKey.forDocument ix.name o).bytes with
  | none =>
    rw [hrow] at hok
    simp only at hok
    cases hok
    simp
  | some row =>
    rw [hrow] at hok
    simp only at hok
    cases hdec : Fetch.decodeColumns (Fetch.readColumns fields row) with
    | error e =>
      rw [hdec] at hok
      cases hok
    | ok fs =>
      rw [hdec] at hok
      cases hok
      refine ⟨by simp, fun row' hrow' => ?_⟩
      rw [Option.some.injEq] at hrow'
      subst hrow'
      exact ⟨⟨o, fs⟩, rfl, rfl, hdec⟩

/-! ### Every store a script reaches is ordered -/

/-- Every step keeps the store ordered: reads change no row, and writes insert or remove rows
and columns. -/
theorem ordered_after_step (ix : Index C) (w : Worker C) (sh : Shared) (st : ReaderStep)
    (hs : sh.store.Ordered) : (st.run ix w sh).2.2.store.Ordered := by
  cases st with
  | document o sel query =>
    rw [shared_after_document]
    exact hs.of_rows_eq (Assembly.rows_getDocument _ _ _ _ _ _)
  | fetch ordinals fields =>
    have hrows := Fetch.rows_fetchRows sh.store ix.name ix.config.consistency ordinals fields
    simp only [run]
    rcases hf : Fetch.rows sh.store ix.name ix.config.consistency ordinals fields with
      ⟨store, e | rows⟩ <;> rw [hf] at hrows <;> exact hs.of_rows_eq hrows
  | insertRow row =>
    simp only [run]
    split
    · exact hs.insertRow _
    · exact hs
  | insertColumn address name value =>
    simp only [run]
    split
    · exact hs.insertColumn _ _ _
    · exact hs
  | removeRow address => exact hs.removeRow _
  | setUnavailable flag => exact hs.of_rows_eq rfl
  | docFreq t =>
    rw [shared_after_docFreq]
    split <;> exact hs
  | termsFrom t =>
    rw [shared_after_termsFrom]
    split <;> exact hs
  | putTermCursor t target =>
    rw [shared_after_putTermCursor]
    exact hs
  | _ => first | exact hs | (simp only [run]; split <;> exact hs)

/-- A run of one worker from an ordered store leaves it ordered. -/
theorem ordered_runAll (ix : Index C) (s : Worker C × Shared) (steps : List ReaderStep)
    (hs : s.2.store.Ordered) : (runAll ix s steps).2.store.Ordered := by
  induction steps generalizing s with
  | nil => exact hs
  | cons st steps ih => exact ih _ (ordered_after_step ix s.1 s.2 st hs)

end ReaderStep

lemma ordered_storeWithSamples (index : String) (ordinals : List UInt32) :
    (RowBuilder.storeWithSamples index ordinals).Ordered := by
  unfold RowBuilder.storeWithSamples
  -- every sample row is inserted into an ordered store, from the empty one
  suffices h : ∀ s : MemoryStore, s.Ordered →
      (ordinals.foldl (fun s o => s.insertRow (RowBuilder.sample index o).build) s).Ordered from
    h _ MemoryStore.ordered_empty
  induction ordinals with
  | nil => exact fun _ hs => hs
  | cons o os ih => exact fun s hs => ih _ (hs.insertRow _)

lemma ordered_foldlM_insertRow (index : String) (rows : List RowSpec) {init store : MemoryStore}
    (hinit : init.Ordered)
    (h : rows.foldlM (fun st row => do pure (st.insertRow (← row.row index))) init = .ok store) :
    store.Ordered := by
  induction rows generalizing init with
  | nil =>
    cases h
    exact hinit
  | cons row rows ih =>
    simp only [List.foldlM_cons, bind, Except.bind] at h
    cases hr : row.row index with
    | error e => simp [hr] at h
    | ok r =>
      simp only [hr, pure, Except.pure] at h
      exact ih (hinit.insertRow r) h

namespace ReaderState

/-- The store a reader script starts from is ordered: the samples and the given rows are written
into the empty store one by one. -/
theorem ordered_start {configJson : String} {cursors : CursorProvider C}
    {samples : List UInt32} {rows : List RowSpec} {s : ReaderState C}
    (h : ReaderState.start configJson cursors samples rows = .ok s) : s.shared.store.Ordered := by
  unfold ReaderState.start at h
  simp only [bind, Except.bind] at h
  split at h
  · cases h
  split at h
  · cases h
  split at h
  · cases h
  rename_i store hstore
  cases h
  exact ordered_foldlM_insertRow _ rows (ordered_storeWithSamples _ samples) hstore

/-- Every state of a reader script, whichever worker acts, has an ordered store. -/
theorem ordered_trace (s : ReaderState C) (hs : s.shared.store.Ordered)
    (steps : List (Nat × ReaderStep)) :
    ∀ p ∈ trace (fun s (n, st) => s.step n st) s steps, p.2.shared.store.Ordered :=
  trace_invariant (fun s : ReaderState C => s.shared.store.Ordered)
    (fun s b hs => ReaderStep.ordered_after_step s.index _ s.shared b.2 hs) hs steps

end ReaderState

/-! ### The fields of a document read -/

namespace ReaderStep

/-- The fields of a document read. For any store, a read of the fields `fields` (all fields
when empty) of an ordinal not cached, with no prefetch, that succeeds finds a document exactly
when the store holds a row under the ordinal's key, and then the document has that ordinal and
the fields decoded from the row's columns the read selects, in the order the store keeps them,
which is ascending name order in every store a step leaves from an ordered one. The read
selects every column up to the final token when no field is named, exactly the columns named
by a field otherwise, and never the metadata column, which sorts above the final token. So a
read of all fields and a read of some fields read the same columns among those named by a field
and up to the final token. -/
theorem document_fields_are_selected_columns (ix : Index C) (sh : Shared) :
    (∀ (w : Worker C) (o : UInt32) (fields : List String) (query : Option (List String))
      (r : Option Document), w.caches.document? o = none →
      ((document o { fields } query).run ix w sh).1 = .ok (.document r query) →
      (r.isSome ↔ (sh.store.rows.get? (StorageKey.forDocument ix.name o).bytes).isSome) ∧
      ∀ row, sh.store.rows.get? (StorageKey.forDocument ix.name o).bytes = some row →
        ∃ d, r = some d ∧ d.ordinal = o ∧
          Fetch.decodeColumns (Fetch.readColumns fields row) = .ok d.fields ∧
          (sh.store.Ordered →
            (Fetch.readColumns fields row).Pairwise fun p q => Bytes.compareLex p.1 q.1 = .lt)) ∧
    (sh.store.Ordered →
      ∀ (w : Worker C) (st : ReaderStep), (st.run ix w sh).2.2.store.Ordered) ∧
    (∀ (fields : List String), Fetch.readsColumn fields Codec.metadataColumn = false) ∧
    Bytes.le Codec.metadataColumn Codec.finalToken = false ∧
    ∀ (fields : List String) (row : StoredRow), fields ≠ [] →
      (Fetch.readColumns fields row).filter (fun p => Bytes.le p.1 Codec.finalToken) =
        (Fetch.readColumns [] row).filter fun p => fields.any (p.1 == Utf8.encode ·) := by
  refine ⟨fun w o fields query r ho hok =>
      ⟨(document_miss_ok_fields ho hok).1, fun row hrow => ?_⟩,
    fun hs w st => ordered_after_step ix w sh st hs, Fetch.readsColumn_metadataColumn,
    Fetch.metadataColumn_above_finalToken,
    fun fields row hfields => Fetch.readColumns_agree hfields row⟩
  obtain ⟨d, hr, hd, hdec⟩ := (document_miss_ok_fields ho hok).2 row hrow
  exact ⟨d, hr, hd, hdec, fun hs => Fetch.readColumns_ordered fields (hs.row hrow)⟩

/-- A read of all fields drops a column above the final token even though it is not the
metadata column: the row of ordinal 1 holds one column, named by the emoji U+1F600 and decoding
to one binary field, and the read finds the document with no field. -/
theorem all_fields_read_drops_column_above_final_token :
    let name : Bytes := [0xF0, 0x9F, 0x98, 0x80]
    let ix : Index Empty := ⟨{ indexName := "idx" }, CursorProvider.noTerms⟩
    let sh : Shared :=
      { store := MemoryStore.empty.insertRow
          ⟨(StorageKey.forDocument "idx" 1).bytes, [⟨name, Codec.encodeBinary [0x78]⟩]⟩ }
    Codec.isMetadataColumn name = false ∧
      Codec.decodeColumn name (Codec.encodeBinary [0x78]) =
        .ok [⟨Utf8.decodeLossy name, .binary [0x78]⟩] ∧
      ((document 1 {} none).run ix ix.worker sh).1 = .ok (.document (some ⟨1, []⟩) none) := by
  intro name ix sh
  refine ⟨by decide, rfl, ?_⟩
  rw [run_document_without_prefetch ix ix.worker sh 1 [] none rfl rfl]
  have hrow : sh.store.rows.get? (StorageKey.forDocument ix.name 1).bytes =
      some (ByteMap.ofList [(name, Codec.encodeBinary [0x78])]) := by
    simp [sh, ix, Index.name, MemoryStore.insertRow, MemoryStore.empty, ByteMap.insert,
      ByteMap.get?, ByteMap.empty, ByteMap.insertList]
  have hcols : Fetch.readColumns [] (ByteMap.ofList [(name, Codec.encodeBinary [0x78])]) = [] := by
    decide
  rw [hrow]
  simp only
  rw [hcols]
  rfl

end ReaderStep

end Session

end StoredDocs
