import StoredDocs.Config.Json
import StoredDocs.Reader
import StoredDocs.Session.Rows
import StoredDocs.Session.Store

/-!
# Reader scripts

A reader script opens an index over a configuration given as JSON text, fills its store
(sample documents first, then the given rows), and runs steps, each on behalf of a worker.
A worker gets its reader on its first step; all workers share the store and the count of
cursors asked of the provider.

With a term dictionary the index takes its cursors from the dictionary, and the count is
reported after each step; without one it takes them from the provider without terms, which
keeps no count, and the count reported is zero.

Besides the reader's own operations, a step may write to or read from the shared store
directly: fetching the rows of some ordinals answers them in ascending key order, each key
once.
-/

namespace StoredDocs.Session

/-- A step of a reader script, apart from the worker that takes it. -/
inductive ReaderStep where
  /-- Reads a document; with `query`, the answer also looks up these field names. -/
  | document (o : UInt32) (sel : Selection) (query : Option (List String))
  | index
  | accumulate (field : String) (postings : List Posting)
  | norms (field : String)
  | observed (ordinals : List UInt32)
  | clearAll
  | reopen
  | commit
  | close
  | reset
  | stats
  | info (o : UInt32)
  | setNorm (o : UInt32) (field : String) (norm : UInt8)
  | termVectorMapper (o : UInt32) (field : Option String)
  | termFreqVectors (o : UInt32)
  | docFreq (t : Term)
  | termsFrom (t : Term)
  | checkTermCursor (t : Term)
  /-- Opens a cursor, skips it to `target` (the term itself by default), and caches it under
  the term. -/
  | putTermCursor (t : Term) (target : Option Term)
  | insertRow (row : RowSpec)
  | insertColumn (address : RowAddress) (name : Bytes) (value : ValueSpec)
  | removeRow (address : RowAddress)
  | setUnavailable (flag : Bool)
  | fetch (ordinals : List UInt32) (fields : List String)

/-- The facts an index reports about itself and its store. -/
structure IndexFacts where
  numDocs : Nat
  maxDoc : Nat
  hasDeletions : Bool
  isDeleted : Bool
  version : Nat
  isOptimized : Bool
  isCurrent : Bool
  fieldNames : List String
  consistency : Consistency
  lastConsistency : Option Consistency

/-- The answer of a reader step. -/
inductive ReaderReply where
  | document (d : Option Document) (query : Option (List String))
  | index (name : String) (maxDocs : UInt32) (capacityBound : Nat) (consistency : Consistency)
  | ok
  | norms (a : Option NormArray)
  | observed (flags : List Bool) (count : Nat)
  | quiet
  | info (facts : IndexFacts)
  | docFreq (n : Nat)
  /-- The document frequency at the cursor, or `none` for no cursor. -/
  | cursor (freq : Option Nat)
  | placed (found : Bool) (freq : Nat)
  | removed (wasThere : Bool)
  | rows (rows : List RawRow)

/-- The state of a reader script. -/
structure ReaderState (C : Type) where
  index : Index C
  shared : Shared
  workers : Bindings Nat (Worker C) := []

/-- What a step reports besides its answer: the store's read count, the number of cursors
opened, and the cache sizes of the acting worker. -/
structure StepExtras where
  reads : Nat
  opened : Nat
  stats : CacheStats

variable {C : Type}

namespace ReaderStep

/-- Runs an operation on the shared state. -/
def access {α : Type} (sh : Shared) (a : Access α) : Outcome α × Shared :=
  let (r, sh') := (a.run).run sh
  (Outcome.ofExcept r, sh')

/-- Runs a step of worker `w`, answering with the worker after it. -/
def run (ix : Index C) (w : Worker C) (sh : Shared) :
    ReaderStep → Outcome ReaderReply × Worker C × Shared
  | .document o sel query =>
    match access sh (w.document ix o sel) with
    | (.ok (d, w'), sh') => (.ok (.document d query), w', sh')
    | (.error f, sh') => (.error f, w, sh')
  | .index =>
    (.ok (.index ix.name ix.config.maxDocs w.caches.capacityBound ix.config.consistency), w, sh)
  | .accumulate field postings =>
    match w.accumulateNorms ix field postings with
    | .ok w' => (.ok .ok, w', sh)
    | .error e => (.error (.error e), w, sh)
  | .norms field => (.ok (.norms (w.norms? field)), w, sh)
  | .observed ordinals =>
    (.ok (.observed (ordinals.map w.caches.isObserved) w.caches.observedCount), w, sh)
  | .clearAll | .reopen | .commit | .close | .reset => (.ok .ok, w.clearAll, sh)
  | .stats => (.ok .quiet, w, sh)
  | .info o =>
    (.ok (.info { numDocs := ix.numDocs, maxDoc := ix.maxDoc, hasDeletions := ix.hasDeletions,
                  isDeleted := ix.isDeleted o, version := ix.version, isOptimized := ix.isOptimized,
                  isCurrent := ix.isCurrent, fieldNames := ix.fieldNames,
                  consistency := ix.config.consistency,
                  lastConsistency := sh.store.lastConsistency }), w, sh)
  | .setNorm o field norm =>
    match ix.setNorm o field norm with
    | .ok () => (.ok .ok, w, sh)
    | .error e => (.error (.error e), w, sh)
  | .termVectorMapper o field =>
    match ix.termVectorMapper o field with
    | .ok () => (.ok .ok, w, sh)
    | .error e => (.error (.error e), w, sh)
  | .termFreqVectors o =>
    match ix.termFreqVectors o with
    | .ok () => (.ok .ok, w, sh)
    | .error e => (.error (.error e), w, sh)
  | .docFreq t =>
    match access sh (w.docFreq ix t) with
    | (.ok (n, w'), sh') => (.ok (.docFreq n), w', sh')
    | (.error f, sh') => (.error f, w, sh')
  | .termsFrom t =>
    match access sh (w.termsFrom ix t) with
    | (.ok c, sh') => (.ok (.cursor (c.map ix.cursors.docFreq)), w, sh')
    | (.error f, sh') => (.error f, w, sh')
  | .checkTermCursor t =>
    (.ok (.cursor ((w.checkTermCursor t).map ix.cursors.docFreq)), w, sh)
  | .putTermCursor t target =>
    match access sh (ix.openCursor >>= fun c => ix.skipTo c (target.getD t)) with
    | (.ok (found, c), sh') =>
      (.ok (.placed found (ix.cursors.docFreq c)), w.putTermCursor t c, sh')
    | (.error f, sh') => (.error f, w, sh')
  | .insertRow row =>
    match row.row ix.name with
    | .ok r => (.ok .ok, w, { sh with store := sh.store.insertRow r })
    | .error f => (.error f, w, sh)
  | .insertColumn address name value =>
    match value.encode with
    | .ok v => (.ok .ok, w, { sh with store := sh.store.insertColumn (address.bytes ix.name) name v })
    | .error e => (.error (.error e), w, sh)
  | .removeRow address =>
    let (wasThere, store) := sh.store.removeRow (address.bytes ix.name)
    (.ok (.removed wasThere), w, { sh with store })
  | .setUnavailable flag => (.ok .ok, w, { sh with store := sh.store.setUnavailable flag })
  | .fetch ordinals fields =>
    let (store, r) := Fetch.rows sh.store ix.name ix.config.consistency ordinals fields
    match r with
    | .ok rows => (.ok (.rows (sortRows (rows.map (·.2)))), w, { sh with store })
    | .error e => (.error (.error e), w, { sh with store })

end ReaderStep

namespace ReaderState

/-- Runs a step on behalf of worker `n`, which gets its reader now if it has none. -/
def step (s : ReaderState C) (n : Nat) (st : ReaderStep) :
    (Outcome ReaderReply × StepExtras) × ReaderState C :=
  let w := (s.workers.lookup n).getD s.index.worker
  let (r, w', sh) := st.run s.index w s.shared
  let extras := { reads := sh.store.reads, opened := sh.opened, stats := w'.caches.stats }
  ((r, extras), { s with shared := sh, workers := Bindings.put s.workers n w' })

end ReaderState

/-- The state a reader script starts from: the index over the configuration with the given
cursor provider, and a store of the sample documents of `samples` followed by `rows`. -/
def ReaderState.start (configJson : String) (cursors : CursorProvider C) (samples : List UInt32)
    (rows : List RowSpec) : Outcome (ReaderState C) := do
  let config ← Outcome.ofExcept (ReaderConfig.ofJson configJson)
  let ix ← Outcome.ofExcept (Index.ofConfig config cursors)
  let store ← rows.foldlM (fun st row => do pure (st.insertRow (← row.row config.indexName)))
    (RowBuilder.storeWithSamples config.indexName samples)
  pure { index := ix, shared := { store } }

/-- The answer and extras of each step of a script run from a state. -/
def ReaderState.runSteps (s : ReaderState C) (steps : List (Nat × ReaderStep)) :
    List (Outcome ReaderReply × StepExtras) :=
  (trace (fun s (n, st) => s.step n st) s steps).map (·.1)

/-- Runs a reader script: the answer and extras of each step, or the failure to start. With
terms, cursors walk their dictionary; without, the index enumerates no terms, and the provider
keeps no count of the cursors asked of it. -/
def runReader (configJson : String) (terms : Option (List (Term × Nat))) (samples : List UInt32)
    (rows : List RowSpec) (steps : List (Nat × ReaderStep)) :
    Outcome (List (Outcome ReaderReply × StepExtras)) :=
  match terms with
  | none => do
    let s ← ReaderState.start configJson CursorProvider.noTerms samples rows
    pure ((s.runSteps steps).map fun (r, x) => (r, { x with opened := 0 }))
  | some entries => do
    let s ← ReaderState.start configJson
      (CursorProvider.ofDictionary (TermDictionary.ofList entries)) samples rows
    pure (s.runSteps steps)

end StoredDocs.Session
