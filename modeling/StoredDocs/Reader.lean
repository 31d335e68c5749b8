import StoredDocs.Assembly
import StoredDocs.Config
import StoredDocs.Norms.Accumulator
import StoredDocs.Terms

/-!
# Index readers

An index holds what its workers share and never change: the validated configuration and the
provider of its term cursors. Each worker reads through a reader of its own, whose caches no
other worker sees, while all of them act on one store and one count of cursor openings.

Every operation acts on the calling worker's caches only:

* a document is read through the document cache, fetching on a miss;
* norms are accumulated into, and read from, the worker's norm arrays;
* the document frequency of a term is read from its cached cursor, or else from a new cursor
  skipped to the term, which is then cached whether or not the term was found;
* a cursor positioned at a term starts from a copy of the cached one, or else from a newly
  opened one, and is never cached;
* a failure to open or to move a cursor fails the operation, and nothing is cached;
* reopening, committing, closing and resetting empty the worker's caches.

The index has no deletions, one version, and is optimized and current; setting norms and
term-vector queries are unsupported.
-/

namespace StoredDocs

/-- An open index: a validated configuration and the provider of its term cursors. -/
structure Index (C : Type) where
  config : ReaderConfig
  cursors : CursorProvider C

/-- What the workers of an index share and change: the store, and how many times a term cursor
was asked of the provider. -/
structure Shared where
  store : MemoryStore
  opened : Nat := 0

/-- An operation on the shared state that may fail; what it changed before it failed stays
changed. -/
abbrev Access := ExceptT Error (StateM Shared)

/-- A library result as a step of an operation on the shared state. -/
def Access.lift {α : Type} : Except Error α → Access α
  | .ok a => pure a
  | .error e => throw e

/-- A worker's reader: its own caches. -/
structure Worker (C : Type) where
  caches : CacheSet C

variable {C : Type}

namespace Index

/-- Opens an index over a configuration, which must be valid. -/
def ofConfig (config : ReaderConfig) (cursors : CursorProvider C) : Except Error (Index C) := do
  config.validate
  pure ⟨config, cursors⟩

/-- An index opens over its own configuration, whose starting norm length is positive. -/
theorem ofConfig_eq_ok {config : ReaderConfig} {cursors : CursorProvider C} {ix : Index C}
    (h : ofConfig config cursors = .ok ix) :
    ix = ⟨config, cursors⟩ ∧ 0 < config.initialNormsLen := by
  unfold ofConfig at h
  cases hv : config.validate with
  | error e => simp [hv, bind, Except.bind] at h
  | ok u =>
    simp only [hv, bind, Except.bind, pure, Except.pure, Except.ok.injEq] at h
    unfold ReaderConfig.validate at hv
    obtain ⟨-, hv⟩ := verifyArg_bind_eq_ok hv
    obtain ⟨-, hv⟩ := verifyArg_bind_eq_ok hv
    exact ⟨h.symm, by simpa using verifyArg_eq_ok hv⟩

/-- The name of the index. -/
def name (ix : Index C) : String := ix.config.indexName

/-- The accumulator of the index's norms. -/
def accumulator (ix : Index C) : NormAccumulator :=
  NormAccumulator.new ix.config.capacityBound ix.config.clampedInitialNormsLen

/-- A new worker, with no caches yet. -/
def worker (ix : Index C) : Worker C := ⟨CacheSet.new ix.config.capacityBound⟩

/-- Asks the provider for a term cursor of the index, counting the request whether or not it
succeeds. -/
def openCursor (ix : Index C) : Access C := do
  modify fun sh => { sh with opened := sh.opened + 1 }
  Access.lift (ix.cursors.openCursor ix.name)

/-- Moves a cursor to a term. -/
def skipTo (ix : Index C) (c : C) (t : Term) : Access (Bool × C) :=
  Access.lift (ix.cursors.skipTo c t)

/-- The number of live documents. -/
def numDocs (ix : Index C) : Nat := ix.config.numDocs

/-- The number of addressable ordinals. -/
def maxDoc (ix : Index C) : Nat := ix.config.capacityBound

/-- The index has no deletions. -/
def hasDeletions (_ix : Index C) : Bool := false

/-- No document is deleted. -/
def isDeleted (_ix : Index C) (_o : UInt32) : Bool := false

/-- The one version of the index, the largest unsigned 64-bit number. -/
def version (_ix : Index C) : Nat := 18446744073709551615

/-- The index counts as optimized. -/
def isOptimized (_ix : Index C) : Bool := true

/-- The index counts as current. -/
def isCurrent (_ix : Index C) : Bool := true

/-- The index lists no field names. -/
def fieldNames (_ix : Index C) : List String := []

/-- Setting a norm is unsupported. -/
def setNorm (_ix : Index C) (_o : UInt32) (_field : String) (_norm : UInt8) : Except Error Unit :=
  throw (.unsupported "set norm")

/-- Mapping term vectors is unsupported. -/
def termVectorMapper (_ix : Index C) (_o : UInt32) (_field : Option String) : Except Error Unit :=
  throw (.unsupported "term vector mapper")

/-- Term frequency vectors are unsupported. -/
def termFreqVectors (_ix : Index C) (_o : UInt32) : Except Error Unit :=
  throw (.unsupported "term frequency vectors")

end Index

namespace Worker

/-- The document of an ordinal, read through the worker's document cache. -/
def document (ix : Index C) (w : Worker C) (o : UInt32) (sel : Selection) :
    Access (Option Document × Worker C) := do
  let sh ← get
  let (store, r) := Assembly.getDocument sh.store ix.name ix.config.consistency w.caches o sel
  set { sh with store }
  let (d, caches) ← Access.lift r
  pure (d, ⟨caches⟩)

/-- The norms accumulated so far for a field. -/
def norms? (w : Worker C) (field : String) : Option NormArray := w.caches.norms? field

/-- Records the norms of a field's postings. -/
def accumulateNorms (ix : Index C) (w : Worker C) (field : String) (postings : List Posting) :
    Except Error (Worker C) := do
  pure ⟨← ix.accumulator.accumulate w.caches field postings⟩

/-- The cached cursor of a term. -/
def checkTermCursor (w : Worker C) (t : Term) : Option C := w.caches.termCursor? t

/-- Caches a cursor under a term. -/
def putTermCursor (w : Worker C) (t : Term) (c : C) : Worker C :=
  ⟨w.caches.putTermCursor t c⟩

/-- The number of documents containing a term: from the cached cursor, or from a new cursor
skipped to the term, which is then cached. -/
def docFreq (ix : Index C) (w : Worker C) (t : Term) : Access (Nat × Worker C) := do
  match w.checkTermCursor t with
  | some c => pure (ix.cursors.docFreq c, w)
  | none =>
    let c ← ix.openCursor
    let (_, c) ← ix.skipTo c t
    pure (ix.cursors.docFreq c, w.putTermCursor t c)

/-- A cursor positioned at a term, or `none` when no term is at or after it: a copy of the
cached cursor is moved, otherwise a new one is opened; neither is cached. -/
def termsFrom (ix : Index C) (w : Worker C) (t : Term) : Access (Option C) := do
  let c ← match w.checkTermCursor t with
    | some cached => pure cached
    | none => ix.openCursor
  let (found, c) ← ix.skipTo c t
  pure (if found then some c else none)

/-- Empties every cache of the worker. -/
def clearAll (w : Worker C) : Worker C := ⟨w.caches.clearAll⟩

end Worker

end StoredDocs
