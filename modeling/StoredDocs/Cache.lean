import StoredDocs.Bindings
import StoredDocs.BitSet
import StoredDocs.Document
import StoredDocs.Norms.NormArray

/-!
# Per-worker caches

Each worker keeps four caches: materialized documents by ordinal, term cursors by term, norm
arrays by field, and the set of ordinals observed while accumulating norms. Each is created
on its first insertion (until then `stats` reports it as absent), and `clearAll`, the one
invalidation, empties all that exist without removing them. The observed set is made with one
index per addressable ordinal, and the cache set carries that fact.
-/

namespace StoredDocs

/-- A term: a field and a text of that field. Terms are ordered by field, then text. -/
structure Term where
  field : String
  text : String
  deriving DecidableEq, Repr

namespace Term

/-- The order of terms: by field, then by text. -/
def compare (a b : Term) : Ordering :=
  (Ord.compare a.field b.field).then (Ord.compare a.text b.text)

/-- Whether `a` sorts at or after `b`. -/
def atOrAfter (a b : Term) : Bool := Term.compare a b != .lt

end Term

/-- The sizes of the caches, or `none` for a cache not created yet. -/
structure CacheStats where
  documents : Option Nat
  termCursors : Option Nat
  fieldNorms : Option Nat
  observed : Option Nat
  deriving DecidableEq, Repr

/-- The caches of one worker, with term cursors of type `C`. -/
structure CacheSet (C : Type) where
  /-- The number of addressable ordinals, which bounds the observed set. -/
  capacityBound : Nat
  documents : Option (Bindings UInt32 Document) := none
  termCursors : Option (Bindings Term C) := none
  fieldNorms : Option (Bindings String NormArray) := none
  observed : Option BitSet := none
  /-- The observed set, once made, has one index per addressable ordinal. -/
  observed_len : ∀ s, observed = some s → s.len = capacityBound := by
    intro _ h
    cases h

namespace CacheSet

variable {C : Type}

/-- Caches of the given capacity bound, none created yet. -/
def new (capacityBound : Nat) : CacheSet C := { capacityBound }

/-- The cached document of an ordinal. -/
def document? (c : CacheSet C) (o : UInt32) : Option Document :=
  c.documents.bind (·.lookup o)

/-- Whether an ordinal's document is cached. -/
def containsDocument (c : CacheSet C) (o : UInt32) : Bool := (c.document? o).isSome

/-- Caches documents, creating the document cache if needed. -/
def putDocuments (c : CacheSet C) (docs : List Document) : CacheSet C :=
  { c with documents := some (docs.foldl (fun m d => Bindings.put m d.ordinal d) (c.documents.getD [])) }

/-- The cached cursor of a term. -/
def termCursor? (c : CacheSet C) (t : Term) : Option C :=
  c.termCursors.bind (·.lookup t)

/-- Caches a cursor under a term, creating the cursor cache if needed. -/
def putTermCursor (c : CacheSet C) (t : Term) (cursor : C) : CacheSet C :=
  { c with termCursors := some (Bindings.put (c.termCursors.getD []) t cursor) }

/-- The norm array of a field. -/
def norms? (c : CacheSet C) (field : String) : Option NormArray :=
  c.fieldNorms.bind (·.lookup field)

/-- Whether an ordinal was observed. -/
def isObserved (c : CacheSet C) (o : UInt32) : Bool :=
  c.observed.any (·.contains o.toNat)

/-- The observed set, or a new one for the capacity bound while there is none, has one index per
addressable ordinal. -/
theorem len_observed_getD (c : CacheSet C) :
    (c.observed.getD (BitSet.new c.capacityBound)).len = c.capacityBound := by
  cases h : c.observed with
  | none => rfl
  | some s => exact c.observed_len s h

/-- The number of observed ordinals. -/
def observedCount (c : CacheSet C) : Nat := (c.observed.map BitSet.countOnes).getD 0

/-- Empties every cache that exists; absent caches stay absent. -/
def clearAll (c : CacheSet C) : CacheSet C :=
  { c with
    documents := c.documents.map fun _ => []
    termCursors := c.termCursors.map fun _ => []
    fieldNorms := c.fieldNorms.map fun _ => []
    observed := c.observed.map fun s => s.resetRange 0 c.capacityBound
    observed_len := fun s hs => by
      obtain ⟨s₀, h₀, rfl⟩ := Option.map_eq_some_iff.1 hs
      rw [BitSet.len_resetRange]
      exact c.observed_len s₀ h₀ }

/-- The sizes of the caches. -/
def stats (c : CacheSet C) : CacheStats :=
  { documents := c.documents.map List.length
    termCursors := c.termCursors.map List.length
    fieldNorms := c.fieldNorms.map List.length
    observed := c.observed.map BitSet.countOnes }

end CacheSet

end StoredDocs
