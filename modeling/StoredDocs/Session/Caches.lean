import StoredDocs.Fault
import StoredDocs.Norms.Accumulator
import StoredDocs.Session.Trace

/-!
# Norm-accumulation scripts

A script drives one norm accumulator over one cache set: it accumulates the norms of
postings, reads norm arrays and observed ordinals, and clears the caches.
-/

namespace StoredDocs.Session

/-- A step on the caches of a norm accumulator. -/
inductive CacheStep where
  | accumulate (field : String) (postings : List Posting)
  | norms (field : String)
  | observed (ordinals : List UInt32)
  | clearAll
  | stats
  deriving DecidableEq, Repr

/-- The answer of a cache step. -/
inductive CacheReply where
  | ok
  | norms (a : Option NormArray)
  /-- Whether each ordinal was observed, and how many ordinals are. -/
  | observed (flags : List Bool) (count : Nat)
  | quiet
  deriving DecidableEq, Repr

/-- Runs one step. -/
def CacheStep.run (acc : NormAccumulator) (c : CacheSet Unit) :
    CacheStep → Outcome CacheReply × CacheSet Unit
  | .accumulate field postings =>
    match acc.accumulate c field postings with
    | .ok c' => (.ok .ok, c')
    | .error e => (.error (.error e), c)
  | .norms field => (.ok (.norms (c.norms? field)), c)
  | .observed ordinals => (.ok (.observed (ordinals.map c.isObserved) c.observedCount), c)
  | .clearAll => (.ok .ok, c.clearAll)
  | .stats => (.ok .quiet, c)

/-- The trace of a script on the accumulator `NormAccumulator.new capacityBound initialLen`
over new caches of capacity bound `cacheCapacity`. -/
def runCaches (capacityBound initialLen cacheCapacity : Nat) (steps : List CacheStep) :
    List (Outcome CacheReply × CacheSet Unit) :=
  trace (CacheStep.run (NormAccumulator.new capacityBound initialLen)) (CacheSet.new cacheCapacity) steps

end StoredDocs.Session
