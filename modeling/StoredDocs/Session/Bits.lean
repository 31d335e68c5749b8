import StoredDocs.BitSet
import StoredDocs.Fault
import StoredDocs.Session.Trace

/-!
# Bit-set scripts

A script sets, resets and queries the indices of one bit set. Setting or resetting an index
past the end aborts that step and leaves the set as it was.
-/

namespace StoredDocs.Session

/-- A step on a bit set. -/
inductive BitStep where
  | set (i : Nat)
  | reset (i : Nat)
  | resetRange (start stop : Nat)
  | clear
  | contains (i : Nat)
  | describe
  deriving DecidableEq, Repr

/-- The answer of a bit-set step. -/
inductive BitReply where
  /-- Whether the index was set before. -/
  | previous (wasSet : Bool)
  | done
  | contains (member : Bool)
  | description (text : String)
  deriving DecidableEq, Repr

/-- Runs one step. -/
def BitStep.run (s : BitSet) : BitStep → Outcome BitReply × BitSet
  | .set i =>
    match s.set? i with
    | some (prev, s') => (.ok (.previous prev), s')
    | none => (.error (.abort (BitSet.outOfBounds i s.len)), s)
  | .reset i =>
    match s.reset? i with
    | some s' => (.ok .done, s')
    | none => (.error (.abort (BitSet.outOfBounds i s.len)), s)
  | .resetRange start stop => (.ok .done, s.resetRange start stop)
  | .clear => (.ok .done, s.clear)
  | .contains i => (.ok (.contains (s.contains i)), s)
  | .describe => (.ok (.description s.describe), s)

/-- The trace of a script on a new bit set of length `len`. -/
def runBits (len : Nat) (steps : List BitStep) : List (Outcome BitReply × BitSet) :=
  trace BitStep.run (BitSet.new len) steps

end StoredDocs.Session
