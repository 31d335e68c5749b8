import StoredDocs.Norms.NormArray
import StoredDocs.Session.Trace

/-!
# Norm-array scripts

A script grows one norm array and reads its slots.
-/

namespace StoredDocs.Session

/-- A step on a norm array. -/
inductive NormStep where
  /-- Grows to at least `minLen` slots, by doubling, up to `ceiling`. -/
  | growTo (minLen ceiling : Nat)
  | get (i : Nat)
  | isEmpty
  deriving DecidableEq, Repr

/-- The answer of a norm-array step. -/
inductive NormReply where
  /-- Whether the array grew, and the array after the step. -/
  | grew (changed : Bool) (after : NormArray)
  | value (v : Option UInt8)
  | emptiness (empty : Bool) (len : Nat)
  deriving DecidableEq, Repr

/-- Runs one step. -/
def NormStep.run (a : NormArray) : NormStep → NormReply × NormArray
  | .growTo minLen ceiling =>
    let (changed, a') := a.growTo minLen ceiling
    (.grew changed a', a')
  | .get i => (.value (a.get? i), a)
  | .isEmpty => (.emptiness a.isEmpty a.len, a)

/-- The answers of a script on a new norm array of length `len`. -/
def runNorms (len : Nat) (steps : List NormStep) : List NormReply :=
  (trace NormStep.run (NormArray.new len) steps).map (·.1)

end StoredDocs.Session
