import StoredDocs.Norms.Growth

/-!
# Norm arrays

A norm array holds one norm byte per ordinal below its length; every slot starts as the
default norm 124. It is kept sparse: only the slots that were written are listed, by
ascending ordinal.
-/

namespace StoredDocs

/-- The norm of an ordinal whose posting carried none, and of every slot never written. -/
def defaultNorm : UInt8 := 124

/-- The norm bytes of one field, indexed by ordinal. -/
structure NormArray where
  /-- The number of slots. -/
  len : Nat
  /-- The written slots and their bytes, by strictly ascending ordinal, each below `len`. -/
  written : List (Nat × UInt8)
  deriving DecidableEq, Repr

namespace NormArray

/-- An array of `len` slots, all holding the default norm. -/
def new (len : Nat) : NormArray := ⟨len, []⟩

/-- Whether the array has no slots. -/
def isEmpty (a : NormArray) : Bool := a.len == 0

/-- The byte of slot `i`, if the array has that slot. -/
def get? (a : NormArray) (i : Nat) : Option UInt8 :=
  if i < a.len then some ((a.written.lookup i).getD defaultNorm) else none

/-- Records `v` for slot `i` in a list kept by ascending slot. -/
def writeSlot (i : Nat) (v : UInt8) : List (Nat × UInt8) → List (Nat × UInt8)
  | [] => [(i, v)]
  | (j, w) :: rest =>
    if i < j then (i, v) :: (j, w) :: rest
    else if i = j then (i, v) :: rest
    else (j, w) :: writeSlot i v rest

/-- Writes `v` into slot `i`, which lies below the length: the source indexes the slot, which
would panic past the end, and every caller writes only slots it has made room for. -/
def set (a : NormArray) (i : Nat) (_h : i < a.len) (v : UInt8) : NormArray :=
  { a with written := writeSlot i v a.written }

/-- Writes each byte into its slot in turn, every slot below the length. -/
def setAll (a : NormArray) : (writes : List (Nat × UInt8)) → (∀ w ∈ writes, w.1 < a.len) → NormArray
  | [], _ => a
  | w :: ws, h =>
    (a.set w.1 (h w (List.mem_cons_self ..)) w.2).setAll ws fun x hx => h x (List.mem_cons_of_mem w hx)

/-- Grows the array to hold `minLen` slots, doubling but never past `ceiling`; the new slots
hold the default norm. Whether it grew is returned with it. -/
def growTo (a : NormArray) (minLen ceiling : Nat) : Bool × NormArray :=
  if minLen ≤ a.len then (false, a)
  else
    let n := Norms.grownLen a.len minLen ceiling
    if n ≤ a.len then (false, a) else (true, { a with len := n })

/-- Growth reaches `minLen`, or the ceiling when that comes first. -/
theorem min_le_len_growTo (a : NormArray) (minLen ceiling : Nat) :
    min minLen ceiling ≤ (a.growTo minLen ceiling).2.len := by
  have hmin := Norms.min_le_grow minLen ceiling (max a.len 1) (by omega)
  unfold growTo
  split
  · show min minLen ceiling ≤ a.len
    omega
  · dsimp only
    split
    · -- the grown length is no longer, so the array is kept
      show min minLen ceiling ≤ a.len
      have : min minLen ceiling ≤ Norms.grownLen a.len minLen ceiling := hmin
      omega
    · exact hmin

@[simp] theorem len_set (a : NormArray) (i : Nat) (h : i < a.len) (v : UInt8) :
    (a.set i h v).len = a.len := rfl

@[simp] theorem len_setAll (a : NormArray) (ws : List (Nat × UInt8)) (h : ∀ w ∈ ws, w.1 < a.len) :
    (a.setAll ws h).len = a.len := by
  induction ws generalizing a with
  | nil => rfl
  | cons w ws ih => exact ih _ _

/-- The slots whose byte differs from the default norm, by ascending ordinal. -/
def changed (a : NormArray) : List (Nat × UInt8) :=
  a.written.filter fun (_, v) => v != defaultNorm

end NormArray

end StoredDocs
