/-!
# Bit sets

A bit set of fixed length keeps one bit for each index below its length, 64 to a word: index `i`
is bit `i % 64` of word `i / 64`, counted from the lowest bit, and the bits of the last word past
the length are kept clear. Setting or resetting an index at or past the length is refused (the
source asserts); a range reset is cut at the length and clears its range with masks; counting
adds up the set bits of the words; and iterating walks the words in order, taking the lowest set
bit of the current word each time.
-/

namespace StoredDocs

/-! ### Words -/

namespace Word

/-- Bit `b` of a word, counted from the lowest. -/
def bit (w : UInt64) (b : Nat) : Bool := w.toNat.testBit b

/-- The word with only bit `b` set: `1 << b`. -/
def single (b : Nat) : UInt64 := 1 <<< b.toUInt64

/-- The word with every bit below `b` set: `(1 << b) - 1`. -/
def lowMask (b : Nat) : UInt64 := single b - 1

/-- The number of clear bits below the lowest set bit, and 64 for the clear word
(`trailing_zeros`). -/
def trailingZeros (w : UInt64) : Nat := (List.range 64).findIdx (bit w)

/-- Clearing the lowest set bit of a word that has one, `w & (w - 1)`, makes it smaller. -/
theorem toNat_and_sub_one_lt {w : UInt64} (h : w ≠ 0) : (w &&& (w - 1)).toNat < w.toNat := by
  have hpos : 0 < w.toNat := by
    rcases Nat.eq_zero_or_pos w.toNat with h0 | h0
    · exact absurd (UInt64.toNat_inj.1 (by rw [h0]; rfl)) h
    · exact h0
  have hone : (1 : UInt64) ≤ w := UInt64.le_iff_toNat_le.2 hpos
  have hsub : (w - 1).toNat = w.toNat - 1 := by
    rw [UInt64.toNat_sub_of_le _ _ hone]
    rfl
  rw [UInt64.toNat_and, hsub]
  have := Nat.and_le_right (n := w.toNat) (m := w.toNat - 1)
  omega

/-- The number of set bits (`count_ones`): the lowest set bit is cleared until none is left. -/
def countOnes (w : UInt64) : Nat :=
  if h : w = 0 then 0 else countOnes (w &&& (w - 1)) + 1
termination_by w.toNat
decreasing_by exact toNat_and_sub_one_lt h

end Word

/-! ### Bit sets -/

/-- A set of indices below a fixed length, one bit per index. -/
structure BitSet where
  /-- The number of indices. -/
  len : Nat
  /-- The bits, 64 to a word, lowest index first. -/
  words : Array UInt64
  deriving DecidableEq, Repr

namespace BitSet

/-- The empty set of the given length, in `⌈len / 64⌉` clear words. -/
def new (len : Nat) : BitSet := ⟨len, Array.replicate ((len + 63) / 64) 0⟩

/-- Whether the set has no indices at all. -/
def isEmpty (s : BitSet) : Bool := s.len == 0

/-- Word `k`; a word past the end reads as clear. -/
def word (s : BitSet) (k : Nat) : UInt64 := s.words.getD k 0

/-- Whether index `i` is set; false past the end. -/
def contains (s : BitSet) (i : Nat) : Bool :=
  if s.len ≤ i then false else s.word (i / 64) &&& Word.single (i % 64) != 0

/-- Sets index `i`, which lies below the length, and tells whether it was set before. -/
def set (s : BitSet) (i : Nat) (_h : i < s.len) : Bool × BitSet :=
  let mask := Word.single (i % 64)
  (s.word (i / 64) &&& mask != 0, { s with words := s.words.modify (i / 64) (· ||| mask) })

/-- Sets index `i` and tells whether it was set before; `none` when `i` is past the end, where
the source's assertion fails. -/
def set? (s : BitSet) (i : Nat) : Option (Bool × BitSet) :=
  if h : i < s.len then some (s.set i h) else none

/-- Sets each of some indices in turn, all below the length. -/
def setAll (s : BitSet) : (is : List Nat) → (∀ i ∈ is, i < s.len) → BitSet
  | [], _ => s
  | i :: is, h =>
    (s.set i (h i (List.mem_cons_self ..))).2.setAll is fun j hj => h j (List.mem_cons_of_mem i hj)

/-- Resets index `i`; `none` when `i` is past the end. -/
def reset? (s : BitSet) (i : Nat) : Option BitSet :=
  if i < s.len then
    some { s with words := s.words.modify (i / 64) (· &&& ~~~Word.single (i % 64)) }
  else none

/-- Resets every index from `start` up to, not including, `stop`, with the range cut at the
length: within one word by one mask; across words by keeping the bits of the first word below
the start, clearing the words in between, and clearing the bits of the last word below the end
when the range ends inside it. -/
def resetRange (s : BitSet) (start stop : Nat) : BitSet :=
  let stop := min stop s.len
  if stop ≤ start then s
  else
    let startWord := start / 64
    let startBit := start % 64
    let endWord := stop / 64
    let endBit := stop % 64
    if startWord = endWord then
      let mask := Word.lowMask endBit &&& ~~~Word.lowMask startBit
      { s with words := s.words.modify startWord (· &&& ~~~mask) }
    else
      let first := s.words.modify startWord (· &&& Word.lowMask startBit)
      let middle := first.mapIdx fun k w => if startWord + 1 ≤ k ∧ k < endWord then 0 else w
      let last :=
        if 0 < endBit then middle.modify endWord (· &&& ~~~Word.lowMask endBit) else middle
      { s with words := last }

/-- Resets every index. -/
def clear (s : BitSet) : BitSet := { s with words := s.words.map fun _ => 0 }

/-- The number of set indices: the set bits of all words. -/
def countOnes (s : BitSet) : Nat := s.words.foldl (fun n w => n + Word.countOnes w) 0

/-- The diagnostic form of a bit set: its length and how many indices are set. -/
def describe (s : BitSet) : String :=
  "BitSet \x7b len: " ++ toString s.len ++ ", count_ones: " ++ toString s.countOnes ++ " \x7d"

/-- The message of a refused set or reset. -/
def outOfBounds (i len : Nat) : String :=
  "Index " ++ toString i ++ " out of bounds (len: " ++ toString len ++ ")"

@[simp] theorem len_set (s : BitSet) (i : Nat) (h : i < s.len) : (s.set i h).2.len = s.len := rfl

@[simp] theorem len_setAll (s : BitSet) (is : List Nat) (h : ∀ i ∈ is, i < s.len) :
    (s.setAll is h).len = s.len := by
  induction is generalizing s with
  | nil => rfl
  | cons i is ih => exact ih _ _

@[simp] theorem len_resetRange (s : BitSet) (start stop : Nat) :
    (s.resetRange start stop).len = s.len := by
  unfold resetRange
  dsimp only
  split
  · rfl
  · split <;> rfl

/-! ### Iteration -/

/-- Where an iteration over the set indices stands: the words, the word it is in, and the bits
of that word not taken yet. -/
structure Iter where
  words : Array UInt64
  wordIndex : Nat
  current : UInt64

/-- An iteration from the first word. -/
def iter (s : BitSet) : Iter := ⟨s.words, 0, s.words.getD 0 0⟩

namespace Iter

/-- The next set index, with the iteration after it: the lowest set bit of the current word,
which is then cleared; or, when the current word has none left, the same from the next word,
until the words run out. -/
def next (it : Iter) : Option (Nat × Iter) :=
  if it.current ≠ 0 then
    some (it.wordIndex * 64 + Word.trailingZeros it.current,
      { it with current := it.current &&& (it.current - 1) })
  else if _h : it.words.size ≤ it.wordIndex + 1 then none
  else next { it with wordIndex := it.wordIndex + 1, current := it.words.getD (it.wordIndex + 1) 0 }
termination_by it.words.size - it.wordIndex
decreasing_by omega

/-- A step of an iteration keeps its words, and either moves on to a later word, one that
exists, or takes a bit from the current word. -/
theorem next_progress {it it' : Iter} {i : Nat} (h : it.next = some (i, it')) :
    it'.words = it.words ∧
      ((it.wordIndex < it'.wordIndex ∧ it.wordIndex + 1 < it.words.size) ∨
        (it'.wordIndex = it.wordIndex ∧ it'.current.toNat < it.current.toNat)) := by
  fun_induction next it generalizing it' with
  | case1 it hcur =>
    simp only [Option.some.injEq, Prod.mk.injEq] at h
    obtain ⟨-, rfl⟩ := h
    exact ⟨rfl, Or.inr ⟨rfl, Word.toNat_and_sub_one_lt hcur⟩⟩
  | case2 it hcur hend => cases h
  | case3 it hcur hend ih =>
    obtain ⟨hwords, hstep⟩ := ih h
    refine ⟨hwords, Or.inl ⟨?_, by omega⟩⟩
    rcases hstep with ⟨hlt, -⟩ | ⟨heq, -⟩
    · exact Nat.lt_trans (Nat.lt_succ_self _) hlt
    · rw [heq]
      exact Nat.lt_succ_self _

/-- The indices still to come, in the order `next` yields them. -/
def toList (it : Iter) : List Nat :=
  match _h : it.next with
  | none => []
  | some (i, it') => i :: toList it'
termination_by (it.words.size - it.wordIndex, it.current.toNat)
decreasing_by
  obtain ⟨hwords, hstep⟩ := next_progress _h
  rcases hstep with ⟨hlt, hsize⟩ | ⟨heq, hcur⟩
  · exact Prod.Lex.left _ _ (by rw [hwords]; omega)
  · rw [hwords, heq]
    exact Prod.Lex.right _ hcur

end Iter

/-- The set indices in ascending order, as the iteration yields them. -/
def toList (s : BitSet) : List Nat := s.iter.toList

end BitSet

end StoredDocs
