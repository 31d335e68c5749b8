import Mathlib
import StoredDocs.Proofs.Norms.Accumulation

/-!
# Growing a norm array

A norm array stores only the slots that were written, each below its length; every other slot
reads as the default norm. `WellFormed` names that representation invariant, and every array
the program builds has it: a new array, a written one and a grown one.

Growth never shrinks an array. An array that already holds `minLen` slots is kept; otherwise
its length becomes what `grownLen` gives, unless that is no longer. The slots it had keep their
bytes and the new ones read as the default norm, and the call reports whether the array grew.
The new length reaches `minLen` or the ceiling, whichever is smaller, and does not pass the
larger of the old length and the ceiling, except that an empty array asked for a slot grows to
one slot even under a ceiling of zero: growth starts from a length of at least one.

The main statement is `growTo_extends_with_defaults`.
-/

namespace StoredDocs.NormArray

/-- Every written slot of a norm array lies below its length. -/
def WellFormed (a : NormArray) : Prop := ∀ p ∈ a.written, p.1 < a.len

lemma mem_writeSlot {i : Nat} {v : UInt8} {l : List (Nat × UInt8)} {p : Nat × UInt8}
    (hp : p ∈ writeSlot i v l) : p = (i, v) ∨ p ∈ l := by
  induction l with
  | nil => simpa [writeSlot] using hp
  | cons q rest ih =>
    obtain ⟨j, w⟩ := q
    simp only [writeSlot] at hp
    split_ifs at hp with hlt heq
    · simpa using hp
    · rcases List.mem_cons.1 hp with rfl | hp
      · exact Or.inl rfl
      · exact Or.inr (List.mem_cons_of_mem _ hp)
    · rcases List.mem_cons.1 hp with rfl | hp
      · exact Or.inr List.mem_cons_self
      · rcases ih hp with h | h
        · exact Or.inl h
        · exact Or.inr (List.mem_cons_of_mem _ h)

lemma wellFormed_new (len : Nat) : (new len).WellFormed := fun _ hp => absurd hp List.not_mem_nil

lemma WellFormed.set {a : NormArray} (ha : a.WellFormed) {i : Nat} (hi : i < a.len) (v : UInt8) :
    (a.set i hi v).WellFormed := by
  intro p hp
  rcases mem_writeSlot hp with rfl | hp
  · exact hi
  · exact ha p hp

/-- A slot at or past the length of a well-formed array was never written. -/
lemma WellFormed.lookup_eq_none {a : NormArray} (ha : a.WellFormed) {i : Nat} (hi : a.len ≤ i) :
    a.written.lookup i = none := by
  rw [List.lookup_eq_none_iff]
  intro p hp
  have := ha p hp
  simp only [bne_iff_ne, ne_eq]
  omega

/-! ### One growth -/

/-- The length after growth: kept when it holds `minLen` slots already, and otherwise the
length `grownLen` gives, unless that is shorter. -/
lemma len_growTo_eq (a : NormArray) (minLen ceiling : Nat) :
    (a.growTo minLen ceiling).2.len =
      if minLen ≤ a.len then a.len else max a.len (Norms.grownLen a.len minLen ceiling) := by
  unfold growTo
  split
  · rfl
  · dsimp only
    split
    · next hle => exact (Nat.max_eq_left hle).symm
    · next hgt =>
      show Norms.grownLen a.len minLen ceiling = _
      omega

/-- Growth never shrinks. -/
lemma le_len_growTo (a : NormArray) (minLen ceiling : Nat) :
    a.len ≤ (a.growTo minLen ceiling).2.len := by
  rw [len_growTo_eq]
  split <;> omega

/-- Growth reports exactly whether the array got longer. -/
lemma fst_growTo_iff (a : NormArray) (minLen ceiling : Nat) :
    (a.growTo minLen ceiling).1 = true ↔ a.len < (a.growTo minLen ceiling).2.len := by
  unfold growTo
  split
  · simp
  · dsimp only
    split
    · simp
    · next hgt => simpa using hgt

/-- A grown slot keeps its byte when the array had it, and otherwise reads as the default norm
while it lies below the new length. -/
lemma get?_growTo {a : NormArray} (ha : a.WellFormed) (minLen ceiling i : Nat) :
    (a.growTo minLen ceiling).2.get? i =
      if i < a.len then a.get? i
      else if i < (a.growTo minLen ceiling).2.len then some defaultNorm else none := by
  have hle := le_len_growTo a minLen ceiling
  unfold get?
  rw [written_growTo]
  by_cases hi : i < a.len
  · simp only [hi, if_true, show i < (a.growTo minLen ceiling).2.len by omega]
  · rw [if_neg hi, ha.lookup_eq_none (by omega)]
    rfl

lemma WellFormed.growTo {a : NormArray} (ha : a.WellFormed) (minLen ceiling : Nat) :
    (a.growTo minLen ceiling).2.WellFormed := by
  intro p hp
  rw [written_growTo] at hp
  exact Nat.lt_of_lt_of_le (ha p hp) (le_len_growTo a minLen ceiling)

/-- Growth stays within the larger of the old length and the ceiling, or else grows an empty
array, asked for a slot under a ceiling of zero, to one slot. -/
lemma len_growTo_le (a : NormArray) (minLen ceiling : Nat) :
    (a.growTo minLen ceiling).2.len ≤ max a.len ceiling ∨
      a.len = 0 ∧ ceiling = 0 ∧ 0 < minLen ∧ (a.growTo minLen ceiling).2.len = 1 := by
  have hmax := Norms.grow_le_max minLen ceiling (max a.len 1) (by omega)
  have hgrown : Norms.grownLen a.len minLen ceiling ≤ max (max a.len 1) ceiling := hmax
  rw [len_growTo_eq]
  split
  · omega
  · next hshort =>
    by_cases hempty : a.len = 0 ∧ ceiling = 0
    · -- growth starts from one slot, which is already at the ceiling
      have hone : Norms.grownLen a.len minLen ceiling = 1 := by
        rw [Norms.grownLen, Norms.grow_of_not_lt _ _ _ _ (by omega)]
        omega
      omega
    · omega

/-- What growing a norm array does, for every array the program builds. The new length is the
old one when that holds `minLen` slots, and otherwise the larger of the old one and what
`grownLen` gives; the slots below the old length keep their bytes and those from there up to
the new length read as the default norm; the call reports growth exactly when the length went
up; the new length reaches `minLen` or the ceiling, whichever is smaller; and it passes neither
the old length nor the ceiling, unless an empty array asked for a slot under a ceiling of zero
grew to one slot. -/
theorem growTo_extends_with_defaults (a : NormArray) (ha : a.WellFormed) (minLen ceiling : Nat) :
    (a.growTo minLen ceiling).2.len =
      (if minLen ≤ a.len then a.len else max a.len (Norms.grownLen a.len minLen ceiling)) ∧
    (∀ i < a.len, (a.growTo minLen ceiling).2.get? i = a.get? i) ∧
    (∀ i, a.len ≤ i → i < (a.growTo minLen ceiling).2.len →
      (a.growTo minLen ceiling).2.get? i = some defaultNorm) ∧
    ((a.growTo minLen ceiling).1 = true ↔ a.len < (a.growTo minLen ceiling).2.len) ∧
    min minLen ceiling ≤ (a.growTo minLen ceiling).2.len ∧
    ((a.growTo minLen ceiling).2.len ≤ max a.len ceiling ∨
      a.len = 0 ∧ ceiling = 0 ∧ 0 < minLen ∧ (a.growTo minLen ceiling).2.len = 1) := by
  refine ⟨len_growTo_eq a minLen ceiling, fun i hi => ?_, fun i hi hi' => ?_,
    fst_growTo_iff a minLen ceiling, min_le_len_growTo a minLen ceiling,
    len_growTo_le a minLen ceiling⟩
  · rw [get?_growTo ha, if_pos hi]
  · rw [get?_growTo ha, if_neg (by omega), if_pos hi']

/-- An array of two slots, both written, grows to hold five slots under a ceiling of one
hundred. -/
theorem growTo_extends_with_defaults_of_written :
    let a := ((new 2).set 0 (by decide) 7).set 1 (by decide) 9
    a.WellFormed ∧
    ((a.growTo 5 100).2.len =
      (if 5 ≤ a.len then a.len else max a.len (Norms.grownLen a.len 5 100)) ∧
    (∀ i < a.len, (a.growTo 5 100).2.get? i = a.get? i) ∧
    (∀ i, a.len ≤ i → i < (a.growTo 5 100).2.len →
      (a.growTo 5 100).2.get? i = some defaultNorm) ∧
    ((a.growTo 5 100).1 = true ↔ a.len < (a.growTo 5 100).2.len) ∧
    min 5 100 ≤ (a.growTo 5 100).2.len ∧
    ((a.growTo 5 100).2.len ≤ max a.len 100 ∨
      a.len = 0 ∧ 100 = 0 ∧ 0 < 5 ∧ (a.growTo 5 100).2.len = 1)) :=
  have ha : (((new 2).set 0 (by decide) 7).set 1 (by decide) 9).WellFormed :=
    ((wellFormed_new 2).set (by decide) 7).set (by decide) 9
  ⟨ha, growTo_extends_with_defaults _ ha 5 100⟩

/-- An empty array asked for one slot under a ceiling of zero grows past the ceiling, to one
slot. -/
theorem growTo_empty_past_zero_ceiling :
    max (new 0).len 0 < ((new 0).growTo 1 0).2.len := by
  have hone : Norms.grownLen 0 1 0 = 1 := by
    rw [Norms.grownLen, Norms.grow_of_not_lt _ _ _ _ (by omega)]
    rfl
  rw [len_growTo_eq, if_neg (by decide)]
  simp [new, hone]

end StoredDocs.NormArray
