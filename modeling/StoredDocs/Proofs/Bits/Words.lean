import Mathlib
import StoredDocs.BitSet

/-!
# Bits of words

A word's bits are read with `Word.bit`, bit `b` of its value. This module gives the bits of each
mask a bit set builds (a single bit, the bits below a position, complements, conjunctions and
disjunctions), the lowest set bit of a word, and how clearing it with `w &&& (w - 1)` walks the
set bits upward.

From that follows what an iteration over the words yields (`BitSet.toList_eq_flatMap`): the
blocks of the words in order, each word's set bits in ascending order, offset by 64 for each
word before it.
-/

namespace StoredDocs

namespace Word

/-! ### Masks -/

/-- A word holds no bit at or past 64. -/
lemma bit_of_le {w : UInt64} {b : Nat} (h : 64 ≤ b) : bit w b = false :=
  Nat.testBit_lt_two_pow (Nat.lt_of_lt_of_le w.toNat_lt (Nat.pow_le_pow_right (by decide) h))

@[simp] lemma bit_zero (b : Nat) : bit 0 b = false := Nat.zero_testBit b

@[simp] lemma bit_and (w m : UInt64) (b : Nat) : bit (w &&& m) b = (bit w b && bit m b) := by
  simp only [bit, UInt64.toNat_and, Nat.testBit_and]

@[simp] lemma bit_or (w m : UInt64) (b : Nat) : bit (w ||| m) b = (bit w b || bit m b) := by
  simp only [bit, UInt64.toNat_or, Nat.testBit_or]

@[simp] lemma bit_not (w : UInt64) (b : Nat) : bit (~~~w) b = (decide (b < 64) && !bit w b) := by
  show (~~~w).toBitVec.getLsbD b = _
  rw [UInt64.toBitVec_not, BitVec.getLsbD_not]
  rfl

lemma toNat_single {b : Nat} (h : b < 64) : (single b).toNat = 2 ^ b := by
  have hb : b.toUInt64.toNat = b := by simp; omega
  have hlt : 2 ^ b < 2 ^ 64 := Nat.pow_lt_pow_right (by decide : 1 < 2) h
  rw [single, UInt64.toNat_shiftLeft, hb, Nat.mod_eq_of_lt h, UInt64.toNat_one, Nat.one_shiftLeft,
    Nat.mod_eq_of_lt hlt]

lemma bit_single {b : Nat} (h : b < 64) (b' : Nat) : bit (single b) b' = decide (b' = b) := by
  rw [bit, toNat_single h, Nat.testBit_two_pow]
  exact decide_eq_decide.2 eq_comm

lemma toNat_lowMask {b : Nat} (h : b < 64) : (lowMask b).toNat = 2 ^ b - 1 := by
  have hle : (1 : UInt64).toNat ≤ (single b).toNat := by
    rw [toNat_single h]
    exact Nat.one_le_two_pow
  rw [lowMask, UInt64.toNat_sub_of_le _ _ (UInt64.le_iff_toNat_le.2 hle), toNat_single h]
  rfl

lemma bit_lowMask {b : Nat} (h : b < 64) (b' : Nat) : bit (lowMask b) b' = decide (b' < b) := by
  rw [bit, toNat_lowMask h, Nat.testBit_two_pow_sub_one]

/-- A word is clear exactly when none of its bits is set. -/
lemma eq_zero_iff_bit (w : UInt64) : w = 0 ↔ ∀ b, bit w b = false := by
  constructor
  · rintro rfl b
    exact bit_zero b
  · intro h
    exact UInt64.toNat_inj.1 (Nat.eq_of_testBit_eq fun b => (h b).trans (Nat.zero_testBit b).symm)

/-- Words with the same bits are equal. -/
lemma ext_bit {w w' : UInt64} (h : ∀ b, bit w b = bit w' b) : w = w' :=
  UInt64.toNat_inj.1 (Nat.eq_of_testBit_eq h)

/-- Masking a word with a single bit leaves a word that is not clear exactly when the bit is
set. -/
lemma and_single_ne_zero (w : UInt64) {b : Nat} (h : b < 64) :
    (w &&& single b != 0) = bit w b := by
  cases hb : bit w b with
  | true =>
    have hne : w &&& single b ≠ 0 := fun h0 => by
      have := (eq_zero_iff_bit _).1 h0 b
      rw [bit_and, hb, bit_single h] at this
      simp at this
    simpa using hne
  | false =>
    have h0 : w &&& single b = 0 := (eq_zero_iff_bit _).2 fun b' => by
      rw [bit_and, bit_single h]
      by_cases hb' : b' = b
      · rw [hb', hb, Bool.false_and]
      · simp [hb']
    simp [h0]

/-! ### The lowest set bit -/

/-- A word that is not clear has a set bit below 64. -/
lemma exists_bit_of_ne_zero {w : UInt64} (h : w ≠ 0) : ∃ b < 64, bit w b = true := by
  obtain ⟨b, hb⟩ : ∃ b, bit w b = true := by
    by_contra hnone
    exact h ((eq_zero_iff_bit w).2 fun b => by simpa using not_exists.1 hnone b)
  refine ⟨b, Nat.lt_of_not_le fun hle => ?_, hb⟩
  rw [bit_of_le hle] at hb
  cases hb

lemma trailingZeros_lt {w : UInt64} (h : w ≠ 0) : trailingZeros w < 64 := by
  obtain ⟨b, hb64, hb⟩ := exists_bit_of_ne_zero h
  have := List.findIdx_lt_length_of_exists ⟨b, List.mem_range.2 hb64, hb⟩
  simpa [trailingZeros] using this

/-- The count of trailing zeros of a word that is not clear is its lowest set bit. -/
lemma bit_trailingZeros {w : UInt64} (h : w ≠ 0) : bit w (trailingZeros w) = true := by
  have hlt : (List.range 64).findIdx (bit w) < (List.range 64).length := by
    rw [List.length_range]
    exact trailingZeros_lt h
  have := List.findIdx_getElem (w := hlt)
  simpa [trailingZeros] using this

lemma bit_of_lt_trailingZeros {w : UInt64} {b : Nat} (hb : b < trailingZeros w) :
    bit w b = false := by
  have := List.not_of_lt_findIdx hb
  simpa using this

/-- Clearing the lowest set bit: `w &&& (w - 1)` holds every set bit of `w` but the lowest. -/
lemma bit_and_sub_one {w : UInt64} (h : w ≠ 0) (b : Nat) :
    bit (w &&& (w - 1)) b = (bit w b && b != trailingZeros w) := by
  have ht := bit_trailingZeros h
  have hbelow : ∀ j < trailingZeros w, bit w j = false := fun j hj => bit_of_lt_trailingZeros hj
  generalize trailingZeros w = t at ht hbelow
  have hlt : 2 ^ t < 2 ^ (t + 1) := Nat.pow_lt_pow_succ (by decide)
  -- below its lowest set bit `t` the word is `2 ^ t`, so it is `2 ^ (t + 1) * q + 2 ^ t`
  have hsplit : w.toNat = 2 ^ (t + 1) * (w.toNat / 2 ^ (t + 1)) + 2 ^ t := by
    apply Nat.eq_of_testBit_eq
    intro j
    rw [Nat.testBit_two_pow_mul_add _ hlt, Nat.testBit_div_two_pow, Nat.testBit_two_pow]
    split
    · rcases Nat.lt_or_ge j t with hj | hj
      · rw [show w.toNat.testBit j = false from hbelow j hj]
        simp
        omega
      · have hjt : j = t := by omega
        subst hjt
        rw [show w.toNat.testBit j = true from ht]
        simp
    · congr 1
      omega
  generalize w.toNat / 2 ^ (t + 1) = q at hsplit
  have hpos : 1 ≤ 2 ^ t := Nat.one_le_two_pow
  have hone : (1 : UInt64) ≤ w := UInt64.le_iff_toNat_le.2 (by simp; omega)
  have hsub : (w - 1).toNat = 2 ^ (t + 1) * q + (2 ^ t - 1) := by
    rw [UInt64.toNat_sub_of_le _ _ hone, hsplit]
    simp
    omega
  simp only [bit, UInt64.toNat_and, Nat.testBit_and, hsub]
  rw [hsplit, Nat.testBit_two_pow_mul_add _ hlt, Nat.testBit_two_pow_mul_add _ (by omega),
    Nat.testBit_two_pow, Nat.testBit_two_pow_sub_one]
  rcases Nat.lt_trichotomy b t with hb | rfl | hb
  · simp [hb, Nat.ne_of_lt hb, Nat.lt_succ_of_lt hb]
  · simp
  · simp [Nat.not_lt.2 hb, Nat.ne_of_gt hb]

/-! ### The set bits of a word -/

/-- The set bits of a word, in ascending order. -/
def bits (w : UInt64) : List Nat := (List.range 64).filter (bit w)

@[simp] lemma mem_bits {w : UInt64} {b : Nat} : b ∈ bits w ↔ bit w b = true := by
  simp only [bits, List.mem_filter, List.mem_range, and_iff_right_iff_imp]
  intro hb
  exact Nat.lt_of_not_le fun hle => by rw [bit_of_le hle] at hb; cases hb

lemma bits_ascending (w : UInt64) : (bits w).Pairwise (· < ·) :=
  List.pairwise_lt_range.filter _

@[simp] lemma bits_zero : bits 0 = [] := by
  simp [bits]

/-- The set bits of a word that is not clear are its lowest set bit, then those left once it is
cleared. -/
lemma bits_eq_cons {w : UInt64} (h : w ≠ 0) :
    bits w = trailingZeros w :: bits (w &&& (w - 1)) := by
  apply List.Pairwise.eq_of_mem_iff (bits_ascending w)
  · refine List.Pairwise.cons (fun b hb => ?_) (bits_ascending _)
    rw [mem_bits, bit_and_sub_one h] at hb
    simp only [Bool.and_eq_true, bne_iff_ne, ne_eq] at hb
    exact Nat.lt_of_le_of_ne (Nat.le_of_not_lt fun hlt => by
      rw [bit_of_lt_trailingZeros hlt] at hb
      exact Bool.false_ne_true hb.1) (Ne.symm hb.2)
  · intro b
    rw [List.mem_cons, mem_bits, mem_bits, bit_and_sub_one h]
    by_cases hb : b = trailingZeros w
    · simp [hb, bit_trailingZeros h]
    · simp [hb]

/-- A word's count of ones is the number of its set bits. -/
lemma countOnes_eq_length_bits (w : UInt64) : countOnes w = (bits w).length := by
  -- induction along the clearing of the lowest set bit, the recursion of `countOnes`
  fun_induction countOnes w with
  | case1 => rw [bits_zero, List.length_nil]
  | case2 w h ih => rw [ih, bits_eq_cons h, List.length_cons]

end Word

namespace BitSet

/-- The indices that word `k` of a bit set stands for: its set bits, past `64 * k`. -/
def block (words : Array UInt64) (k : Nat) : List Nat :=
  (Word.bits (words.getD k 0)).map (k * 64 + ·)

namespace Iter

/-- The indices an iteration has still to yield: the set bits of the current word, then the
blocks of the later words. -/
def pending (it : Iter) : List Nat :=
  (Word.bits it.current).map (it.wordIndex * 64 + ·) ++
    (List.range (it.words.size - (it.wordIndex + 1))).flatMap fun k =>
      block it.words (it.wordIndex + 1 + k)

/-- One step of an iteration yields the first pending index, and the rest stay pending; when no
step is left, nothing is pending. -/
theorem pending_eq_next (it : Iter) :
    it.pending = match it.next with
      | none => []
      | some (i, it') => i :: it'.pending := by
  fun_induction next it with
  | case1 it hcur =>
    -- the lowest set bit of the current word, which is then cleared
    simp only [pending, Word.bits_eq_cons hcur, List.map_cons, List.cons_append]
  | case2 it hcur hend =>
    simp only [ne_eq, Decidable.not_not] at hcur
    simp [pending, hcur, Nat.sub_eq_zero_of_le hend]
  | case3 it hcur hend ih =>
    -- the current word is spent: the next word becomes the current one
    simp only [ne_eq, Decidable.not_not] at hcur
    rw [← ih]
    obtain ⟨n, hn⟩ : ∃ n, it.words.size - (it.wordIndex + 1) = n + 1 :=
      ⟨it.words.size - (it.wordIndex + 1) - 1, by omega⟩
    simp only [pending, hcur, Word.bits_zero, List.map_nil, List.nil_append, hn,
      List.range_succ_eq_map, List.flatMap_cons, List.flatMap_map, block]
    have hrest : it.words.size - (it.wordIndex + 1 + 1) = n := by omega
    rw [hrest]
    congr 2
    funext k
    rw [Nat.succ_eq_add_one, show it.wordIndex + 1 + (k + 1) = it.wordIndex + 1 + 1 + k by omega]

/-- An iteration yields exactly its pending indices. -/
theorem toList_eq_pending (it : Iter) : it.toList = it.pending := by
  fun_induction toList it with
  | case1 it h => rw [pending_eq_next, h]
  | case2 it i it' h ih => rw [pending_eq_next, h, ih]

end Iter

/-- Iterating a bit set yields the blocks of its words in order. -/
theorem toList_eq_flatMap (s : BitSet) :
    s.toList = (List.range s.words.size).flatMap (block s.words) := by
  rw [toList, Iter.toList_eq_pending]
  simp only [iter, Iter.pending]
  rcases Nat.eq_zero_or_pos s.words.size with h0 | hpos
  · have hw : s.words.getD 0 0 = 0 := by simp [Array.getD_eq_getD_getElem?, h0]
    simp [hw, h0]
  · obtain ⟨n, hn⟩ : ∃ n, s.words.size = n + 1 := ⟨_, (Nat.succ_pred_eq_of_pos hpos).symm⟩
    simp only [hn, List.range_succ_eq_map, List.flatMap_cons, List.flatMap_map, block,
      Nat.add_sub_cancel, Nat.zero_mul, Nat.succ_eq_add_one, Nat.zero_add]
    congr 2
    funext k
    rw [Nat.add_comm 1 k]

end BitSet

end StoredDocs
