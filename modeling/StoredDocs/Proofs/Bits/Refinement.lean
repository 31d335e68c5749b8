import Mathlib
import StoredDocs.Proofs.Bits.Words
import StoredDocs.Session.Bits

/-!
# Bit sets hold finite sets of indices

A bit set of length `len` stands for the finite set of the indices below `len` whose bits are
set in its words (`BitSet.view`). It is well formed when it has one word for every 64 indices,
rounding up, and no bit at or past its length is set. This module says what each operation does
to the bits of the words, and so to that set, and proves that a script run on a new bit set
answers, step for step, as the same script run on the set itself (`BitStep.spec`): setting an
index below the length inserts it and tells whether it was there, resetting one removes it,
setting or resetting an index at or past the length aborts and changes nothing, a range reset
removes the indices of the range cut at the length and no other, and clearing empties the set.

The main statement, `runBits_refines_finset`, adds what holds of every state along such a run:
the words stay as many as the length needs and keep every bit past the length clear, the count
of set bits is the size of the set and at most the length, and the iteration over the words
yields the set in strictly ascending order.
-/

namespace StoredDocs

namespace BitSet

/-- Whether the bit of index `i` is set: bit `i % 64` of word `i / 64`. -/
def bitAt (s : BitSet) (i : Nat) : Bool := Word.bit (s.word (i / 64)) (i % 64)

/-- The indices below the length whose bits are set, in ascending order. -/
def members (s : BitSet) : List Nat := (List.range s.len).filter s.bitAt

/-- The set of indices a bit set holds. -/
def view (s : BitSet) : Finset Nat := s.members.toFinset

/-- A bit set is well formed when it has `⌈len / 64⌉` words and no bit at or past its length is
set. -/
structure WellFormed (s : BitSet) : Prop where
  size_words : s.words.size = (s.len + 63) / 64
  tail_clear : ∀ i, s.len ≤ i → s.bitAt i = false

@[simp] lemma mem_members {s : BitSet} {i : Nat} : i ∈ s.members ↔ i < s.len ∧ s.bitAt i = true := by
  simp [members]

@[simp] lemma mem_view {s : BitSet} {i : Nat} : i ∈ s.view ↔ i < s.len ∧ s.bitAt i = true := by
  simp [view]

lemma members_ascending (s : BitSet) : s.members.Pairwise (· < ·) :=
  List.pairwise_lt_range.filter _

/-- A bit set holds an index exactly when the index is below the length and its bit is set. -/
lemma contains_eq_decide (s : BitSet) (i : Nat) : s.contains i = decide (i ∈ s.view) := by
  by_cases h : s.len ≤ i
  · simp [contains, h, Nat.not_lt.2 h]
  · rw [contains, if_neg h, Word.and_single_ne_zero _ (Nat.mod_lt _ (by decide))]
    simp [Nat.lt_of_not_le h, bitAt]

/-- Keeping a bit outside a range keeps it as it is. -/
lemma and_not_range {x : Bool} {a b j : Nat} (h : ¬(a ≤ j ∧ j < b)) :
    (x && !(decide (a ≤ j) && decide (j < b))) = x := by
  rw [← Bool.decide_and, decide_eq_false h, Bool.not_false, Bool.and_true]

/-! ### Reading words after a change -/

/-- Changing word `k` by `f` changes what word `k` reads and no other word; `f` keeps the clear
word clear, or word `k` exists. -/
lemma getD_modify (a : Array UInt64) (k : Nat) (f : UInt64 → UInt64) (hf : k < a.size ∨ f 0 = 0)
    (j : Nat) : (a.modify k f).getD j 0 = if j = k then f (a.getD j 0) else a.getD j 0 := by
  rw [Array.getD_eq_getD_getElem?, Array.getElem?_modify, Array.getD_eq_getD_getElem?]
  by_cases hjk : j = k
  · subst hjk
    rw [if_pos rfl, if_pos rfl]
    rcases hf with hk | h0
    · rw [Array.getElem?_eq_getElem hk]
      rfl
    · cases a[j]? <;> simp [h0]
  · rw [if_neg (Ne.symm hjk), if_neg hjk]

/-- Mapping every word by its position reads as the map of each word; the map keeps clear words
clear. -/
lemma getD_mapIdx (a : Array UInt64) {g : Nat → UInt64 → UInt64} (hg : ∀ k, g k 0 = 0)
    (j : Nat) : (a.mapIdx g).getD j 0 = g j (a.getD j 0) := by
  rw [Array.getD_eq_getD_getElem?, Array.getElem?_mapIdx, Array.getD_eq_getD_getElem?]
  cases a[j]? <;> simp [hg]

/-! ### One lemma per operation -/

@[simp] lemma bitAt_new (len i : Nat) : (new len).bitAt i = false := by
  simp only [bitAt, word, new, Array.getD_eq_getD_getElem?, Array.getElem?_replicate]
  split <;> simp

lemma wellFormed_new (len : Nat) : (new len).WellFormed where
  size_words := Array.size_replicate
  tail_clear i _ := bitAt_new len i

@[simp] lemma view_new (len : Nat) : (new len).view = ∅ := by
  ext i
  simp

/-- Setting an index below the length sets its bit and no other. -/
lemma bitAt_set {s : BitSet} (hs : s.WellFormed) {i : Nat} (h : i < s.len) (j : Nat) :
    (s.set i h).2.bitAt j = (s.bitAt j || decide (j = i)) := by
  have hword : i / 64 < s.words.size := by
    rw [hs.size_words]
    omega
  simp only [set, bitAt, word]
  rw [getD_modify s.words _ _ (Or.inl hword)]
  split
  · rw [Word.bit_or, Word.bit_single (Nat.mod_lt _ (by decide))]
    congr 1
    exact decide_eq_decide.2 (by omega)
  · have : j ≠ i := by omega
    simp [this]

/-- Setting an index reports whether its bit was set. -/
lemma set_fst (s : BitSet) {i : Nat} (h : i < s.len) : (s.set i h).1 = s.bitAt i :=
  Word.and_single_ne_zero _ (Nat.mod_lt _ (by decide))

lemma WellFormed.set {s : BitSet} (hs : s.WellFormed) {i : Nat} (h : i < s.len) :
    (s.set i h).2.WellFormed where
  size_words := by
    simp only [BitSet.set, Array.size_modify]
    exact hs.size_words
  tail_clear j hj := by
    rw [bitAt_set hs h, hs.tail_clear j hj]
    simp only [len_set] at hj
    simp
    omega

lemma view_set {s : BitSet} (hs : s.WellFormed) {i : Nat} (h : i < s.len) :
    (s.set i h).2.view = insert i s.view := by
  ext j
  rw [mem_view, Finset.mem_insert, mem_view, bitAt_set hs h, len_set]
  by_cases hj : j = i
  · simp [hj, h]
  · simp [hj]

/-- Setting indices in turn sets their bits and no other, and keeps a bit set well formed. -/
lemma setAll_spec {s : BitSet} (hs : s.WellFormed) (is : List Nat) (h : ∀ i ∈ is, i < s.len) :
    (s.setAll is h).WellFormed ∧ ∀ j, (s.setAll is h).bitAt j = (s.bitAt j || decide (j ∈ is)) := by
  -- induction on the indices, for every well-formed set they start from
  induction is generalizing s with
  | nil => exact ⟨hs, fun j => by simp [setAll]⟩
  | cons i is ih =>
    have hi : i < s.len := h i List.mem_cons_self
    obtain ⟨hwf, hbits⟩ := ih (hs.set hi) fun j hj => h j (List.mem_cons_of_mem i hj)
    refine ⟨hwf, fun j => ?_⟩
    rw [setAll, hbits, bitAt_set hs hi]
    simp only [List.mem_cons, Bool.decide_or, Bool.or_assoc]

/-- Setting indices in turn adds them to the set of indices. -/
lemma WellFormed.view_setAll {s : BitSet} (hs : s.WellFormed) (is : List Nat)
    (h : ∀ i ∈ is, i < s.len) : (s.setAll is h).view = s.view ∪ is.toFinset := by
  ext j
  rw [mem_view, (setAll_spec hs is h).2, len_setAll, Finset.mem_union, mem_view,
    List.mem_toFinset]
  constructor
  · rintro ⟨hj, hbit⟩
    cases hb : s.bitAt j
    · rw [hb, Bool.false_or, decide_eq_true_eq] at hbit
      exact Or.inr hbit
    · exact Or.inl ⟨hj, rfl⟩
  · rintro (⟨hj, hb⟩ | hj)
    · exact ⟨hj, by rw [hb, Bool.true_or]⟩
    · exact ⟨h j hj, by simp [hj]⟩

lemma set?_of_lt {s : BitSet} {i : Nat} (h : i < s.len) :
    s.set? i = some (s.bitAt i, (s.set i h).2) := by
  rw [set?, dif_pos h, ← set_fst s h]

lemma reset?_of_lt {s : BitSet} {i : Nat} (h : i < s.len) :
    s.reset? i = some { s with words := s.words.modify (i / 64) (· &&& ~~~Word.single (i % 64)) } := by
  rw [reset?, if_pos h]

lemma reset?_of_le {s : BitSet} {i : Nat} (h : s.len ≤ i) : s.reset? i = none := by
  rw [reset?, if_neg (Nat.not_lt.2 h)]

/-- Resetting an index clears its bit and no other. -/
lemma bitAt_reset (s : BitSet) (i j : Nat) :
    ({ s with words := s.words.modify (i / 64) (· &&& ~~~Word.single (i % 64)) } : BitSet).bitAt j =
      (s.bitAt j && !decide (j = i)) := by
  simp only [bitAt, word]
  rw [getD_modify s.words _ (· &&& _) (Or.inr UInt64.zero_and)]
  split
  · rw [Word.bit_and, Word.bit_not, Word.bit_single (Nat.mod_lt _ (by decide))]
    have hb : j % 64 < 64 := Nat.mod_lt _ (by decide)
    simp only [hb, decide_true, Bool.true_and]
    congr 2
    exact decide_eq_decide.2 (by omega)
  · have : j ≠ i := by omega
    simp [this]

lemma WellFormed.reset {s : BitSet} (hs : s.WellFormed) (i : Nat) :
    ({ s with words := s.words.modify (i / 64) (· &&& ~~~Word.single (i % 64)) } : BitSet).WellFormed where
  size_words := by
    simp only [Array.size_modify]
    exact hs.size_words
  tail_clear j hj := by
    rw [bitAt_reset, hs.tail_clear j hj, Bool.false_and]

lemma view_reset (s : BitSet) (i : Nat) :
    ({ s with words := s.words.modify (i / 64) (· &&& ~~~Word.single (i % 64)) } : BitSet).view =
      s.view.erase i := by
  ext j
  rw [mem_view, Finset.mem_erase, mem_view, bitAt_reset]
  by_cases hj : j = i
  · simp [hj]
  · simp [hj]

/-- A range reset clears the bits of the range cut at the length and no other. Within one word
one mask clears the range; across words the first word keeps its bits below the start, the
words in between are cleared, and the last keeps its bits from the end on. -/
lemma bitAt_resetRange (s : BitSet) (start stop j : Nat) :
    (s.resetRange start stop).bitAt j =
      (s.bitAt j && !(decide (start ≤ j) && decide (j < min stop s.len))) := by
  have hb : j % 64 < 64 := Nat.mod_lt _ (by decide)
  have hsb : start % 64 < 64 := Nat.mod_lt _ (by decide)
  have heb : min stop s.len % 64 < 64 := Nat.mod_lt _ (by decide)
  unfold resetRange
  dsimp only
  split
  · -- the range cut at the length is empty
    exact (and_not_range (by omega)).symm
  · split
    · -- one word holds the whole range, and one mask clears it
      simp only [bitAt, word]
      rw [getD_modify s.words _ (· &&& _) (Or.inr UInt64.zero_and)]
      split
      · simp only [Word.bit_and, Word.bit_not, Word.bit_lowMask heb, Word.bit_lowMask hsb, hb,
          decide_true, Bool.true_and]
        congr 2
        simp only [← decide_not, ← Bool.decide_and]
        exact decide_eq_decide.2 (by omega)
      · exact (and_not_range (by omega)).symm
    · -- the range spans words: the first keeps its bits below the start, the words in between
      -- are cleared, and the last, when the range ends inside it, keeps its bits from the end on
      have hmid : ∀ k, (if start / 64 + 1 ≤ k ∧ k < min stop s.len / 64 then (0 : UInt64)
          else 0) = 0 :=
        fun k => by split <;> rfl
      simp only [bitAt, word]
      split
      · rw [getD_modify _ _ (· &&& _) (Or.inr UInt64.zero_and), getD_mapIdx _ hmid,
          getD_modify _ _ (· &&& _) (Or.inr UInt64.zero_and)]
        split_ifs <;>
          simp -failIfUnchanged only [Word.bit_and, Word.bit_not, Word.bit_lowMask heb, Word.bit_lowMask hsb,
            Word.bit_zero, hb, decide_true, Bool.true_and] <;>
          cases Word.bit (s.words.getD (j / 64) 0) (j % 64) <;> rw [Bool.eq_iff_iff] <;> simp <;> omega
      · rw [getD_mapIdx _ hmid, getD_modify _ _ (· &&& _) (Or.inr UInt64.zero_and)]
        split_ifs <;>
          simp -failIfUnchanged only [Word.bit_and, Word.bit_lowMask hsb, Word.bit_zero] <;>
          cases Word.bit (s.words.getD (j / 64) 0) (j % 64) <;> rw [Bool.eq_iff_iff] <;> simp <;> omega

@[simp] lemma size_resetRange (s : BitSet) (start stop : Nat) :
    (s.resetRange start stop).words.size = s.words.size := by
  unfold BitSet.resetRange
  dsimp only
  split
  · rfl
  · split
    · exact Array.size_modify
    · split <;> simp

lemma WellFormed.resetRange {s : BitSet} (hs : s.WellFormed) (start stop : Nat) :
    (s.resetRange start stop).WellFormed where
  size_words := by rw [len_resetRange, size_resetRange, hs.size_words]
  tail_clear j hj := by
    rw [len_resetRange] at hj
    rw [bitAt_resetRange, hs.tail_clear j hj, Bool.false_and]

/-- Bit sets of one length, with as many words and the same bits, are equal. -/
lemma ext_bitAt {s t : BitSet} (hlen : s.len = t.len) (hsize : s.words.size = t.words.size)
    (h : ∀ i, s.bitAt i = t.bitAt i) : s = t := by
  obtain ⟨len, ws⟩ := s
  obtain ⟨len', ws'⟩ := t
  simp only at hlen hsize
  subst hlen
  congr 1
  refine Array.ext hsize fun k hk hk' => Word.ext_bit fun b => ?_
  by_cases hb : b < 64
  · -- bit `b` of word `k` is the bit of index `64 * k + b`
    have hbit := h (64 * k + b)
    have hdiv : (64 * k + b) / 64 = k := by omega
    have hmod : (64 * k + b) % 64 = b := by omega
    simpa [bitAt, word, hdiv, hmod, Array.getD_eq_getD_getElem?, Array.getElem?_eq_getElem hk,
      Array.getElem?_eq_getElem hk'] using hbit
  · rw [Word.bit_of_le (by omega), Word.bit_of_le (by omega)]

/-- Resetting a range twice leaves what resetting it once leaves. -/
lemma resetRange_resetRange (s : BitSet) (start stop : Nat) :
    (s.resetRange start stop).resetRange start stop = s.resetRange start stop := by
  refine ext_bitAt (len_resetRange ..) (size_resetRange ..) fun j => ?_
  rw [bitAt_resetRange, bitAt_resetRange, len_resetRange, Bool.and_assoc, Bool.and_self]

/-- Resetting a range of an empty set leaves it as it is. -/
lemma resetRange_new (len start stop : Nat) : (new len).resetRange start stop = new len := by
  refine ext_bitAt (len_resetRange ..) (size_resetRange ..) fun j => ?_
  rw [bitAt_resetRange, bitAt_new, Bool.false_and]

lemma view_resetRange (s : BitSet) (start stop : Nat) :
    (s.resetRange start stop).view =
      s.view.filter fun x => ¬(start ≤ x ∧ x < min stop s.len) := by
  ext j
  rw [mem_view, Finset.mem_filter, mem_view, bitAt_resetRange, len_resetRange]
  simp only [Bool.and_eq_true, Bool.not_eq_true', Bool.and_eq_false_imp, decide_eq_true_eq,
    decide_eq_false_iff_not]
  constructor
  · rintro ⟨hj, hbit, hout⟩
    exact ⟨⟨hj, hbit⟩, fun h => hout h.1 h.2⟩
  · rintro ⟨⟨hj, hbit⟩, hout⟩
    exact ⟨hj, hbit, fun h1 h2 => hout ⟨h1, h2⟩⟩

@[simp] lemma bitAt_clear (s : BitSet) (j : Nat) : s.clear.bitAt j = false := by
  simp only [bitAt, word, clear, Array.getD_eq_getD_getElem?, Array.getElem?_map]
  cases s.words[j / 64]? <;> simp

lemma WellFormed.clear {s : BitSet} (hs : s.WellFormed) : s.clear.WellFormed where
  size_words := by
    simp only [BitSet.clear, Array.size_map]
    exact hs.size_words
  tail_clear j _ := bitAt_clear s j

@[simp] lemma view_clear (s : BitSet) : s.clear.view = ∅ := by
  ext j
  simp

/-! ### Counting and listing -/

/-- The words' blocks up to word `n` are the set bits below `64 * n`. -/
lemma flatMap_block (s : BitSet) (n : Nat) :
    (List.range n).flatMap (block s.words) = (List.range (n * 64)).filter s.bitAt := by
  induction n with
  | zero => rfl
  | succ n ih =>
    rw [List.range_succ, List.flatMap_append, ih, Nat.succ_mul, List.range_add, List.filter_append,
      List.filter_map]
    simp only [List.flatMap_cons, List.flatMap_nil, List.append_nil, block, Word.bits]
    congr 2
    apply List.filter_congr
    intro b hb
    have hb64 : b < 64 := List.mem_range.1 hb
    simp only [Function.comp, bitAt]
    rw [show (n * 64 + b) / 64 = n by omega, show (n * 64 + b) % 64 = b by omega]
    rfl

/-- Iterating a well-formed bit set yields its members: the words hold no bit past the length. -/
lemma WellFormed.toList_eq_members {s : BitSet} (hs : s.WellFormed) : s.toList = s.members := by
  rw [toList_eq_flatMap, flatMap_block, hs.size_words]
  have hcover : s.len ≤ (s.len + 63) / 64 * 64 := by omega
  -- the indices from the length to the end of the last word hold no bit
  have hpast : ((List.range ((s.len + 63) / 64 * 64 - s.len)).map (s.len + ·)).filter s.bitAt = [] :=
    List.filter_eq_nil_iff.2 fun i hi => by
      obtain ⟨k, -, rfl⟩ := List.mem_map.1 hi
      rw [hs.tail_clear _ (Nat.le_add_right _ _)]
      exact Bool.false_ne_true
  rw [← Nat.add_sub_cancel' hcover, List.range_add, List.filter_append, hpast, List.append_nil]
  rfl

/-- The count of set bits is the number of indices the iteration yields. -/
lemma countOnes_eq_length_toList (s : BitSet) : s.countOnes = s.toList.length := by
  have hwords : s.words.toList.map Word.countOnes =
      (List.range s.words.size).map fun k => (block s.words k).length := by
    apply List.ext_getElem (by simp)
    intro k h₁ h₂
    simp only [List.getElem_map, Array.getElem_toList, List.getElem_range, block, List.length_map,
      Word.countOnes_eq_length_bits]
    rw [Array.getD_eq_getD_getElem?, Array.getElem?_eq_getElem (by simpa using h₁)]
    rfl
  have hsum : s.countOnes = (s.words.toList.map Word.countOnes).sum := by
    rw [countOnes, ← Array.foldl_toList, List.sum_eq_foldl_nat, List.foldl_map]
  rw [hsum, hwords, toList_eq_flatMap, List.length_flatMap]

/-- The count of set bits of a well-formed bit set is the size of its set of indices. -/
lemma WellFormed.countOnes_eq_card {s : BitSet} (hs : s.WellFormed) :
    s.countOnes = s.view.card := by
  rw [countOnes_eq_length_toList, hs.toList_eq_members, view,
    List.toFinset_card_of_nodup (s.members_ascending.imp Nat.ne_of_lt)]

/-- Every held index is below the length, so there are at most that many. -/
lemma card_view_le (s : BitSet) : s.view.card ≤ s.len := by
  have hsub : s.view ⊆ Finset.range s.len := fun x hx => Finset.mem_range.2 (mem_view.1 hx).1
  simpa using Finset.card_le_card hsub

/-- Iterating a well-formed bit set yields its set of indices in ascending order. -/
lemma WellFormed.toList_eq_sort {s : BitSet} (hs : s.WellFormed) : s.toList = s.view.sort := by
  rw [hs.toList_eq_members, view, (List.toFinset_sort _ (s.members_ascending.imp Nat.ne_of_lt)).2
    (s.members_ascending.imp Nat.le_of_lt)]

end BitSet

namespace Session

/-- The answer and the set of indices after a bit-set step, on the set of indices of a bit set
of length `len`: the specification that bit sets refine. -/
def BitStep.spec (len : Nat) (S : Finset Nat) : BitStep → Outcome BitReply × Finset Nat
  | .set i =>
    if i < len then (.ok (.previous (decide (i ∈ S))), insert i S)
    else (.error (.abort (BitSet.outOfBounds i len)), S)
  | .reset i =>
    if i < len then (.ok .done, S.erase i)
    else (.error (.abort (BitSet.outOfBounds i len)), S)
  | .resetRange start stop => (.ok .done, S.filter fun x => ¬(start ≤ x ∧ x < min stop len))
  | .clear => (.ok .done, ∅)
  | .contains i => (.ok (.contains (decide (i ∈ S))), S)
  | .describe =>
    (.ok (.description ("BitSet \x7b len: " ++ toString len ++ ", count_ones: " ++
      toString S.card ++ " \x7d")), S)

/-- One step on a well-formed bit set answers as the specification on its set of indices, and
leaves a well-formed bit set of the same length. -/
theorem BitStep.run_refines {s : BitSet} (hs : s.WellFormed) (b : BitStep) :
    ((b.run s).1, (b.run s).2.view) = b.spec s.len s.view ∧
      (b.run s).2.len = s.len ∧ (b.run s).2.WellFormed := by
  cases b with
  | set i =>
    by_cases h : i < s.len
    · have hrun : (BitStep.set i).run s =
          (.ok (.previous (decide (i ∈ s.view))), (s.set i h).2) := by
        rw [run, BitSet.set?_of_lt h]
        simp [h]
      rw [hrun, spec, if_pos h, BitSet.view_set hs h, BitSet.len_set]
      exact ⟨rfl, rfl, hs.set h⟩
    · have hrun : (BitStep.set i).run s = (.error (.abort (BitSet.outOfBounds i s.len)), s) := by
        rw [run, BitSet.set?, dif_neg h]
      rw [hrun, spec, if_neg h]
      exact ⟨rfl, rfl, hs⟩
  | reset i =>
    by_cases h : i < s.len
    · rw [run, BitSet.reset?_of_lt h, spec, if_pos h, BitSet.view_reset]
      exact ⟨rfl, rfl, hs.reset i⟩
    · rw [run, BitSet.reset?_of_le (Nat.le_of_not_lt h), spec, if_neg h]
      exact ⟨rfl, rfl, hs⟩
  | resetRange start stop =>
    rw [run, spec, BitSet.view_resetRange]
    exact ⟨rfl, BitSet.len_resetRange s start stop, hs.resetRange start stop⟩
  | clear =>
    rw [run, spec, BitSet.view_clear]
    exact ⟨rfl, rfl, hs.clear⟩
  | contains i =>
    rw [run, spec, BitSet.contains_eq_decide]
    exact ⟨rfl, rfl, hs⟩
  | describe =>
    -- unfolded by `delta`: the equation lemma of `describe` would compare string literals
    rw [run, spec]
    delta BitSet.describe
    rw [hs.countOnes_eq_card]
    exact ⟨rfl, rfl, hs⟩

/-- A script run from a well-formed bit set answers as the specification run from its set of
indices, and every state along the run is well formed, of the starting length. -/
theorem trace_run_refines (s : BitSet) (hs : s.WellFormed) (steps : List BitStep) :
    (trace BitStep.run s steps).map (fun p => (p.1, p.2.view)) =
        trace (BitStep.spec s.len) s.view steps ∧
      ∀ p ∈ trace BitStep.run s steps, p.2.len = s.len ∧ p.2.WellFormed := by
  -- induction on the script from its first step, for every state it starts from
  induction steps generalizing s with
  | nil => simp [trace]
  | cons b steps ih =>
    obtain ⟨hstep, hlen, hwf⟩ := BitStep.run_refines hs b
    obtain ⟨hmap, hall⟩ := ih (b.run s).2 hwf
    rw [hlen] at hmap hall
    refine ⟨?_, ?_⟩
    · simp only [trace, List.map_cons, hmap, ← hstep]
    · simp only [trace, List.mem_cons, forall_eq_or_imp]
      exact ⟨⟨hlen, hwf⟩, hall⟩

/-- A bit set refines the finite set of its indices: any script run on a new bit set of length
`len` answers as the specification run from the empty set, and every state has `⌈len / 64⌉`
words, no bit at or past `len`, a count of ones that is the set's size, and an ascending
iteration. -/
theorem runBits_refines_finset (len : Nat) (steps : List BitStep) :
    (runBits len steps).map (fun p => (p.1, p.2.view)) = trace (BitStep.spec len) ∅ steps ∧
    ∀ p ∈ runBits len steps, p.2.len = len ∧ p.2.words.size = (len + 63) / 64 ∧
      (∀ i, len ≤ i → p.2.bitAt i = false) ∧
      (∀ i, p.2.contains i = decide (i ∈ p.2.view)) ∧
      p.2.countOnes = p.2.view.card ∧ p.2.view.card ≤ len ∧
      p.2.toList.Pairwise (· < ·) ∧ p.2.toList = p.2.view.sort := by
  obtain ⟨hmap, hall⟩ := trace_run_refines (BitSet.new len) (BitSet.wellFormed_new len) steps
  rw [BitSet.view_new] at hmap
  refine ⟨hmap, fun p hp => ?_⟩
  obtain ⟨hlen, hwf⟩ := hall p hp
  change p.2.len = len at hlen
  subst hlen
  refine ⟨rfl, hwf.size_words, hwf.tail_clear, BitSet.contains_eq_decide p.2,
    hwf.countOnes_eq_card, p.2.card_view_le, ?_, hwf.toList_eq_sort⟩
  rw [hwf.toList_eq_members]
  exact p.2.members_ascending

end Session

end StoredDocs
