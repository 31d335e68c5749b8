import Mathlib
import StoredDocs.Norms.Accumulator
import StoredDocs.Proofs.Bits.Refinement
import StoredDocs.Proofs.Norms.Doubling

/-!
# One accumulation of norms

A successful accumulation of a field's postings accepted every posting: each ordinal lies
below the capacity bound and each norm payload is one byte or none. It then did one of two
things. For no postings it changed nothing; otherwise it grew the field's norm array (a new
one of the initial length when the field had none) to hold a slot for every ordinal, wrote
each posting's norm byte into its slot, the later posting of an ordinal last, and added every
ordinal to the observed set.

`accumulate_eq_ok` says exactly that, and the lemmas around it say what the writes leave in a
norm array, so that statements about runs of a worker never unfold an accumulation.
-/

namespace StoredDocs

/-! ### Norm arrays -/

namespace NormArray

lemma lookup_writeSlot (i : Nat) (v : UInt8) (l : List (Nat × UInt8)) (j : Nat) :
    (writeSlot i v l).lookup j = if j = i then some v else l.lookup j := by
  induction l with
  | nil =>
    by_cases hji : j = i
    · subst hji
      simp [writeSlot]
    · simp [writeSlot, List.lookup, beq_false_of_ne hji, hji]
  | cons p rest ih =>
    obtain ⟨k, w⟩ := p
    by_cases hji : j = i
    · subst hji
      simp only [writeSlot]
      split_ifs with hlt heq
      · simp [List.lookup]
      · simp [List.lookup]
      · -- the slot is written further down, past the binding of `k`, which differs
        have hk : (j == k) = false := beq_false_of_ne (by omega)
        simp [List.lookup, hk, ih]
    · have hj : (j == i) = false := beq_false_of_ne hji
      simp only [writeSlot]
      split_ifs with hlt heq
      · simp [List.lookup, hj]
      · subst heq
        simp [List.lookup, hj]
      · simp only [List.lookup, ih, if_neg hji]

lemma lookup_set (a : NormArray) {i : Nat} (h : i < a.len) (v : UInt8) (j : Nat) :
    (a.set i h v).written.lookup j = if j = i then some v else a.written.lookup j :=
  lookup_writeSlot i v a.written j

/-- Writing bytes into slots in turn writes each into the list of written slots. -/
lemma written_setAll (a : NormArray) (ws : List (Nat × UInt8)) (h : ∀ w ∈ ws, w.1 < a.len) :
    (a.setAll ws h).written = ws.foldl (fun l w => writeSlot w.1 w.2 l) a.written := by
  induction ws generalizing a with
  | nil => rfl
  | cons w ws ih => exact ih _ _

@[simp] lemma written_growTo (a : NormArray) (minLen ceiling : Nat) :
    (a.growTo minLen ceiling).2.written = a.written := by
  unfold growTo
  split
  · rfl
  · dsimp only
    split <;> rfl

/-- A nonempty array grows to the length `grownLen` gives. -/
lemma len_growTo {a : NormArray} (h : 0 < a.len) (minLen ceiling : Nat) :
    (a.growTo minLen ceiling).2.len = Norms.grownLen a.len minLen ceiling := by
  have hmax : max a.len 1 = a.len := Nat.max_eq_left h
  have hgrown : Norms.grownLen a.len minLen ceiling = Norms.grow minLen ceiling a.len h :=
    Norms.grow_congr minLen ceiling _ h hmax
  have hle := Norms.le_grow minLen ceiling a.len h
  unfold growTo
  split
  · next hfit =>
    rw [hgrown, Norms.grow_of_not_lt minLen ceiling a.len h (by omega)]
  · dsimp only
    split
    · next hshort =>
      show a.len = _
      omega
    · rfl

end NormArray

/-! ### Postings -/

/-- The norm byte a posting contributes: its one payload byte, or the default norm when it
carries none. -/
def Posting.normByte (p : Posting) : UInt8 :=
  match p.norm with
  | some [b] => b
  | _ => defaultNorm

lemma Posting.eq_normByte_of_resolveNorm {p : Posting} {field : String} {b : UInt8}
    (h : p.resolveNorm field = .ok b) : b = p.normByte := by
  unfold resolveNorm at h
  unfold normByte
  split at h
  · next hn =>
    simp only [pure, Except.pure, Except.ok.injEq] at h
    rw [hn, ← h]
  · next b' hn =>
    simp only [pure, Except.pure, Except.ok.injEq] at h
    rw [hn, ← h]
  · cases h

/-- The shortest norm array with a slot for the ordinal of every posting. -/
def slotsNeeded (ps : List Posting) : Nat := ps.foldr (fun p n => max (p.ordinal.toNat + 1) n) 0

@[simp] lemma slotsNeeded_nil : slotsNeeded [] = 0 := rfl

lemma slotsNeeded_le_iff {ps : List Posting} {n : Nat} :
    slotsNeeded ps ≤ n ↔ ∀ p ∈ ps, p.ordinal.toNat < n := by
  induction ps with
  | nil => simp
  | cons p ps ih =>
    simp only [slotsNeeded, List.foldr_cons] at ih ⊢
    rw [Nat.max_le, ih, List.forall_mem_cons, Nat.add_one_le_iff]

lemma slotsNeeded_append (ps qs : List Posting) :
    slotsNeeded (ps ++ qs) = max (slotsNeeded ps) (slotsNeeded qs) := by
  induction ps with
  | nil => simp
  | cons p ps ih =>
    simp only [List.cons_append, slotsNeeded, List.foldr_cons] at ih ⊢
    rw [ih, Nat.max_assoc]

/-- The largest ordinal of some postings, when there is one, is the last slot they need. -/
lemma slotsNeeded_of_max? {ps : List Posting} {top : Nat}
    (h : (ps.map fun p => p.ordinal.toNat).max? = some top) : slotsNeeded ps = top + 1 := by
  obtain ⟨htop, hle⟩ := List.max?_eq_some_iff.1 h
  obtain ⟨p, hp, rfl⟩ := List.mem_map.1 htop
  apply Nat.le_antisymm
  · rw [slotsNeeded_le_iff]
    intro q hq
    have := hle _ (List.mem_map_of_mem hq)
    omega
  · have := (slotsNeeded_le_iff (n := slotsNeeded ps)).1 (Nat.le_refl _) p hp
    omega

/-! ### One accumulation -/

namespace NormAccumulator

/-- A successful resolution accepted every posting: each ordinal lies below the bound, and
each posting resolves to its norm byte. -/
theorem resolve_eq_ok {capacityBound : Nat} {field : String} {ps : List Posting}
    {rs : List (UInt32 × UInt8)} (h : resolve capacityBound field ps = .ok rs) :
    (∀ p ∈ ps, p.ordinal.toNat < capacityBound) ∧
      rs = ps.map fun p => (p.ordinal, p.normByte) := by
  induction ps generalizing rs with
  | nil =>
    simp only [resolve, pure, Except.pure, Except.ok.injEq] at h
    subst h
    simp
  | cons p ps ih =>
    simp only [resolve] at h
    by_cases hcap : capacityBound ≤ p.ordinal.toNat
    · simp [hcap, throw, throwThe, MonadExceptOf.throw, bind, Except.bind] at h
    · simp only [hcap, if_false, bind, Except.bind, pure, Except.pure] at h
      cases hb : p.resolveNorm field with
      | error e => simp [hb] at h
      | ok b =>
        cases hrest : resolve capacityBound field ps with
        | error e => simp [hb, hrest] at h
        | ok rest =>
          simp only [hb, hrest, Except.ok.injEq] at h
          obtain ⟨hbelow, rfl⟩ := ih hrest
          subst h
          refine ⟨?_, by rw [Posting.eq_normByte_of_resolveNorm hb, List.map_cons]⟩
          intro q hq
          rcases List.mem_cons.1 hq with rfl | hq
          · omega
          · exact hbelow q hq

variable {C : Type}

/-- Replacing the norm array of a field answers it for that field and leaves the others. -/
lemma norms?_replaceField {c c' : CacheSet C} {field : String} {a : NormArray}
    (h : c'.fieldNorms =
      some (Bindings.put ((c.fieldNorms.getD []).filter (·.1 != field)) field a)) (g : String) :
    c'.norms? g = if g = field then some a else c.norms? g := by
  simp only [CacheSet.norms?, h, Option.bind_some, Bindings.lookup_put, beq_iff_eq]
  split_ifs with hg
  · rfl
  · rw [Bindings.lookup_filter_ne _ hg]
    cases c.fieldNorms <;> rfl

lemma lookup_fieldNorms (c : CacheSet C) (field : String) :
    (c.fieldNorms.getD []).lookup field = c.norms? field := by
  unfold CacheSet.norms?
  cases c.fieldNorms <;> rfl

/-- What a successful accumulation did: with caches of the accumulator's bound, every ordinal
below the bound; for no postings nothing, and otherwise every ordinal observed and the field's
norm array grown to hold every ordinal and written posting by posting. -/
theorem accumulate_eq_ok {acc : NormAccumulator} {c c' : CacheSet C} {field : String}
    {ps : List Posting} (h : acc.accumulate c field ps = .ok c') :
    c.capacityBound = acc.capacityBound ∧ (∀ p ∈ ps, p.ordinal.toNat < acc.capacityBound) ∧
      (ps = [] ∧ c' = c ∨
        ps ≠ [] ∧ ∃ hobs hroom hlen, c' = { c with
          observed := some ((c.observed.getD (BitSet.new c.capacityBound)).setAll
            (ps.map fun p => p.ordinal.toNat) hobs)
          fieldNorms := some (Bindings.put ((c.fieldNorms.getD []).filter (·.1 != field)) field
            ((((c.norms? field).getD (NormArray.new acc.initialLen)).growTo (slotsNeeded ps)
              acc.capacityBound).2.setAll (ps.map fun p => (p.ordinal.toNat, p.normByte)) hroom))
          observed_len := hlen }) := by
  unfold accumulate at h
  split at h
  · cases h
  · next hcap =>
    split at h
    · cases h
    · next rs hr =>
      obtain ⟨hbelow, rfl⟩ := resolve_eq_ok hr
      refine ⟨by omega, hbelow, ?_⟩
      split at h
      · -- no postings: nothing is written
        next hnone =>
        simp only [pure, Except.pure, Except.ok.injEq] at h
        have hnil : ps = [] := by simpa using hnone
        exact Or.inl ⟨hnil, h.symm⟩
      · next top htop =>
        have hne : ps ≠ [] := by
          rintro rfl
          simp at htop
        have hslots : slotsNeeded ps = top + 1 :=
          slotsNeeded_of_max? (by simpa [Function.comp_def] using htop)
        simp only [pure, Except.pure, Except.ok.injEq] at h
        -- every ordinal lies below the bound, the length of the observed set, and the grown
        -- array reaches the bound or the largest ordinal
        have hobs : ∀ i ∈ ps.map (fun p => p.ordinal.toNat),
            i < (c.observed.getD (BitSet.new c.capacityBound)).len := fun i hi => by
          obtain ⟨p, hp, rfl⟩ := List.mem_map.1 hi
          have := hbelow p hp
          rw [c.len_observed_getD]
          omega
        have hroom : ∀ w ∈ ps.map (fun p => (p.ordinal.toNat, p.normByte)),
            w.1 < (((c.norms? field).getD (NormArray.new acc.initialLen)).growTo (slotsNeeded ps)
              acc.capacityBound).2.len := fun w hw => by
          obtain ⟨p, hp, rfl⟩ := List.mem_map.1 hw
          have hslot : p.ordinal.toNat < slotsNeeded ps := slotsNeeded_le_iff.1 (Nat.le_refl _) p hp
          have := hbelow p hp
          have := NormArray.min_le_len_growTo ((c.norms? field).getD (NormArray.new acc.initialLen))
            (slotsNeeded ps) acc.capacityBound
          simp only
          omega
        refine Or.inr ⟨hne, hobs, hroom, fun s hs => ?_, ?_⟩
        · cases hs
          rw [BitSet.len_setAll, c.len_observed_getD]
        · subst h
          simp only [Bindings.take, lookup_fieldNorms, ← hslots, List.map_map, Function.comp_def]

end NormAccumulator

end StoredDocs
