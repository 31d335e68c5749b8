import Mathlib
import StoredDocs.Proofs.Norms.Accumulation
import StoredDocs.Proofs.Reader.DocumentCache

/-!
# Norms along a run of a worker

The norm caches of a worker are a function of the postings that its successful accumulations
accepted since the last invalidation, whatever else the worker did in between. For each field,
the norm array exists exactly when some of those postings are of that field; its length is
what growth from the initial length gives for the largest of their ordinals, so it depends
neither on their order nor on how they were split into calls; and every slot holds the norm of
the last posting for its ordinal. The observed set holds the ordinals of all of them.

`NormsAgree` states this of one worker's caches and one list of accepted postings; it holds of
a new worker, every step keeps it (`normsAgree_step`), and so it holds after every run. The
main statement, `norms_follow_accepted_postings`, reads the closed forms off it.
-/

namespace StoredDocs

/-! ### Accepted postings -/

/-- The postings of field `f`, in order, among postings tagged with their fields. -/
def fieldPostings (log : List (String × Posting)) (f : String) : List Posting :=
  log.filterMap fun fp => if fp.1 = f then some fp.2 else none

@[simp] lemma fieldPostings_nil (f : String) : fieldPostings [] f = [] := rfl

lemma fieldPostings_append (log log' : List (String × Posting)) (f : String) :
    fieldPostings (log ++ log') f = fieldPostings log f ++ fieldPostings log' f :=
  List.filterMap_append

lemma mem_fieldPostings {log : List (String × Posting)} {f : String} {p : Posting} :
    p ∈ fieldPostings log f ↔ (f, p) ∈ log := by
  unfold fieldPostings
  rw [List.mem_filterMap]
  constructor
  · rintro ⟨⟨g, q⟩, hq, hgq⟩
    by_cases hg : g = f
    · subst hg
      simp only [if_true, Option.some.injEq] at hgq
      rw [← hgq]
      exact hq
    · simp [hg] at hgq
  · intro hp
    exact ⟨(f, p), hp, by simp⟩

lemma fieldPostings_tag (ps : List Posting) (f g : String) :
    fieldPostings (ps.map fun p => (f, p)) g = if f = g then ps else [] := by
  by_cases hfg : f = g
  · subst hfg
    simp [fieldPostings, List.filterMap_map]
  · simp [fieldPostings, List.filterMap_map, hfg]

/-- The norm byte of the last of some postings for ordinal `o`. -/
def lastNorm (ps : List Posting) (o : Nat) : Option UInt8 :=
  (ps.reverse.find? (·.ordinal.toNat == o)).map Posting.normByte

@[simp] lemma lastNorm_nil (o : Nat) : lastNorm [] o = none := rfl

lemma lastNorm_append (ps qs : List Posting) (o : Nat) :
    lastNorm (ps ++ qs) o = (lastNorm qs o).or (lastNorm ps o) := by
  unfold lastNorm
  rw [List.reverse_append, List.find?_append]
  cases qs.reverse.find? (·.ordinal.toNat == o) <;> rfl

lemma lastNorm_cons (p : Posting) (ps : List Posting) (o : Nat) :
    lastNorm (p :: ps) o =
      (lastNorm ps o).or (if o = p.ordinal.toNat then some p.normByte else none) := by
  rw [← List.singleton_append, lastNorm_append]
  by_cases ho : o = p.ordinal.toNat
  · subst ho
    simp [lastNorm]
  · have hp : (p.ordinal.toNat == o) = false := beq_false_of_ne (Ne.symm ho)
    simp [lastNorm, hp, ho]

/-- Writing the norms of postings in turn leaves the last norm of each written ordinal, and the
other slots as they were. -/
lemma NormArray.lookup_foldl_writeSlot (ps : List Posting) (l : List (Nat × UInt8)) (o : Nat) :
    ((ps.map fun p => (p.ordinal.toNat, p.normByte)).foldl (fun l w => writeSlot w.1 w.2 l)
      l).lookup o = (lastNorm ps o).or (l.lookup o) := by
  -- induction on the postings, for every list of written slots they start from
  induction ps generalizing l with
  | nil => rfl
  | cons p ps ih =>
    rw [List.map_cons, List.foldl_cons, ih, NormArray.lookup_writeSlot, lastNorm_cons]
    cases lastNorm ps o <;> by_cases ho : o = p.ordinal.toNat <;> simp [ho]

/-- The length `grownLen` gives for some postings, from a positive initial length no larger
than the ceiling, in closed form: the ceiling, or the first doubling of the initial length past
every ordinal, whichever is smaller. -/
lemma grownLen_slotsNeeded {i ceiling : Nat} {ps : List Posting} (hi : 0 < i)
    (hceiling : i ≤ ceiling) (hps : slotsNeeded ps ≤ ceiling) :
    ∃ k, (∀ p ∈ ps, p.ordinal.toNat < i * 2 ^ k) ∧
      (∀ j < k, ∃ p ∈ ps, i * 2 ^ j ≤ p.ordinal.toNat) ∧
      Norms.grownLen i (slotsNeeded ps) ceiling = min ceiling (i * 2 ^ k) := by
  have hgrown : Norms.grownLen i (slotsNeeded ps) ceiling =
      Norms.grow (slotsNeeded ps) ceiling i hi :=
    Norms.grow_congr _ _ _ hi (Nat.max_eq_left hi)
  -- every length short of the slots needed is passed by some ordinal
  have hpassed : ∀ n, n < slotsNeeded ps → ∃ p ∈ ps, n ≤ p.ordinal.toNat := by
    intro n hn
    by_contra hno
    have hall : ∀ p ∈ ps, p.ordinal.toNat < n :=
      fun p hp => Nat.lt_of_not_le fun hle => hno ⟨p, hp, hle⟩
    exact absurd (slotsNeeded_le_iff.2 hall) (by omega)
  by_cases hfit : slotsNeeded ps ≤ i
  · refine ⟨0, ?_, fun j hj => absurd hj (Nat.not_lt_zero j), ?_⟩
    · rw [Nat.pow_zero, Nat.mul_one]
      exact slotsNeeded_le_iff.1 hfit
    · rw [hgrown, Norms.grow_of_not_lt _ _ _ hi (by omega), Nat.pow_zero, Nat.mul_one]
      omega
  · obtain ⟨k, hk1, hk, hleast, heq⟩ :=
      Norms.grow_eq_min_doubling (slotsNeeded ps) ceiling i hi ⟨by omega, by omega⟩
    refine ⟨k, slotsNeeded_le_iff.1 hk, fun j hj => ?_, hgrown.trans heq⟩
    cases j with
    | zero => exact hpassed _ (by rw [Nat.pow_zero, Nat.mul_one]; omega)
    | succ j => exact hpassed _ (hleast (j + 1) (by omega) hj)

/-! ### The norm caches of a worker -/

namespace Session

variable {C : Type} (ix : Index C)

/-- What the norm caches of a worker hold, given the postings accepted since the last
invalidation, each with its field. For each field with accepted postings, a norm array of the
length growth from the initial length gives for their ordinals, whose written slots hold the
last norm of each ordinal; no array for the other fields; and a well-formed observed set that
holds the accepted ordinals and no other index. -/
structure NormsAgree (c : CacheSet C) (log : List (String × Posting)) : Prop where
  capacity : c.capacityBound = ix.config.capacityBound
  below : ∀ fp ∈ log, fp.2.ordinal.toNat < ix.config.capacityBound
  absent : ∀ f, c.norms? f = none ↔ fieldPostings log f = []
  len : ∀ f a, c.norms? f = some a →
    a.len = Norms.grownLen ix.accumulator.initialLen (slotsNeeded (fieldPostings log f))
      ix.config.capacityBound
  written : ∀ f a, c.norms? f = some a → ∀ o, a.written.lookup o = lastNorm (fieldPostings log f) o
  observedWF : (c.observed.getD (BitSet.new c.capacityBound)).WellFormed
  observed : ∀ x, x ∈ (c.observed.getD (BitSet.new c.capacityBound)).view ↔
    ∃ fp ∈ log, fp.2.ordinal.toNat = x

namespace NormsAgree

variable {ix}

/-- A new worker has no norms and has accepted nothing. -/
theorem worker : NormsAgree ix ix.worker.caches [] where
  capacity := rfl
  below := by simp
  absent := by simp [Index.worker, CacheSet.new, CacheSet.norms?]
  len := by simp [Index.worker, CacheSet.new, CacheSet.norms?]
  written := by simp [Index.worker, CacheSet.new, CacheSet.norms?]
  observedWF := BitSet.wellFormed_new _
  observed := by simp [Index.worker, CacheSet.new]

/-- The invariant reads only the capacity bound, the norm arrays and the observed set. -/
theorem congr {c c' : CacheSet C} {log : List (String × Posting)}
    (hcap : c'.capacityBound = c.capacityBound) (hnorms : c'.fieldNorms = c.fieldNorms)
    (hobs : c'.observed = c.observed) (h : NormsAgree ix c log) : NormsAgree ix c' log := by
  have hn : ∀ f, c'.norms? f = c.norms? f := fun f => by simp only [CacheSet.norms?, hnorms]
  constructor
  · rw [hcap]
    exact h.capacity
  · exact h.below
  · intro f
    rw [hn]
    exact h.absent f
  · intro f a ha
    rw [hn] at ha
    exact h.len f a ha
  · intro f a ha
    rw [hn] at ha
    exact h.written f a ha
  · rw [hobs, hcap]
    exact h.observedWF
  · rw [hobs, hcap]
    exact h.observed

/-- Emptying the caches forgets every accepted posting. -/
theorem clearAll {c : CacheSet C} {log : List (String × Posting)}
    (h : NormsAgree ix c log) : NormsAgree ix c.clearAll [] := by
  have hnorms : ∀ f, c.clearAll.norms? f = none := by
    intro f
    simp only [CacheSet.norms?, CacheSet.clearAll]
    cases c.fieldNorms <;> rfl
  -- the observed set, made or not, is reset over the capacity bound, which is its length
  have hobs : c.clearAll.observed.getD (BitSet.new c.clearAll.capacityBound) =
      (c.observed.getD (BitSet.new c.capacityBound)).resetRange 0 c.capacityBound := by
    simp only [CacheSet.clearAll]
    cases c.observed <;> simp [BitSet.resetRange_new]
  constructor
  · exact h.capacity
  · simp
  · intro f
    simp [hnorms]
  · intro f a ha
    rw [hnorms] at ha
    cases ha
  · intro f a ha
    rw [hnorms] at ha
    cases ha
  · rw [hobs]
    exact h.observedWF.resetRange 0 _
  · intro x
    rw [hobs, BitSet.view_resetRange, Finset.mem_filter, BitSet.mem_view, c.len_observed_getD,
      Nat.min_self]
    constructor
    · rintro ⟨⟨hx, -⟩, hout⟩
      exact absurd ⟨Nat.zero_le x, hx⟩ hout
    · rintro ⟨fp, hfp, -⟩
      cases hfp

/-- The array an accumulation starts from: the field's own, or a new one of the initial length
when it has none; in both cases the array the accepted postings of the field call for. -/
lemma base_len {c : CacheSet C} {log : List (String × Posting)}
    (h : NormsAgree ix c log) (f : String) :
    ((c.norms? f).getD (NormArray.new ix.accumulator.initialLen)).len =
      Norms.grownLen ix.accumulator.initialLen (slotsNeeded (fieldPostings log f))
        ix.config.capacityBound := by
  cases hf : c.norms? f with
  | none =>
    -- no postings of the field: growth keeps the initial length, which is positive
    rw [(h.absent f).1 hf, slotsNeeded_nil, Option.getD_none, NormArray.new]
    unfold Norms.grownLen
    rw [Norms.grow_of_not_lt _ _ _ _ (by omega)]
    simp [Index.accumulator, NormAccumulator.new]
  | some a => exact h.len f a hf

lemma base_written {c : CacheSet C} {log : List (String × Posting)}
    (h : NormsAgree ix c log) (f : String) (o : Nat) :
    ((c.norms? f).getD (NormArray.new ix.accumulator.initialLen)).written.lookup o =
      lastNorm (fieldPostings log f) o := by
  cases hf : c.norms? f with
  | none =>
    rw [(h.absent f).1 hf]
    rfl
  | some a => exact h.written f a hf o

/-- A successful accumulation appends its postings, under its field, to the accepted ones. -/
theorem accumulate {c c' : CacheSet C} {log : List (String × Posting)} {f : String}
    {ps : List Posting} (h : NormsAgree ix c log)
    (hacc : ix.accumulator.accumulate c f ps = .ok c') :
    NormsAgree ix c' (log ++ ps.map fun p => (f, p)) := by
  obtain ⟨-, hbelow, ⟨rfl, rfl⟩ | ⟨hne, hobs, hroom, hlen, rfl⟩⟩ :=
    NormAccumulator.accumulate_eq_ok hacc
  · simpa using h
  have hcap : ix.accumulator.capacityBound = ix.config.capacityBound := rfl
  rw [hcap] at hbelow
  -- the postings of the other fields are those accepted before
  have hfield : ∀ g, fieldPostings (log ++ ps.map fun p => (f, p)) g =
      fieldPostings log g ++ if f = g then ps else [] := by
    intro g
    rw [fieldPostings_append, fieldPostings_tag]
  -- the field's array is grown to give every new ordinal a slot, then written
  have hpos : 0 < ((c.norms? f).getD (NormArray.new ix.accumulator.initialLen)).len := by
    rw [h.base_len f]
    exact Norms.grownLen_pos ..
  constructor
  · exact h.capacity
  · intro fp hfp
    rcases List.mem_append.1 hfp with hfp | hfp
    · exact h.below fp hfp
    · obtain ⟨p, hp, rfl⟩ := List.mem_map.1 hfp
      exact hbelow p hp
  · intro g
    rw [NormAccumulator.norms?_replaceField rfl, hfield]
    by_cases hg : g = f
    · subst hg
      simp [hne]
    · rw [if_neg hg, if_neg (Ne.symm hg), List.append_nil]
      exact h.absent g
  · intro g a ha
    rw [NormAccumulator.norms?_replaceField rfl] at ha
    split_ifs at ha with hg
    · subst hg
      obtain rfl := Option.some.inj ha
      rw [NormArray.len_setAll, NormArray.len_growTo hpos, h.base_len, hcap,
        Norms.grownLen_grownLen, hfield, if_pos rfl, slotsNeeded_append]
    · rw [hfield, if_neg (Ne.symm hg), List.append_nil]
      exact h.len g a ha
  · intro g a ha o
    rw [NormAccumulator.norms?_replaceField rfl] at ha
    split_ifs at ha with hg
    · subst hg
      obtain rfl := Option.some.inj ha
      rw [NormArray.written_setAll, NormArray.lookup_foldl_writeSlot, NormArray.written_growTo, h.base_written, hfield,
        if_pos rfl, lastNorm_append]
    · rw [hfield, if_neg (Ne.symm hg), List.append_nil]
      exact h.written g a ha o
  · exact (BitSet.setAll_spec h.observedWF _ hobs).1
  · intro x
    simp only [Option.getD_some]
    rw [h.observedWF.view_setAll, Finset.mem_union, h.observed, List.mem_toFinset, List.mem_map]
    constructor
    · rintro (⟨fp, hfp, hx⟩ | ⟨p, hp, hx⟩)
      · exact ⟨fp, List.mem_append_left _ hfp, hx⟩
      · exact ⟨(f, p), List.mem_append_right _ (List.mem_map_of_mem hp), hx⟩
    · rintro ⟨fp, hfp, hx⟩
      rcases List.mem_append.1 hfp with hfp | hfp
      · exact Or.inl ⟨fp, hfp, hx⟩
      · obtain ⟨p, hp, rfl⟩ := List.mem_map.1 hfp
        exact Or.inr ⟨p, hp, hx⟩

end NormsAgree

/-! ### Along a run -/

namespace ReaderStep

/-- The accepted postings after a step: a successful accumulation appends its postings under
its field, an invalidation forgets them all, and every other step keeps them. -/
def acceptStep (w : Worker C) (sh : Shared) (log : List (String × Posting)) (st : ReaderStep) :
    List (String × Posting) :=
  if st.invalidates then []
  else
    match st, (st.run ix w sh).1 with
    | .accumulate f ps, .ok _ => log ++ ps.map fun p => (f, p)
    | _, _ => log

/-- The postings, each with its field, that the successful accumulations of a run accepted
since its last invalidation, after `log` accepted before the run. -/
def acceptedPostings (s : Worker C × Shared) (log : List (String × Posting)) :
    List ReaderStep → List (String × Posting)
  | [] => log
  | st :: steps => acceptedPostings (exec ix s st).2 (acceptStep ix s.1 s.2 log st) steps

variable {ix}

lemma acceptStep_accumulate (w : Worker C) (sh : Shared) (log : List (String × Posting))
    (f : String) (ps : List Posting) :
    acceptStep ix w sh log (accumulate f ps) =
      match ix.accumulator.accumulate w.caches f ps with
      | .ok _ => log ++ ps.map fun p => (f, p)
      | .error _ => log := by
  simp only [acceptStep, invalidates, Bool.false_eq_true, if_false, run_accumulate]
  cases ix.accumulator.accumulate w.caches f ps <;> rfl

lemma acceptStep_of_not_accumulate (w : Worker C) (sh : Shared) (log : List (String × Posting))
    {st : ReaderStep} (hinv : st.invalidates = false)
    (hacc : ∀ f ps, st ≠ .accumulate f ps) : acceptStep ix w sh log st = log := by
  simp only [acceptStep, hinv, Bool.false_eq_true, if_false]
  cases st with
  | accumulate f ps => exact absurd rfl (hacc f ps)
  | _ => rfl

/-- Every step keeps the norm caches in agreement with the accepted postings. -/
theorem normsAgree_step {w : Worker C} {sh : Shared} {log : List (String × Posting)}
    (st : ReaderStep) (h : NormsAgree ix w.caches log) :
    NormsAgree ix (st.run ix w sh).2.1.caches (acceptStep ix w sh log st) := by
  cases hinv : st.invalidates
  · by_cases hacc : ∃ f ps, st = .accumulate f ps
    · obtain ⟨f, ps, rfl⟩ := hacc
      rw [acceptStep_accumulate, run_accumulate]
      cases hc : ix.accumulator.accumulate w.caches f ps with
      | error e => exact h
      | ok c => exact h.accumulate hc
    · have hne : ∀ f ps, st ≠ .accumulate f ps := fun f ps hst => hacc ⟨f, ps, hst⟩
      rw [acceptStep_of_not_accumulate w sh log hinv hne]
      rcases worker_after_step ix w sh st with hw | ⟨-, ⟨hst, -⟩ |
          ⟨o, sel, query, store, d, c, -, hg, hw⟩ | ⟨f, ps, c, hst, -, -⟩ | ⟨t, c, hw⟩⟩
      · rw [hw]
        exact h
      · rw [hinv] at hst
        cases hst
      · obtain ⟨hcap, hnorms, hobs⟩ := Assembly.getDocument_frame hg
        rw [hw]
        exact h.congr hcap hnorms hobs
      · exact absurd hst (hne f ps)
      · rw [hw]
        exact NormsAgree.congr (c := w.caches) rfl rfl rfl h
  · rw [run_of_invalidates ix w sh hinv]
    simp only [acceptStep, hinv, if_true]
    exact h.clearAll

/-- The norm caches agree with the accepted postings after every run. -/
theorem normsAgree_runAll (s : Worker C × Shared) (log : List (String × Posting))
    (steps : List ReaderStep) (h : NormsAgree ix s.1.caches log) :
    NormsAgree ix (runAll ix s steps).1.caches (acceptedPostings ix s log steps) := by
  -- induction on the run from its first step, for every state and log it starts from
  induction steps generalizing s log with
  | nil => exact h
  | cons st steps ih => exact ih _ _ (normsAgree_step st h)

end ReaderStep

/-! ### The norm caches after a run -/

namespace NormsAgree

variable {ix}

lemma isObserved_iff {c : CacheSet C} {log : List (String × Posting)}
    (h : NormsAgree ix c log) (o : UInt32) :
    c.isObserved o = true ↔ ∃ fp ∈ log, fp.2.ordinal = o := by
  have hobs : c.isObserved o =
      (c.observed.getD (BitSet.new c.capacityBound)).contains o.toNat := by
    unfold CacheSet.isObserved
    cases c.observed
    · simp [BitSet.contains_eq_decide]
    · rfl
  rw [hobs, BitSet.contains_eq_decide, decide_eq_true_iff, h.observed]
  simp only [UInt32.toNat_inj]

lemma observedCount_eq {c : CacheSet C} {log : List (String × Posting)}
    (h : NormsAgree ix c log) :
    c.observedCount = (log.map fun fp => fp.2.ordinal).toFinset.card := by
  have hcount : c.observedCount = (c.observed.getD (BitSet.new c.capacityBound)).countOnes := by
    unfold CacheSet.observedCount
    cases c.observed
    · simp [(BitSet.wellFormed_new _).countOnes_eq_card]
    · rfl
  -- the observed set holds each accepted ordinal once, as a number
  have hset : (c.observed.getD (BitSet.new c.capacityBound)).view =
      (log.map fun fp => fp.2.ordinal).toFinset.image UInt32.toNat := by
    ext x
    simp only [h.observed, Finset.mem_image, List.mem_toFinset, List.mem_map]
    constructor
    · rintro ⟨fp, hfp, rfl⟩
      exact ⟨fp.2.ordinal, ⟨fp, hfp, rfl⟩, rfl⟩
    · rintro ⟨o, ⟨fp, hfp, rfl⟩, rfl⟩
      exact ⟨fp, hfp, rfl⟩
  rw [hcount, h.observedWF.countOnes_eq_card, hset,
    Finset.card_image_of_injective _ (fun a b hab => UInt32.toNat_inj.1 hab)]

end NormsAgree

namespace ReaderStep

/-- The norm caches of a worker, for any cursor provider: after any run of a new worker, a field
has a norm array exactly when the postings `A` accepted since the last invalidation hold some of
it, of the capped doubling length past their ordinals, holding the last norm of each; and the
observed ordinals, and their count, are those of `A`. -/
theorem norms_follow_accepted_postings {config : ReaderConfig} {cursors : CursorProvider C}
    {ix : Index C} (hix : Index.ofConfig config cursors = .ok ix) (sh : Shared)
    (steps : List ReaderStep) :
    let c := (runAll ix (ix.worker, sh) steps).1.caches
    let A := acceptedPostings ix (ix.worker, sh) [] steps
    (∀ f, c.norms? f = none ↔ fieldPostings A f = []) ∧
    (∀ f a, c.norms? f = some a →
      (∃ k, (∀ p ∈ fieldPostings A f, p.ordinal.toNat < config.clampedInitialNormsLen * 2 ^ k) ∧
        (∀ j < k, ∃ p ∈ fieldPostings A f,
          config.clampedInitialNormsLen * 2 ^ j ≤ p.ordinal.toNat) ∧
        a.len = min config.capacityBound (config.clampedInitialNormsLen * 2 ^ k)) ∧
      config.clampedInitialNormsLen ≤ a.len ∧ a.len ≤ config.capacityBound ∧
      ∀ o < a.len, a.get? o = some ((lastNorm (fieldPostings A f) o).getD defaultNorm)) ∧
    (∀ o, c.isObserved o = true ↔ ∃ fp ∈ A, fp.2.ordinal = o) ∧
    c.observedCount = (A.map fun fp => fp.2.ordinal).toFinset.card := by
  intro c A
  obtain ⟨rfl, hpos⟩ := Index.ofConfig_eq_ok hix
  have h : NormsAgree _ c A := normsAgree_runAll _ [] steps NormsAgree.worker
  refine ⟨h.absent, fun f a ha => ?_, h.isObserved_iff, h.observedCount_eq⟩
  -- under a valid configuration the accumulator starts from the clamped length
  have hi : 0 < config.clampedInitialNormsLen := by
    simp only [ReaderConfig.clampedInitialNormsLen, ReaderConfig.capacityBound]
    omega
  have hicap : config.clampedInitialNormsLen ≤ config.capacityBound := Nat.min_le_right _ _
  have hinit : (Index.accumulator ⟨config, cursors⟩).initialLen = config.clampedInitialNormsLen := by
    simp only [Index.accumulator, NormAccumulator.new]
    omega
  have hneed : slotsNeeded (fieldPostings A f) ≤ config.capacityBound :=
    slotsNeeded_le_iff.2 fun p hp => h.below (f, p) (mem_fieldPostings.1 hp)
  obtain ⟨k, hk, hleast, hlen⟩ := grownLen_slotsNeeded hi hicap hneed
  have hlen' : a.len = min config.capacityBound (config.clampedInitialNormsLen * 2 ^ k) := by
    rw [h.len f a ha, hinit]
    exact hlen
  have hdouble : config.clampedInitialNormsLen ≤ config.clampedInitialNormsLen * 2 ^ k :=
    Nat.le_mul_of_pos_right _ (Nat.two_pow_pos k)
  refine ⟨⟨k, hk, hleast, hlen'⟩, by omega, by omega, fun o ho => ?_⟩
  rw [NormArray.get?, if_pos ho, h.written f a ha o]

/-- An index named `docs` with the default configuration opens, and the norm caches of a worker
that accumulated nothing agree with its accepted postings. -/
theorem norms_follow_accepted_postings_of_docs :
    Index.ofConfig { indexName := "docs" } CursorProvider.noTerms =
      .ok ⟨{ indexName := "docs" }, CursorProvider.noTerms⟩ ∧
    let ix : Index Empty := ⟨{ indexName := "docs" }, CursorProvider.noTerms⟩
    let c := (runAll ix (ix.worker, { store := {} }) []).1.caches
    let A := acceptedPostings ix (ix.worker, { store := {} }) [] []
    (∀ f, c.norms? f = none ↔ fieldPostings A f = []) ∧
    (∀ f a, c.norms? f = some a →
      (∃ k, (∀ p ∈ fieldPostings A f,
          p.ordinal.toNat < ix.config.clampedInitialNormsLen * 2 ^ k) ∧
        (∀ j < k, ∃ p ∈ fieldPostings A f,
          ix.config.clampedInitialNormsLen * 2 ^ j ≤ p.ordinal.toNat) ∧
        a.len = min ix.config.capacityBound (ix.config.clampedInitialNormsLen * 2 ^ k)) ∧
      ix.config.clampedInitialNormsLen ≤ a.len ∧ a.len ≤ ix.config.capacityBound ∧
      ∀ o < a.len, a.get? o = some ((lastNorm (fieldPostings A f) o).getD defaultNorm)) ∧
    (∀ o, c.isObserved o = true ↔ ∃ fp ∈ A, fp.2.ordinal = o) ∧
    c.observedCount = (A.map fun fp => fp.2.ordinal).toFinset.card :=
  ⟨rfl, norms_follow_accepted_postings rfl _ []⟩

end ReaderStep

end Session

end StoredDocs
