import StoredDocs.Cache
import StoredDocs.Norms.Posting

/-!
# Accumulating norms

While a field's postings are scanned, each posting contributes the norm byte of one document.
The accumulator writes those bytes into the field's norm array in the worker's caches,
growing the array by doubling up to the capacity bound, and marks every ordinal it sees as
observed.

All postings are checked before anything is written: the caches must have the accumulator's
capacity bound, and then, posting by posting, the ordinal must lie below the bound and the
norm payload must be a single byte. A failing call changes nothing, and so does an empty
posting list.
-/

namespace StoredDocs

/-- Writes norms of postings into per-field norm arrays. -/
structure NormAccumulator where
  /-- The number of addressable ordinals. -/
  capacityBound : Nat
  /-- The length of a newly created norm array, between one and the capacity bound. -/
  initialLen : Nat
  deriving DecidableEq, Repr

namespace NormAccumulator

/-- An accumulator for `capacityBound` ordinals whose new arrays have `initialLen` slots,
clamped to between one and the capacity bound (at least one). -/
def new (capacityBound initialLen : Nat) : NormAccumulator :=
  ⟨capacityBound, min (max initialLen 1) (max capacityBound 1)⟩

/-- Checks the postings in order and resolves their norm bytes. -/
def resolve (capacityBound : Nat) (field : String) :
    List Posting → Except Error (List (UInt32 × UInt8))
  | [] => pure []
  | p :: ps => do
    if capacityBound ≤ p.ordinal.toNat then
      throw (.capacityExceeded p.ordinal (capacityBound - 1))
    let b ← p.resolveNorm field
    let rest ← resolve capacityBound field ps
    pure ((p.ordinal, b) :: rest)

/-- Every ordinal that resolution passes lies below the bound. -/
theorem lt_of_mem_resolve {capacityBound : Nat} {field : String} {ps : List Posting}
    {rs : List (UInt32 × UInt8)} (h : resolve capacityBound field ps = .ok rs) :
    ∀ r ∈ rs, r.1.toNat < capacityBound := by
  induction ps generalizing rs with
  | nil =>
    simp only [resolve, pure, Except.pure, Except.ok.injEq] at h
    subst h
    intro r hr
    cases hr
  | cons p ps ih =>
    unfold resolve at h
    by_cases hcap : capacityBound ≤ p.ordinal.toNat
    · simp [hcap, throw, throwThe, MonadExceptOf.throw, bind, Except.bind] at h
    · cases hb : p.resolveNorm field with
      | error e => simp [hcap, hb, bind, Except.bind] at h
      | ok b =>
        cases hrest : resolve capacityBound field ps with
        | error e => simp [hcap, hb, hrest, bind, Except.bind] at h
        | ok rest =>
          simp only [hcap, hb, hrest, if_false, bind, Except.bind, pure, Except.pure,
            Except.ok.injEq] at h
          subst h
          intro r hr
          rcases List.mem_cons.1 hr with rfl | hr
          · exact Nat.lt_of_not_le hcap
          · exact ih hrest r hr

variable {C : Type}

/-- Records the norms of `postings` for `field` in the caches. Each write is in range: the
ordinals lie below the bound, which is the length of the observed set, and the norm array is
first grown to hold the largest of them. -/
def accumulate (acc : NormAccumulator) (c : CacheSet C) (field : String)
    (postings : List Posting) : Except Error (CacheSet C) :=
  if hcap : c.capacityBound ≠ acc.capacityBound then
    throw (.invalidArgument "caches" ("capacity bound " ++ toString c.capacityBound ++
      " does not match the accumulator's " ++ toString acc.capacityBound))
  else
    match hres : resolve acc.capacityBound field postings with
    | .error e => throw e
    | .ok resolved =>
      match htop : (resolved.map fun (o, _) => o.toNat).max? with
      | none => pure c
      | some top =>
        have hbelow : ∀ r ∈ resolved, r.1.toNat < acc.capacityBound := lt_of_mem_resolve hres
        let base := c.observed.getD (BitSet.new c.capacityBound)
        let observed := base.setAll (resolved.map fun (o, _) => o.toNat) fun i hi => by
          obtain ⟨⟨o, b⟩, hr, rfl⟩ := List.mem_map.1 hi
          have hlt : o.toNat < acc.capacityBound := hbelow (o, b) hr
          show o.toNat < base.len
          rw [c.len_observed_getD]
          omega
        let (old, others) := Bindings.take (c.fieldNorms.getD []) field
        let grown := ((old.getD (NormArray.new acc.initialLen)).growTo (top + 1)
          acc.capacityBound).2
        let written := grown.setAll (resolved.map fun (o, b) => (o.toNat, b)) fun w hw => by
          obtain ⟨⟨o, b⟩, hr, rfl⟩ := List.mem_map.1 hw
          -- every ordinal is at most the largest, which lies below the bound
          obtain ⟨htopmem, hle⟩ := List.max?_eq_some_iff.1 htop
          obtain ⟨⟨q, d⟩, hq, hqtop⟩ := List.mem_map.1 htopmem
          have hle_top : o.toNat ≤ top := hle _ (List.mem_map_of_mem hr)
          have htop_lt : top < acc.capacityBound := hqtop ▸ hbelow (q, d) hq
          have hroom : min (top + 1) acc.capacityBound ≤ grown.len :=
            NormArray.min_le_len_growTo _ _ _
          show o.toNat < grown.len
          omega
        pure { c with
          observed := some observed
          fieldNorms := some (Bindings.put others field written)
          observed_len := fun s hs => by
            cases hs
            rw [BitSet.len_setAll]
            exact c.len_observed_getD }

/-- Accumulating norms changes only the norm arrays and the observed ordinals. -/
theorem accumulate_frame {acc : NormAccumulator} {c c' : CacheSet C} {field : String}
    {postings : List Posting} (h : acc.accumulate c field postings = .ok c') :
    c'.capacityBound = c.capacityBound ∧ c'.documents = c.documents ∧
      c'.termCursors = c.termCursors := by
  unfold accumulate at h
  split at h
  · cases h
  · split at h
    · cases h
    · split at h
      · cases h
        exact ⟨rfl, rfl, rfl⟩
      · cases h
        exact ⟨rfl, rfl, rfl⟩

end NormAccumulator

end StoredDocs
