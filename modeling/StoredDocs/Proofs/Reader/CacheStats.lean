import Mathlib
import StoredDocs.Proofs.Bits.Refinement
import StoredDocs.Proofs.Reader.NormCache
import StoredDocs.Proofs.Reader.TermCursors

/-!
# Cache statistics of a worker

Each of a worker's four caches (documents, term cursors, norm arrays, observed ordinals) is
created by the first operation that inserts into it, and `stats` reports it as absent until
then. Invalidating empties every cache that exists and creates none, so a cache, once created,
stays created.

The main statement, `stats_report_created_caches`, follows a new worker through any run of
steps: a cache is reported exactly when some step of the run inserted into it (a document read
that missed and succeeded, found row or not; a cursor put, or a document-frequency read that
missed and succeeded; an accumulation of at least one posting that succeeded, for the norm
arrays and the observed set); the size reported is the number of distinct keys the cache
holds, and for the observed set the number of observed ordinals; after the run, any
invalidation reports every created cache with size zero; and two invalidations in a row leave
what one leaves.
-/

namespace StoredDocs

/-- The four caches of a worker. -/
inductive CacheKind where
  | documents
  | termCursors
  | fieldNorms
  | observed
  deriving DecidableEq, Repr

namespace CacheSet

variable {C : Type}

/-- Whether a cache has been created. -/
def created (c : CacheSet C) : CacheKind → Bool
  | .documents => c.documents.isSome
  | .termCursors => c.termCursors.isSome
  | .fieldNorms => c.fieldNorms.isSome
  | .observed => c.observed.isSome

end CacheSet

/-- The size reported for one cache. -/
def CacheStats.get (s : CacheStats) : CacheKind → Option Nat
  | .documents => s.documents
  | .termCursors => s.termCursors
  | .fieldNorms => s.fieldNorms
  | .observed => s.observed

namespace CacheSet

variable {C : Type}

/-- A cache is reported exactly when it has been created. -/
lemma isSome_stats_get (c : CacheSet C) (k : CacheKind) :
    (c.stats.get k).isSome = c.created k := by
  cases k <;> simp [stats, CacheStats.get, created]

/-- Invalidating creates no cache and removes none. -/
@[simp] lemma created_clearAll (c : CacheSet C) (k : CacheKind) :
    c.clearAll.created k = c.created k := by
  cases k <;> simp [clearAll, created]

/-- Invalidating twice leaves what invalidating once leaves: the observed set is reset over the
same range again. -/
lemma clearAll_clearAll (c : CacheSet C) : c.clearAll.clearAll = c.clearAll := by
  simp [clearAll, Option.map_map, Function.comp_def, BitSet.resetRange_resetRange]

end CacheSet

/-! ### Keys bound once -/

namespace Bindings

variable {κ α : Type} [BEq κ] [LawfulBEq κ]

lemma nodup_keys_put {l : Bindings κ α} (h : (l.map Prod.fst).Nodup) (k : κ) (v : α) :
    ((put l k v).map Prod.fst).Nodup := by
  rw [put, List.map_cons, List.nodup_cons]
  refine ⟨fun hk => ?_, (h.sublist ((List.filter_sublist ..).map Prod.fst))⟩
  obtain ⟨p, hp, hpk⟩ := List.mem_map.1 hk
  have hne := (List.mem_filter.1 hp).2
  simp [hpk] at hne

lemma nodup_keys_foldl_put {β : Type} (key : β → κ) (f : β → α) (xs : List β)
    {l : Bindings κ α}
    (h : (l.map Prod.fst).Nodup) :
    ((xs.foldl (fun m x => put m (key x) (f x)) l).map Prod.fst).Nodup := by
  induction xs generalizing l with
  | nil => exact h
  | cons x xs ih => exact ih (nodup_keys_put h _ _)

end Bindings

namespace CacheSet

variable {C : Type}

/-- The cache lists of a worker bind each key once. -/
structure DistinctKeys (c : CacheSet C) : Prop where
  documents : ∀ m, c.documents = some m → (m.map Prod.fst).Nodup
  termCursors : ∀ m, c.termCursors = some m → (m.map Prod.fst).Nodup
  fieldNorms : ∀ m, c.fieldNorms = some m → (m.map Prod.fst).Nodup

/-- A list of bindings that is absent counts as empty. -/
lemma nodup_getD {κ α : Type} {o : Option (Bindings κ α)}
    (h : ∀ m, o = some m → (m.map Prod.fst).Nodup) : ((o.getD []).map Prod.fst).Nodup := by
  cases o with
  | none => exact List.nodup_nil
  | some m => exact h m rfl

lemma DistinctKeys.new (capacityBound : Nat) :
    (CacheSet.new capacityBound : CacheSet C).DistinctKeys where
  documents _ h := nomatch h
  termCursors _ h := nomatch h
  fieldNorms _ h := nomatch h

lemma DistinctKeys.clearAll {c : CacheSet C} (_h : c.DistinctKeys) : c.clearAll.DistinctKeys := by
  refine ⟨fun m hm => ?_, fun m hm => ?_, fun m hm => ?_⟩ <;>
  · obtain ⟨_, -, rfl⟩ := Option.map_eq_some_iff.1 hm
    exact List.nodup_nil

lemma DistinctKeys.putDocuments {c : CacheSet C} (h : c.DistinctKeys) (docs : List Document) :
    (c.putDocuments docs).DistinctKeys := by
  refine ⟨fun m hm => ?_, h.termCursors, h.fieldNorms⟩
  cases hm
  exact Bindings.nodup_keys_foldl_put (·.ordinal) id docs (nodup_getD h.documents)

lemma DistinctKeys.putTermCursor {c : CacheSet C} (h : c.DistinctKeys) (t : Term) (cursor : C) :
    (c.putTermCursor t cursor).DistinctKeys := by
  refine ⟨h.documents, fun m hm => ?_, h.fieldNorms⟩
  cases hm
  exact Bindings.nodup_keys_put (nodup_getD h.termCursors) _ _

/-- With every key bound once, a cache's size is the number of keys it answers for. -/
lemma card_keys_of_nodup {κ α : Type} [DecidableEq κ] {m : Bindings κ α}
    (h : (m.map Prod.fst).Nodup) : (m.map Prod.fst).toFinset.card = m.length := by
  rw [List.toFinset_card_of_nodup h, List.length_map]

end CacheSet

namespace NormAccumulator

variable {C : Type}

/-- An accumulation keeps every key of the caches bound once. -/
lemma distinctKeys_accumulate {acc : NormAccumulator} {c c' : CacheSet C} {field : String}
    {ps : List Posting} (h : acc.accumulate c field ps = .ok c') (hc : c.DistinctKeys) :
    c'.DistinctKeys := by
  obtain ⟨-, -, ⟨-, rfl⟩ | ⟨-, -, -, -, rfl⟩⟩ := accumulate_eq_ok h
  · exact hc
  · refine ⟨hc.documents, hc.termCursors, fun m hm => ?_⟩
    cases hm
    exact Bindings.nodup_keys_put
      ((CacheSet.nodup_getD hc.fieldNorms).sublist ((List.filter_sublist ..).map Prod.fst)) _ _

end NormAccumulator

namespace Assembly

variable {C : Type}

/-- A successful document read either was a hit and changed nothing, or cached the documents
it assembled. -/
lemma getDocument_ok_cases {store store' : MemoryStore} {index : String} {cons : Consistency}
    {c c' : CacheSet C} {o : UInt32} {sel : Selection} {r : Option Document}
    (hg : getDocument store index cons c o sel = (store', .ok (r, c'))) :
    c' = c ∨ c.document? o = none ∧ ∃ docs, c' = c.putDocuments docs := by
  cases ho : c.document? o with
  | some d =>
    rw [getDocument_hit ho] at hg
    cases hg
    exact Or.inl rfl
  | none =>
    obtain ⟨-, docs, -, rfl⟩ := getDocument_miss_ok ho hg
    exact Or.inr ⟨rfl, docs, rfl⟩

end Assembly

/-! ### Observed sets -/

namespace BitSet

/-- Resetting a well-formed bit set over its whole length leaves nothing set. -/
lemma WellFormed.countOnes_resetRange_len {s : BitSet} (hs : s.WellFormed) :
    (s.resetRange 0 s.len).countOnes = 0 := by
  rw [(hs.resetRange 0 s.len).countOnes_eq_card, view_resetRange, Finset.card_eq_zero,
    Finset.filter_eq_empty_iff]
  intro x hx
  simp [(mem_view.1 hx).1]

end BitSet

namespace Session

variable {C : Type}

/-- The observed set of caches that agree with accepted postings, once made, is well formed. -/
lemma NormsAgree.wellFormed_of_observed {ix : Index C} {c : CacheSet C}
    {log : List (String × Posting)} (h : NormsAgree ix c log) {b : BitSet}
    (hb : c.observed = some b) : b.WellFormed := by
  simpa [hb] using h.observedWF

namespace ReaderStep

/-! ### Insertions -/

/-- Step `st` of worker `w` inserts into cache `k`: for documents, a document read that misses
the cache and succeeds, whether or not it finds a row; for term cursors, a cursor put, or a
document-frequency read of a term not cached, that succeeds; for norm arrays and observed
ordinals, a successful accumulation of at least one posting. -/
def Inserts (ix : Index C) (w : Worker C) (sh : Shared) (st : ReaderStep) : CacheKind → Prop
  | .documents =>
    (∃ o sel query, st = .document o sel query ∧ w.caches.document? o = none) ∧
      ∃ r, (st.run ix w sh).1 = .ok r
  | .termCursors =>
    ((∃ t target, st = .putTermCursor t target) ∨
      ∃ t, st = .docFreq t ∧ w.caches.termCursor? t = none) ∧
      ∃ r, (st.run ix w sh).1 = .ok r
  | .fieldNorms | .observed =>
    (∃ f ps, st = .accumulate f ps ∧ ps ≠ []) ∧ ∃ r, (st.run ix w sh).1 = .ok r

/-- A document read creates the document cache when it misses and succeeds, and no other. -/
lemma created_after_document (ix : Index C) (w : Worker C) (sh : Shared) (o : UInt32)
    (sel : Selection) (query : Option (List String)) (k : CacheKind) :
    ((document o sel query).run ix w sh).2.1.caches.created k = true ↔
      w.caches.created k = true ∨ Inserts ix w sh (document o sel query) k := by
  cases ho : w.caches.document? o with
  | some d =>
    rw [run_document_hit sel query ho]
    cases k <;> simp [Inserts, ho]
  | none =>
    rcases hg : Assembly.getDocument sh.store ix.name ix.config.consistency w.caches o sel with
      ⟨store, e | ⟨r, c⟩⟩
    · have hrun : (document o sel query).run ix w sh =
          (.error (.error e), w, { sh with store }) := by
        rw [run_document, hg]
      rw [hrun]
      cases k <;> simp [Inserts, hrun]
    · have hrun : (document o sel query).run ix w sh =
          (.ok (.document r query), ⟨c⟩, { sh with store }) := by
        rw [run_document, hg]
      -- a missing read caches what it assembled, creating the document cache
      obtain ⟨-, docs, -, hc⟩ := Assembly.getDocument_miss_ok ho hg
      rw [hrun]
      cases k <;> simp [Inserts, hrun, ho, hc, CacheSet.created, CacheSet.putDocuments]

/-- An accumulation creates the norm arrays and the observed set when it succeeds with at least
one posting, and no other cache. -/
lemma created_after_accumulate (ix : Index C) (w : Worker C) (sh : Shared) (f : String)
    (ps : List Posting) (k : CacheKind) :
    ((accumulate f ps).run ix w sh).2.1.caches.created k = true ↔
      w.caches.created k = true ∨ Inserts ix w sh (accumulate f ps) k := by
  rw [run_accumulate]
  cases hacc : ix.accumulator.accumulate w.caches f ps with
  | error e => cases k <;> simp [Inserts, run_accumulate, hacc]
  | ok c =>
    obtain ⟨-, -, ⟨rfl, rfl⟩ | ⟨hne, _, _, _, hc⟩⟩ := NormAccumulator.accumulate_eq_ok hacc
    · cases k <;> simp [Inserts]
    · cases k <;> simp [Inserts, run_accumulate, hacc, hne, hc, CacheSet.created]

/-- A step creates exactly the caches it inserts into, and removes none. -/
theorem created_after_step (ix : Index C) (w : Worker C) (sh : Shared) (st : ReaderStep)
    (k : CacheKind) :
    (st.run ix w sh).2.1.caches.created k = true ↔
      w.caches.created k = true ∨ Inserts ix w sh st k := by
  cases st with
  | document o sel query => exact created_after_document ix w sh o sel query k
  | accumulate f ps => exact created_after_accumulate ix w sh f ps k
  | docFreq t =>
    rw [run_docFreq]
    cases hc : w.caches.termCursor? t with
    | some c => cases k <;> simp [Inserts, hc]
    | none =>
      -- a miss caches the new cursor exactly when it opens and moves
      rcases hr : ix.freshCursor t with e | ⟨found, c⟩
      · cases k <;> simp [Inserts, run_docFreq, hc, hr]
      · cases k <;> simp [Inserts, run_docFreq, hc, hr, Worker.putTermCursor, CacheSet.created,
          CacheSet.putTermCursor]
  | putTermCursor t target =>
    rw [run_putTermCursor]
    rcases hr : ix.freshCursor (target.getD t) with e | ⟨found, c⟩
    · cases k <;> simp [Inserts, run_putTermCursor, hr]
    · cases k <;> simp [Inserts, run_putTermCursor, hr, Worker.putTermCursor, CacheSet.created,
        CacheSet.putTermCursor]
  | clearAll | reopen | commit | close | reset =>
    rw [run_of_invalidates ix w sh rfl, Worker.clearAll, CacheSet.created_clearAll]
    cases k <;> simp [Inserts]
  | _ =>
    rw [run_worker_of_writesCaches_false ix w sh rfl]
    cases k <;> simp [Inserts]

/-- After a run from any state, a cache exists when it existed at the start or a step of the
run inserted into it. -/
theorem created_runAll (ix : Index C) (s : Worker C × Shared) (steps : List ReaderStep)
    (k : CacheKind) :
    (runAll ix s steps).1.caches.created k = true ↔ s.1.caches.created k = true ∨
      ∃ pre st post, steps = pre ++ st :: post ∧
        Inserts ix (runAll ix s pre).1 (runAll ix s pre).2 st k := by
  -- induction on the run from its first step, for every state it starts from
  induction steps generalizing s with
  | nil => simp
  | cons st steps ih =>
    rw [runAll_cons, ih, exists_split_cons]
    simp only [runAll_nil, runAll_cons, exec_snd, created_after_step, or_assoc]

/-! ### Sizes -/

/-- Every step keeps each key of the caches bound once. -/
theorem distinctKeys_after_step (ix : Index C) (w : Worker C) (sh : Shared) (st : ReaderStep)
    (h : w.caches.DistinctKeys) : (st.run ix w sh).2.1.caches.DistinctKeys := by
  rcases worker_after_step ix w sh st with hw | ⟨-, ⟨-, hw⟩ |
      ⟨o, sel, query, store, d, c, -, hg, hw⟩ | ⟨f, ps, c, -, hacc, hw⟩ | ⟨t, c, hw⟩⟩
  · rw [hw]
    exact h
  · rw [hw]
    exact h.clearAll
  · rw [hw]
    rcases Assembly.getDocument_ok_cases hg with rfl | ⟨-, docs, rfl⟩
    · exact h
    · exact h.putDocuments docs
  · rw [hw]
    exact NormAccumulator.distinctKeys_accumulate hacc h
  · rw [hw]
    exact h.putTermCursor t c

theorem distinctKeys_runAll (ix : Index C) (s : Worker C × Shared) (steps : List ReaderStep)
    (h : s.1.caches.DistinctKeys) : (runAll ix s steps).1.caches.DistinctKeys := by
  induction steps generalizing s with
  | nil => exact h
  | cons st steps ih => exact ih _ (distinctKeys_after_step ix s.1 s.2 st h)

/-- The sizes reported for caches whose keys are bound once and whose observed set agrees with
the accepted postings: the number of distinct keys of each cache, and the number of observed
ordinals. -/
lemma stats_eq_sizes {c : CacheSet C} {log : List (String × Posting)}
    (hkeys : c.DistinctKeys) (hnorms : NormsAgree ix c log) :
    c.stats =
      { documents := c.documents.map fun m => (m.map Prod.fst).toFinset.card
        termCursors := c.termCursors.map fun m => (m.map Prod.fst).toFinset.card
        fieldNorms := c.fieldNorms.map fun m => (m.map Prod.fst).toFinset.card
        observed := c.observed.map fun b => b.view.card } := by
  -- each size is read off the list, whose keys are distinct
  have hsize : ∀ {κ α : Type} [DecidableEq κ] (o : Option (Bindings κ α)),
      (∀ m, o = some m → (m.map Prod.fst).Nodup) →
      o.map List.length = o.map fun m => (m.map Prod.fst).toFinset.card := by
    intro κ α _ o ho
    cases o with
    | none => rfl
    | some m => simp [CacheSet.card_keys_of_nodup (ho m rfl)]
  have hobs : c.observed.map BitSet.countOnes = c.observed.map fun b => b.view.card := by
    cases hb : c.observed with
    | none => rfl
    | some b => simp [(hnorms.wellFormed_of_observed hb).countOnes_eq_card]
  simp only [CacheSet.stats, hsize _ hkeys.documents, hsize _ hkeys.termCursors,
    hsize _ hkeys.fieldNorms, hobs]

/-- Invalidating caches whose observed set agrees with the accepted postings reports every
created cache with size zero, and no other. -/
lemma stats_clearAll {c : CacheSet C} {log : List (String × Posting)}
    (hnorms : NormsAgree ix c log) (k : CacheKind) :
    c.clearAll.stats.get k = (c.stats.get k).map fun _ => 0 := by
  cases k with
  | observed =>
    simp only [CacheSet.clearAll, CacheSet.stats, CacheStats.get, Option.map_map,
      Function.comp_def]
    cases hb : c.observed with
    | none => rfl
    | some b =>
      -- the observed set spans the capacity bound, so the reset clears all of it
      simp only [Option.map_some, ← c.observed_len b hb,
        (hnorms.wellFormed_of_observed hb).countOnes_resetRange_len]
  | _ => simp [CacheSet.clearAll, CacheSet.stats, CacheStats.get, Option.map_map,
      Function.comp_def]

/-- Cache statistics of a worker, for any cursor provider: after any run of a new worker, a
cache is reported exactly when a step of the run inserted into it, with its number of distinct
keys (observed ordinals, for the observed set); an invalidation then reports every created cache
with size zero, and two invalidations in a row leave what one leaves. -/
theorem stats_report_created_caches (ix : Index C) (sh : Shared) (steps : List ReaderStep) :
    let s := runAll ix (ix.worker, sh) steps
    (∀ k, (s.1.caches.stats.get k).isSome = true ↔
      ∃ pre st post, steps = pre ++ st :: post ∧
        Inserts ix (runAll ix (ix.worker, sh) pre).1 (runAll ix (ix.worker, sh) pre).2 st k) ∧
    s.1.caches.stats =
      { documents := s.1.caches.documents.map fun m => (m.map Prod.fst).toFinset.card
        termCursors := s.1.caches.termCursors.map fun m => (m.map Prod.fst).toFinset.card
        fieldNorms := s.1.caches.fieldNorms.map fun m => (m.map Prod.fst).toFinset.card
        observed := s.1.caches.observed.map fun b => b.view.card } ∧
    (∀ st : ReaderStep, st.invalidates = true → ∀ k,
      (st.run ix s.1 s.2).2.1.caches.stats.get k = (s.1.caches.stats.get k).map fun _ => 0) ∧
    ∀ (t : Worker C × Shared) (st st' : ReaderStep), st.invalidates = true →
      st'.invalidates = true → runAll ix t [st, st'] = runAll ix t [st] := by
  intro s
  have hnorms : NormsAgree ix s.1.caches (acceptedPostings ix (ix.worker, sh) [] steps) :=
    normsAgree_runAll _ [] steps NormsAgree.worker
  have hkeys : s.1.caches.DistinctKeys :=
    distinctKeys_runAll ix _ steps (CacheSet.DistinctKeys.new _)
  refine ⟨fun k => ?_, stats_eq_sizes hkeys hnorms, fun st hst k => ?_, fun t st st' h h' => ?_⟩
  · -- a new worker has created no cache
    rw [CacheSet.isSome_stats_get, created_runAll]
    cases k <;> simp [Index.worker, CacheSet.new, CacheSet.created]
  · rw [run_of_invalidates ix s.1 s.2 hst]
    exact stats_clearAll hnorms k
  · simp only [runAll_cons, runAll_nil, exec_snd, run_of_invalidates ix _ _ h,
      run_of_invalidates ix _ _ h', Worker.clearAll, CacheSet.clearAll_clearAll]

end ReaderStep

end Session

end StoredDocs
