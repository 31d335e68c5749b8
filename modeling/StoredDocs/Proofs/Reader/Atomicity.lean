import Mathlib
import StoredDocs.Proofs.Norms.Accumulation
import StoredDocs.Proofs.Reader.DocumentCache

/-!
# Failed steps change nothing in a worker

Every operation of a worker checks all it reads before it changes a cache: a document read
decodes every row of its batch before it caches any, an accumulation checks every posting
before it writes a norm, and the term operations open and position their cursor before they
cache it. So a step that fails hands the worker back as it was.

The main statement, `failed_step_leaves_worker`, says this of every step and any cursor
provider, together with the failures that make it matter: a corrupt row anywhere in a batch,
even one fetched only to prefetch it, fails the whole read; a refused posting anywhere in an
accumulation, even after valid ones, fails the whole call; and a cursor the provider cannot open
or move fails the term operation that asked for it.
-/

namespace StoredDocs

/-! ### Refused postings -/

namespace NormAccumulator

lemma resolveNorm_error {p : Posting} (field : String) {bs : Bytes} (hp : p.norm = some bs)
    (hlen : bs.length ≠ 1) : ∃ e, p.resolveNorm field = .error e := by
  unfold Posting.resolveNorm
  rw [hp]
  match bs, hlen with
  | [], _ => exact ⟨_, rfl⟩
  | [_], h => exact absurd rfl h
  | _ :: _ :: _, _ => exact ⟨_, rfl⟩

/-- Resolution fails when any posting is refused, whatever postings come before it. -/
theorem resolve_error_of_mem {capacityBound : Nat} {field : String} {ps : List Posting}
    {p : Posting} (hp : p ∈ ps)
    (hbad : capacityBound ≤ p.ordinal.toNat ∨ ∃ bs, p.norm = some bs ∧ bs.length ≠ 1) :
    ∃ e, resolve capacityBound field ps = .error e := by
  induction ps with
  | nil => cases hp
  | cons q ps ih =>
    by_cases hcap : capacityBound ≤ q.ordinal.toNat
    · refine ⟨.capacityExceeded q.ordinal (capacityBound - 1), ?_⟩
      simp [resolve, hcap, throw, throwThe, MonadExceptOf.throw, bind, Except.bind]
    · cases hq : q.resolveNorm field with
      | error e =>
        refine ⟨e, ?_⟩
        simp [resolve, hcap, hq, bind, Except.bind]
      | ok b =>
        rcases List.mem_cons.1 hp with rfl | hp
        · -- the refused posting is this one, and its ordinal is in range: its norm is refused
          rcases hbad with hc | ⟨bs, hn, hl⟩
          · exact absurd hc hcap
          · obtain ⟨e, he⟩ := resolveNorm_error field hn hl
            rw [hq] at he
            cases he
        · obtain ⟨e, he⟩ := ih hp
          refine ⟨e, ?_⟩
          simp [resolve, hcap, hq, he, bind, Except.bind]

/-- An accumulation with a refused posting fails. -/
theorem accumulate_error_of_mem {C : Type} {acc : NormAccumulator} {c : CacheSet C}
    {field : String} {ps : List Posting} {p : Posting} (hp : p ∈ ps)
    (hbad : acc.capacityBound ≤ p.ordinal.toNat ∨ ∃ bs, p.norm = some bs ∧ bs.length ≠ 1) :
    ∃ e, acc.accumulate c field ps = .error e := by
  obtain ⟨e, he⟩ : ∃ e, resolve acc.capacityBound field ps = .error e :=
    resolve_error_of_mem hp hbad
  unfold accumulate
  split
  · exact ⟨_, rfl⟩
  · split
    · exact ⟨_, rfl⟩
    · next resolved hres =>
      rw [he] at hres
      cases hres

end NormAccumulator

/-! ### Corrupt rows -/

namespace Assembly

/-- A read that misses the cache fails when the store serves a fetched row that does not
assemble, whatever the other rows hold. -/
theorem getDocument_error_of_corrupt {store : MemoryStore} {index : String} {cons : Consistency}
    {C : Type} {c : CacheSet C} {o q : UInt32} {sel : Selection} {row : RawRow} {e : Error}
    (ho : c.document? o = none) (hq : q ∈ fetchSet c o sel.prefetch)
    (havail : store.unavailable = false)
    (hrow : store.readRow (Fetch.filterFor sel.fields) (StorageKey.forDocument index q).bytes =
      some row)
    (hbad : assemble q row = .error e) :
    ∃ e', (getDocument store index cons c o sel).2 = .error e' := by
  have hread := (MemoryStore.batchRead_eq_ok_iff store
    (Fetch.keysOf index (fetchSet c o sel.prefetch)) (Fetch.filterFor sel.fields) cons _).2
    ⟨havail, rfl⟩
  -- the batch binds the corrupt row under the key of `q`
  have hlookup := MemoryStore.lookup_rowsFor store _ (Fetch.filterFor sel.fields)
    (StorageKey.forDocument index q) (Fetch.mem_keysOf hq)
  rw [hrow] at hlookup
  obtain ⟨e', he'⟩ := assembleAll_error_of_mem hq hlookup hbad
  refine ⟨e', ?_⟩
  rw [getDocument_miss ho]
  simp only [hread, bind, Except.bind, he']

end Assembly

/-! ### Failed steps -/

namespace Session

namespace ReaderStep

variable {C : Type}

/-- A step that fails hands the worker back as it was. -/
theorem worker_of_error (ix : Index C) (w : Worker C) (sh : Shared) {st : ReaderStep}
    {err : Fault} (h : (st.run ix w sh).1 = .error err) : (st.run ix w sh).2.1 = w := by
  rcases worker_after_step ix w sh st with hw | ⟨⟨r, hr⟩, -⟩
  · exact hw
  · rw [h] at hr
    cases hr

/-- A document-frequency read of a term not cached fails with the provider's error when the new
cursor cannot be opened or moved, after counting the request. -/
lemma run_docFreq_of_freshCursor_error {ix : Index C} {w : Worker C} {t : Term} {e : Error}
    (hc : w.caches.termCursor? t = none) (he : ix.freshCursor t = .error e) (sh : Shared) :
    (docFreq t).run ix w sh = (.error (.error e), w, { sh with opened := sh.opened + 1 }) := by
  rw [run_docFreq, hc]
  simp only [he]

/-- A positioned cursor of a cached term fails with the cursor's error when moving the copy of
the cached cursor fails. -/
lemma run_termsFrom_of_skipTo_error {ix : Index C} {w : Worker C} {t : Term} {c : C} {e : Error}
    (hc : w.caches.termCursor? t = some c) (he : ix.cursors.skipTo c t = .error e)
    (sh : Shared) : (termsFrom t).run ix w sh = (.error (.error e), w, sh) := by
  rw [run_termsFrom_eq, termsFrom_hit hc, he]
  rfl

/-- A positioned cursor of a term not cached fails with the provider's error when the new cursor
cannot be opened or moved, after counting the request. -/
lemma run_termsFrom_of_freshCursor_error {ix : Index C} {w : Worker C} {t : Term} {e : Error}
    (hc : w.caches.termCursor? t = none) (he : ix.freshCursor t = .error e) (sh : Shared) :
    (termsFrom t).run ix w sh = (.error (.error e), w, { sh with opened := sh.opened + 1 }) := by
  rw [run_termsFrom_eq, termsFrom_miss hc, he]
  rfl

/-- A failed step leaves the worker's caches as they were, for any cursor provider; and a corrupt
row anywhere in a read's batch, a refused posting anywhere in an accumulation, or a cursor the
provider cannot open or move fails the step that met it. -/
theorem failed_step_leaves_worker (ix : Index C) :
    (∀ (w : Worker C) (sh : Shared) (st : ReaderStep) (err : Fault),
      (st.run ix w sh).1 = .error err → (st.run ix w sh).2.1 = w) ∧
    (∀ (w : Worker C) (sh : Shared) (o : UInt32) (sel : Selection)
      (query : Option (List String)) (q : UInt32) (row : RawRow) (e : Error),
      w.caches.document? o = none → q ∈ Assembly.fetchSet w.caches o sel.prefetch →
      sh.store.unavailable = false →
      sh.store.readRow (Fetch.filterFor sel.fields) (StorageKey.forDocument ix.name q).bytes =
        some row →
      Assembly.assemble q row = .error e →
      ∃ err, ((document o sel query).run ix w sh).1 = .error err ∧
        ((document o sel query).run ix w sh).2.1 = w) ∧
    (∀ (w : Worker C) (sh : Shared) (f : String) (ps : List Posting) (p : Posting), p ∈ ps →
      (ix.config.capacityBound ≤ p.ordinal.toNat ∨ ∃ bs, p.norm = some bs ∧ bs.length ≠ 1) →
      ∃ err, ((accumulate f ps).run ix w sh).1 = .error err ∧
        ((accumulate f ps).run ix w sh).2.1 = w) ∧
    (∀ (w : Worker C) (sh : Shared) (t : Term) (e : Error), w.caches.termCursor? t = none →
      ix.freshCursor t = .error e →
      ((docFreq t).run ix w sh).1 = .error (.error e) ∧ ((docFreq t).run ix w sh).2.1 = w) ∧
    (∀ (w : Worker C) (sh : Shared) (t : Term) (c : C) (e : Error),
      w.caches.termCursor? t = some c → ix.cursors.skipTo c t = .error e →
      ((termsFrom t).run ix w sh).1 = .error (.error e) ∧
        ((termsFrom t).run ix w sh).2.1 = w) ∧
    (∀ (w : Worker C) (sh : Shared) (t : Term) (e : Error), w.caches.termCursor? t = none →
      ix.freshCursor t = .error e →
      ((termsFrom t).run ix w sh).1 = .error (.error e) ∧
        ((termsFrom t).run ix w sh).2.1 = w) := by
  refine ⟨fun w sh st err h => worker_of_error ix w sh h, ?_, ?_, ?_, ?_, ?_⟩
  · intro w sh o sel query q row e ho hq havail hrow hbad
    obtain ⟨e', he'⟩ : ∃ e', (Assembly.getDocument sh.store ix.name ix.config.consistency
        w.caches o sel).2 = .error e' :=
      Assembly.getDocument_error_of_corrupt ho hq havail hrow hbad
    have hrun : (document o sel query).run ix w sh =
        (.error (.error e'), w,
          { sh with store := (Assembly.getDocument sh.store ix.name ix.config.consistency w.caches
            o sel).1 }) := by
      rw [run_document]
      rcases hg : Assembly.getDocument sh.store ix.name ix.config.consistency w.caches o sel with
        ⟨store, r⟩
      rw [hg] at he'
      subst he'
      rfl
    rw [hrun]
    exact ⟨_, rfl, rfl⟩
  · intro w sh f ps p hp hbad
    obtain ⟨e, he⟩ : ∃ e, ix.accumulator.accumulate w.caches f ps = .error e :=
      NormAccumulator.accumulate_error_of_mem hp hbad
    rw [run_accumulate, he]
    exact ⟨_, rfl, rfl⟩
  · intro w sh t e hc he
    rw [run_docFreq_of_freshCursor_error hc he]
    exact ⟨rfl, rfl⟩
  · intro w sh t c e hc he
    rw [run_termsFrom_of_skipTo_error hc he]
    exact ⟨rfl, rfl⟩
  · intro w sh t e hc he
    rw [run_termsFrom_of_freshCursor_error hc he]
    exact ⟨rfl, rfl⟩

end ReaderStep

end Session

end StoredDocs
