import Mathlib
import StoredDocs.Proofs.Reader.Steps

/-!
# The document cache of a worker

A worker caches the documents it reads, by ordinal. A read that misses the cache fetches the
requested ordinal and the uncached prefetch ordinals in one batched read of the store, and
caches the assembly of every row that read returned; a read that hits the cache answers from
it and reads nothing. Only `clearAll` and the lifecycle hooks remove entries.

The main statement, `document_cache_holds_reads_since_invalidation`, follows a worker through
any run of steps, with the store written between them: a document read makes exactly one
batched read when it misses and none when it hits, and no other operation of the worker reads
the store; after the run, the cache holds exactly the documents that successful missing reads
since the last invalidation assembled from the rows the store returned to them; an entry,
once cached, stays until the next invalidation; and a cached document is served as it is,
whatever the selection of the read and whatever the store holds by then.
-/

namespace StoredDocs

/-! ### Fetch sets -/

namespace Assembly

variable {C : Type}

lemma mem_foldl_fetch (c : CacheSet C) (ps acc : List UInt32) (q : UInt32) :
    q ∈ ps.foldl (fun acc o => if c.containsDocument o || acc.contains o then acc else acc ++ [o])
        acc ↔ q ∈ acc ∨ (q ∈ ps ∧ c.containsDocument q = false) := by
  induction ps generalizing acc with
  | nil => simp
  | cons p ps ih =>
    rw [List.foldl_cons, ih]
    by_cases hp : c.containsDocument p = true
    · -- a cached prefetch ordinal is skipped
      simp only [hp, Bool.true_or, if_true, List.mem_cons]
      constructor
      · rintro (h | ⟨h1, h2⟩)
        · exact Or.inl h
        · exact Or.inr ⟨Or.inr h1, h2⟩
      · rintro (h | ⟨rfl | h1, h2⟩)
        · exact Or.inl h
        · simp [hp] at h2
        · exact Or.inr ⟨h1, h2⟩
    · have hp' : c.containsDocument p = false := by simpa using hp
      by_cases hacc : acc.contains p = true
      · -- an ordinal already listed is skipped
        have hmem : p ∈ acc := by simpa using hacc
        simp only [hp', hacc, Bool.false_or, if_true, List.mem_cons]
        constructor
        · rintro (h | ⟨h1, h2⟩)
          · exact Or.inl h
          · exact Or.inr ⟨Or.inr h1, h2⟩
        · rintro (h | ⟨rfl | h1, h2⟩)
          · exact Or.inl h
          · exact Or.inl hmem
          · exact Or.inr ⟨h1, h2⟩
      · have hacc' : acc.contains p = false := by simpa using hacc
        simp only [hp', hacc', Bool.false_or, Bool.false_eq_true, if_false, List.mem_append,
          List.mem_cons, List.not_mem_nil, or_false]
        constructor
        · rintro ((h | rfl) | ⟨h1, h2⟩)
          · exact Or.inl h
          · exact Or.inr ⟨Or.inl rfl, hp'⟩
          · exact Or.inr ⟨Or.inr h1, h2⟩
        · rintro (h | ⟨rfl | h1, h2⟩)
          · exact Or.inl (Or.inl h)
          · exact Or.inl (Or.inr rfl)
          · exact Or.inr ⟨h1, h2⟩

/-- A read fetches the requested ordinal and the prefetch ordinals that are not cached. -/
theorem mem_fetchSet (c : CacheSet C) (o : UInt32) (ps : List UInt32) (q : UInt32) :
    q ∈ fetchSet c o ps ↔ q = o ∨ (q ∈ ps ∧ c.containsDocument q = false) := by
  rw [fetchSet, mem_foldl_fetch, List.mem_singleton]

/-- When the requested ordinal is not cached, no fetched ordinal is. -/
lemma document?_eq_none_of_mem_fetchSet {c : CacheSet C} {o q : UInt32} {ps : List UInt32}
    (ho : c.document? o = none) (hq : q ∈ fetchSet c o ps) : c.document? q = none := by
  rcases (mem_fetchSet c o ps q).1 hq with rfl | ⟨-, hc⟩
  · exact ho
  · simpa [CacheSet.containsDocument] using hc

/-! ### Assembling fetched rows -/

lemma assemble_ordinal {o : UInt32} {row : RawRow} {d : Document} (h : assemble o row = .ok d) :
    d.ordinal = o := by
  unfold assemble at h
  simp only [bind, Except.bind, pure, Except.pure] at h
  split at h
  · cases h
  · cases h
    rfl

/-- The documents assembled for a list of ordinals are, for each ordinal with a row, the
assembly of that row. -/
theorem mem_assembleAll {index : String} {rows : Bindings StorageKey RawRow} {os : List UInt32}
    {docs : List Document} (h : assembleAll index rows os = .ok docs) (q : UInt32) (d : Document) :
    (d ∈ docs ∧ d.ordinal = q) ↔
      q ∈ os ∧ ∃ row, rows.lookup (StorageKey.forDocument index q) = some row ∧
        assemble q row = .ok d := by
  induction os generalizing docs with
  | nil =>
    simp only [assembleAll, pure, Except.pure, Except.ok.injEq] at h
    subst h
    simp
  | cons o os ih =>
    simp only [assembleAll] at h
    cases hrow : rows.lookup (StorageKey.forDocument index o) with
    | none =>
      rw [hrow] at h
      rw [ih h, List.mem_cons]
      constructor
      · rintro ⟨hq, hex⟩
        exact ⟨Or.inr hq, hex⟩
      · rintro ⟨rfl | hq, hex⟩
        · obtain ⟨row, hr, -⟩ := hex
          rw [hrow] at hr
          cases hr
        · exact ⟨hq, hex⟩
    | some row =>
      rw [hrow] at h
      simp only [bind, Except.bind, pure, Except.pure] at h
      cases hd : assemble o row with
      | error e => rw [hd] at h; cases h
      | ok d₀ =>
        rw [hd] at h
        cases hds : assembleAll index rows os with
        | error e => rw [hds] at h; cases h
        | ok ds =>
          rw [hds] at h
          cases h
          have hd₀ := assemble_ordinal hd
          rw [List.mem_cons, or_and_right, ih hds, List.mem_cons]
          constructor
          · rintro (⟨rfl, rfl⟩ | ⟨hq, hex⟩)
            · exact ⟨Or.inl hd₀, row, by rw [hd₀]; exact hrow, by rw [hd₀]; exact hd⟩
            · exact ⟨Or.inr hq, hex⟩
          · rintro ⟨rfl | hq, row', hr, hq'⟩
            · rw [hrow] at hr
              cases hr
              rw [hd] at hq'
              cases hq'
              exact Or.inl ⟨rfl, hd₀⟩
            · exact Or.inr ⟨hq, row', hr, hq'⟩

/-- A row that fails to assemble fails the assembly of every list that fetches it. -/
theorem assembleAll_error_of_mem {index : String} {rows : Bindings StorageKey RawRow}
    {os : List UInt32} {q : UInt32} {row : RawRow} {e : Error} (hq : q ∈ os)
    (hrow : rows.lookup (StorageKey.forDocument index q) = some row)
    (hbad : assemble q row = .error e) : ∃ e', assembleAll index rows os = .error e' := by
  induction os with
  | nil => cases hq
  | cons o os ih =>
    simp only [assembleAll]
    rcases List.mem_cons.1 hq with rfl | hq
    · rw [hrow]
      simp only [bind, Except.bind, hbad]
      exact ⟨e, rfl⟩
    · obtain ⟨e', he'⟩ := ih hq
      cases hro : rows.lookup (StorageKey.forDocument index o) with
      | none => exact ⟨e', he'⟩
      | some r =>
        simp only [bind, Except.bind]
        cases assemble o r with
        | error e₀ => exact ⟨e₀, rfl⟩
        | ok d => simp only [he']; exact ⟨e', rfl⟩

end Assembly

/-! ### Caching assembled documents -/

namespace CacheSet

variable {C : Type}

/-- Caching documents answers, for each ordinal, the last of them with that ordinal, and what
was cached before for the others. -/
theorem document?_putDocuments (c : CacheSet C) (docs : List Document) (q : UInt32) :
    (c.putDocuments docs).document? q =
      (docs.reverse.find? (·.ordinal == q)).or (c.document? q) := by
  simp only [putDocuments, document?, Option.bind_some, Bindings.lookup_foldl_put]
  cases c.documents <;> rfl

end CacheSet

/-! ### One batched read -/

/-- The storage keys of the rows of some ordinals, in their order. -/
def Fetch.keysOf (index : String) (ordinals : List UInt32) : List Bytes :=
  ordinals.map fun o => (StorageKey.forDocument index o).bytes

lemma Fetch.mem_keysOf {index : String} {ordinals : List UInt32} {q : UInt32} (hq : q ∈ ordinals) :
    (StorageKey.forDocument index q).bytes ∈ Fetch.keysOf index ordinals :=
  List.mem_map_of_mem hq

/-- The rows of a batch, bound by key, answer for a requested key the row read under it. -/
lemma MemoryStore.lookup_rowsFor (s : MemoryStore) (keys : List Bytes) (filter : ColumnFilter)
    (k : StorageKey) (hk : k.bytes ∈ keys) :
    ((s.rowsFor keys filter).foldl (fun m row => Bindings.put m ⟨row.key⟩ row) []).lookup k =
      s.readRow filter k.bytes := by
  obtain ⟨kb⟩ := k
  rw [Bindings.lookup_foldl_put (fun row : RawRow => StorageKey.mk row.key)]
  simp only [List.lookup_nil, Option.or_none]
  have hkey_iff : ∀ row : RawRow,
      (StorageKey.mk row.key == StorageKey.mk kb) = true ↔ row.key = kb := by
    intro row
    simp
  cases hr : s.readRow filter kb with
  | none =>
    -- no served row carries a key that the store does not hold
    rw [List.find?_eq_none]
    intro row hrow hkey
    obtain ⟨-, hread⟩ := MemoryStore.mem_rowsFor.1 (List.mem_reverse.1 hrow)
    rw [(hkey_iff row).1 hkey, hr] at hread
    cases hread
  | some r =>
    have hrk : r.key = kb := MemoryStore.readRow_key hr
    have hmem : r ∈ s.rowsFor keys filter :=
      MemoryStore.mem_rowsFor.2 ⟨hrk ▸ hk, hrk ▸ hr⟩
    cases hf : (s.rowsFor keys filter).reverse.find?
        (fun row => StorageKey.mk row.key == StorageKey.mk kb) with
    | none =>
      rw [List.find?_eq_none] at hf
      exact absurd ((hkey_iff r).2 hrk) (hf r (List.mem_reverse.2 hmem))
    | some r' =>
      -- every served row of one key is the row read under that key
      have hfound := List.find?_some hf
      have hkey : r'.key = kb := (hkey_iff r').1 hfound
      obtain ⟨-, hread⟩ :=
        MemoryStore.mem_rowsFor.1 (List.mem_reverse.1 (List.mem_of_find?_eq_some hf))
      rw [hkey, hr] at hread
      exact hread.symm

/-! ### Document reads -/

namespace Assembly

variable {C : Type}

lemma getDocument_hit {store : MemoryStore} {index : String} {cons : Consistency}
    {c : CacheSet C} {o : UInt32} {sel : Selection} {d : Document} (h : c.document? o = some d) :
    getDocument store index cons c o sel = (store, .ok (some d, c)) := by
  unfold getDocument
  rw [h]

lemma fetchSet_isEmpty (c : CacheSet C) (o : UInt32) (ps : List UInt32) :
    (fetchSet c o ps).isEmpty = false := by
  cases h : fetchSet c o ps with
  | nil => exact absurd (h ▸ (mem_fetchSet c o ps o).2 (Or.inl rfl)) List.not_mem_nil
  | cons _ _ => rfl

/-- A read that misses the cache makes one batched read of the fetch set's keys, assembles the
returned rows and caches them. -/
lemma getDocument_miss {store : MemoryStore} {index : String} {cons : Consistency}
    {c : CacheSet C} {o : UInt32} {sel : Selection} (h : c.document? o = none) :
    getDocument store index cons c o sel =
      ((store.batchRead (Fetch.keysOf index (fetchSet c o sel.prefetch))
          (Fetch.filterFor sel.fields) cons).1, do
        let rows ← (store.batchRead (Fetch.keysOf index (fetchSet c o sel.prefetch))
          (Fetch.filterFor sel.fields) cons).2
        let docs ← assembleAll index (rows.foldl (fun m row => Bindings.put m ⟨row.key⟩ row) [])
          (fetchSet c o sel.prefetch)
        pure (docs.find? (·.ordinal == o), c.putDocuments docs)) := by
  unfold getDocument Fetch.rows Fetch.keysOf
  rw [h]
  simp only [fetchSet_isEmpty, Bool.false_eq_true, if_false]
  cases (store.batchRead ((fetchSet c o sel.prefetch).map fun q =>
    (StorageKey.forDocument index q).bytes) (Fetch.filterFor sel.fields) cons).2 <;> rfl

/-- A successful read that missed the cache was served the rows of the fetch set, all of which
assembled, and cached the assembled documents. -/
lemma getDocument_miss_ok {store store' : MemoryStore} {index : String} {cons : Consistency}
    {c c' : CacheSet C} {o : UInt32} {sel : Selection} {r : Option Document}
    (ho : c.document? o = none) (hg : getDocument store index cons c o sel = (store', .ok (r, c'))) :
    let keys := Fetch.keysOf index (fetchSet c o sel.prefetch)
    (store.batchRead keys (Fetch.filterFor sel.fields) cons).2 =
        .ok (store.rowsFor keys (Fetch.filterFor sel.fields)) ∧
      ∃ docs, assembleAll index ((store.rowsFor keys (Fetch.filterFor sel.fields)).foldl
          (fun m row => Bindings.put m ⟨row.key⟩ row) []) (fetchSet c o sel.prefetch) = .ok docs ∧
        c' = c.putDocuments docs := by
  intro keys
  rw [getDocument_miss ho, Prod.mk.injEq] at hg
  obtain ⟨-, hg⟩ := hg
  cases hread : (store.batchRead keys (Fetch.filterFor sel.fields) cons).2 with
  | error e =>
    simp only [keys, hread, bind, Except.bind] at hg
    cases hg
  | ok rows =>
    obtain ⟨-, rfl⟩ := (MemoryStore.batchRead_eq_ok_iff _ _ _ _ _).1 hread
    refine ⟨rfl, ?_⟩
    simp only [keys, hread, bind, Except.bind] at hg
    cases hass : assembleAll index ((store.rowsFor keys (Fetch.filterFor sel.fields)).foldl
        (fun m row => Bindings.put m ⟨row.key⟩ row) []) (fetchSet c o sel.prefetch) with
    | error e =>
      simp only [keys] at hass
      simp [hass] at hg
    | ok docs =>
      simp only [keys] at hass
      simp only [hass, pure, Except.pure, Except.ok.injEq, Prod.mk.injEq] at hg
      exact ⟨docs, rfl, hg.2.symm⟩

/-- A successful document read changes only the document cache. -/
lemma getDocument_frame {store store' : MemoryStore} {index : String} {cons : Consistency}
    {c c' : CacheSet C} {o : UInt32} {sel : Selection} {r : Option Document}
    (hg : getDocument store index cons c o sel = (store', .ok (r, c'))) :
    c'.capacityBound = c.capacityBound ∧ c'.fieldNorms = c.fieldNorms ∧
      c'.observed = c.observed := by
  cases ho : c.document? o with
  | some d =>
    rw [getDocument_hit ho] at hg
    cases hg
    exact ⟨rfl, rfl, rfl⟩
  | none =>
    obtain ⟨-, docs, -, rfl⟩ := getDocument_miss_ok ho hg
    exact ⟨rfl, rfl, rfl⟩

/-- After a successful read that missed the cache, an ordinal is cached with a document when it
was cached with it before, or when it was fetched, was not cached, and the row the store
returned for it assembles to that document. -/
theorem document?_of_getDocument_miss {store store' : MemoryStore} {index : String}
    {cons : Consistency} {c c' : CacheSet C} {o : UInt32} {sel : Selection} {r : Option Document}
    (ho : c.document? o = none) (hg : getDocument store index cons c o sel = (store', .ok (r, c')))
    (q : UInt32) (d : Document) :
    c'.document? q = some d ↔ c.document? q = some d ∨
      (q ∈ fetchSet c o sel.prefetch ∧ c.document? q = none ∧
        ∃ rows, (store.batchRead (Fetch.keysOf index (fetchSet c o sel.prefetch))
            (Fetch.filterFor sel.fields) cons).2 = .ok rows ∧
          ∃ row ∈ rows, row.key = (StorageKey.forDocument index q).bytes ∧
            assemble q row = .ok d) := by
  obtain ⟨hread, docs, hass, rfl⟩ := getDocument_miss_ok ho hg
  set keys := Fetch.keysOf index (fetchSet c o sel.prefetch)
  set rows := store.rowsFor keys (Fetch.filterFor sel.fields)
  -- the assembled documents of one ordinal are all the assembly of that ordinal's row
  have hdocs := mem_assembleAll hass
  have hunique : ∀ d₁ ∈ docs, ∀ d₂ ∈ docs, d₁.ordinal = d₂.ordinal → d₁ = d₂ := by
    intro d₁ h₁ d₂ h₂ heq
    obtain ⟨-, row₁, hr₁, ha₁⟩ := (hdocs d₁.ordinal d₁).1 ⟨h₁, rfl⟩
    obtain ⟨-, row₂, hr₂, ha₂⟩ := (hdocs d₁.ordinal d₂).1 ⟨h₂, heq.symm⟩
    rw [hr₁, Option.some.injEq] at hr₂
    subst hr₂
    rw [ha₁, Except.ok.injEq] at ha₂
    exact ha₂
  rw [CacheSet.document?_putDocuments, Option.or_eq_some_iff]
  cases hq : c.document? q with
  | some d₀ =>
    -- a cached ordinal is not fetched, so no assembled document replaces it
    have hnot : q ∉ fetchSet c o sel.prefetch := fun hmem =>
      by rw [document?_eq_none_of_mem_fetchSet ho hmem] at hq; cases hq
    have hnone : docs.reverse.find? (·.ordinal == q) = none := by
      rw [List.find?_eq_none]
      intro x hx hxq
      exact hnot ((hdocs q x).1 ⟨List.mem_reverse.1 hx, by simpa using hxq⟩).1
    simp [hnone]
  | none =>
    simp only [reduceCtorEq, and_false, false_or, true_and, or_false]
    rw [hread]
    simp only [Except.ok.injEq, exists_eq_left']
    constructor
    · intro hf
      have hmem := List.mem_reverse.1 (List.mem_of_find?_eq_some hf)
      have hord : d.ordinal = q := by simpa using List.find?_some hf
      obtain ⟨hfetch, row, hrow, hasm⟩ := (hdocs q d).1 ⟨hmem, hord⟩
      rw [MemoryStore.lookup_rowsFor _ _ _ _ (Fetch.mem_keysOf hfetch)] at hrow
      refine ⟨hfetch, row, ?_, MemoryStore.readRow_key hrow, hasm⟩
      exact MemoryStore.mem_rowsFor.2 ⟨MemoryStore.readRow_key hrow ▸ Fetch.mem_keysOf hfetch,
        by rw [MemoryStore.readRow_key hrow]; exact hrow⟩
    · rintro ⟨hfetch, row, hrow, hkey, hasm⟩
      have hread' := (MemoryStore.mem_rowsFor.1 hrow).2
      rw [hkey] at hread'
      have hlookup := MemoryStore.lookup_rowsFor store keys (Fetch.filterFor sel.fields)
        (StorageKey.forDocument index q) (Fetch.mem_keysOf hfetch)
      rw [hread'] at hlookup
      have hin : d ∈ docs ∧ d.ordinal = q := (hdocs q d).2 ⟨hfetch, row, hlookup, hasm⟩
      cases hf : docs.reverse.find? (·.ordinal == q) with
      | none =>
        rw [List.find?_eq_none] at hf
        exact absurd (by simpa using hin.2) (hf d (List.mem_reverse.2 hin.1))
      | some d' =>
        have hd' : d' ∈ docs := List.mem_reverse.1 (List.mem_of_find?_eq_some hf)
        have hord : d'.ordinal = q := by simpa using List.find?_some hf
        rw [hunique d' hd' d hin.1 (hord.trans hin.2.symm)]

end Assembly

/-! ### The document cache along a run -/

lemma CacheSet.document?_clearAll {C : Type} (c : CacheSet C) (q : UInt32) :
    c.clearAll.document? q = none := by
  simp only [CacheSet.document?, CacheSet.clearAll]
  cases c.documents <;> rfl

/-- Splitting a nonempty list around one of its elements: at its head, or inside its tail. -/
lemma exists_split_cons {α : Type} (a : α) (l : List α) (P : List α → α → List α → Prop) :
    (∃ pre x post, a :: l = pre ++ x :: post ∧ P pre x post) ↔
      P [] a l ∨ ∃ pre x post, l = pre ++ x :: post ∧ P (a :: pre) x post := by
  constructor
  · rintro ⟨pre, x, post, h, hp⟩
    rcases List.cons_eq_append_iff.1 h with ⟨rfl, h'⟩ | ⟨pre', rfl, rfl⟩
    · obtain ⟨rfl, rfl⟩ := List.cons.inj h'
      exact Or.inl hp
    · exact Or.inr ⟨pre', x, post, rfl, hp⟩
  · rintro (hp | ⟨pre, x, post, rfl, hp⟩)
    · exact ⟨[], a, l, rfl, hp⟩
    · exact ⟨a :: pre, x, post, rfl, hp⟩

namespace Session

namespace ReaderStep

variable {C : Type}

/-- The batched reads a step makes: one for a document read that misses the cache and one for
a direct fetch of some ordinals; no other step reads the store. -/
def batchReads (w : Worker C) : ReaderStep → Nat
  | .document o _ _ => if w.caches.containsDocument o then 0 else 1
  | .fetch ordinals _ => if ordinals.isEmpty then 0 else 1
  | _ => 0

/-- Step `st` of worker `w` on shared state `sh` is a successful document read that missed the
cache and cached `d` under `q`: `q` was fetched and was not cached, and `d` is the assembly of
the row that the store returned under the key of `q` to that read, with that read's columns. -/
def CachesDocument (ix : Index C) (w : Worker C) (sh : Shared) (st : ReaderStep) (q : UInt32)
    (d : Document) : Prop :=
  ∃ o sel query, st = .document o sel query ∧ w.caches.document? o = none ∧
    (∃ r, (st.run ix w sh).1 = .ok r) ∧
    q ∈ Assembly.fetchSet w.caches o sel.prefetch ∧ w.caches.document? q = none ∧
    ∃ rows, (sh.store.batchRead (Fetch.keysOf ix.name (Assembly.fetchSet w.caches o sel.prefetch))
        (Fetch.filterFor sel.fields) ix.config.consistency).2 = .ok rows ∧
      ∃ row ∈ rows, row.key = (StorageKey.forDocument ix.name q).bytes ∧
        Assembly.assemble q row = .ok d

lemma not_cachesDocument_of_invalidates {ix : Index C} {w : Worker C} {sh : Shared}
    {st : ReaderStep} (h : st.invalidates = true) (q : UInt32) (d : Document) :
    ¬CachesDocument ix w sh st q d := by
  rintro ⟨o, sel, query, rfl, -⟩
  cases h

/-- A read of a cached document answers it, whatever its selection, and changes nothing. -/
lemma run_document_hit {ix : Index C} {w : Worker C} {sh : Shared} {o : UInt32} {d : Document}
    (sel : Selection) (query : Option (List String)) (h : w.caches.document? o = some d) :
    (document o sel query).run ix w sh = (.ok (.document (some d) query), w, sh) := by
  rw [run_document, Assembly.getDocument_hit h]

lemma shared_after_document (ix : Index C) (w : Worker C) (sh : Shared) (o : UInt32)
    (sel : Selection) (query : Option (List String)) :
    ((document o sel query).run ix w sh).2.2 =
      { sh with store := (Assembly.getDocument sh.store ix.name ix.config.consistency w.caches
        o sel).1 } := by
  rw [run_document]
  rcases Assembly.getDocument sh.store ix.name ix.config.consistency w.caches o sel with
    ⟨store, e | ⟨d, c⟩⟩ <;> rfl

lemma reads_fetchRows (store : MemoryStore) (index : String) (cons : Consistency)
    (ordinals : List UInt32) (fields : List String) :
    (Fetch.rows store index cons ordinals fields).1.reads =
      store.reads + if ordinals.isEmpty then 0 else 1 := by
  unfold Fetch.rows
  by_cases h : ordinals.isEmpty = true
  · rw [if_pos h, if_pos h]
    rfl
  · rw [if_neg h, if_neg h, ← MemoryStore.reads_batchRead store _ (Fetch.filterFor fields) cons]

/-- A document read that misses the cache and a direct fetch of some ordinals each make one
batched read; every other step leaves the read count as it was. -/
theorem reads_after_step (ix : Index C) (w : Worker C) (sh : Shared) (st : ReaderStep) :
    (st.run ix w sh).2.2.store.reads = sh.store.reads + st.batchReads w := by
  cases st with
  | document o sel query =>
    rw [shared_after_document]
    cases ho : w.caches.document? o with
    | some d =>
      rw [Assembly.getDocument_hit ho]
      simp [batchReads, CacheSet.containsDocument, ho]
    | none =>
      rw [Assembly.getDocument_miss ho, MemoryStore.reads_batchRead]
      simp [batchReads, CacheSet.containsDocument, ho]
  | fetch ordinals fields =>
    simp only [run, batchReads]
    rw [← reads_fetchRows sh.store ix.name ix.config.consistency ordinals fields]
    rcases Fetch.rows sh.store ix.name ix.config.consistency ordinals fields with
      ⟨store, e | rows⟩ <;> rfl
  | docFreq t =>
    rw [run_docFreq]
    rcases w.caches.termCursor? t with _ | c
    · rcases ix.freshCursor t with e | r <;> rfl
    · rfl
  | termsFrom t =>
    rw [run_termsFrom_eq]
    rcases hc : w.caches.termCursor? t with _ | c
    · rw [termsFrom_miss hc]
      cases (ix.freshCursor t).map fun r => if r.1 then some r.2 else none <;> rfl
    · rw [termsFrom_hit hc]
      cases (ix.cursors.skipTo c t).map fun r => if r.1 then some r.2 else none <;> rfl
  | putTermCursor t target =>
    rw [run_putTermCursor]
    rcases ix.freshCursor (target.getD t) with e | r <;> rfl
  | _ => first | rfl | (simp only [run]; split <;> rfl)

/-- Steps other than document reads and invalidations leave the document cache as it is. -/
lemma documents_after_step (ix : Index C) (w : Worker C) (sh : Shared) {st : ReaderStep}
    (hinv : st.invalidates = false) (hdoc : ∀ o sel query, st ≠ .document o sel query) :
    (st.run ix w sh).2.1.caches.documents = w.caches.documents := by
  rcases worker_after_step ix w sh st with h | ⟨-, ⟨hst, -⟩ | ⟨o, sel, query, -, -, -, rfl, -⟩ |
      ⟨f, ps, c, -, hacc, h⟩ | ⟨t, c, h⟩⟩
  · rw [h]
  · rw [hinv] at hst
    cases hst
  · exact absurd rfl (hdoc o sel query)
  · rw [h]
    exact (NormAccumulator.accumulate_frame hacc).2.1
  · rw [h]
    rfl

/-- A document read adds to the cache exactly what `CachesDocument` describes. -/
lemma document?_after_document (ix : Index C) (w : Worker C) (sh : Shared) (o : UInt32)
    (sel : Selection) (query : Option (List String)) (q : UInt32) (d : Document) :
    ((document o sel query).run ix w sh).2.1.caches.document? q = some d ↔
      w.caches.document? q = some d ∨ CachesDocument ix w sh (document o sel query) q d := by
  cases ho : w.caches.document? o with
  | some d₀ =>
    -- a hit changes nothing, and it is no missing read
    rw [run_document_hit sel query ho]
    constructor
    · exact Or.inl
    · rintro (h | ⟨o', sel', query', heq, hmiss, -⟩)
      · exact h
      · cases heq
        rw [ho] at hmiss
        cases hmiss
  | none =>
    rcases hg : Assembly.getDocument sh.store ix.name ix.config.consistency w.caches o sel with
      ⟨store, e | ⟨r, c⟩⟩
    · -- a failed read leaves the worker as it was
      have hrun : (document o sel query).run ix w sh = (.error (.error e), w, { sh with store }) := by
        rw [run_document, hg]
      rw [hrun]
      constructor
      · exact Or.inl
      · rintro (h | ⟨o', sel', query', heq, -, ⟨r, hr⟩, -⟩)
        · exact h
        · cases heq
          rw [hrun] at hr
          cases hr
    · have hrun : (document o sel query).run ix w sh =
          (.ok (.document r query), ⟨c⟩, { sh with store }) := by
        rw [run_document, hg]
      rw [hrun]
      change c.document? q = some d ↔ _
      rw [Assembly.document?_of_getDocument_miss ho hg]
      constructor
      · rintro (h | h)
        · exact Or.inl h
        · exact Or.inr ⟨o, sel, query, rfl, ho, ⟨_, by rw [hrun]⟩, h⟩
      · rintro (h | ⟨o', sel', query', heq, -, -, h⟩)
        · exact Or.inl h
        · cases heq
          exact Or.inr h

/-- After a step that does not invalidate, an ordinal is cached with a document when it was
cached with it before, or when the step is a successful missing read that cached it. -/
theorem document?_after_step (ix : Index C) (w : Worker C) (sh : Shared) {st : ReaderStep}
    (hinv : st.invalidates = false) (q : UInt32) (d : Document) :
    (st.run ix w sh).2.1.caches.document? q = some d ↔
      w.caches.document? q = some d ∨ CachesDocument ix w sh st q d := by
  by_cases hdoc : ∃ o sel query, st = .document o sel query
  · obtain ⟨o, sel, query, rfl⟩ := hdoc
    exact document?_after_document ix w sh o sel query q d
  · have hne : ∀ o sel query, st ≠ .document o sel query :=
      fun o sel query h => hdoc ⟨o, sel, query, h⟩
    have hnot : ¬CachesDocument ix w sh st q d :=
      fun ⟨o, sel, query, h, _⟩ => hne o sel query h
    simp only [CacheSet.document?, documents_after_step ix w sh hinv hne]
    exact ⟨Or.inl, fun h => h.resolve_right hnot⟩

/-- After a run from any state, an ordinal is cached with a document when it was cached with it
at the start and the run invalidated nothing, or when a step of the run cached it and no later
step invalidated. -/
theorem document?_runAll (ix : Index C) (s : Worker C × Shared) (steps : List ReaderStep)
    (q : UInt32) (d : Document) :
    (runAll ix s steps).1.caches.document? q = some d ↔
      ((∀ st ∈ steps, st.invalidates = false) ∧ s.1.caches.document? q = some d) ∨
      ∃ pre st post, steps = pre ++ st :: post ∧ (∀ st' ∈ post, st'.invalidates = false) ∧
        CachesDocument ix (runAll ix s pre).1 (runAll ix s pre).2 st q d := by
  -- induction on the run from its first step, for every state it starts from
  induction steps generalizing s with
  | nil => simp
  | cons st steps ih =>
    rw [runAll_cons, ih, exists_split_cons]
    simp only [runAll_nil, runAll_cons, List.forall_mem_cons, exec_snd]
    cases hinv : st.invalidates
    · rw [document?_after_step ix s.1 s.2 hinv]
      simp only [true_and, and_or_left, or_assoc]
    · rw [run_of_invalidates ix s.1 s.2 hinv, Worker.clearAll, CacheSet.document?_clearAll]
      simp only [reduceCtorEq, and_false, false_or, Bool.true_eq_false, false_and,
        not_cachesDocument_of_invalidates hinv]

/-- The document cache of a worker: one batched read per missing document read, and after any
run the documents that missing reads since the last invalidation assembled, each under its own
ordinal and served unchanged to every later read of it until the next invalidation. -/
theorem document_cache_holds_reads_since_invalidation (ix : Index C) (sh : Shared)
    (steps : List ReaderStep) :
    (∀ (w : Worker C) (sh : Shared) (st : ReaderStep),
      (st.run ix w sh).2.2.store.reads = sh.store.reads + st.batchReads w) ∧
    (∀ q d, (runAll ix (ix.worker, sh) steps).1.caches.document? q = some d ↔
      ∃ pre st post, steps = pre ++ st :: post ∧ (∀ st' ∈ post, st'.invalidates = false) ∧
        CachesDocument ix (runAll ix (ix.worker, sh) pre).1 (runAll ix (ix.worker, sh) pre).2
          st q d) ∧
    (∀ q d, (runAll ix (ix.worker, sh) steps).1.caches.document? q = some d → d.ordinal = q) ∧
    ∀ (s : Worker C × Shared) (mid : List ReaderStep) (q : UInt32) (d : Document) (sel : Selection)
      (query : Option (List String)), s.1.caches.document? q = some d →
      (∀ st ∈ mid, st.invalidates = false) →
      (document q sel query).run ix (runAll ix s mid).1 (runAll ix s mid).2 =
        (.ok (.document (some d) query), (runAll ix s mid).1, (runAll ix s mid).2) := by
  -- a new worker has no document cache yet
  have hfresh : ∀ q d, ¬(ix.worker.caches.document? q = some d) := by
    intro q d h
    cases h
  have hcached : ∀ q d, (runAll ix (ix.worker, sh) steps).1.caches.document? q = some d ↔
      ∃ pre st post, steps = pre ++ st :: post ∧ (∀ st' ∈ post, st'.invalidates = false) ∧
        CachesDocument ix (runAll ix (ix.worker, sh) pre).1 (runAll ix (ix.worker, sh) pre).2
          st q d := by
    intro q d
    rw [document?_runAll]
    simp only [hfresh, and_false, false_or]
  refine ⟨reads_after_step ix, hcached, ?_, ?_⟩
  · intro q d h
    obtain ⟨-, -, -, -, -, ⟨o, sel, query, -, -, -, -, -, rows, -, row, -, -, hasm⟩⟩ :=
      (hcached q d).1 h
    exact Assembly.assemble_ordinal hasm
  · intro s mid q d sel query hq hmid
    exact run_document_hit sel query ((document?_runAll ix s mid q d).2 (Or.inl ⟨hmid, hq⟩))

end ReaderStep

end Session

end StoredDocs
