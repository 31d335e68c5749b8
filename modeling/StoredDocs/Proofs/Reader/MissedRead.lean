import Mathlib
import StoredDocs.Proofs.Reader.FieldSelection

/-!
# A document read that misses the cache

A document read that misses the worker's cache makes one batched read, of the keys of its fetch
order: the requested ordinal, then each prefetch ordinal that is neither it nor cached, once, in
order of first occurrence (`fetchSet_eq`). A read of no field asks for the columns up to the
final token, a read of some fields for those names. What follows depends only on the answer of
that read, and only on the rows it returned under the keys of the fetch order (`returnedRow`):
the read's own error; else the error of the first column that decoding rejects in the first
fetched row holding one, carrying that row's ordinal; else every fetched row is decoded and
cached and nothing else in the cache changes.

The main statement is `getDocument_miss_outcome`, stated through `MissOutcome`.
-/

namespace StoredDocs

lemma Fetch.filterFor_eq (fields : List String) :
    Fetch.filterFor fields =
      if fields = [] then .slice [] Codec.finalToken else .names (fields.map Utf8.encode) := by
  cases fields <;> rfl

namespace Assembly

variable {C : Type}

/-! ### The fetch order -/

lemma foldl_fetch_eq (c : CacheSet C) (ps acc : List UInt32) :
    ps.foldl (fun acc o => if c.containsDocument o || acc.contains o then acc else acc ++ [o])
        acc =
      acc ++ (ps.filter fun q => !c.containsDocument q && !acc.contains q).eraseDups := by
  induction ps generalizing acc with
  | nil => simp
  | cons p ps ih =>
    rw [List.foldl_cons]
    by_cases hskip : (c.containsDocument p || acc.contains p) = true
    · -- a cached or already listed ordinal is skipped
      have hp : (!c.containsDocument p && !acc.contains p) = false := by
        rw [← Bool.not_or, hskip]
        rfl
      rw [if_pos hskip, ih, List.filter_cons, hp]
      rfl
    · have hp : (!c.containsDocument p && !acc.contains p) = true := by
        rw [← Bool.not_or, Bool.eq_false_iff.2 hskip]
        rfl
      -- a new ordinal is listed, and later copies of it are skipped
      have hrest : (ps.filter fun q => !c.containsDocument q && !(acc ++ [p]).contains q) =
          (ps.filter fun q => !c.containsDocument q && !acc.contains q).filter
            fun q => !q == p := by
        rw [List.filter_filter]
        refine List.filter_congr fun q _ => ?_
        simp only [List.contains_append, List.contains_cons, List.contains_nil, Bool.or_false,
          Bool.not_or]
        cases q == p <;> simp
      rw [if_neg hskip, ih, List.filter_cons, if_pos hp, List.eraseDups_cons, hrest,
        List.append_assoc, List.singleton_append]

/-- A read fetches the requested ordinal, then the prefetch ordinals that are neither it nor
cached, each once, in order of first occurrence. -/
theorem fetchSet_eq (c : CacheSet C) (o : UInt32) (ps : List UInt32) :
    fetchSet c o ps = o :: (ps.filter fun q => q != o && !c.containsDocument q).eraseDups := by
  rw [fetchSet, foldl_fetch_eq, List.singleton_append]
  congr 2
  refine List.filter_congr fun q _ => ?_
  simp only [List.contains_cons, List.contains_nil, Bool.or_false, bne]
  exact Bool.and_comm _ _

lemma nodup_eraseDups {α : Type} [BEq α] [LawfulBEq α] (l : List α) : l.eraseDups.Nodup := by
  induction h : l.length using Nat.strong_induction_on generalizing l with
  | _ n ih =>
    cases l with
    | nil => simp
    | cons a as =>
      rw [List.eraseDups_cons, List.nodup_cons, List.mem_eraseDups]
      have hlen := List.length_filter_le (fun b => !b == a) as
      refine ⟨by simp, ih _ ?_ _ rfl⟩
      rw [← h, List.length_cons]
      omega

/-- The fetch order lists each ordinal once. -/
theorem nodup_fetchSet (c : CacheSet C) (o : UInt32) (ps : List UInt32) :
    (fetchSet c o ps).Nodup := by
  rw [fetchSet_eq, List.nodup_cons, List.mem_eraseDups]
  exact ⟨by simp, nodup_eraseDups _⟩

/-! ### The rows a read returned -/

/-- The row a batched read returned under the key of ordinal `q`: of several, the last, as the
rows are bound by key in the order they came. -/
def returnedRow (index : String) (rows : List RawRow) (q : UInt32) : Option RawRow :=
  rows.reverse.find? fun row => row.key == (StorageKey.forDocument index q).bytes

lemma mk_beq (a : Bytes) (k : StorageKey) : (StorageKey.mk a == k) = (a == k.bytes) := by
  obtain ⟨b⟩ := k
  rw [Bool.eq_iff_iff, beq_iff_eq, beq_iff_eq, StorageKey.mk.injEq]

/-- Binding the rows of a read by key answers each ordinal with its returned row. -/
lemma lookup_bindRows (index : String) (rows : List RawRow) (q : UInt32) :
    (rows.foldl (fun m row => Bindings.put m ⟨row.key⟩ row) []).lookup
        (StorageKey.forDocument index q) = returnedRow index rows q := by
  rw [Bindings.lookup_foldl_put (fun row : RawRow => StorageKey.mk row.key), List.lookup_nil,
    Option.or_none, returnedRow]
  simp only [mk_beq]

/-! ### Decoding a row -/

/-- A column that decoding rejects: not the metadata column, and its value does not decode. -/
def Rejected (col : Column) : Prop :=
  Codec.isMetadataColumn col.name = false ∧ ∃ e, Codec.decodeColumn col.name col.value = .error e

/-- A row none of whose columns decoding rejects. -/
def Clean (row : RawRow) : Prop := ∀ col ∈ row.columns, ¬Rejected col

/-- The fields of a row: its columns other than the metadata column, each decoded, in row order,
concatenated. -/
def rowFields (row : RawRow) : Except Error (List StoredField) :=
  ((row.columns.filter fun col => !Codec.isMetadataColumn col.name).mapM
    fun col => Codec.decodeColumn col.name col.value).map List.flatten

/-- `col` is the first column of `row` that decoding rejects, with the message `msg`. -/
def FirstRejected (row : RawRow) (col : Column) (msg : String) : Prop :=
  ∃ pre post, row.columns = pre ++ col :: post ∧ (∀ c ∈ pre, ¬Rejected c) ∧
    Codec.isMetadataColumn col.name = false ∧
    Codec.decodeColumn col.name col.value =
      .error (.corruptEncoding none (Utf8.decodeLossy col.name) msg)

/-- Decoding a column fails only as a corrupt column of unknown ordinal, named by the column. -/
lemma decodeColumn_error {name value : Bytes} {e : Error}
    (h : Codec.decodeColumn name value = .error e) :
    ∃ msg, e = .corruptEncoding none (Utf8.decodeLossy name) msg := by
  unfold Codec.decodeColumn at h
  split at h
  · exact ⟨_, (Except.error.inj h).symm⟩
  · split at h
    · cases h
    · split at h
      · cases h
      · exact ⟨_, (Except.error.inj h).symm⟩

lemma mapM_filter_ok_iff {α β ε : Type} (p : α → Bool) (f : α → Except ε β) (xs : List α) :
    (∃ ys, (xs.filter p).mapM f = .ok ys) ↔ ∀ x ∈ xs, p x = true → ∃ y, f x = .ok y := by
  induction xs with
  | nil => simp [pure, Except.pure]
  | cons x xs ih =>
    rw [List.filter_cons]
    by_cases hx : p x = true
    · rw [if_pos hx, List.mapM_cons]
      cases hfx : f x with
      | error e =>
        simp only [bind, Except.bind, reduceCtorEq, exists_false, false_iff]
        intro hall
        obtain ⟨y, hy⟩ := hall x List.mem_cons_self hx
        rw [hfx] at hy
        cases hy
      | ok y =>
        cases hrest : (xs.filter p).mapM f with
        | error e =>
          simp only [bind, Except.bind, reduceCtorEq, exists_false, false_iff]
          intro hall
          obtain ⟨ys, hys⟩ := ih.2 fun z hz => hall z (List.mem_cons_of_mem x hz)
          rw [hrest] at hys
          cases hys
        | ok ys =>
          simp only [bind, Except.bind, pure, Except.pure, Except.ok.injEq, exists_eq', true_iff]
          intro z hz hpz
          rcases List.mem_cons.1 hz with rfl | hz
          · exact ⟨y, hfx⟩
          · exact ih.1 ⟨ys, hrest⟩ z hz hpz
    · rw [if_neg hx, ih]
      constructor
      · intro hall z hz hpz
        rcases List.mem_cons.1 hz with rfl | hz
        · exact absurd hpz hx
        · exact hall z hz hpz
      · exact fun hall z hz => hall z (List.mem_cons_of_mem x hz)

/-- A traversal of the kept elements of a list fails at the first kept element that fails. -/
lemma mapM_filter_error {α β ε : Type} {p : α → Bool} {f : α → Except ε β} {xs : List α}
    {e : ε} (h : (xs.filter p).mapM f = .error e) :
    ∃ pre x post, xs = pre ++ x :: post ∧ (∀ y ∈ pre, p y = true → ∃ b, f y = .ok b) ∧
      p x = true ∧ f x = .error e := by
  induction xs with
  | nil => cases h
  | cons x xs ih =>
    rw [List.filter_cons] at h
    by_cases hx : p x = true
    · rw [if_pos hx, List.mapM_cons] at h
      cases hfx : f x with
      | error e' =>
        simp only [hfx, bind, Except.bind, Except.error.injEq] at h
        exact ⟨[], x, xs, rfl, fun _ hy => absurd hy List.not_mem_nil, hx, h ▸ hfx⟩
      | ok b =>
        cases hrest : (xs.filter p).mapM f with
        | error e' =>
          simp only [hfx, hrest, bind, Except.bind, Except.error.injEq] at h
          subst h
          obtain ⟨pre, y, post, rfl, hpre, hy, hfy⟩ := ih hrest
          refine ⟨x :: pre, y, post, rfl, fun z hz hpz => ?_, hy, hfy⟩
          rcases List.mem_cons.1 hz with rfl | hz
          · exact ⟨b, hfx⟩
          · exact hpre z hz hpz
        | ok ys => simp [hfx, hrest, bind, Except.bind, pure, Except.pure] at h
    · rw [if_neg hx] at h
      obtain ⟨pre, y, post, rfl, hpre, hy, hfy⟩ := ih h
      refine ⟨x :: pre, y, post, rfl, fun z hz hpz => ?_, hy, hfy⟩
      rcases List.mem_cons.1 hz with rfl | hz
      · exact absurd hpz hx
      · exact hpre z hz hpz

lemma not_rejected_iff (col : Column) :
    ¬Rejected col ↔ (!Codec.isMetadataColumn col.name) = true →
      ∃ fs, Codec.decodeColumn col.name col.value = .ok fs := by
  unfold Rejected
  cases Codec.isMetadataColumn col.name with
  | true => simp
  | false =>
    simp only [true_and, not_exists, Bool.not_false, forall_const]
    constructor
    · intro h
      cases hd : Codec.decodeColumn col.name col.value with
      | error e => exact absurd hd (h e)
      | ok fs => exact ⟨fs, rfl⟩
    · rintro ⟨fs, hfs⟩ e he
      rw [hfs] at he
      cases he

/-- A row is clean exactly when its fields decode. -/
theorem clean_iff (row : RawRow) : Clean row ↔ ∃ fs, rowFields row = .ok fs := by
  unfold Clean rowFields
  simp only [not_rejected_iff]
  rw [← mapM_filter_ok_iff]
  constructor
  · rintro ⟨fss, hfss⟩
    exact ⟨fss.flatten, by rw [hfss]; rfl⟩
  · intro ⟨fs, hfs⟩
    cases hm : (row.columns.filter fun col => !Codec.isMetadataColumn col.name).mapM
        (fun col => Codec.decodeColumn col.name col.value) with
    | error e => rw [hm] at hfs; cases hfs
    | ok fss => exact ⟨fss, rfl⟩

lemma assemble_eq_ok_iff (q : UInt32) (row : RawRow) (d : Document) :
    assemble q row = .ok d ↔ d.ordinal = q ∧ rowFields row = .ok d.fields := by
  rw [assemble_eq, rowFields]
  cases (row.columns.filter fun col => !Codec.isMetadataColumn col.name).mapM
      (fun col => Codec.decodeColumn col.name col.value) with
  | error e => simp [Except.mapError, Except.map]
  | ok fss =>
    simp only [Except.mapError, Except.map, Except.ok.injEq]
    constructor
    · rintro rfl
      exact ⟨rfl, rfl⟩
    · rintro ⟨hq, hfs⟩
      rw [← hq, hfs]

/-- A row that fails to assemble fails at its first rejected column, with the ordinal of the row
and the name of the column. -/
theorem assemble_eq_error {q : UInt32} {row : RawRow} {e : Error}
    (h : assemble q row = .error e) :
    ∃ col msg, FirstRejected row col msg ∧
      e = .corruptEncoding (some q) (Utf8.decodeLossy col.name) msg := by
  rw [assemble_eq] at h
  cases hm : (row.columns.filter fun col => !Codec.isMetadataColumn col.name).mapM
      (fun col => Codec.decodeColumn col.name col.value) with
  | ok fss => simp [hm, Except.mapError, Except.map] at h
  | error e' =>
    simp only [hm, Except.mapError, Except.map, Except.error.injEq] at h
    obtain ⟨pre, col, post, hcols, hpre, hmeta, hdec⟩ := mapM_filter_error hm
    obtain ⟨msg, rfl⟩ := decodeColumn_error hdec
    refine ⟨col, msg, ⟨pre, post, hcols, fun c hc => (not_rejected_iff c).2 (hpre c hc),
      by simpa using hmeta, hdec⟩, ?_⟩
    rw [← h]
    rfl

/-- A row assembles exactly when it is clean. -/
lemma clean_iff_assemble_ok (q : UInt32) (row : RawRow) :
    Clean row ↔ ∃ d, assemble q row = .ok d := by
  rw [clean_iff]
  constructor
  · rintro ⟨fs, hfs⟩
    exact ⟨⟨q, fs⟩, (assemble_eq_ok_iff q row _).2 ⟨rfl, hfs⟩⟩
  · rintro ⟨d, hd⟩
    exact ⟨d.fields, ((assemble_eq_ok_iff q row d).1 hd).2⟩

/-! ### Assembling the fetched rows -/

/-- The assembly of the fetched rows fails at the first fetched ordinal whose row fails, with
that row's error. -/
theorem assembleAll_eq_error {index : String} {rows : Bindings StorageKey RawRow}
    {os : List UInt32} {e : Error} (h : assembleAll index rows os = .error e) :
    ∃ pre q post, os = pre ++ q :: post ∧
      (∀ p ∈ pre, ∀ r, rows.lookup (StorageKey.forDocument index p) = some r →
        ∃ d, assemble p r = .ok d) ∧
      ∃ row, rows.lookup (StorageKey.forDocument index q) = some row ∧
        assemble q row = .error e := by
  induction os with
  | nil => cases h
  | cons o os ih =>
    simp only [assembleAll] at h
    rw [exists_split_cons]
    simp only [List.forall_mem_cons]
    cases hrow : rows.lookup (StorageKey.forDocument index o) with
    | none =>
      rw [hrow] at h
      -- no row for `o`: the first failure is that of the tail
      obtain ⟨pre, q, post, rfl, hpre, hq⟩ := ih h
      exact Or.inr ⟨pre, q, post, rfl, ⟨fun r hr => (by cases hr), hpre⟩, hq⟩
    | some row =>
      rw [hrow] at h
      cases hd : assemble o row with
      | error e' =>
        simp only [hd, bind, Except.bind, Except.error.injEq] at h
        subst h
        exact Or.inl ⟨fun p hp => absurd hp List.not_mem_nil, row, rfl, hd⟩
      | ok d =>
        cases hos : assembleAll index rows os with
        | error e' =>
          simp only [hd, hos, bind, Except.bind, Except.error.injEq] at h
          subst h
          -- `o`'s row assembles: the first failure is that of the tail
          obtain ⟨pre, q, post, rfl, hpre, hq⟩ := ih hos
          refine Or.inr ⟨pre, q, post, rfl, ⟨fun r hr => ⟨d, ?_⟩, hpre⟩, hq⟩
          rw [Option.some.injEq] at hr
          rw [← hr, hd]
        | ok ds => simp [hd, hos, bind, Except.bind, pure, Except.pure] at h

/-- The assembly of the fetched rows succeeds when the row of every fetched ordinal assembles. -/
lemma assembleAll_ok_of_forall {index : String} {rows : Bindings StorageKey RawRow}
    {os : List UInt32}
    (h : ∀ q ∈ os, ∀ row, rows.lookup (StorageKey.forDocument index q) = some row →
      ∃ d, assemble q row = .ok d) :
    ∃ docs, assembleAll index rows os = .ok docs := by
  cases hall : assembleAll index rows os with
  | ok docs => exact ⟨docs, rfl⟩
  | error e =>
    obtain ⟨pre, q, post, rfl, -, row, hrow, hasm⟩ := assembleAll_eq_error hall
    obtain ⟨d, hd⟩ := h q (by simp) row hrow
    rw [hd] at hasm
    cases hasm

/-- Looking an ordinal up in the assembled documents, in either order, finds the assembly of its
row when it was fetched and has one, and nothing otherwise. -/
lemma find?_ordinal_of_assembleAll {index : String} {rows : Bindings StorageKey RawRow}
    {os : List UInt32} {docs L : List Document} (h : assembleAll index rows os = .ok docs)
    (hL : ∀ d, d ∈ L ↔ d ∈ docs) (q : UInt32) :
    L.find? (·.ordinal == q) =
      if q ∈ os then (rows.lookup (StorageKey.forDocument index q)).bind
        fun row => (assemble q row).toOption else none := by
  cases hf : L.find? (·.ordinal == q) with
  | some d =>
    have hd : d ∈ docs ∧ d.ordinal = q :=
      ⟨(hL d).1 (List.mem_of_find?_eq_some hf), by simpa using List.find?_some hf⟩
    obtain ⟨hq, row, hrow, hasm⟩ := (mem_assembleAll h q d).1 hd
    simp only [if_pos hq, hrow, Option.bind_some, hasm, Except.toOption]
  | none =>
    rw [List.find?_eq_none] at hf
    by_cases hq : q ∈ os
    · rw [if_pos hq]
      cases hrow : rows.lookup (StorageKey.forDocument index q) with
      | none => rfl
      | some row =>
        cases hasm : assemble q row with
        | error e => simp only [Option.bind_some, hasm, Except.toOption]
        | ok d =>
          -- the assembled document of `q` is among the documents, so the search finds one
          have hd := (mem_assembleAll h q d).2 ⟨hq, row, hrow, hasm⟩
          exact absurd (by simpa using hd.2) (hf d ((hL d).2 hd.1))
    · rw [if_neg hq]

/-! ### What a missed read answers -/

/-- The caches after a read whose fetched rows all decode: only the document cache changes; each
fetched ordinal with a returned row is cached with the decoded fields of that row, and every
other ordinal keeps its entry. -/
structure CachesFetched (index : String) (rows : List RawRow) (S : List UInt32)
    (c c' : CacheSet C) : Prop where
  frame : c' = { c with documents := c'.documents }
  cached : ∀ q ∈ S, ∀ row, returnedRow index rows q = some row →
    ∃ fs, rowFields row = .ok fs ∧ c'.document? q = some ⟨q, fs⟩
  unchanged : ∀ q, (q ∉ S ∨ returnedRow index rows q = none) → c'.document? q = c.document? q

/-- The outcome `out` of a read of ordinal `o` that missed the caches `c`, once the batched read
of the ordinals `S` answered `read`: the read's error; else, when some fetched row does not
decode, the error of the first rejected column of the first such row in fetch order, carrying
that row's ordinal; else the updated caches, with the requested document as they now hold it. -/
structure MissOutcome (index : String) (c : CacheSet C) (o : UInt32) (S : List UInt32)
    (read : Except Error (List RawRow)) (out : Except Error (Option Document × CacheSet C)) :
    Prop where
  read_failed : ∀ e, read = .error e → out = .error e
  first_rejected : ∀ rows, read = .ok rows → ∀ q ∈ S, ∀ row, returnedRow index rows q = some row →
    ¬Clean row →
    ∃ pre q' post, S = pre ++ q' :: post ∧
      (∀ p ∈ pre, ∀ r, returnedRow index rows p = some r → Clean r) ∧
      ∃ row' col msg, returnedRow index rows q' = some row' ∧ FirstRejected row' col msg ∧
        out = .error (.corruptEncoding (some q') (Utf8.decodeLossy col.name) msg)
  all_clean : ∀ rows, read = .ok rows →
    (∀ q ∈ S, ∀ row, returnedRow index rows q = some row → Clean row) →
    ∃ r c', out = .ok (r, c') ∧ CachesFetched index rows S c c' ∧ r = c'.document? o

/-- Whatever the batched read answers, assembling and caching the rows it returned for the
ordinals `S` has the outcome `MissOutcome` describes. -/
theorem missOutcome_bind (index : String) (c : CacheSet C) (o : UInt32) (S : List UInt32)
    (ho : c.document? o = none) (read : Except Error (List RawRow)) :
    MissOutcome index c o S read (do
      let rows ← read
      let docs ← assembleAll index (rows.foldl (fun m row => Bindings.put m ⟨row.key⟩ row) []) S
      pure (docs.find? (·.ordinal == o), c.putDocuments docs)) where
  read_failed e he := by
    rw [he]
    rfl
  first_rejected rows hrows q hq row hrow hbad := by
    subst hrows
    -- the rejected row fails the assembly, which fails at its first failing row
    obtain ⟨e, hfail⟩ : ∃ e, assemble q row = .error e := by
      cases hasm : assemble q row with
      | error e => exact ⟨e, rfl⟩
      | ok d => exact absurd ((clean_iff_assemble_ok q row).2 ⟨d, hasm⟩) hbad
    obtain ⟨e', he'⟩ := assembleAll_error_of_mem hq (by rw [lookup_bindRows]; exact hrow) hfail
    obtain ⟨pre, q', post, hS, hpre, row', hrow', hasm'⟩ := assembleAll_eq_error he'
    obtain ⟨col, msg, hfirst, rfl⟩ := assemble_eq_error hasm'
    refine ⟨pre, q', post, hS, fun p hp r hr => ?_, row', col, msg, ?_, hfirst, ?_⟩
    · exact (clean_iff_assemble_ok p r).2 (hpre p hp r (by rw [lookup_bindRows]; exact hr))
    · rwa [lookup_bindRows] at hrow'
    · simp only [bind, Except.bind, he']
  all_clean rows hrows hclean := by
    subst hrows
    obtain ⟨docs, hdocs⟩ := assembleAll_ok_of_forall fun q hq row hrow =>
      (clean_iff_assemble_ok q row).1 (hclean q hq row (by rwa [lookup_bindRows] at hrow))
    -- what the caches hold afterwards, ordinal by ordinal
    have hcache : ∀ q, (c.putDocuments docs).document? q =
        (if q ∈ S then (returnedRow index rows q).bind fun row => (assemble q row).toOption
          else none).or (c.document? q) := by
      intro q
      rw [CacheSet.document?_putDocuments,
        find?_ordinal_of_assembleAll hdocs (fun _ => List.mem_reverse) q, lookup_bindRows]
    refine ⟨docs.find? (·.ordinal == o), c.putDocuments docs, ?_, ⟨rfl, ?_, ?_⟩, ?_⟩
    · simp only [bind, Except.bind, hdocs, pure, Except.pure]
    · intro q hq row hrow
      obtain ⟨fs, hfs⟩ := (clean_iff row).1 (hclean q hq row hrow)
      have hasm : assemble q row = .ok ⟨q, fs⟩ := (assemble_eq_ok_iff q row _).2 ⟨rfl, hfs⟩
      refine ⟨fs, hfs, ?_⟩
      rw [hcache, if_pos hq, hrow]
      simp only [Option.bind_some, hasm, Except.toOption, Option.some_or]
    · rintro q (hq | hrow)
      · rw [hcache, if_neg hq, Option.none_or]
      · rw [hcache, hrow]
        simp only [Option.bind_none, ite_self, Option.none_or]
    · rw [hcache, ho, Option.or_none, find?_ordinal_of_assembleAll hdocs (fun _ => Iff.rfl) o,
        lookup_bindRows]

/-- A read of an ordinal `o` that misses the caches makes one batched read, with the keys of
`o` and then of each prefetch ordinal that is neither `o` nor cached, once each in order of
first occurrence, and the filter of its fields; its outcome then depends on that read's answer
as `MissOutcome` describes. -/
theorem getDocument_miss_outcome (store : MemoryStore) (index : String) (cons : Consistency)
    (c : CacheSet C) (o : UInt32) (sel : Selection) (ho : c.document? o = none) :
    let S := o :: (sel.prefetch.filter fun q => q != o && !c.containsDocument q).eraseDups
    let read := store.batchRead (S.map fun q => (StorageKey.forDocument index q).bytes)
      (if sel.fields = [] then .slice [] Codec.finalToken else .names (sel.fields.map Utf8.encode))
      cons
    (getDocument store index cons c o sel).1 = read.1 ∧
      MissOutcome index c o S read.2 (getDocument store index cons c o sel).2 := by
  intro S read
  rw [getDocument_miss ho, Fetch.keysOf, fetchSet_eq, Fetch.filterFor_eq]
  exact ⟨rfl, missOutcome_bind index c o S ho read.2⟩

theorem getDocument_miss_outcome_prefetch :
    ((CacheSet.new 8 : CacheSet Unit).putDocuments [⟨5, []⟩]).document? 7 = none ∧
    let c := (CacheSet.new 8 : CacheSet Unit).putDocuments [⟨5, []⟩]
    let sel : Selection := { prefetch := [1, 5, 2, 1, 7] }
    let S := 7 :: (sel.prefetch.filter fun q => q != 7 && !c.containsDocument q).eraseDups
    let read := ({} : MemoryStore).batchRead
      (S.map fun q => (StorageKey.forDocument "docs" q).bytes)
      (if sel.fields = [] then .slice [] Codec.finalToken else .names (sel.fields.map Utf8.encode))
      .one
    (getDocument {} "docs" .one c 7 sel).1 = read.1 ∧
      MissOutcome "docs" c 7 S read.2 (getDocument {} "docs" .one c 7 sel).2 :=
  ⟨rfl, getDocument_miss_outcome {} "docs" .one _ 7 _ rfl⟩

end Assembly

end StoredDocs
