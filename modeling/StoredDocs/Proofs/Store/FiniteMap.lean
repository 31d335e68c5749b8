import Mathlib
import StoredDocs.Bindings
import StoredDocs.Proofs.Store.Ordered

/-!
# The memory store is a finite map of finite maps

A memory store stands for a finite map from row keys to rows, each a finite map from column
names to values (`MemoryStore.contents`). Each write acts on that map as the map's own
operation: writing a row replaces the row, writing a column inserts it into its row (a new row
when there is none), removing a row erases it. A batched read answers from the map, one row per
requested key the map holds, each with the columns the filter accepts by ascending name
(`MemoryStore.Serves`); it is counted and records its consistency level whether or not the
store refuses it.

The main statement, `ofOps_refines_rowMap`, takes any sequence of operations on the empty store:
the ordering invariant of `Proofs.Store.Ordered` holds along it, so the row count is the size
of the map and a read hands each row's columns back by strictly ascending name; and the read
count, the level of the last read and whether reads are refused follow from the sequence.
-/

namespace StoredDocs

namespace Bytes

/-- The store's comparison orders byte strings as the lexicographic order of lists. -/
theorem compareLex_eq_lt_iff {a b : Bytes} : compareLex a b = .lt ↔ a < b := by
  induction a generalizing b with
  | nil => cases b <;> simp [compareLex]
  | cons x xs ih =>
    cases b with
    | nil => simp [compareLex]
    | cons y ys =>
      rw [compareLex_cons_cons, List.cons_lt_cons_iff]
      by_cases hxy : x < y
      · simp [hxy]
      · by_cases hyx : y < x
        · have hne : x ≠ y := fun h => UInt8.lt_irrefl x (h ▸ hyx)
          simp [hxy, hyx, hne]
        · have heq : x = y := UInt8.le_antisymm (UInt8.not_lt.1 hyx) (UInt8.not_lt.1 hxy)
          simp [heq, ih]

lemma ne_of_compareLex_eq_lt {a b : Bytes} (h : compareLex a b = .lt) : a ≠ b := by
  rintro rfl
  rw [compareLex_self] at h
  cases h

end Bytes

namespace ByteMap

variable {α β : Type}

/-- A list of bindings, values mapped, as a finite map: a key finds the mapped value of its first
binding. -/
lemma lookup_toFinmap_map (l : List (Bytes × α)) (f : α → β) (k : Bytes) :
    (l.map fun p => (⟨p.1, f p.2⟩ : Σ _ : Bytes, β)).toFinmap.lookup k = (l.lookup k).map f := by
  rw [Finmap.dlookup_list_toFinmap]
  induction l with
  | nil => rfl
  | cons p l ih =>
    obtain ⟨k', v⟩ := p
    by_cases h : k = k'
    · subst h
      rw [List.map_cons, List.dlookup_cons_eq, List.lookup_cons_self, Option.map_some]
    · rw [List.map_cons, List.dlookup_cons_ne _ _ h, ih, List.lookup_cons, beq_false_of_ne h]

/-- The finite map a map stands for. -/
def toFinmap (m : ByteMap α) : Finmap fun _ : Bytes => α :=
  (m.toList.map fun p => (⟨p.1, p.2⟩ : Σ _ : Bytes, α)).toFinmap

@[simp] lemma lookup_toFinmap (m : ByteMap α) (k : Bytes) : m.toFinmap.lookup k = m.get? k :=
  (lookup_toFinmap_map m.toList id k).trans Option.map_id'

lemma lookup_insertList (k k' : Bytes) (v : α) (l : List (Bytes × α)) :
    (insertList k v l).lookup k' = if k' = k then some v else l.lookup k' := by
  induction l with
  | nil => by_cases h : k' = k <;> simp [insertList, h]
  | cons p l ih =>
    obtain ⟨j, w⟩ := p
    simp only [insertList]
    split
    · -- the new binding goes in front
      by_cases h : k' = k
      · subst h
        rw [List.lookup_cons_self, if_pos rfl]
      · simp only [List.lookup_cons, beq_false_of_ne h, if_neg h]
    · -- the new binding replaces the one of its key
      rename_i hcmp
      rw [Bytes.compareLex_eq_iff] at hcmp
      subst hcmp
      by_cases h : k' = k
      · subst h
        rw [List.lookup_cons_self, if_pos rfl]
      · simp only [List.lookup_cons, beq_false_of_ne h, if_neg h]
    · rename_i hcmp
      have hne : k ≠ j := fun h => by rw [h, Bytes.compareLex_self] at hcmp; cases hcmp
      by_cases h : k' = j
      · subst h
        rw [List.lookup_cons_self, if_neg (Ne.symm hne), List.lookup_cons_self]
      · simp only [List.lookup_cons, beq_false_of_ne h, ih]

lemma toFinmap_insert (m : ByteMap α) (k : Bytes) (v : α) :
    (m.insert k v).toFinmap = m.toFinmap.insert k v := by
  refine Finmap.ext_lookup fun k' => ?_
  rw [lookup_toFinmap, get?, insert, lookup_insertList]
  by_cases h : k' = k
  · subst h
    rw [if_pos rfl, Finmap.lookup_insert]
  · rw [if_neg h, Finmap.lookup_insert_of_ne _ h, lookup_toFinmap, get?]

lemma toFinmap_erase (m : ByteMap α) (k : Bytes) : (m.erase k).toFinmap = m.toFinmap.erase k := by
  refine Finmap.ext_lookup fun k' => ?_
  rw [lookup_toFinmap, get?, erase]
  by_cases h : k' = k
  · subst h
    rw [Finmap.lookup_erase, List.lookup_eq_none_iff]
    intro p hp
    have hne : p.1 ≠ k' := by simpa using List.of_mem_filter hp
    exact bne_iff_ne.2 (Ne.symm hne)
  · rw [Finmap.lookup_erase_ne h, lookup_toFinmap, get?]
    exact Bindings.lookup_filter_ne m.toList h

lemma toFinmap_empty : (empty : ByteMap α).toFinmap = ∅ := rfl

/-- A map built from bindings is the finite map that inserts them in order, so that of two
bindings of one key the later wins. -/
lemma toFinmap_ofList (bs : List (Bytes × α)) :
    (ofList bs).toFinmap = bs.foldl (fun M b => M.insert b.1 b.2) ∅ := by
  unfold ofList
  rw [← toFinmap_empty]
  generalize (empty : ByteMap α) = m
  induction bs generalizing m with
  | nil => rfl
  | cons b bs ih =>
    rw [List.foldl_cons, List.foldl_cons, ih, toFinmap_insert]

lemma contains_eq_decide (m : ByteMap α) (k : Bytes) : m.contains k = decide (k ∈ m.toFinmap) := by
  rw [contains, Bool.eq_iff_iff, decide_eq_true_iff, ← Finmap.lookup_isSome, lookup_toFinmap]

lemma Ordered.nodup_keys {m : ByteMap α} (hm : m.Ordered) : (m.toList.map Prod.fst).Nodup :=
  List.pairwise_map.2 (hm.imp Bytes.ne_of_compareLex_eq_lt)

/-- An ordered map has one binding per key, so it has as many bindings as keys. -/
lemma Ordered.size_eq_card {m : ByteMap α} (hm : m.Ordered) : m.size = m.toFinmap.keys.card := by
  have hkeys : m.toFinmap.keys = (m.toList.map Prod.fst).toFinset := by
    ext k
    rw [Finmap.mem_keys, ← Finmap.lookup_isSome, lookup_toFinmap, get?, List.lookup_isSome_iff,
      List.mem_toFinset, List.mem_map]
    constructor
    · rintro ⟨p, hp, hk⟩
      exact ⟨p, hp, (beq_iff_eq.1 hk).symm⟩
    · rintro ⟨p, hp, rfl⟩
      exact ⟨p, hp, beq_self_eq_true _⟩
  rw [hkeys, List.toFinset_card_of_nodup hm.nodup_keys, List.length_map, size]

lemma lookup_eq_of_mem {l : List (Bytes × α)}
    (hl : l.Pairwise fun p q => Bytes.compareLex p.1 q.1 = .lt) {k : Bytes} {v : α}
    (hmem : (k, v) ∈ l) : l.lookup k = some v := by
  induction l with
  | nil => cases hmem
  | cons p l ih =>
    obtain ⟨hhead, hrest⟩ := List.pairwise_cons.1 hl
    rcases List.mem_cons.1 hmem with rfl | htail
    · exact List.lookup_cons_self
    · -- a later binding's key differs from the head's
      have hne : k ≠ p.1 := (Bytes.ne_of_compareLex_eq_lt (hhead _ htail)).symm
      obtain ⟨k', v'⟩ := p
      simp only [List.lookup_cons, beq_false_of_ne hne]
      exact ih hrest htail

/-- In an ordered map a binding is what its key finds. -/
lemma Ordered.mem_toList_iff {m : ByteMap α} (hm : m.Ordered) {k : Bytes} {v : α} :
    (k, v) ∈ m.toList ↔ m.get? k = some v :=
  ⟨lookup_eq_of_mem hm, mem_toList_of_get?⟩

end ByteMap

/-- Rows by key, each a finite map from column names to values. -/
abbrev RowMap := Finmap fun _ : Bytes => Finmap fun _ : Bytes => Bytes

/-- The columns of a written row by name: of two columns of one name, the later. -/
def columnMap (cols : List Column) : Finmap fun _ : Bytes => Bytes :=
  cols.foldl (fun M c => M.insert c.name c.value) ∅

namespace MemoryStore

/-- The rows a store holds. -/
def contents (s : MemoryStore) : RowMap :=
  (s.rows.toList.map fun p =>
    (⟨p.1, p.2.toFinmap⟩ : Σ _ : Bytes, Finmap fun _ : Bytes => Bytes)).toFinmap

@[simp] lemma lookup_contents (s : MemoryStore) (k : Bytes) :
    s.contents.lookup k = (s.rows.get? k).map ByteMap.toFinmap :=
  ByteMap.lookup_toFinmap_map _ _ k

lemma contents_eq_of_rows_eq {s s' : MemoryStore} (h : s'.rows = s.rows) :
    s'.contents = s.contents := by
  rw [contents, contents, h]

lemma contents_insertRow (s : MemoryStore) (row : RawRow) :
    (s.insertRow row).contents = s.contents.insert row.key (columnMap row.columns) := by
  refine Finmap.ext_lookup fun k => ?_
  rw [lookup_contents, insertRow, ByteMap.get?, ByteMap.insert, ByteMap.lookup_insertList]
  by_cases h : k = row.key
  · subst h
    rw [if_pos rfl, Finmap.lookup_insert, Option.map_some, ByteMap.toFinmap_ofList, columnMap,
      List.foldl_map]
  · rw [if_neg h, Finmap.lookup_insert_of_ne _ h, lookup_contents, ByteMap.get?]

lemma contents_insertColumn (s : MemoryStore) (key name value : Bytes) :
    (s.insertColumn key name value).contents =
      s.contents.insert key (((s.contents.lookup key).getD ∅).insert name value) := by
  refine Finmap.ext_lookup fun k => ?_
  rw [lookup_contents, insertColumn, ByteMap.alter, ByteMap.get?, ByteMap.insert,
    ByteMap.lookup_insertList]
  by_cases h : k = key
  · subst h
    rw [if_pos rfl, Finmap.lookup_insert, Option.map_some, ByteMap.toFinmap_insert,
      lookup_contents]
    cases s.rows.get? k <;> rfl
  · rw [if_neg h, Finmap.lookup_insert_of_ne _ h, lookup_contents, ByteMap.get?]

lemma removeRow_fst (s : MemoryStore) (key : Bytes) :
    (s.removeRow key).1 = decide (key ∈ s.contents) := by
  rw [removeRow, ByteMap.contains, Bool.eq_iff_iff, decide_eq_true_iff, ← Finmap.lookup_isSome,
    lookup_contents, Option.isSome_map]

lemma contents_removeRow (s : MemoryStore) (key : Bytes) :
    (s.removeRow key).2.contents = s.contents.erase key := by
  refine Finmap.ext_lookup fun k => ?_
  rw [lookup_contents]
  change ((s.rows.erase key).get? k).map _ = _
  rw [← ByteMap.lookup_toFinmap, ByteMap.toFinmap_erase]
  by_cases h : k = key
  · subst h
    rw [Finmap.lookup_erase, Finmap.lookup_erase, Option.map_none]
  · rw [Finmap.lookup_erase_ne h, Finmap.lookup_erase_ne h, ByteMap.lookup_toFinmap,
      lookup_contents]

lemma Ordered.rowCount_eq_card {s : MemoryStore} (hs : s.Ordered) :
    s.rowCount = s.contents.keys.card := by
  have hkeys : s.contents.keys = s.rows.toFinmap.keys := by
    ext k
    rw [Finmap.mem_keys, Finmap.mem_keys, ← Finmap.lookup_isSome, ← Finmap.lookup_isSome,
      lookup_contents, ByteMap.lookup_toFinmap, Option.isSome_map]
  rw [hkeys, rowCount, hs.rows.size_eq_card]

/-! ### Batched reads -/

/-- What a read with `filter` serves from the columns `cols` held under `key`: a row of that key
with exactly the columns of `cols` whose names the filter accepts, by strictly ascending name. -/
structure Serves (filter : ColumnFilter) (key : Bytes) (cols : Finmap fun _ : Bytes => Bytes)
    (row : RawRow) : Prop where
  key_eq : row.key = key
  mem_columns : ∀ n v, ⟨n, v⟩ ∈ row.columns ↔ filter.accepts n = true ∧ cols.lookup n = some v
  ascending : (row.columns.map Column.name).Pairwise (· < ·)

/-- The rows a read of `keys` with `filter` serves from `M`: one for each requested key that `M`
holds, in the order of the request (a key asked twice is served twice). -/
def ServesAll (M : RowMap) (filter : ColumnFilter) (keys : List Bytes) (rows : List RawRow) :
    Prop :=
  List.Forall₂ (fun k row => ∃ cols, M.lookup k = some cols ∧ Serves filter k cols row)
    (keys.filter (· ∈ M)) rows

lemma readRow_eq_none_iff (s : MemoryStore) (filter : ColumnFilter) (key : Bytes) :
    s.readRow filter key = none ↔ key ∉ s.contents := by
  rw [readRow, Option.map_eq_none_iff, ← Finmap.lookup_eq_none, lookup_contents,
    Option.map_eq_none_iff]

lemma Ordered.serves_readRow {s : MemoryStore} (hs : s.Ordered) {filter : ColumnFilter}
    {key : Bytes} {row : RawRow} (h : s.readRow filter key = some row) :
    ∃ cols, s.contents.lookup key = some cols ∧ Serves filter key cols row := by
  unfold readRow at h
  obtain ⟨stored, hget, rfl⟩ := Option.map_eq_some_iff.1 h
  have hord : stored.Ordered := hs.row hget
  refine ⟨stored.toFinmap, by rw [lookup_contents, hget, Option.map_some], rfl, ?_, ?_⟩
  · intro n v
    rw [ByteMap.lookup_toFinmap, ← hord.mem_toList_iff, List.mem_map]
    constructor
    · rintro ⟨⟨n', v'⟩, hmem, heq⟩
      cases heq
      exact ⟨(List.mem_filter.1 hmem).2, (List.mem_filter.1 hmem).1⟩
    · rintro ⟨hacc, hmem⟩
      exact ⟨(n, v), List.mem_filter.2 ⟨hmem, hacc⟩, rfl⟩
  · -- the columns come in the map's strictly ascending order of names
    refine List.pairwise_map.2 (List.pairwise_map.2 ((hord.sublist List.filter_sublist).imp ?_))
    rintro ⟨a, _⟩ ⟨b, _⟩ hab
    exact Bytes.compareLex_eq_lt_iff.1 hab

lemma Ordered.servesAll_rowsFor {s : MemoryStore} (hs : s.Ordered) (filter : ColumnFilter)
    (keys : List Bytes) : ServesAll s.contents filter keys (s.rowsFor keys filter) := by
  unfold ServesAll rowsFor
  induction keys with
  | nil => exact List.Forall₂.nil
  | cons k keys ih =>
    rw [List.filterMap_cons, List.filter_cons]
    cases h : s.readRow filter k with
    | none =>
      have hk : k ∉ s.contents := (readRow_eq_none_iff s filter k).1 h
      rw [if_neg (by simpa using hk)]
      exact ih
    | some row =>
      have hk : k ∈ s.contents := by
        by_contra hk
        rw [(readRow_eq_none_iff s filter k).2 hk] at h
        cases h
      rw [if_pos (by simpa using hk)]
      exact List.Forall₂.cons (hs.serves_readRow h) ih

/-- A batched read counts itself and records its level, and changes nothing else. -/
lemma batchRead_fst (s : MemoryStore) (keys : List Bytes) (filter : ColumnFilter)
    (consistency : Consistency) :
    (s.batchRead keys filter consistency).1 =
      { s with reads := s.reads + 1, lastConsistency := some consistency } := by
  unfold batchRead
  split <;> rfl

lemma batchRead_snd (s : MemoryStore) (keys : List Bytes) (filter : ColumnFilter)
    (consistency : Consistency) :
    (s.batchRead keys filter consistency).2 =
      if s.unavailable then .error (.storageUnavailable "memory store" "store is marked unavailable")
      else .ok (s.rowsFor keys filter) := by
  unfold batchRead
  split <;> rfl

/-! ### Sequences of operations -/

/-- An operation on a memory store. -/
inductive Op where
  | insertRow (row : RawRow)
  | insertColumn (key name value : Bytes)
  | removeRow (key : Bytes)
  | setUnavailable (flag : Bool)
  | batchRead (keys : List Bytes) (filter : ColumnFilter) (consistency : Consistency)
  deriving DecidableEq, Repr

namespace Op

/-- The store after an operation. -/
def apply (s : MemoryStore) : Op → MemoryStore
  | insertRow row => s.insertRow row
  | insertColumn key name value => s.insertColumn key name value
  | removeRow key => (s.removeRow key).2
  | setUnavailable flag => s.setUnavailable flag
  | batchRead keys filter consistency => (s.batchRead keys filter consistency).1

/-- The flag of a `setUnavailable`. -/
def flag? : Op → Option Bool
  | setUnavailable flag => some flag
  | _ => none

/-- The consistency level of a read. -/
def level? : Op → Option Consistency
  | batchRead _ _ consistency => some consistency
  | _ => none

lemma reads_apply (s : MemoryStore) (op : Op) :
    (op.apply s).reads = s.reads + (op.level?.toList).length := by
  cases op with
  | batchRead keys filter consistency => exact reads_batchRead s keys filter consistency
  | _ => rfl

lemma lastConsistency_apply (s : MemoryStore) (op : Op) :
    (op.apply s).lastConsistency = op.level?.or s.lastConsistency := by
  cases op with
  | batchRead keys filter consistency => rw [apply, batchRead_fst]; rfl
  | _ => rfl

lemma unavailable_apply (s : MemoryStore) (op : Op) :
    (op.apply s).unavailable = op.flag?.getD s.unavailable := by
  cases op with
  | batchRead keys filter consistency => rw [apply, batchRead_fst]; rfl
  | _ => rfl

end Op

lemma Ordered.apply {s : MemoryStore} (hs : s.Ordered) (op : Op) : (op.apply s).Ordered := by
  cases op with
  | insertRow row => exact hs.insertRow row
  | insertColumn key name value => exact hs.insertColumn key name value
  | removeRow key => exact hs.removeRow key
  | setUnavailable flag => exact hs.of_rows_eq (rows_setUnavailable s flag)
  | batchRead keys filter consistency =>
    exact hs.of_rows_eq (rows_batchRead s keys filter consistency)

/-- The store after a sequence of operations on the empty store. -/
def ofOps (ops : List Op) : MemoryStore := ops.foldl Op.apply empty

/-- Whether the latest `setUnavailable` of a sequence marked the store as refusing reads; `false`
when there is none. -/
def latestFlag (ops : List Op) : Bool := ((ops.filterMap Op.flag?).getLast?).getD false

lemma ofOps_append_singleton (ops : List Op) (op : Op) :
    ofOps (ops ++ [op]) = op.apply (ofOps ops) := by
  rw [ofOps, List.foldl_append, List.foldl_cons, List.foldl_nil, ofOps]

lemma ordered_ofOps (ops : List Op) : (ofOps ops).Ordered := by
  induction ops using List.reverseRecOn with
  | nil => exact ordered_empty
  | append_singleton ops op ih =>
    rw [ofOps_append_singleton]
    exact ih.apply op

/-- Every read of a sequence is counted, and nothing else is. -/
lemma reads_ofOps (ops : List Op) : (ofOps ops).reads = (ops.filterMap Op.level?).length := by
  induction ops using List.reverseRecOn with
  | nil => rfl
  | append_singleton ops op ih =>
    rw [ofOps_append_singleton, Op.reads_apply, ih, List.filterMap_append, List.length_append,
      List.filterMap_cons, List.filterMap_nil]
    cases op.level? <;> rfl

/-- The recorded level is that of the latest read of a sequence. -/
lemma lastConsistency_ofOps (ops : List Op) :
    (ofOps ops).lastConsistency = (ops.filterMap Op.level?).getLast? := by
  induction ops using List.reverseRecOn with
  | nil => rfl
  | append_singleton ops op ih =>
    rw [ofOps_append_singleton, Op.lastConsistency_apply, ih, List.filterMap_append,
      List.getLast?_append, List.filterMap_cons, List.filterMap_nil]
    cases op.level? <;> rfl

/-- Reads are refused exactly when the latest `setUnavailable` of a sequence said so. -/
lemma unavailable_ofOps (ops : List Op) : (ofOps ops).unavailable = latestFlag ops := by
  induction ops using List.reverseRecOn with
  | nil => rfl
  | append_singleton ops op ih =>
    rw [ofOps_append_singleton, Op.unavailable_apply, ih, latestFlag, latestFlag,
      List.filterMap_append, List.getLast?_append, List.filterMap_cons, List.filterMap_nil]
    cases op.flag? <;> rfl

/-- A memory store refines a finite map `M` from row keys to finite maps from column names to
values. Along any sequence of operations on the empty store: writing a row sets `M[key]` to its
columns, the later of two columns of one name winning; writing a column sets `M[key][name]`,
creating the row if needed; removing a row erases `M[key]` and tells whether it was there; the
row count is the size of `M`. Every batched read is counted and records its level, even when
refused; it is refused, with `StorageUnavailable`, exactly when the latest `setUnavailable` said
so, and otherwise serves one row per requested key in `M`, in request order, holding exactly the
entries of `M[key]` that the filter accepts, by strictly ascending name. -/
theorem ofOps_refines_rowMap (ops : List Op) :
    let s := ofOps ops
    (∀ row, (s.insertRow row).contents = s.contents.insert row.key (columnMap row.columns)) ∧
    (∀ key name value, (s.insertColumn key name value).contents =
      s.contents.insert key (((s.contents.lookup key).getD ∅).insert name value)) ∧
    (∀ key, (s.removeRow key).1 = decide (key ∈ s.contents) ∧
      (s.removeRow key).2.contents = s.contents.erase key) ∧
    s.rowCount = s.contents.keys.card ∧
    s.reads = (ops.filterMap Op.level?).length ∧
    s.lastConsistency = (ops.filterMap Op.level?).getLast? ∧
    ∀ keys filter consistency,
      let read := s.batchRead keys filter consistency
      read.1.reads = s.reads + 1 ∧ read.1.lastConsistency = some consistency ∧
      read.1.contents = s.contents ∧
      ((latestFlag ops = true ∧
          read.2 = .error (.storageUnavailable "memory store" "store is marked unavailable")) ∨
        (latestFlag ops = false ∧
          ∃ rows, read.2 = .ok rows ∧ ServesAll s.contents filter keys rows)) := by
  intro s
  refine ⟨contents_insertRow s, contents_insertColumn s,
    fun key => ⟨removeRow_fst s key, contents_removeRow s key⟩,
    (ordered_ofOps ops).rowCount_eq_card, reads_ofOps ops, lastConsistency_ofOps ops,
    fun keys filter consistency => ?_⟩
  refine ⟨reads_batchRead s keys filter consistency, by rw [batchRead_fst],
    contents_eq_of_rows_eq (rows_batchRead s keys filter consistency), ?_⟩
  rw [batchRead_snd, unavailable_ofOps]
  cases latestFlag ops with
  | true => exact Or.inl ⟨rfl, rfl⟩
  | false =>
    exact Or.inr ⟨rfl, _, rfl, (ordered_ofOps ops).servesAll_rowsFor filter keys⟩

end MemoryStore

end StoredDocs
