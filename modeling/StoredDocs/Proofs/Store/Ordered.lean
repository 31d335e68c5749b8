import Mathlib
import StoredDocs.Store.Memory

/-!
# The store keeps its bindings in key order

A `ByteMap` is a list of bindings that its operations keep by strictly ascending key, and the
store keeps its rows, and the columns of each row, in such maps. Byte strings compare as lists
of bytes in the library's lexicographic order (`Bytes.compareLex_eq_compare`), which is a
strict total order; from it, inserting into an ordered map keeps it ordered
(`ByteMap.Ordered.insert`).

The store's invariant, `MemoryStore.Ordered`, says that its rows are by strictly ascending key
and each row's columns by strictly ascending name. The empty store has it and every write keeps
it (`MemoryStore.Ordered.insertRow`, `insertColumn`, `removeRow`), so a read hands the columns
of a row back in ascending name order.
-/

namespace StoredDocs

namespace Bytes

/-- Byte strings compare as lists of bytes, in the library's lexicographic order. -/
theorem compareLex_eq_compare (a b : Bytes) : compareLex a b = compare a b := by
  induction a generalizing b with
  | nil => cases b <;> rfl
  | cons x xs ih =>
    cases b with
    | nil => rfl
    | cons y ys =>
      rw [compareLex_cons_cons, ih, List.compare_cons_cons]
      show _ = (if x < y then Ordering.lt else if x = y then .eq else .gt).then _
      by_cases hxy : x < y
      · simp [hxy]
      · by_cases hyx : y < x
        · have hne : x ≠ y := fun h => UInt8.lt_irrefl x (h ▸ hyx)
          simp [hxy, hyx, hne]
        · have heq : x = y := UInt8.le_antisymm (UInt8.not_lt.1 hyx) (UInt8.not_lt.1 hxy)
          simp [heq]

lemma compareLex_lt_trans {a b c : Bytes} (hab : compareLex a b = .lt)
    (hbc : compareLex b c = .lt) : compareLex a c = .lt := by
  rw [compareLex_eq_compare] at hab hbc ⊢
  exact Std.TransCmp.lt_trans hab hbc

lemma compareLex_gt_iff {a b : Bytes} : compareLex a b = .gt ↔ compareLex b a = .lt := by
  rw [compareLex_eq_compare, compareLex_eq_compare]
  exact Std.OrientedCmp.gt_iff_lt

lemma compareLex_eq_iff {a b : Bytes} : compareLex a b = .eq ↔ a = b := by
  rw [compareLex_eq_compare]
  exact Std.LawfulEqCmp.compare_eq_iff_eq

end Bytes

namespace ByteMap

variable {α : Type}

/-- A map is ordered when its keys are strictly ascending. -/
def Ordered (m : ByteMap α) : Prop :=
  m.toList.Pairwise fun p q => Bytes.compareLex p.1 q.1 = .lt

/-- A binding of a list after an insertion is the inserted one or was there before. -/
lemma mem_insertList {k : Bytes} {v : α} {x : Bytes × α} {l : List (Bytes × α)}
    (hx : x ∈ insertList k v l) : x = (k, v) ∨ x ∈ l := by
  induction l with
  | nil => simpa [insertList] using hx
  | cons p rest ih =>
    obtain ⟨k', v'⟩ := p
    simp only [insertList] at hx
    split at hx
    · simpa using hx
    · rcases List.mem_cons.1 hx with rfl | hx
      · exact Or.inl rfl
      · exact Or.inr (List.mem_cons_of_mem _ hx)
    · rcases List.mem_cons.1 hx with rfl | hx
      · exact Or.inr List.mem_cons_self
      · rcases ih hx with rfl | hx
        · exact Or.inl rfl
        · exact Or.inr (List.mem_cons_of_mem _ hx)

/-- Inserting into a list by strictly ascending key keeps it so. -/
lemma pairwise_insertList {k : Bytes} {v : α} {l : List (Bytes × α)}
    (hl : l.Pairwise fun p q => Bytes.compareLex p.1 q.1 = .lt) :
    (insertList k v l).Pairwise fun p q => Bytes.compareLex p.1 q.1 = .lt := by
  induction l with
  | nil => simp [insertList]
  | cons p rest ih =>
    obtain ⟨k', v'⟩ := p
    obtain ⟨hhead, hrest⟩ := List.pairwise_cons.1 hl
    simp only [insertList]
    cases hcmp : Bytes.compareLex k k' with
    | lt =>
      -- the new key goes first: below `k'`, hence below every later key
      refine List.Pairwise.cons (fun x hx => ?_) hl
      rcases List.mem_cons.1 hx with rfl | hx
      · exact hcmp
      · exact Bytes.compareLex_lt_trans hcmp (hhead x hx)
    | eq =>
      rw [Bytes.compareLex_eq_iff] at hcmp
      subst hcmp
      exact List.Pairwise.cons hhead hrest
    | gt =>
      refine List.Pairwise.cons (fun x hx => ?_) (ih hrest)
      rcases mem_insertList hx with rfl | hx
      · exact Bytes.compareLex_gt_iff.1 hcmp
      · exact hhead x hx

lemma mem_insert {m : ByteMap α} {k : Bytes} {v : α} {x : Bytes × α}
    (hx : x ∈ (m.insert k v).toList) : x = (k, v) ∨ x ∈ m.toList :=
  mem_insertList hx

/-- A binding found by key is among the bindings. -/
lemma mem_of_lookup_eq_some {l : List (Bytes × α)} {k : Bytes} {v : α}
    (h : l.lookup k = some v) : (k, v) ∈ l := by
  induction l with
  | nil => cases h
  | cons p rest ih =>
    obtain ⟨k', v'⟩ := p
    simp only [List.lookup] at h
    split at h
    · rename_i hk
      cases h
      rw [beq_iff_eq.1 hk]
      exact List.mem_cons_self
    · exact List.mem_cons_of_mem _ (ih h)

lemma mem_toList_of_get? {m : ByteMap α} {k : Bytes} {v : α} (h : m.get? k = some v) :
    (k, v) ∈ m.toList :=
  mem_of_lookup_eq_some h

lemma ordered_empty : (empty : ByteMap α).Ordered := List.Pairwise.nil

lemma Ordered.insert {m : ByteMap α} (hm : m.Ordered) (k : Bytes) (v : α) :
    (m.insert k v).Ordered :=
  pairwise_insertList hm

lemma Ordered.erase {m : ByteMap α} (hm : m.Ordered) (k : Bytes) : (m.erase k).Ordered :=
  List.Pairwise.filter _ hm

/-- A map built from any list of bindings is ordered. -/
lemma ordered_ofList (bindings : List (Bytes × α)) : (ofList bindings).Ordered := by
  unfold ofList
  -- each insertion of the fold keeps the map ordered, from the empty one
  have h0 : (empty : ByteMap α).Ordered := ordered_empty
  generalize (empty : ByteMap α) = m at h0 ⊢
  induction bindings generalizing m with
  | nil => exact h0
  | cons b bs ih =>
    obtain ⟨k, v⟩ := b
    exact ih _ (h0.insert k v)

end ByteMap

namespace MemoryStore

/-- A store is ordered when its rows are by strictly ascending key and the columns of each row
by strictly ascending name, as its writes build them. -/
structure Ordered (s : MemoryStore) : Prop where
  rows : s.rows.Ordered
  columns : ∀ p ∈ s.rows.toList, p.2.Ordered

lemma Ordered.row {s : MemoryStore} (hs : s.Ordered) {key : Bytes} {row : StoredRow}
    (h : s.rows.get? key = some row) : row.Ordered :=
  hs.columns _ (ByteMap.mem_toList_of_get? h)

/-- Only the rows matter: a store with the rows of an ordered one is ordered. -/
lemma Ordered.of_rows_eq {s s' : MemoryStore} (hs : s.Ordered) (h : s'.rows = s.rows) :
    s'.Ordered :=
  ⟨by rw [h]; exact hs.rows, by rw [h]; exact hs.columns⟩

lemma ordered_empty : empty.Ordered :=
  ⟨ByteMap.ordered_empty, fun _ hp => absurd hp List.not_mem_nil⟩

lemma Ordered.insertRow {s : MemoryStore} (hs : s.Ordered) (row : RawRow) :
    (s.insertRow row).Ordered := by
  refine ⟨hs.rows.insert _ _, fun p hp => ?_⟩
  rcases ByteMap.mem_insert hp with rfl | hp
  · exact ByteMap.ordered_ofList _
  · exact hs.columns p hp

lemma Ordered.insertColumn {s : MemoryStore} (hs : s.Ordered) (key name value : Bytes) :
    (s.insertColumn key name value).Ordered := by
  -- the written row is the stored one, or a new empty one, with one more column
  have hrow : ((s.rows.get? key).getD .empty).Ordered := by
    cases h : s.rows.get? key with
    | none => exact ByteMap.ordered_empty
    | some row => exact hs.row h
  refine ⟨hs.rows.insert _ _, fun p hp => ?_⟩
  rcases ByteMap.mem_insert hp with rfl | hp
  · exact hrow.insert name value
  · exact hs.columns p hp

lemma Ordered.removeRow {s : MemoryStore} (hs : s.Ordered) (key : Bytes) :
    (s.removeRow key).2.Ordered :=
  ⟨hs.rows.erase key, fun p hp => hs.columns p (List.mem_of_mem_filter hp)⟩

lemma rows_setUnavailable (s : MemoryStore) (flag : Bool) :
    (s.setUnavailable flag).rows = s.rows := rfl

/-- A batched read changes the count and the recorded level, never the rows. -/
lemma rows_batchRead (s : MemoryStore) (keys : List Bytes) (filter : ColumnFilter)
    (consistency : Consistency) : (s.batchRead keys filter consistency).1.rows = s.rows := by
  unfold batchRead
  split <;> rfl

end MemoryStore

end StoredDocs
