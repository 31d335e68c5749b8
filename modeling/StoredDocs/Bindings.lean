/-!
# Bindings

Small finite maps kept as lists of bindings with distinct keys, the newest first. Binding a
key again replaces its value.
-/

namespace StoredDocs

/-- Bindings with distinct keys, newest first. -/
abbrev Bindings (κ α : Type) := List (κ × α)

namespace Bindings

variable {κ α : Type} [BEq κ]

/-- Binds `k` to `v`, replacing an earlier binding of `k`. -/
def put (l : Bindings κ α) (k : κ) (v : α) : Bindings κ α := (k, v) :: l.filter (·.1 != k)

/-- The binding of `k` removed, with its value. -/
def take (l : Bindings κ α) (k : κ) : Option α × Bindings κ α :=
  (l.lookup k, l.filter (·.1 != k))

section Lawful

variable [LawfulBEq κ]

theorem lookup_filter_ne (l : Bindings κ α) {k k' : κ} (h : k' ≠ k) :
    (l.filter (·.1 != k)).lookup k' = l.lookup k' := by
  induction l with
  | nil => rfl
  | cons p l ih =>
    obtain ⟨j, v⟩ := p
    by_cases hj : j = k
    · subst hj
      have hne : (k' == j) = false := beq_false_of_ne h
      simp [List.lookup_cons, hne, ih]
    · have hkeep : (j != k) = true := bne_iff_ne.2 hj
      simp only [List.filter_cons, hkeep, if_true, List.lookup_cons, ih]

/-- Binding `k` answers `v` for `k` and leaves every other key as it was. -/
theorem lookup_put (l : Bindings κ α) (k k' : κ) (v : α) :
    (put l k v).lookup k' = if k' == k then some v else l.lookup k' := by
  by_cases h : k' = k
  · subst h
    simp [put]
  · simp [put, List.lookup_cons, beq_false_of_ne h, lookup_filter_ne l h]

/-- Binding the items of a list under their keys, in order, answers for each key the last item
with that key, and what was bound before for the other keys. -/
theorem lookup_foldl_put (key : α → κ) (xs : List α) (m : Bindings κ α) (k : κ) :
    (xs.foldl (fun m x => put m (key x) x) m).lookup k =
      (xs.reverse.find? (key · == k)).or (m.lookup k) := by
  induction xs generalizing m with
  | nil => simp
  | cons x xs ih =>
    rw [List.foldl_cons, ih, lookup_put, List.reverse_cons, List.find?_append]
    by_cases hx : key x = k
    · subst hx
      simp
    · have hx' : (k == key x) = false := beq_false_of_ne (Ne.symm hx)
      simp [hx, hx']

end Lawful

end Bindings

end StoredDocs
