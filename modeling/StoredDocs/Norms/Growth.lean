/-!
# Growth of norm arrays

A norm array grows by doubling from its current length (at least one) until it reaches the
length asked for, but never past the ceiling: the last step is cut down to the ceiling.

Beside the definition stand its step equations (`grow_of_not_lt`, `grow_of_lt`) and the bound
that growth reaches what it is asked for or the ceiling (`min_le_grow`); the closed form of the
whole growth is in `StoredDocs.Proofs.Norms.Doubling`.
-/

namespace StoredDocs.Norms

/-- Doubles `len`, capped at `ceiling`, while it is below both `minLen` and `ceiling`.

Lengths are machine words, and the doubling saturates at the largest word; the ceiling is a
word too, so the saturated double capped at the ceiling is the exact double capped at it. -/
def grow (minLen ceiling : Nat) (len : Nat) (h : 0 < len) : Nat :=
  if hlt : len < minLen ∧ len < ceiling then
    grow minLen ceiling (min (2 * len) ceiling) (by omega)
  else len
termination_by ceiling - len
decreasing_by omega

/-- The length that an array of length `current` grows to when it must hold `minLen` slots
and may not pass `ceiling`. -/
def grownLen (current minLen ceiling : Nat) : Nat :=
  grow minLen ceiling (max current 1) (by omega)

/-- A length that has reached `minLen` or the ceiling is kept. -/
theorem grow_of_not_lt (minLen ceiling len : Nat) (h : 0 < len)
    (hs : ¬(len < minLen ∧ len < ceiling)) : grow minLen ceiling len h = len := by
  rw [grow, dif_neg hs]

/-- A length below both `minLen` and the ceiling takes one capped doubling step. -/
theorem grow_of_lt (minLen ceiling len : Nat) (h : 0 < len)
    (hs : len < minLen ∧ len < ceiling) :
    grow minLen ceiling len h = grow minLen ceiling (min (2 * len) ceiling) (by omega) := by
  rw [grow, dif_pos hs]

/-- Growth reaches `minLen`, or the ceiling when that comes first. -/
theorem min_le_grow (minLen ceiling len : Nat) (h : 0 < len) :
    min minLen ceiling ≤ grow minLen ceiling len h := by
  by_cases hs : len < minLen ∧ len < ceiling
  · rw [grow_of_lt minLen ceiling len h hs]
    exact min_le_grow minLen ceiling _ (by omega)
  · rw [grow_of_not_lt minLen ceiling len h hs]
    omega
termination_by ceiling - len

/-- Growth depends on the length only, not on the proof that it is positive. -/
theorem grow_congr (minLen ceiling : Nat) {a b : Nat} (ha : 0 < a) (hb : 0 < b) (h : a = b) :
    grow minLen ceiling a ha = grow minLen ceiling b hb := by
  subst h
  rfl

end StoredDocs.Norms
