import Mathlib
import StoredDocs.Norms.Growth

/-!
# Closed form of norm-array growth

Growth doubles a positive length `c` until it reaches `minLen`, cutting the last step down to
the ceiling. So when `c` is below both, the result is `min ceiling (c * 2 ^ k)` for the least
`k ≥ 1` with `minLen ≤ c * 2 ^ k`, and otherwise it is `c` itself.

The main statement, `grownLen_eq_capped_doubling`, gives this closed form for `grownLen`, which
starts from `max current 1`, together with its consequences: the result is at least the start,
at most the larger of the start and the ceiling, and below `minLen` only when the ceiling is.

Growing in two steps, first to `m₁` and then to `m₂`, ends where growing once to the larger of
the two ends (`grownLen_grownLen`): the length of an array depends only on the largest length
it was ever asked to hold.
-/

namespace StoredDocs.Norms

/-- One more doubling: `len * 2 ^ (k + 1)` is `2 * len` doubled `k` times. -/
theorem mul_two_pow_succ (len k : Nat) : len * 2 ^ (k + 1) = 2 * len * 2 ^ k := by
  rw [Nat.pow_succ, Nat.mul_comm (2 ^ k) 2, ← Nat.mul_assoc, Nat.mul_comm len 2]

/-- A positive length doubled at least once is at least twice the length. -/
theorem two_mul_le_mul_two_pow (len : Nat) {k : Nat} (hk : 1 ≤ k) : 2 * len ≤ len * 2 ^ k := by
  have h : 2 ^ 1 ≤ 2 ^ k := Nat.pow_le_pow_right (by decide) hk
  rw [Nat.mul_comm 2 len]
  exact Nat.mul_le_mul_left len h

/-- The doublings of `len` before the `k + 1`-th are `2 * len` and the doublings of `2 * len`
before the `k`-th: when all of these fall short of `minLen`, so do those of `len`. -/
theorem doublings_below_succ {minLen len k : Nat} (h2 : 2 * len < minLen)
    (hleast : ∀ j, 1 ≤ j → j < k → 2 * len * 2 ^ j < minLen) :
    ∀ j, 1 ≤ j → j < k + 1 → len * 2 ^ j < minLen := by
  intro j hj1 hjk
  cases j with
  | zero => omega
  | succ j =>
    rw [mul_two_pow_succ]
    cases j with
    | zero =>
      rw [Nat.pow_zero, Nat.mul_one]
      exact h2
    | succ j => exact hleast (j + 1) (by omega) (by omega)

/-- Doubling a positive length reaches every bound, and there is a first doubling count
`k ≥ 1` that does. -/
theorem exists_least_doubling (minLen len : Nat) (hpos : 0 < len) :
    ∃ k, 1 ≤ k ∧ minLen ≤ len * 2 ^ k ∧ ∀ j, 1 ≤ j → j < k → len * 2 ^ j < minLen := by
  by_cases h2 : minLen ≤ 2 * len
  · refine ⟨1, Nat.le_refl 1, ?_, fun j hj1 hjk => absurd hjk (by omega)⟩
    rw [Nat.pow_one, Nat.mul_comm]
    exact h2
  · -- the first doubling of `len` is the start of the doublings of `2 * len`
    obtain ⟨k, hk1, hk, hleast⟩ := exists_least_doubling minLen (2 * len) (by omega)
    refine ⟨k + 1, by omega, ?_, doublings_below_succ (by omega) hleast⟩
    rw [mul_two_pow_succ]
    exact hk
termination_by minLen - len

/-- From a length below both `minLen` and the ceiling, growth ends at the ceiling or at the
first doubling that reaches `minLen`, whichever is smaller. -/
theorem grow_eq_min_doubling (minLen ceiling len : Nat) (hpos : 0 < len)
    (hs : len < minLen ∧ len < ceiling) :
    ∃ k, 1 ≤ k ∧ minLen ≤ len * 2 ^ k ∧ (∀ j, 1 ≤ j → j < k → len * 2 ^ j < minLen) ∧
      grow minLen ceiling len hpos = min ceiling (len * 2 ^ k) := by
  rw [grow_of_lt minLen ceiling len hpos hs]
  by_cases hc : ceiling ≤ 2 * len
  · -- the doubling is cut down to the ceiling, where growth stops
    obtain ⟨k, hk1, hk, hleast⟩ := exists_least_doubling minLen len hpos
    refine ⟨k, hk1, hk, hleast, ?_⟩
    rw [grow_of_not_lt minLen ceiling _ _ (by omega)]
    have := two_mul_le_mul_two_pow len hk1
    omega
  · have hmin : min (2 * len) ceiling = 2 * len := Nat.min_eq_left (by omega)
    rw [grow_congr minLen ceiling _ (by omega : 0 < 2 * len) hmin]
    by_cases hm : minLen ≤ 2 * len
    · -- the first doubling reaches `minLen`
      refine ⟨1, Nat.le_refl 1, by omega, fun j hj1 hjk => absurd hjk (by omega), ?_⟩
      rw [grow_of_not_lt minLen ceiling _ _ (by omega)]
      omega
    · obtain ⟨k, hk1, hk, hleast, heq⟩ :=
        grow_eq_min_doubling minLen ceiling (2 * len) (by omega) (by omega)
      refine ⟨k + 1, by omega, ?_, doublings_below_succ (by omega) hleast, ?_⟩
      · rw [mul_two_pow_succ]
        exact hk
      · rw [heq, mul_two_pow_succ]
termination_by ceiling - len

/-- The length a norm array grows to, from `c = max current 1`: `c` itself when `c` has
reached `minLen` or the ceiling, and otherwise `min ceiling (c * 2 ^ k)` for the least `k ≥ 1`
with `minLen ≤ c * 2 ^ k`. Hence the result lies between `c` and `max c ceiling`, and it is
below `minLen` only when the ceiling is. -/
theorem grownLen_eq_capped_doubling (current minLen ceiling : Nat) :
    ((minLen ≤ max current 1 ∨ ceiling ≤ max current 1) →
      grownLen current minLen ceiling = max current 1) ∧
    ((max current 1 < minLen ∧ max current 1 < ceiling) →
      ∃ k, 1 ≤ k ∧ minLen ≤ max current 1 * 2 ^ k ∧
        (∀ j, 1 ≤ j → j < k → max current 1 * 2 ^ j < minLen) ∧
        grownLen current minLen ceiling = min ceiling (max current 1 * 2 ^ k)) ∧
    max current 1 ≤ grownLen current minLen ceiling ∧
    grownLen current minLen ceiling ≤ max (max current 1) ceiling ∧
    (grownLen current minLen ceiling < minLen → ceiling < minLen) := by
  have hpos : 0 < max current 1 := by omega
  have hstop : (minLen ≤ max current 1 ∨ ceiling ≤ max current 1) →
      grownLen current minLen ceiling = max current 1 := fun h =>
    grow_of_not_lt minLen ceiling _ hpos (by omega)
  have hgrow : (max current 1 < minLen ∧ max current 1 < ceiling) →
      ∃ k, 1 ≤ k ∧ minLen ≤ max current 1 * 2 ^ k ∧
        (∀ j, 1 ≤ j → j < k → max current 1 * 2 ^ j < minLen) ∧
        grownLen current minLen ceiling = min ceiling (max current 1 * 2 ^ k) :=
    grow_eq_min_doubling minLen ceiling _ hpos
  refine ⟨hstop, hgrow, ?_⟩
  by_cases hs : max current 1 < minLen ∧ max current 1 < ceiling
  · obtain ⟨k, hk1, hk, -, heq⟩ := hgrow hs
    have := two_mul_le_mul_two_pow (max current 1) hk1
    rw [heq]
    omega
  · rw [hstop (by omega)]
    omega

/-! ### Growing in two steps -/

/-- Growth never shortens. -/
theorem le_grow (minLen ceiling len : Nat) (h : 0 < len) : len ≤ grow minLen ceiling len h := by
  by_cases hs : len < minLen ∧ len < ceiling
  · rw [grow_of_lt minLen ceiling len h hs]
    have := le_grow minLen ceiling (min (2 * len) ceiling) (by omega)
    omega
  · rw [grow_of_not_lt minLen ceiling len h hs]
termination_by ceiling - len

/-- Growth passes the ceiling only when it starts above it. -/
theorem grow_le_max (minLen ceiling len : Nat) (h : 0 < len) :
    grow minLen ceiling len h ≤ max len ceiling := by
  by_cases hs : len < minLen ∧ len < ceiling
  · -- the capped doubling lands at or below the ceiling, and growth stays there
    rw [grow_of_lt minLen ceiling len h hs]
    have := grow_le_max minLen ceiling (min (2 * len) ceiling) (by omega)
    omega
  · rw [grow_of_not_lt minLen ceiling len h hs]
    omega
termination_by ceiling - len

/-- Growing to `m₁` and then to `m₂` is growing to the larger of the two. -/
theorem grow_grow (m₁ m₂ ceiling len : Nat) (h : 0 < len) (h' : 0 < grow m₁ ceiling len h) :
    grow m₂ ceiling (grow m₁ ceiling len h) h' = grow (max m₁ m₂) ceiling len h := by
  by_cases hs : len < m₁ ∧ len < ceiling
  · -- both growths take the same first doubling step
    have h₁ : 0 < min (2 * len) ceiling := by omega
    rw [grow_congr m₂ ceiling h' (Nat.lt_of_lt_of_le h₁ (le_grow m₁ ceiling _ h₁))
        (grow_of_lt m₁ ceiling len h hs), grow_grow m₁ m₂ ceiling _ h₁,
      grow_of_lt (max m₁ m₂) ceiling len h ⟨by omega, hs.2⟩]
  · rw [grow_congr m₂ ceiling h' h (grow_of_not_lt m₁ ceiling len h hs)]
    by_cases hm : m₁ ≤ m₂
    · rw [Nat.max_eq_right hm]
    · rw [grow_of_not_lt m₂ ceiling len h (by omega),
        grow_of_not_lt (max m₁ m₂) ceiling len h (by omega)]
termination_by ceiling - len

/-- A grown length is positive. -/
theorem grownLen_pos (current minLen ceiling : Nat) : 0 < grownLen current minLen ceiling := by
  have := le_grow minLen ceiling (max current 1) (by omega)
  unfold grownLen
  omega

/-- A grown length is grown from as it is. -/
theorem grownLen_grownLen (current m₁ m₂ ceiling : Nat) :
    grownLen (grownLen current m₁ ceiling) m₂ ceiling = grownLen current (max m₁ m₂) ceiling := by
  unfold grownLen
  have hpos : 0 < max current 1 := by omega
  have hle := le_grow m₁ ceiling (max current 1) hpos
  rw [grow_congr m₂ ceiling _ (by omega) (Nat.max_eq_left (by omega))]
  exact grow_grow m₁ m₂ ceiling _ hpos _

end StoredDocs.Norms
