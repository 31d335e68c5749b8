import Mathlib
import StoredDocs.Text.Hex

/-!
# Hexadecimal numbers read back

A number is written as its lowercase hexadecimal digits without leading zeros. This module
proves that the written form is that: every digit is one of `0`–`9`, `a`–`f` (so an ASCII
character), and the first digit is `0` only for zero; and that reading the digits back gives
the number (`value?_ofNat`), so that two numbers with the same digits are equal.
-/

namespace StoredDocs.Hex

/-- A lowercase hexadecimal digit. -/
def IsLowerDigit (c : Char) : Prop := ('0' ≤ c ∧ c ≤ '9') ∨ ('a' ≤ c ∧ c ≤ 'f')

instance (c : Char) : Decidable (IsLowerDigit c) := inferInstanceAs (Decidable (_ ∨ _))

theorem isLowerDigit_digit : ∀ n, n < 16 → IsLowerDigit (digit n) := by
  decide

theorem digit_toNat_lt : ∀ n, n < 16 → (digit n).toNat < 128 := by
  decide

theorem digit_eq_zero_iff : ∀ n, n < 16 → (digit n = '0' ↔ n = 0) := by
  decide

lemma ofNat_of_lt {n : Nat} (h : n < 16) : ofNat n = [digit n] := by
  rw [ofNat, if_pos h]

lemma ofNat_of_le {n : Nat} (h : 16 ≤ n) : ofNat n = ofNat (n / 16) ++ [digit (n % 16)] := by
  rw [ofNat, if_neg (Nat.not_lt.2 h)]

lemma value?_append_singleton (cs : List Char) (c : Char) :
    value? (cs ++ [c]) = (value? cs).bind fun v => (digitValue? c).map (16 * v + ·) := by
  rw [value?, List.foldl_append, List.foldl_cons, List.foldl_nil, ← value?]
  cases value? cs <;> cases digitValue? c <;> rfl

/-- Reading the digits of a number gives the number. -/
theorem value?_ofNat (n : Nat) : value? (ofNat n) = some n := by
  induction n using Nat.strong_induction_on with
  | _ n ih =>
    by_cases h : n < 16
    · rw [ofNat_of_lt h, ← List.nil_append [digit n], value?_append_singleton,
        digitValue?_digit n h]
      simp [value?]
    · have hle : 16 ≤ n := Nat.le_of_not_lt h
      rw [ofNat_of_le hle, value?_append_singleton, ih (n / 16) (by omega),
        digitValue?_digit _ (Nat.mod_lt _ (by omega))]
      simp only [Option.bind_some, Option.map_some, Option.some.injEq]
      omega

theorem ofNat_injective : Function.Injective ofNat := by
  intro m n h
  have hm := value?_ofNat m
  rw [h, value?_ofNat] at hm
  exact (Option.some.inj hm).symm

/-- Every character of a number's digits is the digit of a value below sixteen. -/
theorem exists_digit_of_mem_ofNat (n : Nat) : ∀ c ∈ ofNat n, ∃ d < 16, digit d = c := by
  induction n using Nat.strong_induction_on with
  | _ n ih =>
    intro c hc
    by_cases h : n < 16
    · rw [ofNat_of_lt h, List.mem_singleton] at hc
      exact ⟨n, h, hc.symm⟩
    · rw [ofNat_of_le (Nat.le_of_not_lt h), List.mem_append, List.mem_singleton] at hc
      rcases hc with hc | rfl
      · exact ih (n / 16) (by omega) c hc
      · exact ⟨n % 16, Nat.mod_lt _ (by omega), rfl⟩

theorem isLowerDigit_of_mem_ofNat {n : Nat} {c : Char} (hc : c ∈ ofNat n) : IsLowerDigit c := by
  obtain ⟨d, hd, rfl⟩ := exists_digit_of_mem_ofNat n c hc
  exact isLowerDigit_digit d hd

/-- The digits of a number are ASCII characters. -/
theorem toNat_lt_of_mem_ofNat {n : Nat} {c : Char} (hc : c ∈ ofNat n) : c.toNat < 128 := by
  obtain ⟨d, hd, rfl⟩ := exists_digit_of_mem_ofNat n c hc
  exact digit_toNat_lt d hd

/-- A number's digits have no leading zero: the first digit is `0` only for zero. -/
theorem head?_ofNat_ne_zero {n : Nat} (hn : n ≠ 0) : (ofNat n).head? ≠ some '0' := by
  induction n using Nat.strong_induction_on with
  | _ n ih =>
    by_cases h : n < 16
    · rw [ofNat_of_lt h, List.head?_cons, ne_eq, Option.some.injEq, digit_eq_zero_iff n h]
      exact hn
    · -- the leading digit is that of `n / 16`, which is not zero
      have hhead : (ofNat (n / 16)).head? ≠ none := by
        rw [ne_eq, List.head?_eq_none_iff]
        intro hnil
        have := value?_ofNat (n / 16)
        rw [hnil] at this
        simp only [value?, List.foldl_nil, Option.some.injEq] at this
        omega
      rw [ofNat_of_le (Nat.le_of_not_lt h), List.head?_append]
      obtain ⟨d, hd⟩ := Option.ne_none_iff_exists'.1 hhead
      rw [hd, Option.some_or, ← hd]
      exact ih (n / 16) (by omega) (by omega)

end StoredDocs.Hex
