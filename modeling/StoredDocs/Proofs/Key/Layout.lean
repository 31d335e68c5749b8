import Mathlib
import StoredDocs.Key
import StoredDocs.Proofs.Text.Hex
import StoredDocs.Proofs.Text.Utf8

/-!
# A storage key determines its index and ordinal

The key of a document is the UTF-8 bytes of the index name, the delimiter `EF BF BF` (U+FFFF)
and the digits of the ordinal in lowercase hexadecimal without leading zeros. The index name may
hold the delimiter itself, but the digits are ASCII and hold none of its bytes, so the delimiter
after the name is the last one of the key. Splitting a key at its last delimiter
(`lastDelimiterSplit`) gives the name's bytes and the ordinal's digits back.

The main statement, `forDocument_eq_iff`: two documents share a key exactly when they share
index and ordinal, so a row of a batched read answers for at most one ordinal of the read.
-/

namespace StoredDocs

namespace StorageKey

/-- The bytes before and after the last delimiter U+FFFF of a byte string, if it holds one. -/
def lastDelimiterSplit : Bytes → Option (Bytes × Bytes)
  | [] => none
  | b :: rest =>
    match lastDelimiterSplit rest with
    | some (pre, post) => some (b :: pre, post)
    | none => if (b :: rest).take 3 = Codec.delimiterBytes then some ([], rest.drop 2) else none

lemma lastDelimiterSplit_cons_of_some {b : UInt8} {rest pre post : Bytes}
    (h : lastDelimiterSplit rest = some (pre, post)) :
    lastDelimiterSplit (b :: rest) = some (b :: pre, post) := by
  rw [lastDelimiterSplit, h]

/-- A byte other than `EF` starts no delimiter. -/
lemma lastDelimiterSplit_cons_of_none {b : UInt8} {rest : Bytes} (hb : b ≠ 0xEF)
    (h : lastDelimiterSplit rest = none) : lastDelimiterSplit (b :: rest) = none := by
  rw [lastDelimiterSplit, h]
  simp [Codec.delimiterBytes, hb]

/-- ASCII bytes hold no delimiter. -/
lemma lastDelimiterSplit_of_ascii {bs : Bytes} (h : ∀ b ∈ bs, b < 0x80) :
    lastDelimiterSplit bs = none := by
  induction bs with
  | nil => rfl
  | cons b rest ih =>
    have hb : b ≠ 0xEF := by
      intro heq
      have hlt := h b List.mem_cons_self
      rw [heq] at hlt
      exact absurd hlt (by decide)
    exact lastDelimiterSplit_cons_of_none hb (ih fun x hx => h x (List.mem_cons_of_mem b hx))

/-- Bytes, the delimiter and ASCII bytes split back at that delimiter. -/
lemma lastDelimiterSplit_append (pre : Bytes) {post : Bytes} (hpost : ∀ b ∈ post, b < 0x80) :
    lastDelimiterSplit (pre ++ Codec.delimiterBytes ++ post) = some (pre, post) := by
  induction pre with
  | nil =>
    -- the two `BF` bytes start no delimiter, the `EF` before them does
    have h₁ : lastDelimiterSplit (0xBF :: post) = none :=
      lastDelimiterSplit_cons_of_none (by decide) (lastDelimiterSplit_of_ascii hpost)
    have h₂ : lastDelimiterSplit (0xBF :: 0xBF :: post) = none :=
      lastDelimiterSplit_cons_of_none (by decide) h₁
    simp only [List.nil_append, Codec.delimiterBytes, List.cons_append]
    rw [lastDelimiterSplit, h₂]
    simp [Codec.delimiterBytes]
  | cons b pre ih =>
    rw [List.cons_append, List.cons_append]
    exact lastDelimiterSplit_cons_of_some ih

/-- The ordinal's bytes are ASCII. -/
lemma lt_of_mem_ordinalBytes {o : UInt32} {b : UInt8} (hb : b ∈ ordinalBytes o) : b < 0x80 := by
  obtain ⟨c, hc, rfl⟩ := List.mem_map.1 hb
  have hlt := Hex.toNat_lt_of_mem_ofNat hc
  rw [UInt8.lt_iff_toNat_lt, Nat.toUInt8_eq, UInt8.toNat_ofNat_of_lt' (by unfold UInt8.size; omega)]
  exact hlt

/-- The ordinal's bytes are the characters of its digits. -/
lemma ordinalBytes_chars (o : UInt32) :
    (ordinalBytes o).map (fun b => Char.ofNat b.toNat) = Hex.ofNat o.toNat := by
  rw [ordinalBytes, List.map_map]
  conv_rhs => rw [← List.map_id (Hex.ofNat o.toNat)]
  refine List.map_congr_left fun c hc => ?_
  have hlt := Hex.toNat_lt_of_mem_ofNat hc
  rw [Function.comp_apply, Nat.toUInt8_eq, UInt8.toNat_ofNat_of_lt' (by unfold UInt8.size; omega), Char.ofNat_toNat, id]

lemma lastDelimiterSplit_forDocument (index : String) (o : UInt32) :
    lastDelimiterSplit (forDocument index o).bytes = some (Utf8.encode index, ordinalBytes o) :=
  lastDelimiterSplit_append _ fun _ hb => lt_of_mem_ordinalBytes hb

/-- Two documents share a storage key exactly when they share index and ordinal: the key splits
at its last delimiter U+FFFF into the UTF-8 bytes of the index name and the digits of the
ordinal, which are lowercase hexadecimal without leading zeros and read back as the ordinal. -/
theorem forDocument_eq_iff (i₁ i₂ : String) (o₁ o₂ : UInt32) :
    (forDocument i₁ o₁ = forDocument i₂ o₂ ↔ i₁ = i₂ ∧ o₁ = o₂) ∧
    lastDelimiterSplit (forDocument i₁ o₁).bytes = some (Utf8.encode i₁, ordinalBytes o₁) ∧
    (ordinalBytes o₁).map (fun b => Char.ofNat b.toNat) = Hex.ofNat o₁.toNat ∧
    (∀ c ∈ Hex.ofNat o₁.toNat, Hex.IsLowerDigit c) ∧
    (o₁ = 0 ∨ (Hex.ofNat o₁.toNat).head? ≠ some '0') ∧
    Hex.value? (Hex.ofNat o₁.toNat) = some o₁.toNat := by
  refine ⟨⟨fun h => ?_, fun ⟨hi, ho⟩ => hi ▸ ho ▸ rfl⟩, lastDelimiterSplit_forDocument i₁ o₁,
    ordinalBytes_chars o₁, fun c hc => Hex.isLowerDigit_of_mem_ofNat hc, ?_, Hex.value?_ofNat _⟩
  · -- equal keys split alike: equal name bytes, equal digits
    have hsplit := lastDelimiterSplit_forDocument i₁ o₁
    rw [h, lastDelimiterSplit_forDocument, Option.some.injEq, Prod.mk.injEq] at hsplit
    obtain ⟨hname, hdigits⟩ := hsplit
    have hi : i₂ = i₁ := by
      rw [← Utf8.decodeLossy_encode i₂, hname, Utf8.decodeLossy_encode]
    have ho : o₂.toNat = o₁.toNat := by
      apply Hex.ofNat_injective
      rw [← ordinalBytes_chars, hdigits, ordinalBytes_chars]
    exact ⟨hi.symm, (UInt32.toNat_inj.1 ho).symm⟩
  · by_cases h : o₁ = 0
    · exact Or.inl h
    · exact Or.inr (Hex.head?_ofNat_ne_zero fun h0 => h (UInt32.toNat_inj.1 (by rw [h0]; rfl)))

end StorageKey

end StoredDocs
