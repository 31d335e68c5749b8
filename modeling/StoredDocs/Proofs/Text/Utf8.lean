import Mathlib
import StoredDocs.Text.Utf8

/-!
# Lossy decoding reads encoded text back

Decoding replaces only ill-formed parts of its input, and the bytes of an encoded string have
none: every character is written as one of the four well-formed sequences, with no overlong
form, no surrogate and nothing above U+10FFFF. So decoding the bytes of a string gives its
characters back, whatever bytes follow them.

The proof goes by the length of a character's sequence. For each length, one lemma says which
branch of the decoder a sequence of that shape takes (`decodeChars_two` and its siblings), and
another checks, by arithmetic on the code point, that the form the encoder writes for a code
point of that length has that shape and carries the code point (`decodeChars_twoByteForm` and
its siblings).
-/

namespace StoredDocs.Utf8

/-! ### Bytes by value -/

lemma isContinuation_iff (b : UInt8) :
    isContinuation b = true ↔ 0x80 ≤ b.toNat ∧ b.toNat ≤ 0xBF := by
  simp [isContinuation, UInt8.le_iff_toNat_le]

lemma secondFits_iff (lead b : UInt8) : secondFits lead b = true ↔
    (lead.toNat = 0xE0 → 0xA0 ≤ b.toNat ∧ b.toNat ≤ 0xBF) ∧
    (lead.toNat = 0xED → 0x80 ≤ b.toNat ∧ b.toNat ≤ 0x9F) ∧
    (lead.toNat = 0xF0 → 0x90 ≤ b.toNat ∧ b.toNat ≤ 0xBF) ∧
    (lead.toNat = 0xF4 → 0x80 ≤ b.toNat ∧ b.toNat ≤ 0x8F) ∧
    (lead.toNat ≠ 0xE0 → lead.toNat ≠ 0xED → lead.toNat ≠ 0xF0 → lead.toNat ≠ 0xF4 →
      0x80 ≤ b.toNat ∧ b.toNat ≤ 0xBF) := by
  simp only [secondFits, isContinuation, ← UInt8.toNat_inj]
  split_ifs <;> simp_all [UInt8.le_iff_toNat_le]

/-- A byte written as `x % m + base` holds that value when the largest such value fits in a
byte. -/
lemma toNat_ofNat_mod_add (x m base : Nat) (hm : 0 < m) (hroom : m + base ≤ 256) :
    (UInt8.ofNat (x % m + base)).toNat = x % m + base := by
  have := Nat.mod_lt x hm
  rw [UInt8.toNat_ofNat']
  omega

/-! ### One well-formed sequence -/

/-- The lead byte of a sequence of two to four bytes passes the decoder's first two tests: it
is not ASCII and not refused outright. -/
lemma lead_passes {b0 : UInt8} (h : 0xC2 ≤ b0.toNat ∧ b0.toNat ≤ 0xF4) :
    ¬b0 < 0x80 ∧ (decide (b0 < 0xC2) || decide (0xF4 < b0)) = false := by
  refine ⟨by rw [UInt8.lt_iff_toNat_lt]; simp; omega, ?_⟩
  simp only [UInt8.lt_iff_toNat_lt, Bool.or_eq_false_iff, decide_eq_false_iff_not]
  simp
  omega

lemma decodeChars_one (b0 : UInt8) (rest : Bytes) (h0 : b0.toNat < 0x80) :
    decodeChars (b0 :: rest) = Char.ofNat b0.toNat :: decodeChars rest := by
  have hascii : b0 < 0x80 := by
    rw [UInt8.lt_iff_toNat_lt]
    simpa using h0
  rw [decodeChars.eq_def]
  simp only [hascii, if_true]

lemma decodeChars_two (b0 b1 : UInt8) (rest : Bytes)
    (h0 : 0xC2 ≤ b0.toNat ∧ b0.toNat < 0xE0) (h1 : isContinuation b1 = true) :
    decodeChars (b0 :: b1 :: rest) = char2 b0 b1 :: decodeChars rest := by
  obtain ⟨hascii, hlead⟩ := lead_passes (show 0xC2 ≤ b0.toNat ∧ b0.toNat ≤ 0xF4 by omega)
  have hshort : b0 < 0xE0 := by rw [UInt8.lt_iff_toNat_lt]; simp; omega
  rw [decodeChars.eq_def]
  simp only [hascii, hlead, hshort, h1, if_false, if_true]
  rfl

lemma decodeChars_three (b0 b1 b2 : UInt8) (rest : Bytes)
    (h0 : 0xE0 ≤ b0.toNat ∧ b0.toNat < 0xF0) (h1 : secondFits b0 b1 = true)
    (h2 : isContinuation b2 = true) :
    decodeChars (b0 :: b1 :: b2 :: rest) = char3 b0 b1 b2 :: decodeChars rest := by
  obtain ⟨hascii, hlead⟩ := lead_passes (show 0xC2 ≤ b0.toNat ∧ b0.toNat ≤ 0xF4 by omega)
  have hnotTwo : ¬b0 < 0xE0 := by rw [UInt8.lt_iff_toNat_lt]; simp; omega
  have hthree : b0 < 0xF0 := by rw [UInt8.lt_iff_toNat_lt]; simp; omega
  rw [decodeChars.eq_def]
  simp only [hascii, hlead, hnotTwo, hthree, h1, h2, if_false, if_true]
  rfl

lemma decodeChars_four (b0 b1 b2 b3 : UInt8) (rest : Bytes)
    (h0 : 0xF0 ≤ b0.toNat ∧ b0.toNat ≤ 0xF4) (h1 : secondFits b0 b1 = true)
    (h2 : isContinuation b2 = true) (h3 : isContinuation b3 = true) :
    decodeChars (b0 :: b1 :: b2 :: b3 :: rest) = char4 b0 b1 b2 b3 :: decodeChars rest := by
  obtain ⟨hascii, hlead⟩ := lead_passes (show 0xC2 ≤ b0.toNat ∧ b0.toNat ≤ 0xF4 by omega)
  have hnotTwo : ¬b0 < 0xE0 := by rw [UInt8.lt_iff_toNat_lt]; simp; omega
  have hnotThree : ¬b0 < 0xF0 := by rw [UInt8.lt_iff_toNat_lt]; simp; omega
  rw [decodeChars.eq_def]
  simp only [hascii, hlead, hnotTwo, hnotThree, h1, h2, h3, if_false, if_true]
  rfl

/-! ### Encoded characters and strings -/

/-- The one-byte form of a code point up to `U+007F` decodes to it. -/
lemma decodeChars_oneByteForm (v : Nat) (rest : Bytes) (hv : v ≤ 0x7F) :
    decodeChars ([UInt8.ofNat v] ++ rest) = Char.ofNat v :: decodeChars rest := by
  have h0 : (UInt8.ofNat v).toNat = v := by
    rw [UInt8.toNat_ofNat']
    omega
  rw [List.singleton_append, decodeChars_one _ _ (by omega), h0]

/-- The two-byte form of a code point `U+0080`–`U+07FF` decodes to it. -/
lemma decodeChars_twoByteForm (v : Nat) (rest : Bytes) (hlo : 0x7F < v) (hhi : v ≤ 0x7FF) :
    decodeChars ([UInt8.ofNat (v / 64 % 32 + 192), UInt8.ofNat (v % 64 + 128)] ++ rest) =
      Char.ofNat v :: decodeChars rest := by
  have h0 := toNat_ofNat_mod_add (v / 64) 32 192 (by decide) (by decide)
  have h1 := toNat_ofNat_mod_add v 64 128 (by decide) (by decide)
  rw [List.cons_append, List.singleton_append,
    decodeChars_two _ _ _ (by omega) (by rw [isContinuation_iff]; omega), char2, h0, h1]
  congr 2
  omega

/-- The three-byte form of a code point `U+0800`–`U+FFFF` other than a surrogate decodes to
it. -/
lemma decodeChars_threeByteForm (v : Nat) (rest : Bytes) (hlo : 0x7FF < v) (hhi : v ≤ 0xFFFF)
    (hsur : v < 0xD800 ∨ 0xDFFF < v) :
    decodeChars ([UInt8.ofNat (v / 4096 % 16 + 224), UInt8.ofNat (v / 64 % 64 + 128),
      UInt8.ofNat (v % 64 + 128)] ++ rest) = Char.ofNat v :: decodeChars rest := by
  have h0 := toNat_ofNat_mod_add (v / 4096) 16 224 (by decide) (by decide)
  have h1 := toNat_ofNat_mod_add (v / 64) 64 128 (by decide) (by decide)
  have h2 := toNat_ofNat_mod_add v 64 128 (by decide) (by decide)
  -- the second byte rules out overlong forms after `E0` and surrogates after `ED`
  rw [List.cons_append, List.cons_append, List.singleton_append,
    decodeChars_three _ _ _ _ (by omega) (by rw [secondFits_iff]; omega)
      (by rw [isContinuation_iff]; omega), char3, h0, h1, h2]
  congr 2
  omega

/-- The four-byte form of a code point `U+10000`–`U+10FFFF` decodes to it. -/
lemma decodeChars_fourByteForm (v : Nat) (rest : Bytes) (hlo : 0xFFFF < v) (hhi : v < 0x110000) :
    decodeChars ([UInt8.ofNat (v / 262144 % 8 + 240), UInt8.ofNat (v / 4096 % 64 + 128),
      UInt8.ofNat (v / 64 % 64 + 128), UInt8.ofNat (v % 64 + 128)] ++ rest) =
      Char.ofNat v :: decodeChars rest := by
  have h0 := toNat_ofNat_mod_add (v / 262144) 8 240 (by decide) (by decide)
  have h1 := toNat_ofNat_mod_add (v / 4096) 64 128 (by decide) (by decide)
  have h2 := toNat_ofNat_mod_add (v / 64) 64 128 (by decide) (by decide)
  have h3 := toNat_ofNat_mod_add v 64 128 (by decide) (by decide)
  -- after `F0` and `F4` the second byte keeps the code point in the planes above the first
  rw [List.cons_append, List.cons_append, List.cons_append, List.singleton_append,
    decodeChars_four _ _ _ _ _ (by omega) (by rw [secondFits_iff]; omega)
      (by rw [isContinuation_iff]; omega) (by rw [isContinuation_iff]; omega), char4,
    h0, h1, h2, h3]
  congr 2
  omega

/-- The bytes of a character decode to that character, and decoding goes on right after them. -/
theorem decodeChars_utf8EncodeChar_append (c : Char) (rest : Bytes) :
    decodeChars (String.utf8EncodeChar c ++ rest) = c :: decodeChars rest := by
  -- a code point is below the surrogates or between them and U+10FFFF
  have hv : c.toNat < 0xD800 ∨ (0xDFFF < c.toNat ∧ c.toNat < 0x110000) := c.valid
  have hc : c.val.toNat = c.toNat := rfl
  conv_rhs => rw [← Char.ofNat_toNat c]
  simp only [String.utf8EncodeChar, hc]
  -- one case for each length of the written form
  split
  · exact decodeChars_oneByteForm _ rest (by omega)
  · split
    · exact decodeChars_twoByteForm _ rest (by omega) (by omega)
    · split
      · exact decodeChars_threeByteForm _ rest (by omega) (by omega) (by omega)
      · exact decodeChars_fourByteForm _ rest (by omega) (by omega)

/-- The bytes of a list of characters decode to those characters. -/
theorem decodeChars_flatMap_append (cs : List Char) (rest : Bytes) :
    decodeChars (cs.flatMap String.utf8EncodeChar ++ rest) = cs ++ decodeChars rest := by
  induction cs with
  | nil => rfl
  | cons c cs ih =>
    rw [List.flatMap_cons, List.append_assoc, decodeChars_utf8EncodeChar_append, ih,
      List.cons_append]

/-- Decoding the bytes of a string gives its characters back. -/
@[simp] theorem decodeChars_encode (s : String) : decodeChars (encode s) = s.toList := by
  have h := decodeChars_flatMap_append s.toList []
  rwa [List.append_nil, decodeChars, List.append_nil] at h

/-- Lossy decoding is exact on the bytes of a string. -/
@[simp] theorem decodeLossy_encode (s : String) : decodeLossy (encode s) = s := by
  rw [decodeLossy, decodeChars_encode, String.ofList_toList]

end StoredDocs.Utf8
