import Mathlib
import StoredDocs.Cli.HexText
import StoredDocs.Proofs.Text.Hex
import StoredDocs.Proofs.Text.Utf8

/-!
# Hexadecimal input read back

Hexadecimal input is read, after blanks at its ends and one leading `0x` are dropped, two bytes
at a time; each pair must stand at character boundaries and is read as a number of one byte in
radix sixteen. Such a number may carry a plus sign, so a pair is two hexadecimal digits, high
first, or a plus sign and one digit: `+f` reads as `0f`. Every other pair, and an odd number of
bytes, is refused.

The main statement, `readHex_eq_ok_iff_pairs`, says that reading succeeds exactly when the
text's characters read as bytes pair by pair that way (`pairsToBytes?`). Hence text of
hexadecimal digits alone reads as the bytes its pairs stand for, and in particular the digits
written for some bytes read back as those bytes; but so do texts with plus signs, which are not
hexadecimal digits (`readHex_accepts_plus_sign`).

The proof follows the reader over the UTF-8 bytes of the text: a pair of two ASCII characters
is read as those characters, and a pair that starts or ends inside a character of more than one
byte is refused, either at the boundary check or because no such character is a digit.
-/

namespace StoredDocs.Cli

/-! ### Digits in radix sixteen -/

/-- The hexadecimal digits by code point. -/
lemma digitValue?_eq_toNat (c : Char) :
    Hex.digitValue? c =
      if 48 ≤ c.toNat ∧ c.toNat ≤ 57 then some (c.toNat - 48)
      else if 97 ≤ c.toNat ∧ c.toNat ≤ 102 then some (c.toNat - 87)
      else if 65 ≤ c.toNat ∧ c.toNat ≤ 70 then some (c.toNat - 55)
      else none := by
  have hle : ∀ a b : Char, a ≤ b ↔ a.toNat ≤ b.toNat := fun _ _ => Iff.rfl
  unfold Hex.digitValue?
  simp only [hle, show ('0' : Char).toNat = 48 from rfl, show ('9' : Char).toNat = 57 from rfl,
    show ('a' : Char).toNat = 97 from rfl, show ('f' : Char).toNat = 102 from rfl,
    show ('A' : Char).toNat = 65 from rfl, show ('F' : Char).toNat = 70 from rfl]

/-- The digits of radix sixteen are the hexadecimal digits, of either case. -/
lemma digit?_sixteen (c : Char) : Integer.digit? 16 c = Hex.digitValue? c := by
  rw [digitValue?_eq_toNat]
  unfold Integer.digit?
  -- both sides read the code point alone: split it by the class of digit it is in radix 36
  generalize c.toNat = n
  by_cases hdec : 48 ≤ n ∧ n ≤ 57
  · have hlt : n - 48 < 16 := by omega
    simp [hdec, hlt, Option.filter]
  by_cases hlow : 97 ≤ n ∧ n ≤ 122
  · -- a lowercase letter is a digit of radix sixteen up to `f`
    have hf : n - 87 < 16 ↔ n ≤ 102 := by omega
    have hup : ¬(65 ≤ n ∧ n ≤ 70) := by omega
    simp [hdec, hlow, hf, hup, Option.filter]
  by_cases hup : 65 ≤ n ∧ n ≤ 90
  · -- an uppercase letter is a digit of radix sixteen up to `F`
    have hf : n - 55 < 16 ↔ n ≤ 70 := by omega
    have hlow' : ¬(97 ≤ n ∧ n ≤ 102) := by omega
    simp [hdec, hlow, hup, hf, hlow', Option.filter]
  · have hlow' : ¬(97 ≤ n ∧ n ≤ 102) := by omega
    have hup' : ¬(65 ≤ n ∧ n ≤ 70) := by omega
    simp [hdec, hlow, hup, hlow', hup', Option.filter]

/-- A hexadecimal digit is an ASCII character with a value below sixteen. -/
lemma digitValue?_eq_some {c : Char} {n : Nat} (h : Hex.digitValue? c = some n) :
    n < 16 ∧ c.toNat < 128 := by
  rw [digitValue?_eq_toNat] at h
  split_ifs at h <;> simp at h <;> omega

lemma digitValue?_of_le {c : Char} (h : 128 ≤ c.toNat) : Hex.digitValue? c = none := by
  cases hc : Hex.digitValue? c with
  | none => rfl
  | some n => exact absurd (digitValue?_eq_some hc).2 (by omega)

/-! ### Pairs of characters -/

/-- The byte value of two characters as hexadecimal input reads them: two digits, high first,
or a plus sign and one digit. -/
def pairValue? (hi lo : Char) : Option Nat :=
  if hi = '+' then Hex.digitValue? lo
  else do
    let h ← Hex.digitValue? hi
    let l ← Hex.digitValue? lo
    pure (16 * h + l)

/-- Reads characters two at a time as bytes; `none` for an odd count or a pair that is no
byte. -/
def pairsToBytes? : List Char → Option Bytes
  | [] => some []
  | [_] => none
  | hi :: lo :: rest => do
    let v ← pairValue? hi lo
    let tail ← pairsToBytes? rest
    pure (v.toUInt8 :: tail)

/-- The characters that hexadecimal input reads: the text without blanks at its ends and
without one leading `0x`. -/
def hexBody (text : String) : List Char :=
  match Blank.trim text.toList with
  | '0' :: 'x' :: rest => rest
  | cs => cs

lemma pairValue?_eq_some {hi lo : Char} {n : Nat} (h : pairValue? hi lo = some n) :
    n < 256 ∧ hi.toNat < 128 ∧ lo.toNat < 128 := by
  unfold pairValue? at h
  split at h
  · next hplus =>
    obtain ⟨hn, hlo⟩ := digitValue?_eq_some h
    exact ⟨by omega, by rw [hplus]; decide, hlo⟩
  · simp only [Option.bind_eq_bind, Option.bind_eq_some_iff, Option.pure_def,
      Option.some.injEq] at h
    obtain ⟨a, ha, b, hb, rfl⟩ := h
    obtain ⟨ha, hhi⟩ := digitValue?_eq_some ha
    obtain ⟨hb, hlo⟩ := digitValue?_eq_some hb
    exact ⟨by omega, hhi, hlo⟩

/-- A pair with a character outside ASCII is no byte. -/
lemma pairValue?_of_le {hi lo : Char} (h : 128 ≤ hi.toNat ∨ 128 ≤ lo.toNat) :
    pairValue? hi lo = none := by
  cases hv : pairValue? hi lo with
  | none => rfl
  | some n =>
    obtain ⟨-, hhi, hlo⟩ := pairValue?_eq_some hv
    omega

lemma pairsToBytes?_cons_cons (hi lo : Char) (rest : List Char) (b : Bytes) :
    pairsToBytes? (hi :: lo :: rest) = some b ↔
      ∃ n tail, pairValue? hi lo = some n ∧ pairsToBytes? rest = some tail ∧
        b = n.toUInt8 :: tail := by
  simp only [pairsToBytes?, Option.bind_eq_bind, Option.bind_eq_some_iff, Option.pure_def,
    Option.some.injEq]
  constructor
  · rintro ⟨n, hn, tail, htail, rfl⟩
    exact ⟨n, tail, hn, htail, rfl⟩
  · rintro ⟨n, tail, hn, htail, rfl⟩
    exact ⟨n, hn, tail, htail, rfl⟩

/-- Characters that read as bytes are ASCII, and an even number of them. -/
lemma pairsToBytes?_ascii {t : List Char} {b : Bytes} (h : pairsToBytes? t = some b) :
    (∀ c ∈ t, c.toNat < 128) ∧ t.length % 2 = 0 := by
  induction t using pairsToBytes?.induct generalizing b with
  | case1 => simp
  | case2 c => simp [pairsToBytes?] at h
  | case3 hi lo rest ih =>
    obtain ⟨n, tail, hn, htail, -⟩ := (pairsToBytes?_cons_cons hi lo rest b).1 h
    obtain ⟨-, hhi, hlo⟩ := pairValue?_eq_some hn
    obtain ⟨hrest, hlen⟩ := ih htail
    refine ⟨?_, by simp only [List.length_cons]; omega⟩
    intro c hc
    rcases List.mem_cons.1 hc with rfl | hc
    · exact hhi
    · rcases List.mem_cons.1 hc with rfl | hc
      · exact hlo
      · exact hrest c hc

/-! ### Reading numbers of one byte -/

/-- Without a leading sign, a text is read as its digits. -/
lemma read_of_unsigned {c : Char} (hplus : c ≠ '+') (hminus : c ≠ '-') (radix : Nat) (min : Int)
    (max : Nat) (cs : List Char) :
    Integer.read radix min max (c :: cs) =
      (do pure (← Integer.digits radix false max 0 (c :: cs) : Int)) := by
  unfold Integer.read
  split <;> simp_all

/-- One digit is read as its value. -/
lemma digits_singleton (c : Char) (v : Int) :
    (do pure (← Integer.digits 16 false 255 0 [c] : Int)) =
        (.ok v : Except Integer.Refusal Int) ↔
      ∃ d, Hex.digitValue? c = some d ∧ v = d := by
  cases hd : Hex.digitValue? c with
  | none => simp [Integer.digits, digit?_sixteen, hd, bind, Except.bind, throw, throwThe,
      MonadExceptOf.throw]
  | some d =>
    have hd16 := (digitValue?_eq_some hd).1
    simp [Integer.digits, digit?_sixteen, hd, bind, Except.bind, pure, Except.pure,
      show ¬(d > 255) by omega, eq_comm]

/-- Two digits are read as the number they write, high first. -/
lemma digits_pair (c c' : Char) (v : Int) :
    (do pure (← Integer.digits 16 false 255 0 [c, c'] : Int)) =
        (.ok v : Except Integer.Refusal Int) ↔
      ∃ h l, Hex.digitValue? c = some h ∧ Hex.digitValue? c' = some l ∧ v = 16 * h + l := by
  cases hh : Hex.digitValue? c with
  | none => simp [Integer.digits, digit?_sixteen, hh, bind, Except.bind, throw, throwThe,
      MonadExceptOf.throw]
  | some h =>
    have hh16 := (digitValue?_eq_some hh).1
    cases hl : Hex.digitValue? c' with
    | none => simp [Integer.digits, digit?_sixteen, hh, hl, bind, Except.bind, throw, throwThe,
        MonadExceptOf.throw, show ¬(h > 255) by omega]
    | some l =>
      have hl16 := (digitValue?_eq_some hl).1
      simp [Integer.digits, digit?_sixteen, hh, hl, bind, Except.bind, pure, Except.pure,
        show ¬(h > 255) by omega, show ¬(h * 16 + l > 255) by omega, eq_comm, Int.mul_comm]

/-- Two characters read as a number of one byte exactly when they are a pair of hexadecimal
input, with its value. -/
lemma read_pair (c c' : Char) (v : Int) :
    Integer.read 16 0 255 [c, c'] = .ok v ↔ ∃ n, pairValue? c c' = some n ∧ v = n := by
  by_cases hplus : c = '+'
  · -- the sign is dropped and one digit is read
    subst hplus
    have hread : Integer.read 16 0 255 ['+', c'] =
        (do pure (← Integer.digits 16 false 255 0 [c'] : Int)) := rfl
    rw [hread, digits_singleton]
    simp [pairValue?]
  · have hdigits : (∃ h l, Hex.digitValue? c = some h ∧ Hex.digitValue? c' = some l ∧
        v = 16 * h + l) ↔ ∃ n, pairValue? c c' = some n ∧ v = n := by
      simp [pairValue?, hplus, Option.bind_eq_bind, Option.bind_eq_some_iff]
    by_cases hminus : c = '-'
    · -- a minus sign is no digit of a number without negative values
      subst hminus
      have hread : Integer.read 16 0 255 ['-', c'] =
          (do pure (← Integer.digits 16 false 255 0 ['-', c'] : Int)) := rfl
      rw [hread, digits_pair, hdigits]
    · rw [read_of_unsigned hplus hminus, digits_pair, hdigits]

/-- A character outside ASCII alone is no number. -/
lemma read_single_ne {c : Char} (hc : 128 ≤ c.toNat) (v : Int) :
    Integer.read 16 0 255 [c] ≠ .ok v := by
  have hplus : c ≠ '+' := by rintro rfl; exact absurd hc (by decide)
  have hminus : c ≠ '-' := by rintro rfl; exact absurd hc (by decide)
  rw [read_of_unsigned hplus hminus, ne_eq, digits_singleton]
  simp [digitValue?_of_le hc]

/-! ### The UTF-8 bytes of a character -/

/-- A byte below `0x80`, or from `0xC0` up, starts a character. -/
lemma startsCharacter_ofNat {n : Nat} (h : n < 128 ∨ 192 ≤ n) (h' : n < 256) :
    startsCharacter (UInt8.ofNat n) = true := by
  simp only [startsCharacter, Bool.not_eq_eq_eq_not, Bool.not_true]
  rw [← Bool.not_eq_true, Utf8.isContinuation_iff, UInt8.toNat_ofNat', Nat.mod_eq_of_lt h']
  omega

lemma isContinuation_ofNat {n : Nat} (h : 128 ≤ n) (h' : n < 192) :
    Utf8.isContinuation (UInt8.ofNat n) = true := by
  rw [Utf8.isContinuation_iff, UInt8.toNat_ofNat', Nat.mod_eq_of_lt (by omega)]
  omega

lemma utf8EncodeChar_of_lt {c : Char} (h : c.toNat < 128) :
    String.utf8EncodeChar c = [UInt8.ofNat c.toNat] := by
  have h' : c.toNat ≤ 127 := by omega
  simp [String.utf8EncodeChar, h']

/-- A character outside ASCII is written as a byte that starts a character, then continuation
bytes: one, or two and more. -/
lemma utf8EncodeChar_of_le {c : Char} (h : 128 ≤ c.toNat) :
    ∃ b0 b1 rest, String.utf8EncodeChar c = b0 :: b1 :: rest ∧ startsCharacter b0 = true ∧
      Utf8.isContinuation b1 = true ∧
      (rest = [] ∨ ∃ b2 rest', rest = b2 :: rest' ∧ Utf8.isContinuation b2 = true) := by
  have hc : c.val.toNat = c.toNat := rfl
  simp only [String.utf8EncodeChar, hc]
  split
  · omega
  · split
    · exact ⟨_, _, [], rfl, startsCharacter_ofNat (by omega) (by omega),
        isContinuation_ofNat (by omega) (by omega), Or.inl rfl⟩
    · split
      · exact ⟨_, _, _, rfl, startsCharacter_ofNat (by omega) (by omega),
          isContinuation_ofNat (by omega) (by omega),
          Or.inr ⟨_, [], rfl, isContinuation_ofNat (by omega) (by omega)⟩⟩
      · exact ⟨_, _, _, rfl, startsCharacter_ofNat (by omega) (by omega),
          isContinuation_ofNat (by omega) (by omega),
          Or.inr ⟨_, _, rfl, isContinuation_ofNat (by omega) (by omega)⟩⟩

/-- The bytes of a text start a character, when there are any. -/
lemma startsCharacter_of_flatMap {t : List Char} {b : UInt8} {rest : Bytes}
    (h : t.flatMap String.utf8EncodeChar = b :: rest) : startsCharacter b = true := by
  cases t with
  | nil => cases h
  | cons c cs =>
    rw [List.flatMap_cons] at h
    by_cases hc : c.toNat < 128
    · rw [utf8EncodeChar_of_lt hc, List.singleton_append, List.cons.injEq] at h
      rw [← h.1]
      exact startsCharacter_ofNat (Or.inl hc) (by omega)
    · obtain ⟨b0, b1, r, henc, hstart, -, -⟩ := utf8EncodeChar_of_le (Nat.le_of_not_lt hc)
      rw [henc, List.cons_append, List.cons.injEq] at h
      exact h.1 ▸ hstart

/-! ### Reading pairs of bytes -/

/-- A pair of bytes is read when it starts a character, the bytes after it start one too, and
its characters read as a number of one byte. -/
lemma readPairs_cons_cons (o : Nat) (b0 b1 : UInt8) (rest b : Bytes) :
    readPairs o (b0 :: b1 :: rest) = .ok b ↔
      startsCharacter b0 = true ∧ (∀ b2 r, rest = b2 :: r → startsCharacter b2 = true) ∧
      ∃ v tail, Integer.read 16 0 255 (Utf8.decodeChars [b0, b1]) = .ok v ∧
        readPairs (o + 2) rest = .ok tail ∧ v.toNat.toUInt8 :: tail = b := by
  -- split on the two boundary checks, the number read and the rest read
  cases rest with
  | nil =>
    rw [readPairs.eq_1]
    cases startsCharacter b0 <;> cases hr : Integer.read 16 0 255 (Utf8.decodeChars [b0, b1]) <;>
      simp [hr, Utf8.decodeLossy, String.toList_ofList, throw, throwThe, MonadExceptOf.throw,
        bind, Except.bind, pure, Except.pure, readPairs.eq_3]
  | cons b2 r =>
    rw [readPairs.eq_2]
    by_cases h0 : startsCharacter b0 = true <;> by_cases h2 : startsCharacter b2 = true <;>
      cases hr : Integer.read 16 0 255 (Utf8.decodeChars [b0, b1]) <;>
      cases readPairs (o + 2) (b2 :: r) <;>
      simp [h0, h2, hr, Utf8.decodeLossy, String.toList_ofList, throw, throwThe,
        MonadExceptOf.throw, bind, Except.bind, pure, Except.pure]

/-- A pair that starts with a character outside ASCII is never read: either the character's
bytes are the pair and it is no digit, or the pair ends inside it. -/
lemma readPairs_utf8EncodeChar_append_ne {c : Char} (hc : 128 ≤ c.toNat) (rest : Bytes)
    (o : Nat) (b : Bytes) :
    readPairs o (String.utf8EncodeChar c ++ rest) ≠ .ok b := by
  obtain ⟨b0, b1, r, henc, -, -, hr⟩ := utf8EncodeChar_of_le hc
  rw [henc]
  rcases hr with rfl | ⟨b2, r', rfl, hb2⟩
  · -- the pair is the whole character, which is no digit
    have hdec : Utf8.decodeChars [b0, b1] = [c] := by
      have := Utf8.decodeChars_utf8EncodeChar_append c []
      rwa [List.append_nil, henc, Utf8.decodeChars] at this
    intro h
    rw [List.cons_append, List.cons_append, List.nil_append, readPairs_cons_cons, hdec] at h
    obtain ⟨-, -, v, tail, hread, -⟩ := h
    exact read_single_ne hc v hread
  · -- the pair ends before a continuation byte
    intro h
    rw [List.cons_append, List.cons_append, List.cons_append, readPairs_cons_cons] at h
    have := h.2.1 b2 _ rfl
    simp [startsCharacter, hb2] at this

/-- A pair of two ASCII characters is read as those characters, when the bytes after it start a
character. -/
lemma readPairs_ascii_pair {hi lo : Char} (hhi : hi.toNat < 128) (hlo : lo.toNat < 128)
    (o : Nat) (rest b : Bytes) :
    readPairs o (UInt8.ofNat hi.toNat :: UInt8.ofNat lo.toNat :: rest) = .ok b ↔
      (∀ b2 r, rest = b2 :: r → startsCharacter b2 = true) ∧
      ∃ n tail, pairValue? hi lo = some n ∧ readPairs (o + 2) rest = .ok tail ∧
        b = n.toUInt8 :: tail := by
  have hdec : Utf8.decodeChars [UInt8.ofNat hi.toNat, UInt8.ofNat lo.toNat] = [hi, lo] := by
    have := Utf8.decodeChars_flatMap_append [hi, lo] []
    simpa [utf8EncodeChar_of_lt hhi, utf8EncodeChar_of_lt hlo, Utf8.decodeChars] using this
  rw [readPairs_cons_cons, hdec]
  simp only [startsCharacter_ofNat (Or.inl hhi) (by omega), true_and, read_pair]
  constructor
  · rintro ⟨hbound, v, tail, ⟨n, hn, rfl⟩, htail, rfl⟩
    exact ⟨hbound, n, tail, hn, htail, by simp⟩
  · rintro ⟨hbound, n, tail, hn, htail, rfl⟩
    exact ⟨hbound, n, tail, ⟨n, hn, rfl⟩, htail, by simp⟩

/-- The bytes of a text of even length are read exactly as its characters read pair by pair. -/
lemma readPairs_flatMap (t : List Char) (o : Nat) (b : Bytes)
    (heven : (t.flatMap String.utf8EncodeChar).length % 2 = 0) :
    readPairs o (t.flatMap String.utf8EncodeChar) = .ok b ↔ pairsToBytes? t = some b := by
  induction t using pairsToBytes?.induct generalizing o b with
  | case1 => simp [readPairs, pairsToBytes?, pure, Except.pure]
  | case2 c =>
    simp only [pairsToBytes?, reduceCtorEq, iff_false]
    by_cases hc : c.toNat < 128
    · simp [utf8EncodeChar_of_lt hc] at heven
    · simpa using readPairs_utf8EncodeChar_append_ne (Nat.le_of_not_lt hc) [] o b
  | case3 hi lo rest ih =>
    rw [pairsToBytes?_cons_cons, List.flatMap_cons, List.flatMap_cons]
    by_cases hhi : hi.toNat < 128
    · by_cases hlo : lo.toNat < 128
      · -- two ASCII characters: the pair is read as them
        have heven' : (rest.flatMap String.utf8EncodeChar).length % 2 = 0 := by
          simp only [List.flatMap_cons, utf8EncodeChar_of_lt hhi, utf8EncodeChar_of_lt hlo,
            List.length_append, List.length_singleton] at heven
          omega
        rw [utf8EncodeChar_of_lt hhi, utf8EncodeChar_of_lt hlo, List.singleton_append,
          List.singleton_append, readPairs_ascii_pair hhi hlo]
        constructor
        · rintro ⟨-, n, tail, hn, htail, rfl⟩
          exact ⟨n, tail, hn, (ih (o + 2) tail heven').1 htail, rfl⟩
        · rintro ⟨n, tail, hn, htail, rfl⟩
          exact ⟨fun _ _ h => startsCharacter_of_flatMap h, n, tail, hn,
            (ih (o + 2) tail heven').2 htail, rfl⟩
      · -- the pair ends inside the second character
        simp only [pairValue?_of_le (Or.inr (Nat.le_of_not_lt hlo)), reduceCtorEq, false_and,
          exists_false, iff_false]
        obtain ⟨b0, b1, r, henc, -, hcont, -⟩ := utf8EncodeChar_of_le (Nat.le_of_not_lt hlo)
        rw [utf8EncodeChar_of_lt hhi, henc, List.singleton_append, List.cons_append,
          List.cons_append, readPairs_cons_cons]
        rintro ⟨-, hbound, -⟩
        have := hbound b1 _ rfl
        simp [startsCharacter, hcont] at this
    · -- a first character outside ASCII is never read
      simp only [pairValue?_of_le (Or.inl (Nat.le_of_not_lt hhi)), reduceCtorEq, false_and,
        exists_false, iff_false]
      rw [← List.flatMap_cons]
      exact readPairs_utf8EncodeChar_append_ne (Nat.le_of_not_lt hhi) _ o b

/-! ### Reading hexadecimal text -/

lemma readHex_eq (text : String) :
    readHex text =
      if (Utf8.encode (String.ofList (hexBody text))).length % 2 != 0 then
        throw (.oddLength (Utf8.encode (String.ofList (hexBody text))).length)
      else readPairs 0 (Utf8.encode (String.ofList (hexBody text))) := rfl

lemma encode_ofList (t : List Char) :
    Utf8.encode (String.ofList t) = t.flatMap String.utf8EncodeChar := by
  rw [Utf8.encode, String.toList_ofList]

/-- The bytes of ASCII characters are as many as the characters. -/
lemma length_flatMap_ascii {t : List Char} (h : ∀ c ∈ t, c.toNat < 128) :
    (t.flatMap String.utf8EncodeChar).length = t.length := by
  induction t with
  | nil => rfl
  | cons c cs ih =>
    rw [List.flatMap_cons, List.length_append, utf8EncodeChar_of_lt (h c List.mem_cons_self),
      ih (fun x hx => h x (List.mem_cons_of_mem c hx))]
    simp only [List.length_cons, List.length_nil]
    omega

/-- A hexadecimal digit is no blank. -/
theorem isBlank_digit : ∀ n, n < 16 → Blank.isBlank (Hex.digit n) = false := by
  decide

/-- Nor is any hexadecimal digit an `x`, nor a plus sign. -/
theorem digit_ne_x_plus : ∀ n, n < 16 → Hex.digit n ≠ 'x' ∧ Hex.digit n ≠ '+' := by
  decide

lemma trim_of_forall_not_blank {cs : List Char} (h : ∀ c ∈ cs, Blank.isBlank c = false) :
    Blank.trim cs = cs := by
  have hdrop : ∀ l : List Char, (∀ c ∈ l, Blank.isBlank c = false) →
      l.dropWhile Blank.isBlank = l
    | [], _ => rfl
    | c :: _, hl => by simp [hl c List.mem_cons_self]
  unfold Blank.trim
  rw [hdrop cs h, hdrop cs.reverse (fun c hc => h c (List.mem_reverse.1 hc)), List.reverse_reverse]

/-- The digits written for some bytes are read as they are. -/
lemma hexBody_ofBytes (b : Bytes) : hexBody (Hex.ofBytes b) = b.flatMap Hex.ofByte := by
  have hdigits : ∀ c ∈ b.flatMap Hex.ofByte, ∃ n, n < 16 ∧ Hex.digit n = c := by
    intro c hc
    obtain ⟨x, -, hx⟩ := List.mem_flatMap.1 hc
    simp only [Hex.ofByte, List.mem_cons, List.not_mem_nil, or_false] at hx
    rcases hx with rfl | rfl
    · exact ⟨_, Nat.div_lt_of_lt_mul (by have := x.toNat_lt; omega), rfl⟩
    · exact ⟨_, Nat.mod_lt _ (by decide), rfl⟩
  have htrim : Blank.trim (Hex.ofBytes b).toList = b.flatMap Hex.ofByte := by
    rw [Hex.ofBytes, String.toList_ofList]
    apply trim_of_forall_not_blank
    intro c hc
    obtain ⟨n, hn, rfl⟩ := hdigits c hc
    exact isBlank_digit n hn
  unfold hexBody
  rw [htrim]
  split
  · next rest hmarked =>
    -- the second character is a digit, which is no `x`
    have hx : 'x' ∈ b.flatMap Hex.ofByte := by rw [hmarked]; simp
    obtain ⟨n, hn, hd⟩ := hdigits 'x' hx
    exact absurd hd (digit_ne_x_plus n hn).1
  · rfl

/-- Two written digits are read as the byte they were written for. -/
lemma pairsToBytes?_flatMap_ofByte (b : Bytes) : pairsToBytes? (b.flatMap Hex.ofByte) = some b := by
  induction b with
  | nil => rfl
  | cons x xs ih =>
    have hhi : x.toNat / 16 < 16 := Nat.div_lt_of_lt_mul (by have := x.toNat_lt; omega)
    have hlo : x.toNat % 16 < 16 := Nat.mod_lt _ (by decide)
    have hpair :
        pairValue? (Hex.digit (x.toNat / 16)) (Hex.digit (x.toNat % 16)) = some x.toNat := by
      rw [pairValue?, if_neg (digit_ne_x_plus _ hhi).2, Hex.digitValue?_digit _ hhi,
        Hex.digitValue?_digit _ hlo]
      simp only [Option.bind_eq_bind, Option.bind_some, Option.pure_def, Option.some.injEq]
      omega
    rw [List.flatMap_cons, Hex.ofByte, List.cons_append, List.cons_append, List.nil_append,
      pairsToBytes?_cons_cons]
    exact ⟨x.toNat, xs, hpair, ih, by simp⟩

/-- Characters that are hexadecimal digits alone read as the bytes their pairs stand for. -/
lemma pairsToBytes?_of_toBytes? {t : List Char} {b : Bytes} (h : Hex.toBytes? t = some b) :
    pairsToBytes? t = some b := by
  induction t using pairsToBytes?.induct generalizing b with
  | case1 =>
    simp only [Hex.toBytes?, Option.some.injEq] at h
    subst h
    rfl
  | case2 c => simp [Hex.toBytes?] at h
  | case3 hi lo rest ih =>
    simp only [Hex.toBytes?, Option.bind_eq_bind, Option.bind_eq_some_iff, Option.pure_def,
      Option.some.injEq] at h
    obtain ⟨a, ha, l, hl, tail, htail, rfl⟩ := h
    -- a digit is no plus sign, so the pair is read as two digits
    have hplus : hi ≠ '+' := by
      rintro rfl
      simp [Hex.digitValue?] at ha
    refine (pairsToBytes?_cons_cons hi lo rest _).2 ⟨16 * a + l, tail, ?_, ih htail, rfl⟩
    simp [pairValue?, hplus, ha, hl]

/-- Reading hexadecimal text succeeds exactly when its characters, after the blanks at its ends
and one leading `0x`, read as bytes pair by pair, each pair two hexadecimal digits or a plus sign
and one digit. So a text of hexadecimal digits alone is read as the bytes its pairs stand for,
and the digits written for any bytes are read back as them. -/
theorem readHex_eq_ok_iff_pairs (text : String) (b : Bytes) :
    (readHex text = .ok b ↔ pairsToBytes? (hexBody text) = some b) ∧
    (Hex.toBytes? (hexBody text) = some b → readHex text = .ok b) ∧
    readHex (Hex.ofBytes b) = .ok b := by
  have hread : ∀ text b, readHex text = .ok b ↔ pairsToBytes? (hexBody text) = some b := by
    intro text b
    rw [readHex_eq, encode_ofList]
    by_cases hodd : ((hexBody text).flatMap String.utf8EncodeChar).length % 2 = 0
    · rw [if_neg (by rw [bne_iff_ne, ne_eq, not_not]; exact hodd), readPairs_flatMap _ 0 b hodd]
    · -- an odd number of bytes is refused, and is no text of pairs
      rw [if_pos (by rw [bne_iff_ne]; exact hodd)]
      simp only [throw, throwThe, MonadExceptOf.throw, reduceCtorEq, false_iff]
      intro hpairs
      obtain ⟨hascii, heven⟩ := pairsToBytes?_ascii hpairs
      exact hodd (by rw [length_flatMap_ascii hascii]; exact heven)
  refine ⟨hread text b, fun h => (hread text b).2 (pairsToBytes?_of_toBytes? h), ?_⟩
  rw [hread, hexBody_ofBytes]
  exact pairsToBytes?_flatMap_ofByte b

/-- A plus sign and a digit are read as a byte, though they are not two hexadecimal digits. -/
theorem readHex_accepts_plus_sign :
    readHex "+f" = .ok [15] ∧ Hex.toBytes? (hexBody "+f") = none := by
  decide

end StoredDocs.Cli
