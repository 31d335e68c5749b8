import Mathlib
import StoredDocs.Proofs.Codec.RoundTrip

/-!
# Decoded columns written again

Decoding reads any stored bytes: a binary value keeps its payload whole, and a text value is
decoded lossily and split at the delimiter, empty tokens dropped, unless it holds no delimiter.
So the fields of a decoded column can always be written again, with `encodeFields`: the payload
of a lone binary field under the binary tag, and otherwise the text values joined by the text
encoder, which accepts them. What is written decodes to the same fields.

It is the value that was read exactly when that value is one the encoders write (`Encoded`): a
binary value, or the UTF-8 of a text, under the text tag, whose tokens between delimiters are one
token or all non-empty. Invalid UTF-8, which decoding replaces, and empty tokens beside others,
which it drops, are written otherwise.

The main statement is `encodeFields_of_decodeColumn`.
-/

namespace StoredDocs.Codec

/-! ### Tokens between delimiters -/

lemma splitOn_ne_nil (d : Char) (l : List Char) : splitOn d l ≠ [] := by
  cases l with
  | nil => simp [splitOn]
  | cons c cs =>
    rw [splitOn]
    split
    · simp
    · split <;> simp

/-- No token holds the delimiter. -/
lemma not_mem_of_mem_splitOn {d : Char} {l t : List Char} (ht : t ∈ splitOn d l) : d ∉ t := by
  induction l generalizing t with
  | nil => simp_all [splitOn]
  | cons c cs ih =>
    rw [splitOn] at ht
    split at ht
    · rcases List.mem_cons.1 ht with rfl | ht
      · simp
      · exact ih ht
    · next hc =>
      split at ht
      · next hnil => exact absurd hnil (splitOn_ne_nil d cs)
      · next t' ts hsplit =>
        rcases List.mem_cons.1 ht with rfl | ht
        · have : d ∉ t' := ih (by rw [hsplit]; exact List.mem_cons_self)
          simp only [List.mem_cons, not_or]
          exact ⟨Ne.symm hc, this⟩
        · exact ih (by rw [hsplit]; exact List.mem_cons_of_mem t' ht)

/-- Joining the tokens with the delimiter gives the text back. -/
lemma intercalate_splitOn (d : Char) (l : List Char) : [d].intercalate (splitOn d l) = l := by
  induction l with
  | nil => simp [splitOn]
  | cons c cs ih =>
    rw [splitOn]
    split
    · next hc =>
      subst hc
      obtain ⟨t, ts, hsplit⟩ := List.exists_cons_of_ne_nil (splitOn_ne_nil c cs)
      rw [hsplit] at ih ⊢
      rw [List.intercalate_cons_cons, List.nil_append, ih]
      simp
    · split
      · next hnil => exact absurd hnil (splitOn_ne_nil d cs)
      · next t ts hsplit =>
        rw [hsplit] at ih
        cases ts with
        | nil => simpa using ih
        | cons t' ts => rw [List.intercalate_cons_cons] at ih ⊢; simp [← ih]

/-- A text holding the delimiter has at least two tokens. -/
lemma one_lt_length_splitOn {d : Char} {l : List Char} (h : d ∈ l) :
    1 < (splitOn d l).length := by
  by_contra hle
  obtain ⟨t, ht⟩ : ∃ t, splitOn d l = [t] := by
    match hs : splitOn d l, splitOn_ne_nil d l with
    | [t], _ => exact ⟨t, rfl⟩
    | _ :: _ :: _, _ => rw [hs] at hle; simp at hle
  have hl : t = l := by simpa [ht] using intercalate_splitOn d l
  exact not_mem_of_mem_splitOn (by rw [ht]; exact List.mem_cons_self) (by rw [hl]; exact h)

/-! ### The values a text payload decodes to -/

/-- The tokens of a decoded text that become fields: the non-empty tokens between delimiters,
or the whole text when it holds no delimiter. -/
def textTokens (cs : List Char) : List (List Char) :=
  if delimiter ∈ cs then (splitOn delimiter cs).filter (· ≠ []) else [cs]

lemma textFields_eq (name : String) (cs : List Char) :
    textFields name cs = (textTokens cs).map fun t => ⟨name, .text (String.ofList t)⟩ := by
  unfold textFields textTokens
  split <;> rfl

lemma not_mem_of_mem_textTokens {cs t : List Char} (ht : t ∈ textTokens cs) :
    delimiter ∉ t := by
  unfold textTokens at ht
  split at ht
  · exact not_mem_of_mem_splitOn (List.mem_of_mem_filter ht)
  · next hd =>
    rw [List.mem_singleton] at ht
    exact ht ▸ hd

/-- The tokens are one, or none of them is empty. -/
lemma textTokens_single_or_nonempty (cs : List Char) :
    (textTokens cs).length = 1 ∨ ∀ t ∈ textTokens cs, t ≠ [] := by
  unfold textTokens
  split
  · exact Or.inr fun t ht => by simpa using (List.mem_filter.1 ht).2
  · exact Or.inl rfl

/-- A text whose tokens are one or all non-empty is the join of the tokens that become fields. -/
lemma intercalate_textTokens {cs : List Char}
    (h : (splitOn delimiter cs).length = 1 ∨ ∀ t ∈ splitOn delimiter cs, t ≠ []) :
    [delimiter].intercalate (textTokens cs) = cs := by
  unfold textTokens
  split
  · next hd =>
    -- with a delimiter there are two tokens or more, so none is empty and none is dropped
    have hall : ∀ t ∈ splitOn delimiter cs, t ≠ [] := by
      rcases h with h | h
      · exact absurd h (by have := one_lt_length_splitOn hd; omega)
      · exact h
    rw [List.filter_eq_self.2 (fun t ht => by simpa using hall t ht), intercalate_splitOn]
  · simp

/-! ### Writing decoded fields -/

/-- The column value that stores decoded fields again: a lone binary field's payload under the
binary tag, and otherwise the text values joined by the text encoder. -/
def encodeFields : List StoredField → Except Error Bytes
  | [⟨_, .binary b⟩] => pure (encodeBinary b)
  | fs => encodeText (fs.filterMap fun f => f.value.asText?)

/-- The column values the encoders write: a payload under the binary tag, or the UTF-8 of a
text under the text tag whose tokens between delimiters are one token or all non-empty. -/
def Encoded (v : Bytes) : Prop :=
  (∃ p, v = p ++ [binaryTag]) ∨
    ∃ s : String, v = Utf8.encode s ++ [textTag] ∧
      ((splitOn delimiter s.toList).length = 1 ∨ ∀ t ∈ splitOn delimiter s.toList, t ≠ [])

lemma splitLast?_eq_some {bs p : Bytes} {b : UInt8} (h : Bytes.splitLast? bs = some (p, b)) :
    bs = p ++ [b] := by
  unfold Bytes.splitLast? at h
  split at h
  · cases h
  · next b' rest hrev =>
    simp only [Option.some.injEq, Prod.mk.injEq] at h
    obtain ⟨rfl, rfl⟩ := h
    rw [← List.reverse_reverse bs, hrev, List.reverse_cons]

/-- A column decodes as binary, to its payload, or as text, to the fields of its payload. -/
lemma decodeColumn_eq_ok {name v : Bytes} {fs : List StoredField}
    (h : decodeColumn name v = .ok fs) :
    (∃ p, v = p ++ [binaryTag] ∧ fs = [⟨Utf8.decodeLossy name, .binary p⟩]) ∨
      ∃ p, v = p ++ [textTag] ∧
        fs = textFields (Utf8.decodeLossy name) (Utf8.decodeChars p) := by
  unfold decodeColumn at h
  split at h
  · cases h
  · next p tag hsplit =>
    have hv := splitLast?_eq_some hsplit
    split at h
    · next htag =>
      cases h
      exact Or.inl ⟨p, htag ▸ hv, rfl⟩
    · split at h
      · next htag =>
        cases h
        exact Or.inr ⟨p, htag ▸ hv, rfl⟩
      · cases h

/-- The text values of decoded text fields are their tokens. -/
lemma filterMap_asText_textFields (name : String) (cs : List Char) :
    (textFields name cs).filterMap (fun f => f.value.asText?) =
      (textTokens cs).map String.ofList := by
  simp [textFields_eq, List.filterMap_map, FieldValue.asText?]

/-- Decoded text fields are never a lone binary field, so they go to the text encoder. -/
lemma encodeFields_textFields (name : String) (cs : List Char) :
    encodeFields (textFields name cs) = encodeText ((textTokens cs).map String.ofList) := by
  rw [← filterMap_asText_textFields name]
  unfold encodeFields
  split
  · next hbin =>
    rw [textFields_eq] at hbin
    obtain ⟨t, -, ht⟩ := List.map_eq_singleton_iff.1 hbin
    simp at ht
  · rfl

/-- A value under the text tag is one the encoders write exactly when it is the UTF-8 of a text
whose tokens are one or all non-empty. -/
lemma encoded_append_textTag (p : Bytes) :
    Encoded (p ++ [textTag]) ↔ ∃ s : String, p = Utf8.encode s ∧
      ((splitOn delimiter s.toList).length = 1 ∨ ∀ t ∈ splitOn delimiter s.toList, t ≠ []) := by
  have htag : textTag ≠ binaryTag := by decide
  unfold Encoded
  constructor
  · rintro (⟨q, hq⟩ | ⟨s, hs, hsplit⟩)
    · exact absurd (List.append_inj' hq rfl).2 (by simpa using htag)
    · exact ⟨s, (List.append_inj' hs rfl).1, hsplit⟩
  · rintro ⟨s, rfl, hs⟩
    exact Or.inr ⟨s, rfl, hs⟩

/-- The tokens of a decoded text, written by the text encoder, decode to the same fields; and
they are written as the payload exactly when the payload is the UTF-8 of a text whose tokens are
one or all non-empty. -/
lemma encodeText_textTokens (name p : Bytes) (hne : textTokens (Utf8.decodeChars p) ≠ []) :
    ∃ e, encodeText ((textTokens (Utf8.decodeChars p)).map String.ofList) = .ok e ∧
      decodeColumn name e =
        .ok (textFields (Utf8.decodeLossy name) (Utf8.decodeChars p)) ∧
      (e = p ++ [textTag] ↔ ∃ s : String, p = Utf8.encode s ∧
        ((splitOn delimiter s.toList).length = 1 ∨
          ∀ t ∈ splitOn delimiter s.toList, t ≠ [])) := by
  set T := textTokens (Utf8.decodeChars p) with hT
  set vs := T.map String.ofList
  have hvs : vs.map String.toList = T := by simp [vs, Function.comp_def]
  -- the encoder's conditions, read off the tokens
  have hne' : vs ≠ [] := by simpa [vs] using hne
  have hd : ∀ v ∈ vs, delimiter ∉ v.toList := by
    intro v hv
    obtain ⟨t, ht, rfl⟩ := List.mem_map.1 hv
    simpa using not_mem_of_mem_textTokens ht
  have hlen : vs.length = 1 ∨ ∀ v ∈ vs, v ≠ "" := by
    rcases textTokens_single_or_nonempty (Utf8.decodeChars p) with h | h
    · exact Or.inl (by simpa [vs] using h)
    · refine Or.inr fun v hv => ?_
      obtain ⟨t, ht, rfl⟩ := List.mem_map.1 hv
      intro hempty
      exact h t ht (by simpa using congrArg String.toList hempty)
  have hok :
      vs ≠ [] ∧ ∀ v ∈ vs, delimiter ∉ v.toList ∧ (v = "" → vs.length ≤ 1) := by
    refine ⟨hne', fun v hv => ⟨hd v hv, fun hempty => ?_⟩⟩
    rcases hlen with h | h
    · omega
    · exact absurd hempty (h v hv)
  refine ⟨_, (encodeText_eq_ok_iff vs _).2 ⟨hok, rfl⟩, ?_, ?_⟩
  · rw [decodeColumn_text, decodeChars_intercalate_encode, textFields_intercalate _ hne' hd hlen,
      textFields_eq]
    simp [vs, Function.comp_def, hT]
  · -- the written payload is the UTF-8 of the tokens joined by the delimiter
    rw [List.append_left_inj, intercalate_map_encode, hvs]
    constructor
    · intro hp
      refine ⟨String.ofList ([delimiter].intercalate T), ?_, ?_⟩
      · rw [← hp, Utf8.encode, String.toList_ofList]
      · rw [String.toList_ofList, splitOn_intercalate hne
          (fun t ht => not_mem_of_mem_textTokens ht)]
        exact textTokens_single_or_nonempty _
    · rintro ⟨s, rfl, hs⟩
      rw [hT, Utf8.decodeChars_encode, intercalate_textTokens hs]
      rfl

/-- Every column that decodes to some fields can be written again: `encodeFields` accepts the
fields, and what it writes decodes, under the same name, to the same fields. It is the bytes
that were read exactly when they are a value the encoders write: a binary value, or the UTF-8 of
a text under the text tag whose tokens between delimiters are one token or all non-empty. -/
theorem encodeFields_of_decodeColumn (name v : Bytes) (fs : List StoredField)
    (h : decodeColumn name v = .ok fs) (hne : fs ≠ []) :
    ∃ e, encodeFields fs = .ok e ∧ decodeColumn name e = .ok fs ∧ (e = v ↔ Encoded v) := by
  rcases decodeColumn_eq_ok h with ⟨p, rfl, rfl⟩ | ⟨p, rfl, rfl⟩
  · -- a binary value is written back as it was, and the encoders write it
    refine ⟨encodeBinary p, rfl, h, iff_of_true rfl (Or.inl ⟨p, rfl⟩)⟩
  · have hT : textTokens (Utf8.decodeChars p) ≠ [] := by
      rw [textFields_eq] at hne
      simpa using hne
    obtain ⟨e, he, hdec, hiff⟩ := encodeText_textTokens name p hT
    rw [encodeFields_textFields]
    exact ⟨e, he, hdec, hiff.trans (encoded_append_textTag p).symm⟩

/-- A text value with empty tokens around and between its values decodes to those values, and
is written again without the empty tokens. -/
theorem encodeFields_of_decodeColumn_empty_tokens :
    decodeColumn [0x74] [0xEF, 0xBF, 0xBF, 0x61, 0xEF, 0xBF, 0xBF, 0xEF, 0xBF, 0xBF, 0x62, 0xEF,
        0xBF, 0xBF, 0x80] = .ok [⟨"t", .text "a"⟩, ⟨"t", .text "b"⟩] ∧
      [⟨"t", .text "a"⟩, ⟨"t", .text "b"⟩] ≠ ([] : List StoredField) ∧
      ∃ e, encodeFields [⟨"t", .text "a"⟩, ⟨"t", .text "b"⟩] = .ok e ∧
        decodeColumn [0x74] e = .ok [⟨"t", .text "a"⟩, ⟨"t", .text "b"⟩] ∧
        (e = [0xEF, 0xBF, 0xBF, 0x61, 0xEF, 0xBF, 0xBF, 0xEF, 0xBF, 0xBF, 0x62, 0xEF, 0xBF, 0xBF,
          0x80] ↔ Encoded [0xEF, 0xBF, 0xBF, 0x61, 0xEF, 0xBF, 0xBF, 0xEF, 0xBF, 0xBF, 0x62, 0xEF,
            0xBF, 0xBF, 0x80]) :=
  have h : decodeColumn [0x74] [0xEF, 0xBF, 0xBF, 0x61, 0xEF, 0xBF, 0xBF, 0xEF, 0xBF, 0xBF, 0x62,
      0xEF, 0xBF, 0xBF, 0x80] = .ok [⟨"t", .text "a"⟩, ⟨"t", .text "b"⟩] := by decide
  ⟨h, by simp, encodeFields_of_decodeColumn _ _ _ h (by simp)⟩

end StoredDocs.Codec
