import Mathlib
import StoredDocs.Proofs.Text.Utf8
import StoredDocs.Codec

/-!
# Column values read back

Encoding a text field joins its values with the delimiter U+FFFF; decoding splits the payload
at the delimiter and drops empty tokens, but keeps a payload without a delimiter whole, even
an empty one. The encoder accepts exactly the lists that survive this: at least one value, no
value holding the delimiter, and no empty value beside another one.

The main statement, `decodeColumn_encode_round_trip`, says so: `encodeText` succeeds exactly
on those lists, fails otherwise with an invalid argument `values`, and what it writes decodes,
under any column name, to one text field per value, in order. A binary payload reads back
unchanged whatever bytes it holds.
-/

namespace StoredDocs.Codec

/-! ### Splitting at the delimiter -/

lemma splitOn_of_not_mem {d : Char} {l : List Char} (h : d ∉ l) : splitOn d l = [l] := by
  induction l with
  | nil => rfl
  | cons c cs ih =>
    have hc : c ≠ d := fun hcd => h (hcd ▸ List.mem_cons_self)
    rw [splitOn, if_neg hc, ih (fun hd => h (List.mem_cons_of_mem c hd))]

lemma splitOn_append_cons {d : Char} {l : List Char} (h : d ∉ l) (r : List Char) :
    splitOn d (l ++ d :: r) = l :: splitOn d r := by
  induction l with
  | nil => simp [splitOn]
  | cons c cs ih =>
    have hc : c ≠ d := fun hcd => h (hcd ▸ List.mem_cons_self)
    rw [List.cons_append, splitOn, if_neg hc, ih (fun hd => h (List.mem_cons_of_mem c hd))]

/-- Splitting a delimited join of pieces without the delimiter gives the pieces back. -/
theorem splitOn_intercalate {d : Char} {ls : List (List Char)} (hne : ls ≠ [])
    (h : ∀ l ∈ ls, d ∉ l) : splitOn d ([d].intercalate ls) = ls := by
  induction ls with
  | nil => exact absurd rfl hne
  | cons l ls ih =>
    cases ls with
    | nil => simpa using splitOn_of_not_mem (h l List.mem_cons_self)
    | cons l' ls =>
      rw [List.intercalate_cons_cons, List.append_assoc, List.singleton_append,
        splitOn_append_cons (h l List.mem_cons_self),
        ih (List.cons_ne_nil l' ls) (fun x hx => h x (List.mem_cons_of_mem l hx))]

/-! ### The text payload -/

lemma delimiterBytes_eq : delimiterBytes = String.utf8EncodeChar delimiter := by decide

/-- The joined bytes of the values are the bytes of the values joined by the delimiter. -/
lemma intercalate_map_encode (vs : List String) :
    delimiterBytes.intercalate (vs.map Utf8.encode) =
      ([delimiter].intercalate (vs.map String.toList)).flatMap String.utf8EncodeChar := by
  induction vs with
  | nil => rfl
  | cons v vs ih =>
    cases vs with
    | nil => simp [Utf8.encode]
    | cons v' vs =>
      simp only [List.map_cons] at ih ⊢
      rw [List.intercalate_cons_cons, List.intercalate_cons_cons, ih]
      simp [Utf8.encode, delimiterBytes_eq]

/-- The text of the joined values is the values' characters joined by the delimiter. -/
theorem decodeChars_intercalate_encode (vs : List String) :
    Utf8.decodeChars (delimiterBytes.intercalate (vs.map Utf8.encode)) =
      [delimiter].intercalate (vs.map String.toList) := by
  have h := Utf8.decodeChars_flatMap_append ([delimiter].intercalate (vs.map String.toList)) []
  rwa [List.append_nil, Utf8.decodeChars, List.append_nil, ← intercalate_map_encode] at h

/-- The fields decoded from joined values that the encoder accepts are those values. -/
theorem textFields_intercalate (name : String) {vs : List String} (hne : vs ≠ [])
    (hd : ∀ v ∈ vs, delimiter ∉ v.toList) (he : vs.length = 1 ∨ ∀ v ∈ vs, v ≠ "") :
    textFields name ([delimiter].intercalate (vs.map String.toList)) =
      vs.map fun v => ⟨name, .text v⟩ := by
  match vs, hne, he with
  | [v], _, _ =>
    -- a single value has no delimiter and is kept whole, even when empty
    have hv : delimiter ∉ v.toList := hd v List.mem_cons_self
    simp [textFields, hv, String.ofList_toList]
  | v :: v' :: vs, _, he =>
    have hall : ∀ x ∈ v :: v' :: vs, x ≠ "" := by
      rcases he with he | he
      · simp at he
      · exact he
    have hmem : delimiter ∈ [delimiter].intercalate ((v :: v' :: vs).map String.toList) := by
      simp
    have hsplit : splitOn delimiter ([delimiter].intercalate ((v :: v' :: vs).map String.toList)) =
        (v :: v' :: vs).map String.toList :=
      splitOn_intercalate (by simp) (by simpa using hd)
    have hkeep : ((v :: v' :: vs).map String.toList).filter (· ≠ []) =
        (v :: v' :: vs).map String.toList := by
      rw [List.filter_eq_self]
      intro l hl
      obtain ⟨x, hx, rfl⟩ := List.mem_map.1 hl
      simpa using hall x hx
    rw [textFields, if_pos hmem, hsplit, hkeep, List.map_map]
    simp [Function.comp_def, String.ofList_toList]

/-! ### Which values are accepted -/

lemma checkTextValue_ok_iff (count i : Nat) (v : String) :
    checkTextValue count i v = .ok () ↔ delimiter ∉ v.toList ∧ (v = "" → count ≤ 1) := by
  unfold checkTextValue
  by_cases hd : delimiter ∈ v.toList <;> by_cases he : v = "" <;>
    by_cases hc : count > 1 <;> simp [hd, he, hc, bind, Except.bind, pure, Except.pure] <;> omega

lemma checkTextValue_error {count i : Nat} {v : String} {err : Error}
    (h : checkTextValue count i v = .error err) : ∃ msg, err = .invalidArgument "values" msg := by
  unfold checkTextValue at h
  by_cases hd : delimiter ∈ v.toList
  · simp only [hd, if_true, bind, Except.bind, throw, throwThe, MonadExceptOf.throw,
      Except.error.injEq] at h
    exact ⟨_, h.symm⟩
  · by_cases he : v.isEmpty && decide (count > 1)
    · simp only [hd, he, if_true, if_false, bind, Except.bind, pure, Except.pure, throw, throwThe,
        MonadExceptOf.throw, Except.error.injEq] at h
      exact ⟨_, h.symm⟩
    · simp [hd, he, pure, Except.pure] at h

lemma checkTextValues_ok_iff (count : Nat) (vs : List String) (i : Nat) :
    checkTextValues count i vs = .ok () ↔
      ∀ v ∈ vs, delimiter ∉ v.toList ∧ (v = "" → count ≤ 1) := by
  induction vs generalizing i with
  | nil => simp [checkTextValues, pure, Except.pure]
  | cons v vs ih =>
    simp only [checkTextValues, bind, Except.bind]
    cases h : checkTextValue count i v with
    | error e =>
      simp only [reduceCtorEq, false_iff, List.mem_cons, forall_eq_or_imp, not_and]
      intro hv
      exact absurd ((checkTextValue_ok_iff count i v).2 hv) (by simp [h])
    | ok u =>
      rw [ih, List.forall_mem_cons, ← checkTextValue_ok_iff count i v, h]
      simp

lemma checkTextValues_error {count : Nat} {vs : List String} {i : Nat} {err : Error}
    (h : checkTextValues count i vs = .error err) :
    ∃ msg, err = .invalidArgument "values" msg := by
  induction vs generalizing i with
  | nil => simp [checkTextValues, pure, Except.pure] at h
  | cons v vs ih =>
    simp only [checkTextValues, bind, Except.bind] at h
    cases hv : checkTextValue count i v with
    | error e =>
      rw [hv] at h
      cases h
      exact checkTextValue_error hv
    | ok u =>
      rw [hv] at h
      exact ih h

/-- What the encoder writes for a list of text values, and when it writes anything. -/
theorem encodeText_eq_ok_iff (vs : List String) (e : Bytes) :
    encodeText vs = .ok e ↔
      (vs ≠ [] ∧ ∀ v ∈ vs, delimiter ∉ v.toList ∧ (v = "" → vs.length ≤ 1)) ∧
        e = delimiterBytes.intercalate (vs.map Utf8.encode) ++ [textTag] := by
  unfold encodeText verifyArg
  cases hvs : vs.isEmpty
  · have hne : vs ≠ [] := by simpa using hvs
    simp only [Bool.not_false, if_true, bind, Except.bind, pure, Except.pure]
    cases hc : checkTextValues vs.length 0 vs with
    | error err =>
      have hbad := mt (checkTextValues_ok_iff vs.length vs 0).2 (by simp [hc])
      simp [hne, hbad]
    | ok u =>
      have hgood := (checkTextValues_ok_iff vs.length vs 0).1 (by simp [hc])
      simp only [Except.ok.injEq]
      exact ⟨fun h => ⟨⟨hne, hgood⟩, h.symm⟩, fun h => h.2.symm⟩
  · have hnil : vs = [] := by simpa using hvs
    simp [hnil, bind, Except.bind, throw, throwThe, MonadExceptOf.throw]

lemma encodeText_error {vs : List String} {err : Error} (h : encodeText vs = .error err) :
    ∃ msg, err = .invalidArgument "values" msg := by
  unfold encodeText verifyArg at h
  cases hvs : vs.isEmpty
  · simp only [hvs, Bool.not_false, if_true, bind, Except.bind, pure, Except.pure] at h
    cases hc : checkTextValues vs.length 0 vs with
    | error e =>
      rw [hc] at h
      cases h
      exact checkTextValues_error hc
    | ok u => simp [hc] at h
  · simp only [hvs, Bool.not_true, Bool.false_eq_true, if_false, bind, Except.bind, throw,
      throwThe, MonadExceptOf.throw, Except.error.injEq] at h
    exact ⟨_, h.symm⟩

/-! ### Decoding what was encoded -/

/-- A text column decodes to the fields of its payload's characters. -/
lemma decodeColumn_text (name payload : Bytes) :
    decodeColumn name (payload ++ [textTag]) =
      .ok (textFields (Utf8.decodeLossy name) (Utf8.decodeChars payload)) := by
  have htag : textTag ≠ binaryTag := by decide
  simp [decodeColumn, Bytes.splitLast?_append_singleton, htag, pure, Except.pure]

/-- The encoders and the decoder agree: `encodeText` accepts exactly the lists of values that
read back, it refuses the others as invalid `values`, and under any column name the text it
writes decodes to one text field per value, in order; the bytes of a binary column read back
as they were written, delimiter bytes and tag bytes included. -/
theorem decodeColumn_encode_round_trip (name : Bytes) (values : List String) :
    ((∃ e, encodeText values = .ok e) ↔
      values ≠ [] ∧ (∀ v ∈ values, delimiter ∉ v.toList) ∧
        (values.length = 1 ∨ ∀ v ∈ values, v ≠ "")) ∧
    (∀ err, encodeText values = .error err → ∃ msg, err = .invalidArgument "values" msg) ∧
    (∀ e, encodeText values = .ok e →
      decodeColumn name e = .ok (values.map fun v => ⟨Utf8.decodeLossy name, .text v⟩)) ∧
    ∀ b, decodeColumn name (encodeBinary b) = .ok [⟨Utf8.decodeLossy name, .binary b⟩] := by
  -- the encoder checks each value on its own: an empty value is refused beside others
  have hconds : (values ≠ [] ∧ ∀ v ∈ values, delimiter ∉ v.toList ∧
      (v = "" → values.length ≤ 1)) ↔
      values ≠ [] ∧ (∀ v ∈ values, delimiter ∉ v.toList) ∧
        (values.length = 1 ∨ ∀ v ∈ values, v ≠ "") := by
    constructor
    · rintro ⟨hne, hall⟩
      refine ⟨hne, fun v hv => (hall v hv).1, ?_⟩
      by_cases hlen : values.length = 1
      · exact Or.inl hlen
      · exact Or.inr fun v hv hempty => by
          have hpos : 0 < values.length := List.length_pos_iff.2 hne
          have := (hall v hv).2 hempty
          omega
    · rintro ⟨hne, hd, he⟩
      refine ⟨hne, fun v hv => ⟨hd v hv, fun hempty => ?_⟩⟩
      rcases he with he | he
      · omega
      · exact absurd hempty (he v hv)
  refine ⟨?_, fun err h => encodeText_error h, ?_, ?_⟩
  · constructor
    · rintro ⟨e, he⟩
      exact hconds.1 ((encodeText_eq_ok_iff values e).1 he).1
    · intro h
      exact ⟨_, (encodeText_eq_ok_iff values _).2 ⟨hconds.2 h, rfl⟩⟩
  · intro e he
    obtain ⟨hok, rfl⟩ := (encodeText_eq_ok_iff values e).1 he
    obtain ⟨hne, hd, hlen⟩ := hconds.1 hok
    rw [decodeColumn_text, decodeChars_intercalate_encode, textFields_intercalate _ hne hd hlen]
  · intro b
    simp [decodeColumn, encodeBinary, Bytes.splitLast?_append_singleton, pure, Except.pure]

end StoredDocs.Codec
