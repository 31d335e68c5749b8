import Mathlib
import StoredDocs.Norms.Posting

/-!
# Variable-length ordinals: what reading accepts, and the shortest form

A variable-length form holds a number in groups of seven bits, least significant first, one
group per byte, with the high bit set on every byte but the last (`Vint.Encodes`). Reading
accepts exactly the forms of one to five bytes whose value fits in 32 bits, and refuses every
other byte string with an `InvalidFormat` error. Writing gives the shortest form: among the
forms of a value it is the one whose last byte is not zero, unless it is the single byte of
zero.

The main statement is `read_accepts_exactly_encodings`.
-/

namespace StoredDocs

namespace Vint

/-! ### Bytes as seven-bit groups -/

lemma and_0x80_eq_zero_iff (b : UInt8) : b &&& 0x80 = 0 ↔ b.toNat < 128 := by
  have key : ∀ i : Fin 256, (i.val &&& 128 = 0 ↔ i.val < 128) := by decide +kernel
  rw [← UInt8.toNat_inj, UInt8.toNat_and]
  exact key ⟨b.toNat, b.toNat_lt⟩

lemma toNat_and_0x7F (b : UInt8) : (b &&& 0x7F).toNat = b.toNat % 128 := by
  rw [UInt8.toNat_and]
  exact Nat.and_two_pow_sub_one_eq_mod b.toNat 7

@[simp] lemma groupValue_nil : groupValue [] = 0 := rfl

lemma groupValue_cons (b : UInt8) (bs : Bytes) :
    groupValue (b :: bs) = b.toNat % 128 + 128 * groupValue bs := by
  rw [groupValue, List.foldr_cons, ← groupValue, toNat_and_0x7F]

/-- The value of the groups is the sum of each group's seven bits at its place. -/
theorem groupValue_eq_sum (bs : Bytes) :
    groupValue bs = ∑ i : Fin bs.length, (bs[i] &&& 0x7F).toNat * 2 ^ (7 * i.val) := by
  induction bs with
  | nil => rfl
  | cons b bs ih =>
    show _ = ∑ i : Fin (bs.length + 1), ((b :: bs)[i] &&& 0x7F).toNat * 2 ^ (7 * i.val)
    rw [groupValue_cons, ih, Fin.sum_univ_succ, Finset.mul_sum]
    simp only [Fin.val_zero, Nat.mul_zero, pow_zero, Nat.mul_one, Fin.getElem_fin,
      List.getElem_cons_zero, toNat_and_0x7F, Fin.val_succ, List.getElem_cons_succ]
    congr 1
    refine Finset.sum_congr rfl fun i _ => ?_
    rw [Nat.mul_add, Nat.mul_one, Nat.pow_add]
    ring

/-! ### The shortest form -/

lemma writeNat_of_lt {n : Nat} (h : n < 128) : writeNat n = [n.toUInt8] := by
  rw [writeNat, if_pos h]

lemma writeNat_of_le {n : Nat} (h : 128 ≤ n) :
    writeNat n = (n % 128 + 128).toUInt8 :: writeNat (n / 128) := by
  rw [writeNat, if_neg (Nat.not_lt.2 h)]

lemma writeNat_ne_nil (n : Nat) : writeNat n ≠ [] := by
  fun_induction writeNat n <;> simp

lemma getLast?_cons_of_ne_nil {a : UInt8} {l : Bytes} (h : l ≠ []) :
    (a :: l).getLast? = l.getLast? := by
  obtain ⟨b, l', rfl⟩ := List.exists_cons_of_ne_nil h
  exact List.getLast?_cons_cons

theorem groupValue_writeNat (n : Nat) : groupValue (writeNat n) = n := by
  fun_induction writeNat n with
  | case1 n h =>
    rw [groupValue_cons, groupValue_nil, Nat.toUInt8_eq, UInt8.toNat_ofNat_of_lt' (by unfold UInt8.size; omega)]
    omega
  | case2 n h ih =>
    rw [groupValue_cons, ih, Nat.toUInt8_eq, UInt8.toNat_ofNat_of_lt' (by unfold UInt8.size; omega)]
    omega

/-- A number below `128 ^ k` takes at most `k` groups. -/
theorem length_writeNat_le {n k : Nat} (hk : 1 ≤ k) (h : n < 128 ^ k) :
    (writeNat n).length ≤ k := by
  fun_induction writeNat n generalizing k with
  | case1 n _ => simpa using hk
  | case2 n hn ih =>
    -- a number of two groups or more needs `k ≥ 2`, and its high part fits in `k - 1` groups
    obtain ⟨j, rfl⟩ : ∃ j, k = j + 1 := ⟨k - 1, by omega⟩
    have hpow : 128 ^ (j + 1) = 128 ^ j * 128 := pow_succ 128 j
    have hj : 1 ≤ j := by
      by_contra hj
      have : j = 0 := by omega
      subst this
      omega
    have hhigh : n / 128 < 128 ^ j := (Nat.div_lt_iff_lt_mul (by decide)).2 (hpow ▸ h)
    rw [List.length_cons]
    exact Nat.succ_le_succ (ih hj hhigh)

/-- The high bit is set on every byte of the shortest form but the last. -/
theorem continued_writeNat (n : Nat) : ∀ b ∈ (writeNat n).dropLast, 128 ≤ b.toNat := by
  fun_induction writeNat n with
  | case1 n _ => simp
  | case2 n hn ih =>
    intro b hb
    rw [List.dropLast_cons_of_ne_nil (writeNat_ne_nil _), List.mem_cons] at hb
    rcases hb with rfl | hb
    · rw [Nat.toUInt8_eq, UInt8.toNat_ofNat_of_lt' (by unfold UInt8.size; omega)]
      omega
    · exact ih b hb

/-- The last byte of the shortest form has its high bit clear, and is zero only for zero. -/
theorem last_writeNat (n : Nat) :
    ∀ b ∈ (writeNat n).getLast?, b.toNat < 128 ∧ (b = 0 → n = 0) := by
  fun_induction writeNat n with
  | case1 n hn =>
    intro b hb
    simp only [List.getLast?_singleton, Option.mem_def, Option.some.injEq] at hb
    subst hb
    rw [Nat.toUInt8_eq, UInt8.toNat_ofNat_of_lt' (by unfold UInt8.size; omega)]
    refine ⟨hn, fun h0 => ?_⟩
    have := congrArg UInt8.toNat h0
    rwa [UInt8.toNat_ofNat_of_lt' (by unfold UInt8.size; omega)] at this
  | case2 n hn ih =>
    intro b hb
    rw [getLast?_cons_of_ne_nil (writeNat_ne_nil _)] at hb
    obtain ⟨hlt, hzero⟩ := ih b hb
    exact ⟨hlt, fun h0 => by have := hzero h0; omega⟩

/-- A form with the continuation bits of a variable-length form, whose last byte is zero only when
it is the single byte, is the shortest form of its value. -/
theorem writeNat_groupValue {bs : Bytes} (hne : bs ≠ [])
    (hcont : ∀ b ∈ bs.dropLast, 128 ≤ b.toNat) (hlast : ∀ b ∈ bs.getLast?, b.toNat < 128)
    (hcanon : bs.length = 1 ∨ bs.getLast? ≠ some 0) : writeNat (groupValue bs) = bs := by
  induction bs with
  | nil => exact absurd rfl hne
  | cons b rest ih =>
    cases rest with
    | nil =>
      -- a single byte below `128` is its own shortest form
      have hb : b.toNat < 128 := hlast b rfl
      rw [groupValue_cons, groupValue_nil, Nat.mul_zero, Nat.add_zero, Nat.mod_eq_of_lt hb,
        writeNat_of_lt hb, Nat.toUInt8_eq, UInt8.ofNat_toNat]
    | cons c rest' =>
      have hrest : c :: rest' ≠ [] := List.cons_ne_nil c rest'
      have hdrop : (b :: c :: rest').dropLast = b :: (c :: rest').dropLast :=
        List.dropLast_cons_of_ne_nil hrest
      have hb : 128 ≤ b.toNat := hcont b (by rw [hdrop]; exact List.mem_cons_self)
      have hlast' : (b :: c :: rest').getLast? = (c :: rest').getLast? := List.getLast?_cons_cons
      -- with two bytes or more, the last byte is not zero
      have hne0 : (c :: rest').getLast? ≠ some 0 := by
        rcases hcanon with hlen | hne0
        · simp at hlen
        · rwa [← hlast']
      -- the tail is a shortest form too, of a positive value
      have htail : writeNat (groupValue (c :: rest')) = c :: rest' :=
        ih hrest (fun x hx => hcont x (by rw [hdrop]; exact List.mem_cons_of_mem b hx))
          (fun x hx => hlast x (hlast' ▸ hx)) (Or.inr hne0)
      have hpos : 0 < groupValue (c :: rest') := by
        by_contra hzero
        have h0 : groupValue (c :: rest') = 0 := by omega
        rw [h0, writeNat_of_lt (by decide)] at htail
        rw [← htail] at hne0
        exact hne0 rfl
      have hbyte : (b.toNat % 128 + 128).toUInt8 = b := by
        rw [show b.toNat % 128 + 128 = b.toNat by have := b.toNat_lt; omega, Nat.toUInt8_eq,
          UInt8.ofNat_toNat]
      rw [groupValue_cons, writeNat_of_le (by omega),
        show (b.toNat % 128 + 128 * groupValue (c :: rest')) % 128 = b.toNat % 128 by omega,
        show (b.toNat % 128 + 128 * groupValue (c :: rest')) / 128 = groupValue (c :: rest') by
          omega, htail, hbyte]

/-! ### Reading -/

/-- `bs` is a variable-length form of `v`: one to five bytes, the high bit set on every byte but
the last and clear on the last, and `v` the sum of the seven-bit groups at their places (a sum
that is therefore at most `2 ^ 32 - 1`). -/
structure Encodes (bs : Bytes) (v : UInt32) : Prop where
  length_pos : 1 ≤ bs.length
  length_le : bs.length ≤ 5
  continued : ∀ b ∈ bs.dropLast, b &&& 0x80 ≠ 0
  last : ∀ b ∈ bs.getLast?, b &&& 0x80 = 0
  value : v.toNat = ∑ i : Fin bs.length, (bs[i] &&& 0x7F).toNat * 2 ^ (7 * i.val)

lemma verifyData_bind_eq_ok {α : Type} {holds : Bool} {element condition : String}
    {k : Unit → Except Error α} {a : α} :
    (verifyData holds element condition >>= k) = .ok a ↔ holds = true ∧ k () = .ok a := by
  cases holds
  · simp [verifyData, throw, throwThe, MonadExceptOf.throw, bind, Except.bind]
  · exact ⟨fun h => ⟨rfl, h⟩, fun h => h.2⟩

lemma verifyData_bind_eq_error {α : Type} {holds : Bool} {element condition : String}
    {k : Unit → Except Error α} {e : Error}
    (h : (verifyData holds element condition >>= k) = .error e) :
    e = .invalidFormat element condition ∨ k () = .error e := by
  cases holds
  · simp only [verifyData, throw, throwThe, MonadExceptOf.throw, bind, Except.bind,
      Bool.false_eq_true, if_false, Except.error.injEq] at h
    exact Or.inl h.symm
  · exact Or.inr h

lemma toUInt32_eq_iff {n : Nat} (hn : n ≤ 4294967295) (v : UInt32) :
    n.toUInt32 = v ↔ v.toNat = n := by
  rw [← UInt32.toNat_inj, Nat.toUInt32_eq, UInt32.toNat_ofNat', Nat.mod_eq_of_lt (by omega),
    eq_comm]

/-- Reading accepts exactly the variable-length forms of 32-bit numbers. -/
theorem read_eq_ok_iff (bs : Bytes) (v : UInt32) : read bs = .ok v ↔ Encodes bs v := by
  have hv := v.toNat_lt
  simp only [read, verifyData_bind_eq_ok, Bool.and_eq_true, Bool.not_eq_true',
    List.isEmpty_eq_false_iff, decide_eq_true_eq, List.all_eq_true, bne_iff_ne, ne_eq,
    Option.all_eq_true, beq_iff_eq, pure, Except.pure, Except.ok.injEq]
  constructor
  · rintro ⟨⟨hne, hlen⟩, hcont, hlast, hfits, hval⟩
    refine ⟨List.length_pos_iff.2 hne, hlen, hcont, fun b hb => hlast b hb, ?_⟩
    rw [← groupValue_eq_sum]
    exact (toUInt32_eq_iff hfits v).1 hval
  · intro h
    have hval : groupValue bs = v.toNat := by rw [groupValue_eq_sum]; exact h.value.symm
    refine ⟨⟨List.length_pos_iff.1 h.length_pos, h.length_le⟩, h.continued,
      fun b hb => h.last b hb, by omega, (toUInt32_eq_iff (by omega) v).2 hval.symm⟩

/-- Every byte string that reading refuses is refused with an `InvalidFormat` error. -/
theorem read_error {bs : Bytes} {e : Error} (h : read bs = .error e) :
    ∃ condition, e = .invalidFormat "vint" condition := by
  unfold read at h
  -- each of the four checks fails with its own condition; the final `pure` does not fail
  rcases verifyData_bind_eq_error h with rfl | h
  · exact ⟨_, rfl⟩
  rcases verifyData_bind_eq_error h with rfl | h
  · exact ⟨_, rfl⟩
  rcases verifyData_bind_eq_error h with rfl | h
  · exact ⟨_, rfl⟩
  rcases verifyData_bind_eq_error h with rfl | h
  · exact ⟨_, rfl⟩
  cases h

/-- Writing gives a form of one to five bytes that reads back as the number. -/
theorem encodes_write (v : UInt32) : Encodes (write v) v where
  length_pos := List.length_pos_iff.2 (writeNat_ne_nil _)
  length_le := length_writeNat_le (by decide) (by have := v.toNat_lt; omega)
  continued := fun b hb => by
    rw [ne_eq, and_0x80_eq_zero_iff, Nat.not_lt]
    exact continued_writeNat v.toNat b hb
  last := fun b hb => (and_0x80_eq_zero_iff b).2 (last_writeNat v.toNat b hb).1
  value := by rw [← groupValue_eq_sum, write, groupValue_writeNat]

/-- Of the forms of a number, writing gives the canonical one: a single byte, or one whose last
byte is not zero. -/
theorem write_eq_iff {bs : Bytes} {v : UInt32} (h : Encodes bs v) :
    write v = bs ↔ bs.length = 1 ∨ bs.getLast? ≠ some 0 := by
  constructor
  · rintro rfl
    by_cases hv : v.toNat = 0
    · left
      rw [write, hv, writeNat_of_lt (by decide)]
      rfl
    · right
      intro hlast
      exact hv ((last_writeNat v.toNat 0 hlast).2 rfl)
  · intro hcanon
    have hval : groupValue bs = v.toNat := by rw [groupValue_eq_sum]; exact h.value.symm
    rw [write, ← hval]
    refine writeNat_groupValue (List.length_pos_iff.1 h.length_pos) (fun b hb => ?_)
      (fun b hb => (and_0x80_eq_zero_iff b).1 (h.last b hb)) hcanon
    exact Nat.le_of_not_lt fun hlt => h.continued b hb ((and_0x80_eq_zero_iff b).2 hlt)

end Vint

/-- A posting column is read exactly when its name is: the name's number is the ordinal, and the
norm payload is kept as it is. -/
theorem Posting.fromColumn_eq_ok_iff {name : Bytes} {norm : Option Bytes} {p : Posting} :
    Posting.fromColumn name norm = .ok p ↔ Vint.read name = .ok p.ordinal ∧ p.norm = norm := by
  unfold Posting.fromColumn
  cases h : Vint.read name with
  | error e => simp [bind, Except.bind]
  | ok o =>
    simp only [bind, Except.bind, pure, Except.pure, Except.ok.injEq]
    constructor
    · rintro rfl
      exact ⟨rfl, rfl⟩
    · rintro ⟨rfl, hnorm⟩
      rw [← hnorm]

namespace Vint

/-- Variable-length ordinals. Writing any 32-bit number gives one to five bytes that read back as
it. Reading accepts a byte string exactly when it is a form of one to five bytes, the high bit set
on every byte but the last and clear on the last, whose seven-bit groups, least significant first,
sum to the number read (so to at most `2 ^ 32 - 1`); it refuses every other one with
`InvalidFormat`. Of the forms of a number, writing gives the one that is a single byte or ends in a
non-zero byte. A posting column thus names ordinal `v` exactly when its name is a form of `v`. -/
theorem read_accepts_exactly_encodings :
    (∀ v : UInt32, 1 ≤ (write v).length ∧ (write v).length ≤ 5 ∧ read (write v) = .ok v) ∧
    (∀ bs v, read bs = .ok v ↔ Encodes bs v) ∧
    (∀ bs e, read bs = .error e → ∃ condition, e = .invalidFormat "vint" condition) ∧
    (∀ bs v, read bs = .ok v → (write v = bs ↔ bs.length = 1 ∨ bs.getLast? ≠ some 0)) ∧
    (∀ name norm v,
      (∃ p, Posting.fromColumn name norm = .ok p ∧ p.ordinal = v) ↔ Encodes name v) := by
  refine ⟨fun v => ⟨(encodes_write v).length_pos, (encodes_write v).length_le,
      (read_eq_ok_iff _ v).2 (encodes_write v)⟩,
    read_eq_ok_iff, fun _ _ => read_error,
    fun bs v h => write_eq_iff ((read_eq_ok_iff bs v).1 h), fun name norm v => ?_⟩
  rw [← read_eq_ok_iff]
  constructor
  · rintro ⟨p, hp, rfl⟩
    exact (Posting.fromColumn_eq_ok_iff.1 hp).1
  · intro h
    exact ⟨⟨v, norm⟩, Posting.fromColumn_eq_ok_iff.2 ⟨h, rfl⟩, rfl⟩

end Vint

end StoredDocs
