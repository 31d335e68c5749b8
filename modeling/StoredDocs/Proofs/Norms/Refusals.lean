import Mathlib
import StoredDocs.Proofs.Norms.Arrays
import StoredDocs.Proofs.Reader.Atomicity

/-!
# Which accumulations fail, and with which error

An accumulation checks the caches first: they must have been made for the accumulator's
capacity bound. It then takes the postings in order and checks, for each, its ordinal before its
norm payload: the ordinal must lie below the bound and the payload, when there is one, must be a
single byte. The first failed check is the error of the call; a call with no failed check
succeeds, and one with no postings changes nothing.

A successful call writes only where the program may: every ordinal it sets in the observed set
lies below that set's length, and every ordinal whose norm it writes has a slot in the grown
norm array.

The main statement is `accumulate_refuses_first_bad_posting`.
-/

namespace StoredDocs

namespace Posting

/-- A posting the accumulator takes: its ordinal lies below the bound, and its norm payload, if
it has one, is a single byte. -/
def Accepted (capacityBound : Nat) (p : Posting) : Prop :=
  p.ordinal.toNat < capacityBound ∧ ∀ bs, p.norm = some bs → bs.length = 1

/-- The accumulator refuses a posting of `field` with error `e`: for an ordinal at or past the
bound, checked first, or else for a norm payload that is not a single byte. -/
def Refused (capacityBound : Nat) (field : String) (p : Posting) (e : Error) : Prop :=
  (capacityBound ≤ p.ordinal.toNat ∧ e = .capacityExceeded p.ordinal (capacityBound - 1)) ∨
  (p.ordinal.toNat < capacityBound ∧
    ∃ bs, p.norm = some bs ∧ bs.length ≠ 1 ∧ e = .invalidNorm field bs.length)

lemma Refused.not_accepted {cap : Nat} {field : String} {p : Posting} {e : Error}
    (h : p.Refused cap field e) : ¬p.Accepted cap := by
  rintro ⟨hord, hnorm⟩
  rcases h with ⟨hcap, -⟩ | ⟨-, bs, hbs, hlen, -⟩
  · omega
  · exact hlen (hnorm bs hbs)

/-- The norm payload fails exactly when it is not a single byte, and the error names the field
and the payload's length. -/
lemma resolveNorm_eq_error_iff (p : Posting) (field : String) (e : Error) :
    p.resolveNorm field = .error e ↔
      ∃ bs, p.norm = some bs ∧ bs.length ≠ 1 ∧ e = .invalidNorm field bs.length := by
  unfold resolveNorm
  rcases hn : p.norm with _ | bs
  · simp [pure, Except.pure]
  · rcases bs with _ | ⟨b, _ | ⟨b', rest⟩⟩
    · simp [throw, throwThe, MonadExceptOf.throw, eq_comm]
    · simp [pure, Except.pure]
    · simp [throw, throwThe, MonadExceptOf.throw, eq_comm]

end Posting

namespace NormAccumulator

/-- The check of one posting: refused, or taken and the rest checked. -/
lemma resolve_cons_eq_error_iff (cap : Nat) (field : String) (p : Posting) (ps : List Posting)
    (e : Error) :
    resolve cap field (p :: ps) = .error e ↔
      p.Refused cap field e ∨ p.Accepted cap ∧ resolve cap field ps = .error e := by
  simp only [resolve]
  by_cases hcap : cap ≤ p.ordinal.toNat
  · -- the ordinal is checked first, whatever the payload
    have hnot : ¬p.Accepted cap := fun h => absurd h.1 (by omega)
    simp [hcap, hnot, Posting.Refused, eq_comm, throw, throwThe, MonadExceptOf.throw, bind,
      Except.bind]
  · -- the ordinal passes, and the payload decides
    have hrefused : p.Refused cap field e ↔ p.resolveNorm field = .error e := by
      rw [Posting.resolveNorm_eq_error_iff, Posting.Refused]
      simp [hcap, Nat.lt_of_not_le hcap]
    simp only [hcap, if_false, bind, Except.bind, hrefused]
    cases hn : p.resolveNorm field with
    | error e' =>
      obtain ⟨bs, hbs, hlen, -⟩ := (Posting.resolveNorm_eq_error_iff p field e').1 hn
      have hnot : ¬p.Accepted cap := fun h => hlen (h.2 bs hbs)
      simp [hnot]
    | ok b =>
      -- a payload that resolves is a single byte or none: the posting is taken
      have hacc : p.Accepted cap := by
        refine ⟨Nat.lt_of_not_le hcap, fun bs hbs => ?_⟩
        by_contra hlen
        obtain ⟨e', he'⟩ := NormAccumulator.resolveNorm_error field hbs hlen
        rw [hn] at he'
        cases he'
      simp only [hacc, reduceCtorEq, true_and, false_or]
      cases resolve cap field ps <;> simp [pure, Except.pure]

/-- Checking postings fails with the error of the first refused one, after postings that were
all taken. -/
theorem resolve_eq_error_iff (cap : Nat) (field : String) (ps : List Posting) (e : Error) :
    resolve cap field ps = .error e ↔
      ∃ pre p post, ps = pre ++ p :: post ∧ (∀ q ∈ pre, q.Accepted cap) ∧
        p.Refused cap field e := by
  induction ps with
  | nil => simp [resolve, pure, Except.pure]
  | cons p ps ih =>
    rw [resolve_cons_eq_error_iff, ih, exists_split_cons]
    simp only [List.not_mem_nil, IsEmpty.forall_iff, implies_true, true_and,
      List.forall_mem_cons]
    apply or_congr_right
    constructor
    · rintro ⟨hp, pre, x, post, rfl, hpre, hx⟩
      exact ⟨pre, x, post, rfl, ⟨hp, hpre⟩, hx⟩
    · rintro ⟨pre, x, post, rfl, ⟨hp, hpre⟩, hx⟩
      exact ⟨hp, pre, x, post, rfl, hpre, hx⟩

variable {C : Type}

/-- An accumulation fails for caches made for another bound, checked first, or else with the
error of checking its postings. -/
lemma accumulate_eq_error_iff (acc : NormAccumulator) (c : CacheSet C) (field : String)
    (ps : List Posting) (e : Error) :
    acc.accumulate c field ps = .error e ↔
      (c.capacityBound ≠ acc.capacityBound ∧
        e = .invalidArgument "caches" ("capacity bound " ++ toString c.capacityBound ++
          " does not match the accumulator's " ++ toString acc.capacityBound)) ∨
      (c.capacityBound = acc.capacityBound ∧ resolve acc.capacityBound field ps = .error e) := by
  unfold accumulate
  split
  · next hne =>
    simp only [hne, ne_eq, not_false_eq_true, true_and, false_and, or_false,
      throw, throwThe, MonadExceptOf.throw, Except.error.injEq]
    exact eq_comm
  · next heq =>
    have hcap : c.capacityBound = acc.capacityBound := by simpa using heq
    simp only [hcap, ne_eq, not_true_eq_false, false_and, true_and, false_or]
    split
    · next e' hres =>
      rw [hres]
      simp [throw, throwThe, MonadExceptOf.throw]
    · next rs hres =>
      split <;> simp [pure, Except.pure, hres]

/-- With caches made for the accumulator's bound, no postings change nothing. -/
lemma accumulate_nil (acc : NormAccumulator) (c : CacheSet C) (field : String)
    (h : c.capacityBound = acc.capacityBound) : acc.accumulate c field [] = .ok c := by
  unfold accumulate
  simp only [h, ne_eq, not_true_eq_false, dite_false]
  split
  · next e hres => cases hres
  · next rs hres =>
    -- nothing resolved, so there is no largest ordinal and nothing is written
    have hrs : rs = [] := by simpa [resolve, pure, Except.pure] using hres.symm
    subst hrs
    split
    · rfl
    · next top htop => simp at htop

/-- A successful accumulation sets only ordinals below the length of the observed set it
writes to, and writes only slots of the grown norm array. -/
lemma accumulate_writes_in_bounds {acc : NormAccumulator} {c c' : CacheSet C} {field : String}
    {ps : List Posting} (h : acc.accumulate c field ps = .ok c') :
    ∀ p ∈ ps, p.ordinal.toNat < (c.observed.getD (BitSet.new c.capacityBound)).len ∧
      p.ordinal.toNat < (((c.norms? field).getD (NormArray.new acc.initialLen)).growTo
        (slotsNeeded ps) acc.capacityBound).2.len := by
  obtain ⟨hcap, hbelow, -⟩ := accumulate_eq_ok h
  -- the observed set has the bound as its length, whether it exists or is made now
  have hlen : (c.observed.getD (BitSet.new c.capacityBound)).len = acc.capacityBound :=
    c.len_observed_getD.trans hcap
  -- the grown array reaches the slots needed, which fit under the bound
  have hneed : slotsNeeded ps ≤ acc.capacityBound := slotsNeeded_le_iff.2 hbelow
  have hgrown := NormArray.min_le_len_growTo ((c.norms? field).getD (NormArray.new acc.initialLen))
    (slotsNeeded ps) acc.capacityBound
  intro p hp
  have hslot : p.ordinal.toNat < slotsNeeded ps := slotsNeeded_le_iff.1 (Nat.le_refl _) p hp
  refine ⟨hlen ▸ hbelow p hp, ?_⟩
  omega

/-- When an accumulation fails, and with which error, for every caches, field and postings. It
fails exactly when the caches were made for another capacity bound or some posting is refused.
The caches are checked first, with an invalid argument `caches`; otherwise the error is that of
the first refused posting, its ordinal checked before its norm payload: an ordinal at or past the
bound `cap` is reported with the last ordinal `cap - 1` (zero when `cap` is), and a payload that
is not one byte with the field and the payload's length. With caches made for the accumulator's
bound, no postings change nothing. And a successful call sets and writes only in bounds. -/
theorem accumulate_refuses_first_bad_posting (acc : NormAccumulator) (c : CacheSet C)
    (field : String) (ps : List Posting) :
    ((∃ e, acc.accumulate c field ps = .error e) ↔
      c.capacityBound ≠ acc.capacityBound ∨ ∃ p ∈ ps, ¬p.Accepted acc.capacityBound) ∧
    (∀ e, acc.accumulate c field ps = .error e ↔
      (c.capacityBound ≠ acc.capacityBound ∧
        e = .invalidArgument "caches" ("capacity bound " ++ toString c.capacityBound ++
          " does not match the accumulator's " ++ toString acc.capacityBound)) ∨
      (c.capacityBound = acc.capacityBound ∧
        ∃ pre p post, ps = pre ++ p :: post ∧ (∀ q ∈ pre, q.Accepted acc.capacityBound) ∧
          p.Refused acc.capacityBound field e)) ∧
    (c.capacityBound = acc.capacityBound → acc.accumulate c field [] = .ok c) ∧
    (∀ c', acc.accumulate c field ps = .ok c' →
      ∀ p ∈ ps, p.ordinal.toNat < (c.observed.getD (BitSet.new c.capacityBound)).len ∧
        p.ordinal.toNat < (((c.norms? field).getD (NormArray.new acc.initialLen)).growTo
          (slotsNeeded ps) acc.capacityBound).2.len) := by
  have herror : ∀ e, acc.accumulate c field ps = .error e ↔ _ := fun e => by
    rw [accumulate_eq_error_iff, resolve_eq_error_iff]
  refine ⟨⟨?_, ?_⟩, herror, accumulate_nil acc c field,
    fun c' h => accumulate_writes_in_bounds h⟩
  · rintro ⟨e, he⟩
    rcases (herror e).1 he with ⟨hne, -⟩ | ⟨-, pre, p, post, rfl, -, hp⟩
    · exact Or.inl hne
    · exact Or.inr ⟨p, by simp, hp.not_accepted⟩
  · rintro (hne | ⟨p, hp, hnot⟩)
    · exact ⟨_, (herror _).2 (Or.inl ⟨hne, rfl⟩)⟩
    · -- a posting that is not taken has a failing check, and so does the call
      have hbad : acc.capacityBound ≤ p.ordinal.toNat ∨
          ∃ bs, p.norm = some bs ∧ bs.length ≠ 1 := by
        by_contra hok
        push Not at hok
        exact hnot ⟨hok.1, fun bs hbs => hok.2 bs hbs⟩
      exact accumulate_error_of_mem hp hbad

/-- Caches that already observed ordinal `3` accept postings of ordinals `0` and `2`, one with
a norm byte and one without, and land them in bounds; and they accept no postings, unchanged. -/
theorem accumulate_refuses_first_bad_posting_of_observed :
    let acc := NormAccumulator.new 11 4
    let c : CacheSet Unit := { CacheSet.new 11 with
      observed := some ((BitSet.new 11).set 3 (by decide)).2
      observed_len := fun s hs => by cases hs; rfl }
    let ps := [Posting.withNorm 0 10, ⟨2, none⟩]
    c.observed.isSome ∧
    (c.capacityBound = acc.capacityBound ∧ acc.accumulate c "title" [] = .ok c) ∧
    (∃ c', acc.accumulate c "title" ps = .ok c') ∧
    ∀ c', acc.accumulate c "title" ps = .ok c' →
      ∀ p ∈ ps, p.ordinal.toNat < (c.observed.getD (BitSet.new c.capacityBound)).len ∧
        p.ordinal.toNat < (((c.norms? "title").getD (NormArray.new acc.initialLen)).growTo
          (slotsNeeded ps) acc.capacityBound).2.len := by
  intro acc c ps
  have h := accumulate_refuses_first_bad_posting acc c "title" ps
  -- both postings are taken, so the call cannot fail
  have hok : ¬∃ e, acc.accumulate c "title" ps = .error e := by
    rw [h.1]
    rintro (hne | ⟨p, hp, hnot⟩)
    · exact hne rfl
    · apply hnot
      simp only [ps, List.mem_cons, List.not_mem_nil, or_false] at hp
      rcases hp with rfl | rfl
      · exact ⟨by decide, fun bs hbs => by cases hbs; rfl⟩
      · exact ⟨by decide, fun bs hbs => by cases hbs⟩
  refine ⟨rfl, ⟨rfl, h.2.2.1 rfl⟩, ?_, h.2.2.2⟩
  cases hacc : acc.accumulate c "title" ps with
  | error e => exact absurd ⟨e, hacc⟩ hok
  | ok c' => exact ⟨c', rfl⟩

/-- Caches made for a bound of two refuse even no postings of an accumulator for a bound of
one. -/
theorem accumulate_nil_refused_by_other_bound :
    (NormAccumulator.new 1 1).accumulate (CacheSet.new 2 : CacheSet Unit) "f" [] =
      .error (.invalidArgument "caches" "capacity bound 2 does not match the accumulator's 1") :=
  rfl

end NormAccumulator

end StoredDocs
