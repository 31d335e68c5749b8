import Mathlib
import StoredDocs.Proofs.Reader.DocumentCache

/-!
# The term-cursor cache of a worker

A worker caches term cursors by term, whatever provider its index takes them from. A cursor is
stored under a term when one is put there, and when the document frequency of a term that is
not cached is read: the read asks the provider for a cursor, moves it to the term and caches it,
whether or not a term was found there. Reading the document frequency of a cached term answers
from its cursor and asks for nothing; a cursor positioned at a term moves a copy of the cached
one, or else a new one, and is never cached. When the provider fails to open or to move a
cursor, the operation fails and caches nothing. Only `clearAll` and the lifecycle hooks remove
cursors.

The main statement, `term_cursor_cache_follows_puts_and_misses`, follows a worker through any
run of steps: the cursor cached under a term is the one stored by the last put of that term, or
by the document-frequency read that missed it, since the last invalidation, and no other term is
cached; each term-cursor operation does what is said above; and the requests for cursors along
the run are exactly one for each document-frequency read and positioned cursor of a term not
cached at that moment, and one for each put.
-/

namespace StoredDocs

/-! ### Cursor lookups -/

namespace CacheSet

variable {C : Type}

/-- Putting a cursor under a term answers it for that term and leaves the others. -/
lemma termCursor?_putTermCursor (c : CacheSet C) (t t' : Term) (cursor : C) :
    (c.putTermCursor t cursor).termCursor? t' =
      if t' = t then some cursor else c.termCursor? t' := by
  simp only [termCursor?, putTermCursor, Option.bind_some, Bindings.lookup_put, beq_iff_eq]
  split_ifs
  · rfl
  · cases c.termCursors <;> rfl

lemma termCursor?_clearAll (c : CacheSet C) (t : Term) : c.clearAll.termCursor? t = none := by
  simp only [termCursor?, clearAll]
  cases c.termCursors <;> rfl

end CacheSet

namespace Assembly

variable {C : Type}

/-- A successful document read changes the document cache and nothing else. -/
lemma getDocument_ok_caches {store store' : MemoryStore} {index : String} {cons : Consistency}
    {c c' : CacheSet C} {o : UInt32} {sel : Selection} {r : Option Document}
    (hg : getDocument store index cons c o sel = (store', .ok (r, c'))) :
    c' = { c with documents := c'.documents } := by
  cases ho : c.document? o with
  | some d =>
    rw [getDocument_hit ho] at hg
    cases hg
    rfl
  | none =>
    obtain ⟨-, docs, -, rfl⟩ := getDocument_miss_ok ho hg
    rfl

end Assembly

namespace Session

namespace ReaderStep

variable {C : Type}

/-! ### What a step stores under a term -/

/-- The cursor that step `st` of worker `w` stores under term `t`: for a cursor put under `t`,
a new cursor moved to its target; for a document-frequency read of `t` when `t` is not cached,
a new cursor moved to `t`, whether or not a term was found there. Every other step stores
nothing under `t`, and neither does one whose cursor cannot be opened or moved. -/
def storedCursor (ix : Index C) (w : Worker C) (st : ReaderStep) (t : Term) : Option C :=
  match st with
  | .putTermCursor t' target =>
    if t' = t then (ix.freshCursor (target.getD t)).toOption.map (·.2) else none
  | .docFreq t' =>
    if t' = t ∧ w.caches.termCursor? t = none then (ix.freshCursor t).toOption.map (·.2)
    else none
  | _ => none

/-- Step `st` removes or may replace the cursor cached under `t`: it invalidates, or it puts a
cursor under `t` that can be opened and moved. -/
def Overwrites (ix : Index C) (st : ReaderStep) (t : Term) : Prop :=
  st.invalidates = true ∨
    ∃ target r, st = .putTermCursor t target ∧ ix.freshCursor (target.getD t) = .ok r

lemma storedCursor_of_invalidates (ix : Index C) (w : Worker C) {st : ReaderStep}
    (h : st.invalidates = true) (t : Term) : storedCursor ix w st t = none := by
  cases st <;> first | rfl | simp [invalidates] at h

/-- A step that does not invalidate stores nothing under a cached term exactly when it does not
overwrite it: a document-frequency read of a cached term is a hit. -/
lemma storedCursor_eq_none_iff (ix : Index C) {w : Worker C} {st : ReaderStep} {t : Term}
    (hinv : st.invalidates = false) {c : C} (hc : w.caches.termCursor? t = some c) :
    storedCursor ix w st t = none ↔ ¬Overwrites ix st t := by
  cases st with
  | putTermCursor t' target =>
    by_cases ht : t' = t
    · subst ht
      rcases ho : ix.freshCursor (target.getD t') with e | ⟨found, c'⟩ <;>
        simp [storedCursor, Overwrites, invalidates, ho, Except.toOption]
    · simp [storedCursor, Overwrites, invalidates, ht]
  | docFreq t' => simp [storedCursor, Overwrites, invalidates, hc]
  | _ => simp_all [storedCursor, Overwrites]

/-- The term-cursor cache after a document read is the one before it. -/
lemma termCursors_after_document (ix : Index C) (w : Worker C) (sh : Shared) (o : UInt32)
    (sel : Selection) (query : Option (List String)) :
    ((document o sel query).run ix w sh).2.1.caches.termCursors = w.caches.termCursors := by
  rw [run_document]
  rcases hg : Assembly.getDocument sh.store ix.name ix.config.consistency w.caches o sel with
    ⟨store, e | ⟨r, c⟩⟩
  · rfl
  · rw [Assembly.getDocument_ok_caches hg]

/-- After a step, the cursor cached under a term is the one the step stored under it, or else
the one cached before; nothing, when the step invalidates. -/
theorem termCursor?_after_step (ix : Index C) (w : Worker C) (sh : Shared) (st : ReaderStep)
    (t : Term) :
    (st.run ix w sh).2.1.caches.termCursor? t =
      if st.invalidates then none else (storedCursor ix w st t).or (w.caches.termCursor? t) := by
  cases st with
  | document o sel query =>
    simp only [CacheSet.termCursor?, termCursors_after_document]
    rfl
  | accumulate f ps =>
    rw [run_accumulate]
    cases hacc : ix.accumulator.accumulate w.caches f ps with
    | error e => rfl
    | ok c =>
      simp only [CacheSet.termCursor?, (NormAccumulator.accumulate_frame hacc).2.2]
      rfl
  | docFreq t' =>
    rw [run_docFreq]
    -- a hit keeps the cache; a miss caches the new cursor under `t'` when it opens and moves
    cases hc : w.caches.termCursor? t' with
    | some c => by_cases ht : t' = t <;> simp_all [storedCursor, invalidates]
    | none =>
      rcases hr : ix.freshCursor t' with e | ⟨found, c⟩
      · by_cases ht : t' = t
        · subst ht
          simp [storedCursor, invalidates, hr, Except.toOption]
        · simp [storedCursor, invalidates, ht]
      · by_cases ht : t' = t
        · subst ht
          simp [storedCursor, invalidates, hr, hc, Except.toOption, Worker.putTermCursor,
            CacheSet.termCursor?_putTermCursor]
        · simp [storedCursor, invalidates, ht, Worker.putTermCursor,
            CacheSet.termCursor?_putTermCursor, Ne.symm ht]
  | putTermCursor t' target =>
    rw [run_putTermCursor]
    rcases hr : ix.freshCursor (target.getD t') with e | ⟨found, c⟩
    · by_cases ht : t' = t
      · subst ht
        simp [storedCursor, invalidates, hr, Except.toOption]
      · simp [storedCursor, invalidates, ht]
    · by_cases ht : t' = t
      · subst ht
        simp [storedCursor, invalidates, hr, Except.toOption, Worker.putTermCursor,
          CacheSet.termCursor?_putTermCursor]
      · simp [storedCursor, invalidates, ht, Worker.putTermCursor,
          CacheSet.termCursor?_putTermCursor, Ne.symm ht]
  | clearAll | reopen | commit | close | reset =>
    rw [run_of_invalidates ix w sh rfl, Worker.clearAll, CacheSet.termCursor?_clearAll]
    rfl
  | _ =>
    rw [run_worker_of_writesCaches_false ix w sh rfl]
    rfl

/-- After a step, a term is cached with a cursor when it was cached with it before and the step
does not overwrite it, or when the step stored that cursor under it. -/
theorem termCursor?_after_step_eq_some (ix : Index C) (w : Worker C) (sh : Shared)
    (st : ReaderStep) (t : Term) (c : C) :
    (st.run ix w sh).2.1.caches.termCursor? t = some c ↔
      (w.caches.termCursor? t = some c ∧ ¬Overwrites ix st t) ∨
        storedCursor ix w st t = some c := by
  rw [termCursor?_after_step]
  cases hinv : st.invalidates
  · rw [if_neg Bool.false_ne_true, Option.or_eq_some_iff]
    constructor
    · rintro (h | ⟨hnone, hc⟩)
      · exact Or.inr h
      · exact Or.inl ⟨hc, (storedCursor_eq_none_iff ix hinv hc).1 hnone⟩
    · rintro (⟨hc, hov⟩ | h)
      · exact Or.inr ⟨(storedCursor_eq_none_iff ix hinv hc).2 hov, hc⟩
      · exact Or.inl h
  · simp [storedCursor_of_invalidates ix w hinv, Overwrites, hinv]

/-! ### The term-cursor cache along a run -/

/-- After a run from any state, a term is cached with a cursor when it was cached with it at the
start and no step of the run overwrites it, or when a step of the run stored that cursor under
it and no later step overwrites it. -/
theorem termCursor?_runAll (ix : Index C) (s : Worker C × Shared) (steps : List ReaderStep)
    (t : Term) (c : C) :
    (runAll ix s steps).1.caches.termCursor? t = some c ↔
      (s.1.caches.termCursor? t = some c ∧ ∀ st ∈ steps, ¬Overwrites ix st t) ∨
      ∃ pre st post, steps = pre ++ st :: post ∧
        storedCursor ix (runAll ix s pre).1 st t = some c ∧
        ∀ st' ∈ post, ¬Overwrites ix st' t := by
  -- induction on the run from its first step, for every state it starts from
  induction steps generalizing s with
  | nil => simp
  | cons st steps ih =>
    rw [runAll_cons, ih, exists_split_cons]
    simp only [runAll_nil, runAll_cons, List.forall_mem_cons, exec_snd]
    rw [termCursor?_after_step_eq_some]
    simp only [or_and_right, and_assoc, or_assoc]

/-! ### Asking for cursors -/

/-- Whether step `st` of worker `w` asks for the cursor of a term that is not cached: a
document-frequency read or a positioned cursor of such a term. -/
def missesCursor (w : Worker C) : ReaderStep → Bool
  | .docFreq t | .termsFrom t => (w.caches.termCursor? t).isNone
  | _ => false

/-- Whether a step puts a newly asked cursor under a term. -/
def putsCursor : ReaderStep → Bool
  | .putTermCursor _ _ => true
  | _ => false

/-- The steps of a run that ask for the cursor of a term not cached at that moment. -/
def cursorMisses (ix : Index C) : Worker C × Shared → List ReaderStep → Nat
  | _, [] => 0
  | s, st :: steps =>
    (if st.missesCursor s.1 then 1 else 0) + cursorMisses ix (exec ix s st).2 steps

/-- A step asks the provider for one cursor for a miss and one for a put, whether or not the
provider opens and moves it, and for no other. -/
theorem opened_after_step (ix : Index C) (w : Worker C) (sh : Shared) (st : ReaderStep) :
    (st.run ix w sh).2.2.opened =
      sh.opened + (if st.missesCursor w then 1 else 0) + (if st.putsCursor then 1 else 0) := by
  cases st with
  | document o sel query =>
    rw [shared_after_document]
    simp [missesCursor, putsCursor]
  | docFreq t =>
    rw [shared_after_docFreq]
    split <;> simp_all [missesCursor, putsCursor]
  | termsFrom t =>
    rw [shared_after_termsFrom]
    split <;> simp_all [missesCursor, putsCursor]
  | putTermCursor t target =>
    rw [shared_after_putTermCursor]
    simp [missesCursor, putsCursor]
  | accumulate f ps =>
    rw [run_accumulate]
    cases ix.accumulator.accumulate w.caches f ps <;> simp [missesCursor, putsCursor]
  | insertRow _ | insertColumn _ _ _ | fetch _ _ | setNorm _ _ _ | termVectorMapper _ _
  | termFreqVectors _ =>
    simp only [run]
    split <;> simp [missesCursor, putsCursor]
  | _ => simp [run, missesCursor, putsCursor]

/-- Along a run, the provider is asked for one cursor for each step that asks for the cursor of
a term not cached at that moment and one for each put, and for no other. -/
theorem opened_runAll (ix : Index C) (s : Worker C × Shared) (steps : List ReaderStep) :
    (runAll ix s steps).2.opened =
      s.2.opened + cursorMisses ix s steps + steps.countP putsCursor := by
  -- induction on the run from its first step, for every state it starts from
  induction steps generalizing s with
  | nil => simp [cursorMisses]
  | cons st steps ih =>
    have hstep : (exec ix s st).2.2.opened = _ := opened_after_step ix s.1 s.2 st
    rw [runAll_cons, ih, hstep]
    simp only [cursorMisses, List.countP_cons]
    omega

/-! ### The term-cursor operations -/

/-- A document-frequency read of a cached term answers from its cursor and changes nothing. -/
lemma run_docFreq_hit {ix : Index C} {w : Worker C} {t : Term} {c : C}
    (h : w.caches.termCursor? t = some c) (sh : Shared) :
    (docFreq t).run ix w sh = (.ok (.docFreq (ix.cursors.docFreq c)), w, sh) := by
  rw [run_docFreq, h]

/-- A document-frequency read of a term not cached asks for one cursor, moves it to the term and
caches it there, whether or not a term was found, and answers from it; when the cursor cannot
be opened or moved, the read fails and caches nothing. -/
lemma run_docFreq_miss {ix : Index C} {w : Worker C} {t : Term}
    (h : w.caches.termCursor? t = none) (sh : Shared) :
    (docFreq t).run ix w sh =
      match ix.freshCursor t with
      | .ok (_, c) => (.ok (.docFreq (ix.cursors.docFreq c)), w.putTermCursor t c,
          { sh with opened := sh.opened + 1 })
      | .error e => (.error (.error e), w, { sh with opened := sh.opened + 1 }) := by
  -- the step equation's match on the cache, at a miss
  have hrun := run_docFreq ix w sh t
  rw [h] at hrun
  exact hrun

/-- The term-cursor cache of a worker, for any cursor provider: after any run of a new worker, a
term holds the cursor that the last put of it, or document-frequency miss on it, stored since
the last invalidation; the operations ask the provider for a cursor exactly on a miss or a put,
and a failed request caches nothing. -/
theorem term_cursor_cache_follows_puts_and_misses (ix : Index C) (sh : Shared)
    (steps : List ReaderStep) :
    (∀ t c, (runAll ix (ix.worker, sh) steps).1.caches.termCursor? t = some c ↔
      ∃ pre st post, steps = pre ++ st :: post ∧
        storedCursor ix (runAll ix (ix.worker, sh) pre).1 st t = some c ∧
        ∀ st' ∈ post, ¬Overwrites ix st' t) ∧
    (∀ (w : Worker C) (sh : Shared) (t : Term) (c : C), w.caches.termCursor? t = some c →
      (docFreq t).run ix w sh = (.ok (.docFreq (ix.cursors.docFreq c)), w, sh)) ∧
    (∀ (w : Worker C) (sh : Shared) (t : Term), w.caches.termCursor? t = none →
      (docFreq t).run ix w sh =
        match ix.freshCursor t with
        | .ok (_, c) => (.ok (.docFreq (ix.cursors.docFreq c)), w.putTermCursor t c,
            { sh with opened := sh.opened + 1 })
        | .error e => (.error (.error e), w, { sh with opened := sh.opened + 1 })) ∧
    (∀ (w : Worker C) (sh : Shared) (t : Term), ((termsFrom t).run ix w sh).2.1 = w) ∧
    (∀ (w : Worker C) (sh : Shared) (t : Term) (c : C), w.caches.termCursor? t = some c →
      ((w.termsFrom ix t).run).run sh =
        ((ix.cursors.skipTo c t).map fun r => if r.1 then some r.2 else none, sh)) ∧
    (∀ (w : Worker C) (sh : Shared) (t : Term), w.caches.termCursor? t = none →
      ((w.termsFrom ix t).run).run sh =
        ((ix.freshCursor t).map fun r => if r.1 then some r.2 else none,
          { sh with opened := sh.opened + 1 })) ∧
    (runAll ix (ix.worker, sh) steps).2.opened =
      sh.opened + cursorMisses ix (ix.worker, sh) steps + steps.countP putsCursor := by
  -- a new worker has no cursor cache yet
  have hfresh : ∀ t, ix.worker.caches.termCursor? t = none := fun _ => rfl
  refine ⟨fun t c => ?_, fun w sh t c h => run_docFreq_hit h sh,
    fun w sh t h => run_docFreq_miss h sh, fun w sh t => run_termsFrom ix w sh t,
    fun w sh t c h => termsFrom_hit h sh, fun w sh t h => termsFrom_miss h sh,
    opened_runAll ix _ steps⟩
  rw [termCursor?_runAll]
  simp [hfresh]

end ReaderStep

end Session

end StoredDocs
