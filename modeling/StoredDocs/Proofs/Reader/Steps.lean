import Mathlib
import StoredDocs.Session.Reader

/-!
# Steps of one worker

A run of one worker's reader is a list of steps taken in order against the shared state: the
reader's own operations, reads of its caches, and writes to the store made between them. This
module says once what each kind of step does, so that statements about whole runs never unfold
a step again.

The main statement, `worker_after_step`, lists everything a step can do to the worker's
caches: nothing, empty them all (`clearAll` and the lifecycle hooks), take the caches returned
by a successful document read or norm accumulation, or cache one term cursor.
-/

namespace StoredDocs

variable {C : Type}

/-- A cursor asked of the provider of an index and moved to a term: the result of the move, or
the failure to open or to move. -/
def Index.freshCursor (ix : Index C) (t : Term) : Except Error (Bool × C) :=
  ix.cursors.openCursor ix.name >>= fun c => ix.cursors.skipTo c t

namespace Session

namespace ReaderStep

/-- Whether a step empties the worker's caches: `clearAll` and the lifecycle hooks. -/
def invalidates : ReaderStep → Bool
  | .clearAll | .reopen | .commit | .close | .reset => true
  | _ => false

/-- A step of a worker as a transition of the worker and the shared state, with its answer. -/
def exec (ix : Index C) (s : Worker C × Shared) (st : ReaderStep) :
    Outcome ReaderReply × (Worker C × Shared) :=
  let (r, w, sh) := st.run ix s.1 s.2
  (r, (w, sh))

/-- The worker and the shared state after a run of steps. -/
def runAll (ix : Index C) (s : Worker C × Shared) (steps : List ReaderStep) : Worker C × Shared :=
  steps.foldl (fun s st => (exec ix s st).2) s

@[simp] lemma exec_snd (ix : Index C) (s : Worker C × Shared) (st : ReaderStep) :
    (exec ix s st).2 = ((st.run ix s.1 s.2).2.1, (st.run ix s.1 s.2).2.2) := rfl

@[simp] lemma runAll_nil (ix : Index C) (s : Worker C × Shared) : runAll ix s [] = s := rfl

lemma runAll_cons (ix : Index C) (s : Worker C × Shared) (st : ReaderStep) (steps : List ReaderStep) :
    runAll ix s (st :: steps) = runAll ix (exec ix s st).2 steps := rfl

/-! ### One lemma per kind of step -/

/-! ### Operations on the shared state -/

lemma access_bind {α β : Type} (x : Access α) (f : α → Access β) (sh : Shared) :
    ((x >>= f).run).run sh =
      match (x.run).run sh with
      | (.ok a, sh') => ((f a).run).run sh'
      | (.error e, sh') => (.error e, sh') := by
  simp only [ExceptT.run_bind, StateT.run_bind]
  rcases (x.run).run sh with ⟨e | a, sh'⟩ <;> rfl

lemma access_pure {α : Type} (a : α) (sh : Shared) :
    (((pure a : Access α)).run).run sh = (.ok a, sh) := rfl

lemma access_lift {α : Type} (r : Except Error α) (sh : Shared) :
    ((Access.lift r).run).run sh = (r, sh) := by
  cases r <;> rfl

/-- Asking for a cursor counts the request, whether or not the provider opens one. -/
lemma access_openCursor (ix : Index C) (sh : Shared) :
    (ix.openCursor.run).run sh =
      (ix.cursors.openCursor ix.name, { sh with opened := sh.opened + 1 }) := by
  unfold Index.openCursor
  rw [access_bind]
  exact access_lift _ _

lemma access_skipTo (ix : Index C) (c : C) (t : Term) (sh : Shared) :
    ((ix.skipTo c t).run).run sh = (ix.cursors.skipTo c t, sh) :=
  access_lift _ _

/-- An operation that starts by reading the shared state runs from that state. -/
lemma access_get_bind {α : Type} (sh : Shared) (f : Shared → Access α) :
    access sh (get >>= f) = access sh (f sh) := rfl

lemma run_document (ix : Index C) (w : Worker C) (sh : Shared) (o : UInt32) (sel : Selection)
    (query : Option (List String)) :
    (document o sel query).run ix w sh =
      match Assembly.getDocument sh.store ix.name ix.config.consistency w.caches o sel with
      | (store, .ok (d, c)) => (.ok (.document d query), ⟨c⟩, { sh with store })
      | (store, .error e) => (.error (.error e), w, { sh with store }) := by
  simp only [run]
  unfold Worker.document
  rw [access_get_bind]
  rcases Assembly.getDocument sh.store ix.name ix.config.consistency w.caches o sel with
    ⟨store, e | ⟨d, c⟩⟩ <;> rfl

lemma run_accumulate (ix : Index C) (w : Worker C) (sh : Shared) (f : String) (ps : List Posting) :
    (accumulate f ps).run ix w sh =
      match ix.accumulator.accumulate w.caches f ps with
      | .ok c => (.ok .ok, ⟨c⟩, sh)
      | .error e => (.error (.error e), w, sh) := by
  simp only [run, Worker.accumulateNorms]
  cases ix.accumulator.accumulate w.caches f ps <;> rfl

/-- A document-frequency read answers from the cached cursor of the term; for a term not
cached it asks the provider for a cursor, counting the request, moves it to the term and caches
it, and fails, caching nothing, when either fails. -/
lemma run_docFreq (ix : Index C) (w : Worker C) (sh : Shared) (t : Term) :
    (docFreq t).run ix w sh =
      match w.caches.termCursor? t with
      | some c => (.ok (.docFreq (ix.cursors.docFreq c)), w, sh)
      | none =>
        match ix.freshCursor t with
        | .ok (_, c) => (.ok (.docFreq (ix.cursors.docFreq c)), w.putTermCursor t c,
            { sh with opened := sh.opened + 1 })
        | .error e => (.error (.error e), w, { sh with opened := sh.opened + 1 }) := by
  simp only [run]
  unfold Worker.docFreq Worker.checkTermCursor Index.freshCursor
  cases w.caches.termCursor? t with
  | some c => rfl
  | none =>
    simp only [access, access_bind, access_openCursor]
    cases ix.cursors.openCursor ix.name with
    | error e => rfl
    | ok c =>
      simp only [access_skipTo]
      rw [show (Except.ok c >>= fun c => ix.cursors.skipTo c t) = ix.cursors.skipTo c t from rfl]
      cases ix.cursors.skipTo c t with
      | error e => rfl
      | ok r => rfl

lemma run_termsFrom (ix : Index C) (w : Worker C) (sh : Shared) (t : Term) :
    ((termsFrom t).run ix w sh).2.1 = w := by
  simp only [run]
  split <;> rfl

/-- A positioned cursor of a cached term moves a copy of the cached cursor, and asks the
provider for nothing. -/
lemma termsFrom_hit {ix : Index C} {w : Worker C} {t : Term} {c : C}
    (h : w.caches.termCursor? t = some c) (sh : Shared) :
    ((w.termsFrom ix t).run).run sh =
      ((ix.cursors.skipTo c t).map fun r => if r.1 then some r.2 else none, sh) := by
  unfold Worker.termsFrom Worker.checkTermCursor
  rw [h, access_bind]
  simp only [access_pure, access_bind, access_skipTo]
  cases ix.cursors.skipTo c t <;> rfl

/-- For a term not cached, a positioned cursor asks the provider for a cursor, counting the
request, and moves it. -/
lemma termsFrom_miss {ix : Index C} {w : Worker C} {t : Term}
    (h : w.caches.termCursor? t = none) (sh : Shared) :
    ((w.termsFrom ix t).run).run sh =
      ((ix.freshCursor t).map fun r => if r.1 then some r.2 else none,
        { sh with opened := sh.opened + 1 }) := by
  unfold Worker.termsFrom Worker.checkTermCursor Index.freshCursor
  rw [h, access_bind]
  simp only [access_openCursor]
  cases ix.cursors.openCursor ix.name with
  | error e => rfl
  | ok c =>
    simp only [access_bind, access_skipTo]
    rw [show (Except.ok c >>= fun c => ix.cursors.skipTo c t) = ix.cursors.skipTo c t from rfl]
    cases ix.cursors.skipTo c t <;> rfl

/-- A positioned cursor step answers the document frequency at the cursor, or none, and hands
the worker back. -/
lemma run_termsFrom_eq (ix : Index C) (w : Worker C) (sh : Shared) (t : Term) :
    (termsFrom t).run ix w sh =
      match ((w.termsFrom ix t).run).run sh with
      | (.ok c, sh') => (.ok (.cursor (c.map ix.cursors.docFreq)), w, sh')
      | (.error e, sh') => (.error (.error e), w, sh') := by
  simp only [run, access]
  rcases ((w.termsFrom ix t).run).run sh with ⟨e | c, sh'⟩ <;> rfl

/-- A cursor put asks the provider for a cursor, counting the request, moves it to the target
and caches it under the term; it fails, caching nothing, when either fails. -/
lemma run_putTermCursor (ix : Index C) (w : Worker C) (sh : Shared) (t : Term)
    (target : Option Term) :
    (putTermCursor t target).run ix w sh =
      match ix.freshCursor (target.getD t) with
      | .ok (found, c) => (.ok (.placed found (ix.cursors.docFreq c)), w.putTermCursor t c,
          { sh with opened := sh.opened + 1 })
      | .error e => (.error (.error e), w, { sh with opened := sh.opened + 1 }) := by
  simp only [run, access, access_bind, access_openCursor, Index.freshCursor]
  cases ix.cursors.openCursor ix.name with
  | error e => rfl
  | ok c =>
    simp only [access_skipTo]
    rw [show (Except.ok c >>= fun c => ix.cursors.skipTo c (target.getD t)) =
      ix.cursors.skipTo c (target.getD t) from rfl]
    cases ix.cursors.skipTo c (target.getD t) with
    | error e => rfl
    | ok r => rfl

lemma run_of_invalidates (ix : Index C) (w : Worker C) (sh : Shared) {st : ReaderStep}
    (h : st.invalidates = true) : st.run ix w sh = (.ok .ok, w.clearAll, sh) := by
  cases st <;> first | rfl | simp [invalidates] at h

/-- Whether a step may change the worker's caches: a document read, an accumulation, a
document-frequency read, a cursor put, or an invalidation. -/
def writesCaches (st : ReaderStep) : Bool :=
  match st with
  | .document .. | .accumulate .. | .docFreq _ | .putTermCursor .. => true
  | _ => st.invalidates

/-- Every other step reads the caches, the index or the store only, and hands the worker back
untouched. -/
lemma run_worker_of_writesCaches_false (ix : Index C) (w : Worker C) (sh : Shared)
    {st : ReaderStep} (h : st.writesCaches = false) : (st.run ix w sh).2.1 = w := by
  cases st with
  | document _ _ _ | accumulate _ _ | docFreq _ | putTermCursor _ _ | clearAll | reopen | commit
  | close | reset => simp [writesCaches, invalidates] at h
  | termsFrom t => exact run_termsFrom ix w sh t
  | insertRow _ | insertColumn _ _ _ | fetch _ _ | setNorm _ _ _ | termVectorMapper _ _
  | termFreqVectors _ =>
    simp only [run]
    split <;> rfl
  | index | norms _ | observed _ | stats | info _ | checkTermCursor _ | removeRow _
  | setUnavailable _ => rfl

/-! ### What the cursor steps do to the shared state -/

/-- A document-frequency read changes the shared state only by counting a request, on a miss. -/
lemma shared_after_docFreq (ix : Index C) (w : Worker C) (sh : Shared) (t : Term) :
    ((docFreq t).run ix w sh).2.2 =
      if (w.caches.termCursor? t).isNone then { sh with opened := sh.opened + 1 } else sh := by
  rw [run_docFreq]
  rcases w.caches.termCursor? t with _ | c
  · rcases ix.freshCursor t with e | r <;> rfl
  · rfl

/-- A positioned cursor step changes the shared state only by counting a request, on a miss. -/
lemma shared_after_termsFrom (ix : Index C) (w : Worker C) (sh : Shared) (t : Term) :
    ((termsFrom t).run ix w sh).2.2 =
      if (w.caches.termCursor? t).isNone then { sh with opened := sh.opened + 1 } else sh := by
  rw [run_termsFrom_eq]
  rcases hc : w.caches.termCursor? t with _ | c
  · rw [termsFrom_miss hc]
    cases (ix.freshCursor t).map (fun r => if r.1 then some r.2 else none) <;> rfl
  · rw [termsFrom_hit hc]
    cases (ix.cursors.skipTo c t).map (fun r => if r.1 then some r.2 else none) <;> rfl

/-- A cursor put changes the shared state only by counting its request. -/
lemma shared_after_putTermCursor (ix : Index C) (w : Worker C) (sh : Shared) (t : Term)
    (target : Option Term) :
    ((putTermCursor t target).run ix w sh).2.2 = { sh with opened := sh.opened + 1 } := by
  rw [run_putTermCursor]
  rcases ix.freshCursor (target.getD t) with e | r <;> rfl

/-! ### What a step can do to the worker -/

/-- A step leaves the worker as it was, or it succeeds and then empties the worker's caches,
takes the caches of a document read or a norm accumulation, or caches one term cursor. -/
theorem worker_after_step (ix : Index C) (w : Worker C) (sh : Shared) (st : ReaderStep) :
    (st.run ix w sh).2.1 = w ∨
    (∃ r, (st.run ix w sh).1 = .ok r) ∧
      ((st.invalidates = true ∧ (st.run ix w sh).2.1 = w.clearAll) ∨
      (∃ o sel query store d c, st = .document o sel query ∧
        Assembly.getDocument sh.store ix.name ix.config.consistency w.caches o sel =
          (store, .ok (d, c)) ∧ (st.run ix w sh).2.1 = ⟨c⟩) ∨
      (∃ f ps c, st = .accumulate f ps ∧ ix.accumulator.accumulate w.caches f ps = .ok c ∧
        (st.run ix w sh).2.1 = ⟨c⟩) ∨
      (∃ t c, (st.run ix w sh).2.1 = w.putTermCursor t c)) := by
  cases hst : st.invalidates
  · cases st with
    | document o sel query =>
      rw [run_document]
      rcases hg : Assembly.getDocument sh.store ix.name ix.config.consistency w.caches o sel with
        ⟨store, e | ⟨d, c⟩⟩
      · exact Or.inl rfl
      · exact Or.inr ⟨⟨_, rfl⟩, Or.inr (Or.inl ⟨o, sel, query, store, d, c, rfl, hg, rfl⟩)⟩
    | accumulate f ps =>
      rw [run_accumulate]
      rcases hacc : ix.accumulator.accumulate w.caches f ps with e | c
      · exact Or.inl rfl
      · exact Or.inr ⟨⟨_, rfl⟩, Or.inr (Or.inr (Or.inl ⟨f, ps, c, rfl, hacc, rfl⟩))⟩
    | docFreq t =>
      rw [run_docFreq]
      rcases w.caches.termCursor? t with _ | c
      · rcases ix.freshCursor t with e | ⟨found, c⟩
        · exact Or.inl rfl
        · exact Or.inr ⟨⟨_, rfl⟩, Or.inr (Or.inr (Or.inr ⟨t, c, rfl⟩))⟩
      · exact Or.inl rfl
    | termsFrom t => exact Or.inl (run_termsFrom ix w sh t)
    | putTermCursor t target =>
      rw [run_putTermCursor]
      rcases ix.freshCursor (target.getD t) with e | ⟨found, c⟩
      · exact Or.inl rfl
      · exact Or.inr ⟨⟨_, rfl⟩, Or.inr (Or.inr (Or.inr ⟨t, c, rfl⟩))⟩
    | insertRow _ | insertColumn _ _ _ | fetch _ _ | setNorm _ _ _ | termVectorMapper _ _
    | termFreqVectors _ =>
      -- these answer from the store or the index and hand the worker back untouched
      left
      simp only [run]
      split <;> rfl
    | _ => first | exact Or.inl rfl | simp [invalidates] at hst
  · exact Or.inr ⟨⟨_, by rw [run_of_invalidates ix w sh hst]⟩,
      Or.inl ⟨rfl, by rw [run_of_invalidates ix w sh hst]⟩⟩

end ReaderStep

end Session

end StoredDocs
