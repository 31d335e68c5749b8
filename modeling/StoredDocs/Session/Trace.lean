/-!
# Traces of scripts

A script is a list of steps run in order against a state. Its trace pairs the answer of each
step with the state after it, so that an answer can report what the step left behind.
-/

namespace StoredDocs.Session

/-- The answers of the steps with the state after each, starting from `s`. -/
def trace {σ β ρ : Type} (step : σ → β → ρ × σ) : σ → List β → List (ρ × σ)
  | _, [] => []
  | s, b :: bs =>
    let (r, s') := step s b
    (r, s') :: trace step s' bs

theorem length_trace {σ β ρ : Type} (step : σ → β → ρ × σ) (s : σ) (bs : List β) :
    (trace step s bs).length = bs.length := by
  induction bs generalizing s with
  | nil => rfl
  | cons b bs ih => simp [trace, ih]

/-- A property of states that every step keeps holds of every state of a trace. -/
theorem trace_invariant {σ β ρ : Type} {step : σ → β → ρ × σ} (P : σ → Prop)
    (hstep : ∀ s b, P s → P (step s b).2) {s : σ} (hs : P s) (bs : List β) :
    ∀ p ∈ trace step s bs, P p.2 := by
  induction bs generalizing s with
  | nil => exact fun _ hp => absurd hp List.not_mem_nil
  | cons b bs ih =>
    intro p hp
    rcases List.mem_cons.1 hp with rfl | hp
    · exact hstep s b hs
    · exact ih (hstep s b hs) p hp

end StoredDocs.Session
