import ASFireWire.Runs

/-! Machines that answer every event, and when two of them give the same answers: the rule for
comparing an implementation with what it is meant to implement. -/
namespace ObservedRuns

variable {σ τ ε ο : Type*} {impl : σ → ε → σ × ο} {spec : τ → ε → τ × ο} {R : σ → τ → Prop}
  {C : τ → ε → Prop}

/-- The answers to the events of a run. -/
def answers (step : σ → ε → σ × ο) : σ → List ε → List ο
  | _, [] => []
  | s, e :: events => (step s e).2 :: answers step (step s e).1 events

/-- The state without the answers. -/
def next (step : σ → ε → σ × ο) (s : σ) (e : ε) : σ := (step s e).1

/-- A simulation that is exact: where the condition holds it goes on with equal answers, where it
fails the answers differ. -/
theorem answers_eq_iff (hgood : ∀ s t e, R s t → C t e →
      (impl s e).2 = (spec t e).2 ∧ R (impl s e).1 (spec t e).1)
    (hbad : ∀ s t e, R s t → ¬ C t e → (impl s e).2 ≠ (spec t e).2) {s : σ} {t : τ} (h : R s t)
    (events : List ε) :
    answers impl s events = answers spec t events ↔ Runs.Meets (next spec) C t events := by
  induction events generalizing s t with
  | nil => exact iff_of_true rfl trivial
  | cons e events ih =>
    by_cases hc : C t e
    · obtain ⟨hanswer, hnext⟩ := hgood s t e h hc
      have hrest := ih hnext
      constructor
      · intro heq
        exact ⟨hc, hrest.mp (List.cons.inj heq).2⟩
      · intro hmeets
        exact List.cons_eq_cons.mpr ⟨hanswer, hrest.mpr hmeets.2⟩
    · exact iff_of_false (fun heq => hbad s t e h hc (List.cons.inj heq).1) fun hmeets => hc hmeets.1

end ObservedRuns
