import ASFireWire.Runs

/-! A measure that never grows along a run and falls at certain steps bounds their number. -/
namespace Rankings

open Runs

variable {σ ε : Type*} {step : σ → ε → σ} {I : σ → Prop} {C P : σ → ε → Prop}
  [∀ s e, Decidable (P s e)]

/-- Number of the steps of a run that are taken as `P` says. -/
def occurrences (step : σ → ε → σ) (P : σ → ε → Prop) [∀ s e, Decidable (P s e)] :
    σ → List ε → ℕ
  | _, [] => 0
  | s, e :: events => (if P s e then 1 else 0) + occurrences step P (step s e) events

/-- `W` may be lost along the way but is never regained, and while it holds the measure pays for
every step of the kind counted. -/
theorem occurrences_le {W : σ → Prop} (measure : σ → ℕ)
    (hI : ∀ s e, I s → C s e → I (step s e))
    (hstep : ∀ s e, I s → C s e → W (step s e) →
      W s ∧ (if P s e then 1 else 0) + measure (step s e) ≤ measure s)
    {s : σ} (h : I s) {events : List ε} (hmeets : Meets step C s events)
    (hW : W (run step s events)) : W s ∧ occurrences step P s events ≤ measure s := by
  induction events generalizing s with
  | nil => exact ⟨hW, Nat.zero_le _⟩
  | cons e events ih =>
    obtain ⟨hnext, hle⟩ := ih (hI s e h hmeets.1) hmeets.2 hW
    obtain ⟨hs, hpay⟩ := hstep s e h hmeets.1 hnext
    refine ⟨hs, ?_⟩
    simp only [occurrences]
    omega

end Rankings
