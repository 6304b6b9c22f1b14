import Mathlib

/-! Runs of a deterministic step function over a list of events, and the invariant rules used
for every state machine of the development. -/
namespace Runs

variable {σ ε : Type*} {step : σ → ε → σ} {I : σ → Prop} {C : σ → ε → Prop}

def run (step : σ → ε → σ) (s : σ) (events : List ε) : σ := events.foldl step s

/-- Every event of the run meets the condition in the state it is taken from. -/
def Meets (step : σ → ε → σ) (C : σ → ε → Prop) : σ → List ε → Prop
  | _, [] => True
  | s, e :: events => C s e ∧ Meets step C (step s e) events

instance decidableMeets (step : σ → ε → σ) (C : σ → ε → Prop) [∀ s e, Decidable (C s e)] :
    ∀ (s : σ) (events : List ε), Decidable (Meets step C s events)
  | _, [] => isTrue trivial
  | s, e :: events =>
    have := decidableMeets step C (step s e) events
    inferInstanceAs (Decidable (C s e ∧ Meets step C (step s e) events))

@[simp] lemma run_nil (s : σ) : run step s [] = s := rfl

@[simp] lemma run_cons (s : σ) (e : ε) (events : List ε) :
    run step s (e :: events) = run step (step s e) events := rfl

lemma run_append (s : σ) (es es' : List ε) :
    run step s (es ++ es') = run step (run step s es) es' := List.foldl_append

lemma meets_append {s : σ} {es es' : List ε} :
    Meets step C s (es ++ es') ↔ Meets step C s es ∧ Meets step C (run step s es) es' := by
  induction es generalizing s with
  | nil => simp [Meets]
  | cons e es ih => simp [Meets, ih, and_assoc]

lemma Meets.take {s : σ} {events : List ε} (h : Meets step C s events) (n : ℕ) :
    Meets step C s (events.take n) := by
  rw [← List.take_append_drop n events, meets_append] at h
  exact h.1

lemma Meets.and {D : σ → ε → Prop} {s : σ} {events : List ε} (h : Meets step C s events)
    (h' : Meets step D s events) : Meets step (fun s e => C s e ∧ D s e) s events := by
  induction events generalizing s with
  | nil => trivial
  | cons e events ih => exact ⟨⟨h.1, h'.1⟩, ih h.2 h'.2⟩

/-- A condition on the events alone. -/
lemma meets_of_forall {E : ε → Prop} {s : σ} {events : List ε} (h : ∀ e ∈ events, E e) :
    Meets step (fun _ e => E e) s events := by
  induction events generalizing s with
  | nil => trivial
  | cons e events ih => exact ⟨h e (by simp), ih fun e' he' => h e' (by simp [he'])⟩

/-- What every conditioned step preserves, every conditioned run preserves. -/
theorem invariant_run_of_meets (hstep : ∀ s e, I s → C s e → I (step s e)) {s : σ} (h : I s)
    {events : List ε} (hmeets : Meets step C s events) : I (run step s events) := by
  induction events generalizing s with
  | nil => exact h
  | cons e events ih => exact ih (hstep s e h hmeets.1) hmeets.2

/-- Two conditions that agree wherever the first one has kept the invariant so far. -/
theorem meets_congr {D : σ → ε → Prop} (hiff : ∀ s e, I s → (C s e ↔ D s e))
    (hstep : ∀ s e, I s → C s e → I (step s e)) {s : σ} (h : I s) (events : List ε) :
    Meets step C s events ↔ Meets step D s events := by
  induction events generalizing s with
  | nil => exact Iff.rfl
  | cons e events ih =>
    constructor
    · intro hmeets
      exact ⟨(hiff s e h).mp hmeets.1, (ih (hstep s e h hmeets.1)).mp hmeets.2⟩
    · intro hmeets
      have hc := (hiff s e h).mpr hmeets.1
      exact ⟨hc, (ih (hstep s e h hc)).mpr hmeets.2⟩

theorem invariant_run (hstep : ∀ s e, I s → I (step s e)) {s : σ} (h : I s) (events : List ε) :
    I (run step s events) := by
  induction events generalizing s with
  | nil => exact h
  | cons e events ih => exact ih (hstep s e h)

/-- Among events that meet `D`: where a step keeps `P` exactly if its event meets the condition,
`P` holds all along a run exactly if every event does. -/
theorem forall_take_iff_meets_of_meets {P : σ → Prop} {D : σ → ε → Prop}
    (hiff : ∀ s e, I s → D s e → P s → (P (step s e) ↔ C s e))
    (hstep : ∀ s e, I s → D s e → C s e → I (step s e)) {s : σ} (h : I s) (hp : P s)
    {events : List ε} (hmeets : Meets step D s events) :
    (∀ k, P (run step s (events.take k))) ↔ Meets step C s events := by
  induction events generalizing s with
  | nil => exact iff_of_true (fun k => by simpa using hp) trivial
  | cons e events ih =>
    obtain ⟨hd, hmeets⟩ := hmeets
    constructor
    · intro hall
      have hc := (hiff s e h hd hp).mp (hall 1)
      exact ⟨hc, (ih (hstep s e h hd hc) (hall 1) hmeets).mp fun k => hall (k + 1)⟩
    · rintro ⟨hc, hrest⟩ k
      have hnext := (hiff s e h hd hp).mpr hc
      cases k with
      | zero => exact hp
      | succ k => exact (ih (hstep s e h hd hc) hnext hmeets).mpr hrest k

end Runs
