import Mathlib

/-! Logs of events kept newest first, and properties that hold of every event together with the
events before it. -/
namespace EventLog

variable {α : Type*} {P : α → List α → Prop} {log : List α}

/-- `P` holds of every event of the log and the log before it. -/
def Throughout (P : α → List α → Prop) : List α → Prop
  | [] => True
  | x :: log => P x log ∧ Throughout P log

theorem throughout_iff :
    Throughout P log ↔ ∀ newer x older, log = newer ++ x :: older → P x older := by
  induction log with
  | nil => simp [Throughout]
  | cons y log ih =>
    constructor
    · rintro ⟨hy, hlog⟩ newer x older h
      cases newer with
      | nil =>
        obtain ⟨rfl, rfl⟩ := List.cons.inj h
        exact hy
      | cons z newer => exact ih.mp hlog newer x older (List.cons.inj h).2
    · intro h
      refine ⟨h [] y log rfl, ih.mpr fun newer x older hlog => ?_⟩
      exact h (y :: newer) x older (by rw [hlog, List.cons_append])

/-- Events that keep `Q`, and satisfy `P` where `Q` holds, extend a log on which `Q` holds. -/
theorem Throughout.extend {Q : List α → Prop} {new : List α} (h : Throughout P log) (hQ : Q log)
    (hnew : ∀ x ∈ new, ∀ older, Q older → P x older ∧ Q (x :: older)) :
    Throughout P (new ++ log) ∧ Q (new ++ log) := by
  induction new with
  | nil => exact ⟨h, hQ⟩
  | cons x new ih =>
    obtain ⟨ht, hq⟩ := ih fun y hy => hnew y (List.mem_cons_of_mem x hy)
    obtain ⟨hP, hQ'⟩ := hnew x List.mem_cons_self _ hq
    exact ⟨⟨hP, ht⟩, hQ'⟩

end EventLog
