import Mathlib

/-! First-fit search for an aligned gap in a list of intervals sorted by their starts. -/
namespace GapSearch

variable {a length c : ℕ} {occupied : List (ℕ × ℕ)}

def alignUp (value a : ℕ) : ℕ := (value + (a - 1)) / a * a

lemma dvd_alignUp (value a : ℕ) : a ∣ alignUp value a := Nat.dvd_mul_left _ _

lemma le_alignUp (value : ℕ) (ha : 0 < a) : value ≤ alignUp value a := by
  have hdiv := Nat.div_add_mod (value + (a - 1)) a
  have hmod := Nat.mod_lt (value + (a - 1)) ha
  unfold alignUp
  rw [mul_comm]
  omega

/-- The next multiple is the least one from `value` on. -/
lemma alignUp_le {x value : ℕ} (ha : 0 < a) (hx : a ∣ x) (hle : value ≤ x) :
    alignUp value a ≤ x := by
  obtain ⟨k, rfl⟩ := hx
  unfold alignUp
  rw [mul_comm a k]
  apply Nat.mul_le_mul_right
  rw [Nat.div_le_iff_le_mul_add_pred ha]
  omega

/-- Take the candidate before the first interval it fits in front of; behind an interval it does
not, go on from its end. -/
def firstFit (a length : ℕ) : ℕ → List (ℕ × ℕ) → ℕ
  | candidate, [] => candidate
  | candidate, (start, stop) :: occupied =>
    if stop ≤ candidate then firstFit a length candidate occupied
    else if candidate + length ≤ start then candidate
    else firstFit a length (alignUp stop a) occupied

/-- `length` cells from `x` on avoid an interval. -/
def Clear (length x : ℕ) (interval : ℕ × ℕ) : Prop :=
  x + length ≤ interval.1 ∨ interval.2 ≤ x

/-- The places from `c` on where `length` cells are free. -/
def gaps (a length c : ℕ) (occupied : List (ℕ × ℕ)) : Set ℕ :=
  {x | c ≤ x ∧ a ∣ x ∧ ∀ interval ∈ occupied, Clear length x interval}

/-- An interval below the candidate does not matter. -/
lemma gaps_skip {start stop : ℕ} (h : stop ≤ c) :
    gaps a length c ((start, stop) :: occupied) = gaps a length c occupied := by
  ext x
  constructor
  · rintro ⟨hc, hx, hclear⟩
    exact ⟨hc, hx, fun interval hmem => hclear interval (List.mem_cons_of_mem _ hmem)⟩
  · rintro ⟨hc, hx, hclear⟩
    refine ⟨hc, hx, fun interval hmem => ?_⟩
    rcases List.mem_cons.mp hmem with rfl | hmem
    · exact Or.inr (h.trans hc)
    · exact hclear interval hmem

/-- Nothing fits between a candidate that overlaps an interval and the end of that interval. -/
lemma gaps_pass {start stop : ℕ} (ha : 0 < a) (hstop : c < stop) (hstart : start < c + length) :
    gaps a length c ((start, stop) :: occupied) = gaps a length (alignUp stop a) occupied := by
  ext x
  constructor
  · rintro ⟨hc, hx, hclear⟩
    have hbehind : stop ≤ x := by
      rcases hclear (start, stop) List.mem_cons_self with h | h
      · have : x + length ≤ start := h
        omega
      · exact h
    exact ⟨alignUp_le ha hx hbehind, hx,
      fun interval hmem => hclear interval (List.mem_cons_of_mem _ hmem)⟩
  · rintro ⟨hc, hx, hclear⟩
    have hbehind : stop ≤ x := (le_alignUp stop ha).trans hc
    refine ⟨hstop.le.trans hbehind, hx, fun interval hmem => ?_⟩
    rcases List.mem_cons.mp hmem with rfl | hmem
    · exact Or.inr hbehind
    · exact hclear interval hmem

/-- The search ends at the lowest gap. -/
theorem firstFit_isLeast (ha : 0 < a) (hsorted : occupied.Pairwise fun i j => i.1 ≤ j.1)
    (hc : a ∣ c) : IsLeast (gaps a length c occupied) (firstFit a length c occupied) := by
  induction occupied generalizing c with
  | nil => exact ⟨⟨le_rfl, hc, by simp⟩, fun x hx => hx.1⟩
  | cons interval occupied ih =>
    obtain ⟨start, stop⟩ := interval
    obtain ⟨hfirst, hrest⟩ := List.pairwise_cons.mp hsorted
    unfold firstFit
    by_cases hstop : stop ≤ c
    · rw [if_pos hstop, gaps_skip hstop]
      exact ih hrest hc
    · rw [if_neg hstop]
      by_cases hfit : c + length ≤ start
      · rw [if_pos hfit]
        refine ⟨⟨le_rfl, hc, fun interval hmem => Or.inl ?_⟩, fun x hx => hx.1⟩
        rcases List.mem_cons.mp hmem with rfl | hmem
        · exact hfit
        · exact hfit.trans (hfirst interval hmem)
      · rw [if_neg hfit, gaps_pass ha (Nat.lt_of_not_le hstop) (Nat.lt_of_not_le hfit)]
        exact ih hrest (dvd_alignUp stop a)

end GapSearch
