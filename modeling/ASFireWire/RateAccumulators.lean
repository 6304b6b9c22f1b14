import Mathlib

/-! An accumulator that gains `gain` at every step and gives away `quantum` whenever it can: how
often it has given after any number of steps, and what it still has. -/
namespace ASFireWire.RateAccumulators

variable (gain quantum : ℕ)

/-- What the accumulator has before step `n`. -/
def residue : ℕ → ℕ
  | 0 => 0
  | n + 1 =>
    if quantum ≤ residue n + gain then residue n + gain - quantum else residue n + gain

/-- Step `n` gives: with what it gains there is a quantum. -/
def Gives (n : ℕ) : Prop := quantum ≤ residue gain quantum n + gain

instance : DecidablePred (Gives gain quantum) := fun _ => inferInstanceAs (Decidable (_ ≤ _))

/-- How many of the first `n` steps give. -/
def given (n : ℕ) : ℕ := (List.range n).countP fun i => Gives gain quantum i

variable {gain quantum}

lemma residue_lt (hgain : gain ≤ quantum) (hquantum : 0 < quantum) (n : ℕ) :
    residue gain quantum n < quantum := by
  induction n with
  | zero => exact hquantum
  | succ n ih =>
    unfold residue
    split_ifs
    · omega
    · omega

lemma residue_of_gives {n : ℕ} (h : Gives gain quantum n) :
    residue gain quantum (n + 1) + quantum = residue gain quantum n + gain := by
  have hresidue : residue gain quantum (n + 1) = residue gain quantum n + gain - quantum := if_pos h
  unfold Gives at h
  omega

lemma residue_of_not_gives {n : ℕ} (h : ¬Gives gain quantum n) :
    residue gain quantum (n + 1) = residue gain quantum n + gain := if_neg h

lemma given_succ (n : ℕ) : given gain quantum (n + 1) =
    given gain quantum n + if Gives gain quantum n then 1 else 0 := by
  simp [given, List.range_succ]

/-- Nothing gained is lost. -/
lemma given_mul_add_residue (n : ℕ) :
    given gain quantum n * quantum + residue gain quantum n = n * gain := by
  induction n with
  | zero => simp [given, residue]
  | succ n ih =>
    have hgain : (n + 1) * gain = n * gain + gain := Nat.succ_mul n gain
    rw [given_succ, hgain, ← ih]
    by_cases hgives : Gives gain quantum n
    · have hresidue := residue_of_gives hgives
      rw [if_pos hgives, Nat.add_mul, Nat.one_mul]
      omega
    · rw [if_neg hgives, residue_of_not_gives hgives, Nat.add_zero]
      omega

/-- The accumulator gives at the rate it gains. -/
lemma given_eq (hgain : gain ≤ quantum) (hquantum : 0 < quantum) (n : ℕ) :
    given gain quantum n = n * gain / quantum := by
  have htotal : given gain quantum n * quantum + residue gain quantum n = n * gain :=
    given_mul_add_residue n
  rw [← htotal, Nat.add_comm,
    Nat.add_mul_div_right _ _ hquantum, Nat.div_eq_of_lt (residue_lt hgain hquantum n), Nat.zero_add]

end ASFireWire.RateAccumulators
