import Mathlib

/-! Fields of a register of fixed width: `n` bits from bit `s` on, read through a mask and a shift
and written without disturbing the rest. -/
namespace RegisterFields

variable {w : ℕ}

/-- Ones in the `n` bits from bit `s` on. -/
def mask (w s n : ℕ) : BitVec w := BitVec.ofNat w (2 ^ n - 1) <<< s

def get (s n : ℕ) (v : BitVec w) : BitVec w := (v &&& mask w s n) >>> s

def set (s n : ℕ) (v x : BitVec w) : BitVec w :=
  (v &&& ~~~mask w s n) ||| ((x &&& mask w 0 n) <<< s)

lemma getLsbD_mask (w s n i : ℕ) :
    (mask w s n).getLsbD i = decide (i < w ∧ s ≤ i ∧ i < s + n) := by
  unfold mask
  rw [BitVec.getLsbD_shiftLeft, BitVec.getLsbD_ofNat, Nat.testBit_two_pow_sub_one, Bool.eq_iff_iff]
  simp
  omega

lemma getLsbD_get (s n : ℕ) (v : BitVec w) (i : ℕ) :
    (get s n v).getLsbD i = (decide (i < n) && v.getLsbD (s + i)) := by
  unfold get
  rw [BitVec.getLsbD_ushiftRight, BitVec.getLsbD_and, getLsbD_mask]
  by_cases hlt : s + i < w
  · simp [hlt, Bool.and_comm]
  · rw [BitVec.getLsbD_of_ge v _ (Nat.le_of_not_lt hlt)]
    simp

lemma getLsbD_set (s n : ℕ) (v x : BitVec w) (i : ℕ) :
    (set s n v x).getLsbD i =
      if s ≤ i ∧ i < s + n then decide (i < w) && x.getLsbD (i - s) else v.getLsbD i := by
  unfold set
  rw [BitVec.getLsbD_or, BitVec.getLsbD_and, BitVec.getLsbD_not, BitVec.getLsbD_shiftLeft,
    BitVec.getLsbD_and, getLsbD_mask, getLsbD_mask]
  by_cases hw : i < w
  · by_cases hin : s ≤ i ∧ i < s + n
    · have hbelow : i - s < w ∧ i - s < n := by omega
      simp [hw, hin, hbelow]
    · by_cases hs : s ≤ i
      · have hpast : ¬ i < s + n := fun hlt => hin ⟨hs, hlt⟩
        have hpast' : ¬ i - s < n := by omega
        simp [hw, hs, hpast, hpast']
      · simp [hw, hs, Nat.lt_of_not_le hs]
  · simp [hw, BitVec.getLsbD_of_ge v i (Nat.le_of_not_lt hw)]

/-- What is written to a field is read from it. -/
lemma get_set {s n : ℕ} (h : s + n ≤ w) (v x : BitVec w) :
    get s n (set s n v x) = x &&& mask w 0 n := by
  apply BitVec.eq_of_getLsbD_eq
  intro i hi
  rw [getLsbD_get, getLsbD_set, BitVec.getLsbD_and, getLsbD_mask]
  by_cases hn : i < n
  · have hlt : s + i < w := by omega
    simp [hn, hi, hlt]
  · simp [hn]

/-- Writing one field leaves another as it was. -/
lemma get_set_of_disjoint {s n s' n' : ℕ} (h : s + n ≤ s' ∨ s' + n' ≤ s) (v x : BitVec w) :
    get s n (set s' n' v x) = get s n v := by
  apply BitVec.eq_of_getLsbD_eq
  intro i _
  rw [getLsbD_get, getLsbD_get, getLsbD_set]
  by_cases hn : i < n
  · rw [if_neg (by omega)]
  · simp [hn]

end RegisterFields
