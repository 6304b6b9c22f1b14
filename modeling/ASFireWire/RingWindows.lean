import Mathlib

/-! Positions counted without end and their indices in a ring of `m` cells: within one turn an
index names one position. -/
namespace RingWindows

variable {m L x y : ℕ}

lemma eq_of_mod_eq (hx : L ≤ x) (hx' : x < L + m) (hy : L ≤ y) (hy' : y < L + m)
    (h : x % m = y % m) : x = y := by
  have hmod : x ≡ y [MOD m] := h
  apply hmod.eq_of_abs_lt
  rw [abs_lt]
  constructor <;> omega

lemma mod_add_small {f k : ℕ} (h : x % m = f) (hk : f + k < m) : (x + k) % m = f + k := by
  rw [Nat.add_mod, h, Nat.mod_eq_of_lt (by omega : k < m), Nat.mod_eq_of_lt hk]

/-- A position less than a turn behind another is in the same lap or in the next one. -/
lemma mod_laps (hL : L ≤ x) (hx : x < L + m) :
    (x = L + (x % m - L % m) ∧ L % m ≤ x % m) ∨ (x + L % m = L + m + x % m ∧ x % m < L % m) := by
  have hm : 0 < m := by omega
  have hl := Nat.div_add_mod L m
  have hLlt := Nat.mod_lt L hm
  have hxlt := Nat.mod_lt x hm
  rcases Nat.lt_or_ge x (L + (m - L % m)) with h | h
  · have hval : x % m = x - L + L % m := by
      have := mod_add_small (x := L) (k := x - L) rfl (by omega : L % m + (x - L) < m)
      rw [show L + (x - L) = x by omega] at this
      omega
    omega
  · have hbase : (L + (m - L % m)) % m = 0 := by
      rw [show L + (m - L % m) = m * (L / m) + m by omega, Nat.add_mod_right, Nat.mul_mod_right]
    have hval := mod_add_small (k := x - (L + (m - L % m))) hbase (by omega)
    rw [show L + (m - L % m) + (x - (L + (m - L % m))) = x by omega] at hval
    omega

/-- The cell `i` positions before a wrap at `M` is the one `q` positions behind it. -/
lemma mod_sub_eq_iff {M n i q : ℕ} (hiq : i + q < n) (hM : n ≤ M) :
    (M - i) % n = q % n ↔ M % n = i + q := by
  constructor
  · intro h
    have hcongr : (M - i) ≡ q [MOD n] := h
    have hsum : M - i + i ≡ q + i [MOD n] := hcongr.add_right i
    rw [show M - i + i = M by omega] at hsum
    have := hsum.trans (Nat.ModEq.refl (q + i))
    rw [show M % n = (q + i) % n from hsum, Nat.mod_eq_of_lt (by omega)]
    omega
  · intro h
    have hdiv := Nat.div_add_mod M n
    have hsub : M - i = q + n * (M / n) := by omega
    rw [hsub, Nat.add_mul_mod_self_left]

/-- Positions counted modulo `M` and then reduced to `n` cells: the next position shares its cell
with one of the last fewer than `n` positions only where the count wrapped in between and `n` does
not divide `M`. -/
theorem exists_wrapped_collision {M n R W : ℕ} (hM : n < M) (hRW : R ≤ W)
    (hroom : W < R + n) :
    (∃ j, R ≤ j ∧ j < W ∧ j % M % n = W % M % n) ↔ W % M < M % n ∧ M % n ≤ W - R := by
  have hWdiv := Nat.div_add_mod W M
  have hWlt := Nat.mod_lt W (by omega : 0 < M)
  set q := W % M with hq
  constructor
  · rintro ⟨j, hRj, hjW, hcell⟩
    rcases Nat.lt_or_ge j (M * (W / M)) with hbefore | hafter
    · have hlap : W / M ≠ 0 := by
        intro hzero
        rw [hzero] at hbefore
        omega
      have hmul : M * (W / M) = M * (W / M - 1) + M := by
        obtain ⟨k, hk⟩ := Nat.exists_eq_succ_of_ne_zero hlap
        rw [hk, Nat.succ_sub_one, Nat.mul_succ]
      have hj : j % M = M - (M * (W / M) - j) := by
        have hsplit : j = M * (W / M - 1) + (M - (M * (W / M) - j)) := by omega
        rw [hsplit, Nat.mul_add_mod, Nat.mod_eq_of_lt (by omega)]
        omega
      rw [hj, mod_sub_eq_iff (by omega) (by omega)] at hcell
      omega
    · have hj : j % M = j - M * (W / M) := by
        have hsplit : j = M * (W / M) + (j - M * (W / M)) := by omega
        rw [hsplit, Nat.mul_add_mod, Nat.mod_eq_of_lt (by omega)]
        omega
      rw [hj] at hcell
      have := eq_of_mod_eq (L := j - M * (W / M)) le_rfl (by omega) (by omega) (by omega) hcell
      omega
  · rintro ⟨hlt, hle⟩
    have hlap : W / M ≠ 0 := by
      intro hzero
      rw [hzero] at hWdiv
      omega
    have hmul : M * (W / M) = M * (W / M - 1) + M := by
      obtain ⟨k, hk⟩ := Nat.exists_eq_succ_of_ne_zero hlap
      rw [hk, Nat.succ_sub_one, Nat.mul_succ]
    refine ⟨M * (W / M) - (M % n - q), by omega, by omega, ?_⟩
    have hj : (M * (W / M) - (M % n - q)) % M = M - (M % n - q) := by
      have hsplit : M * (W / M) - (M % n - q) = M * (W / M - 1) + (M - (M % n - q)) := by omega
      rw [hsplit, Nat.mul_add_mod, Nat.mod_eq_of_lt (by omega)]
    rw [hj, mod_sub_eq_iff (by omega) (by omega)]
    omega
end RingWindows
