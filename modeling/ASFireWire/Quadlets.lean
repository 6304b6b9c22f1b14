import Mathlib

/-! Quadlets in byte memory: the four bytes of a 32-bit number in either order, and reading
numbers back from a byte string. Reads past the end see zeros. -/
namespace Quadlets

variable {bytes front rest : List UInt8} {i v : ℕ}

def byteAt (bytes : List UInt8) (i : ℕ) : ℕ := (bytes.getD i 0).toNat

/-- Little-endian quadlet at byte `i`. -/
def le32At (bytes : List UInt8) (i : ℕ) : ℕ :=
  byteAt bytes i + 2 ^ 8 * byteAt bytes (i + 1) + 2 ^ 16 * byteAt bytes (i + 2) +
    2 ^ 24 * byteAt bytes (i + 3)

/-- Big-endian quadlet at byte `i`. -/
def be32At (bytes : List UInt8) (i : ℕ) : ℕ :=
  byteAt bytes (i + 3) + 2 ^ 8 * byteAt bytes (i + 2) + 2 ^ 16 * byteAt bytes (i + 1) +
    2 ^ 24 * byteAt bytes i

/-- The four bytes of a quadlet, least significant first. -/
def leBytes (v : ℕ) : List UInt8 :=
  [UInt8.ofNat v, UInt8.ofNat (v / 2 ^ 8), UInt8.ofNat (v / 2 ^ 16), UInt8.ofNat (v / 2 ^ 24)]

/-- The four bytes of a quadlet, most significant first. -/
def beBytes (v : ℕ) : List UInt8 := (leBytes v).reverse

@[simp] lemma length_leBytes (v : ℕ) : (leBytes v).length = 4 := rfl

@[simp] lemma length_beBytes (v : ℕ) : (beBytes v).length = 4 := rfl

lemma byteAt_lt (bytes : List UInt8) (i : ℕ) : byteAt bytes i < 2 ^ 8 := UInt8.toNat_lt _

lemma byteAt_append_left (h : i < front.length) : byteAt (front ++ rest) i = byteAt front i := by
  simp only [byteAt, List.getD_append _ _ _ _ h]

lemma byteAt_append_right (h : front.length ≤ i) :
    byteAt (front ++ rest) i = byteAt rest (i - front.length) := by
  simp only [byteAt, List.getD_append_right _ _ _ _ h]

lemma byteAt_drop (bytes : List UInt8) (n i : ℕ) : byteAt (bytes.drop n) i = byteAt bytes (n + i) := by
  simp [byteAt, List.getD_eq_getElem?_getD]

lemma byteAt_take (bytes : List UInt8) {n i : ℕ} (h : i < n) :
    byteAt (bytes.take n) i = byteAt bytes i := by
  simp [byteAt, List.getD_eq_getElem?_getD, h]

lemma byteAt_ofNat (n : ℕ) : (UInt8.ofNat n).toNat = n % 2 ^ 8 := by simp

/-- Each byte of a stored quadlet. -/
lemma byteAt_leBytes (v : ℕ) :
    byteAt (leBytes v) 0 = v % 2 ^ 8 ∧ byteAt (leBytes v) 1 = v / 2 ^ 8 % 2 ^ 8 ∧
      byteAt (leBytes v) 2 = v / 2 ^ 16 % 2 ^ 8 ∧ byteAt (leBytes v) 3 = v / 2 ^ 24 % 2 ^ 8 := by
  simp [byteAt, leBytes]

lemma byteAt_stored (v : ℕ) (rest : List UInt8) {i : ℕ} (h : i < 4) :
    byteAt (leBytes v ++ rest) i = byteAt (leBytes v) i := byteAt_append_left h

lemma byteAt_behind (v : ℕ) (rest : List UInt8) (i : ℕ) :
    byteAt (leBytes v ++ rest) (i + 4) = byteAt rest i := by
  rw [byteAt_append_right (by simp), length_leBytes, Nat.add_sub_cancel]

lemma le32At_behind (v : ℕ) (rest : List UInt8) (i : ℕ) :
    le32At (leBytes v ++ rest) (i + 4) = le32At rest i := by
  have hsucc : ∀ k, i + 4 + k = i + k + 4 := by omega
  simp only [le32At, hsucc, byteAt_behind]

/-- Reading back a stored quadlet. -/
lemma le32At_stored (v : ℕ) (rest : List UInt8) : le32At (leBytes v ++ rest) 0 = v % 2 ^ 32 := by
  obtain ⟨h0, h1, h2, h3⟩ := byteAt_leBytes v
  simp only [le32At, Nat.zero_add, byteAt_stored v rest (by omega : 0 < 4),
    byteAt_stored v rest (by omega : 1 < 4), byteAt_stored v rest (by omega : 2 < 4),
    byteAt_stored v rest (by omega : 3 < 4), h0, h1, h2, h3]
  omega

lemma le32At_append_right (front rest : List UInt8) (i : ℕ) :
    le32At (front ++ rest) (front.length + i) = le32At rest i := by
  have hbyte : ∀ k, byteAt (front ++ rest) (front.length + k) = byteAt rest k := by
    intro k
    rw [byteAt_append_right (by omega), Nat.add_sub_cancel_left]
  simp only [le32At, Nat.add_assoc, hbyte]

/-- Writing back four bytes read as a quadlet. -/
lemma leBytes_le32At (h : bytes.length = 4) : leBytes (le32At bytes 0) = bytes := by
  obtain ⟨b0, b1, b2, b3, rfl⟩ : ∃ b0 b1 b2 b3, bytes = [b0, b1, b2, b3] := by
    match bytes, h with
    | [b0, b1, b2, b3], _ => exact ⟨b0, b1, b2, b3, rfl⟩
  have h0 := b0.toNat_lt
  have h1 := b1.toNat_lt
  have h2 := b2.toNat_lt
  have h3 := b3.toNat_lt
  have hbytes : ∀ n (b : UInt8), n % 2 ^ 8 = b.toNat → UInt8.ofNat n = b := by
    intro n b hn
    rw [← UInt8.toNat_inj, byteAt_ofNat, hn]
  simp only [leBytes, le32At, byteAt, List.getD_cons_zero, List.getD_cons_succ, List.cons.injEq,
    and_true]
  refine ⟨hbytes _ _ ?_, hbytes _ _ ?_, hbytes _ _ ?_, hbytes _ _ ?_⟩ <;> omega

/-- The quadlet with its bytes in the other order. -/
def swap32 (v : ℕ) : ℕ := be32At (leBytes v) 0

lemma be32At_lt (bytes : List UInt8) (i : ℕ) : be32At bytes i < 2 ^ 32 := by
  have h0 := byteAt_lt bytes i
  have h1 := byteAt_lt bytes (i + 1)
  have h2 := byteAt_lt bytes (i + 2)
  have h3 := byteAt_lt bytes (i + 3)
  unfold be32At
  omega

lemma swap32_eq (v : ℕ) : swap32 v =
    v / 2 ^ 24 % 2 ^ 8 + 2 ^ 8 * (v / 2 ^ 16 % 2 ^ 8) + 2 ^ 16 * (v / 2 ^ 8 % 2 ^ 8) +
      2 ^ 24 * (v % 2 ^ 8) := by
  obtain ⟨h0, h1, h2, h3⟩ := byteAt_leBytes v
  simp only [swap32, be32At, Nat.zero_add, h0, h1, h2, h3]

lemma swap32_ofBytes {a b c d : ℕ} (ha : a < 2 ^ 8) (hb : b < 2 ^ 8) (hc : c < 2 ^ 8)
    (hd : d < 2 ^ 8) :
    swap32 (a + 2 ^ 8 * b + 2 ^ 16 * c + 2 ^ 24 * d) =
      d + 2 ^ 8 * c + 2 ^ 16 * b + 2 ^ 24 * a := by
  have h0 : (a + 2 ^ 8 * b + 2 ^ 16 * c + 2 ^ 24 * d) % 2 ^ 8 = a := by omega
  have h1 : (a + 2 ^ 8 * b + 2 ^ 16 * c + 2 ^ 24 * d) / 2 ^ 8 % 2 ^ 8 = b := by omega
  have h2 : (a + 2 ^ 8 * b + 2 ^ 16 * c + 2 ^ 24 * d) / 2 ^ 16 % 2 ^ 8 = c := by omega
  have h3 : (a + 2 ^ 8 * b + 2 ^ 16 * c + 2 ^ 24 * d) / 2 ^ 24 % 2 ^ 8 = d := by omega
  rw [swap32_eq, h0, h1, h2, h3]

/-- Swapping twice gives a quadlet back. -/
lemma swap32_swap32 (v : ℕ) : swap32 (swap32 v) = v % 2 ^ 32 := by
  have hlt : ∀ n, n % 2 ^ 8 < 2 ^ 8 := fun n => Nat.mod_lt n (by norm_num)
  rw [swap32_eq v, swap32_ofBytes (hlt _) (hlt _) (hlt _) (hlt _)]
  omega

end Quadlets
