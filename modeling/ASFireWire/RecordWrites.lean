import Mathlib

/-! Records written into a buffer at given offsets: what a record leaves alone, and that records
which do not overlap are read back whole, whatever the order they are written in. -/
namespace RecordWrites

variable {α : Type*}

def writeAt (buffer : List α) : ℕ → List α → List α
  | _, [] => buffer
  | start, cell :: record => writeAt (buffer.set start cell) (start + 1) record

def writeAll (buffer : List α) : List (ℕ × List α) → List α
  | [] => buffer
  | write :: writes => writeAll (writeAt buffer write.1 write.2) writes

/-- Cell `j` belongs to the record. -/
def Covers (write : ℕ × List α) (j : ℕ) : Prop := write.1 ≤ j ∧ j < write.1 + write.2.length

def Apart (first second : ℕ × List α) : Prop := ∀ j, ¬ (Covers first j ∧ Covers second j)

variable {buffer record : List α} {start i j : ℕ} {write : ℕ × List α}
  {writes : List (ℕ × List α)}

@[simp] lemma length_writeAt : (writeAt buffer start record).length = buffer.length := by
  induction record generalizing buffer start with
  | nil => rfl
  | cons cell record ih => rw [writeAt, ih, List.length_set]

lemma writeAt_outside (h : ¬ Covers (start, record) j) :
    (writeAt buffer start record)[j]? = buffer[j]? := by
  induction record generalizing buffer start with
  | nil => rfl
  | cons cell record ih =>
    simp only [Covers, List.length_cons] at h ih
    rw [writeAt, ih (by omega), List.getElem?_set_ne (by omega)]

lemma writeAt_inside (hfits : start + record.length ≤ buffer.length) (hi : i < record.length) :
    (writeAt buffer start record)[start + i]? = record[i]? := by
  induction record generalizing buffer start i with
  | nil => simp at hi
  | cons cell record ih =>
    simp only [List.length_cons] at hfits hi
    rw [writeAt]
    cases i with
    | zero =>
      rw [writeAt_outside (by simp [Covers]), Nat.add_zero, List.getElem?_set_self (by omega)]
      rfl
    | succ i =>
      have hrest := @ih (buffer.set start cell) (start + 1) i
        (by rw [List.length_set]; omega) (by omega)
      rw [show start + (i + 1) = start + 1 + i by omega, hrest, List.getElem?_cons_succ]

lemma writeAll_append (first second : List (ℕ × List α)) :
    writeAll buffer (first ++ second) = writeAll (writeAll buffer first) second := by
  induction first generalizing buffer with
  | nil => rfl
  | cons write first ih => exact ih

@[simp] lemma length_writeAll : (writeAll buffer writes).length = buffer.length := by
  induction writes generalizing buffer with
  | nil => rfl
  | cons write writes ih => rw [writeAll, ih, length_writeAt]

/-- Cells outside every record keep what they held. -/
lemma writeAll_outside (h : ∀ write ∈ writes, ¬ Covers write j) :
    (writeAll buffer writes)[j]? = buffer[j]? := by
  induction writes generalizing buffer with
  | nil => rfl
  | cons write writes ih =>
    rw [writeAll, ih fun other hmem => h other (List.mem_cons_of_mem _ hmem)]
    exact writeAt_outside (h write List.mem_cons_self)

/-- Records that do not overlap are all there in the end. -/
lemma writeAll_inside (write : ℕ × List α) (hapart : writes.Pairwise Apart)
    (hmem : write ∈ writes) (hfits : write.1 + write.2.length ≤ buffer.length)
    (hi : i < write.2.length) :
    (writeAll buffer writes)[write.1 + i]? = write.2[i]? := by
  induction writes generalizing buffer with
  | nil => simp at hmem
  | cons first writes ih =>
    obtain ⟨hfirst, hrest⟩ := List.pairwise_cons.mp hapart
    rw [writeAll]
    cases List.mem_cons.mp hmem with
    | inl heq =>
      subst heq
      have hcovers : Covers write (write.1 + i) := ⟨Nat.le_add_right _ _, by omega⟩
      rw [writeAll_outside fun other hother hcover =>
        hfirst other hother (write.1 + i) ⟨hcovers, hcover⟩]
      exact writeAt_inside hfits hi
    | inr hlater => exact ih hrest hlater (by rwa [length_writeAt])

end RecordWrites
