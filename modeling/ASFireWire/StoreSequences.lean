import ASFireWire.Runs

/-! Sequences of stores into a memory of named cells, and what a reader that may look between any
two of them sees. -/
namespace StoreSequences

open Runs

variable {ι α : Type*} [DecidableEq ι] {m : ι → α} {i : ι} {v : α} {stores : List (ι × α)}

def store (m : ι → α) (w : ι × α) : ι → α := Function.update m w.1 w.2

/-- `P` holds of the memory after each of the stores. -/
def Throughout (P : (ι → α) → Prop) (m : ι → α) (stores : List (ι × α)) : Prop :=
  Meets store (fun m w => P (store m w)) m stores

/-- Storing one value a cell, cell after cell. -/
lemma run_image (m : ι → α) (cells : List ι) (f : ι → α) (i : ι) :
    run store m (cells.map fun c => (c, f c)) i = if i ∈ cells then f i else m i := by
  induction cells generalizing m with
  | nil => simp
  | cons c cells ih =>
    rw [List.map_cons, run_cons, ih]
    by_cases hmem : i ∈ cells
    · simp [hmem]
    · by_cases hc : i = c
      · subst hc
        simp [hmem, store]
      · simp [hmem, hc, store]

lemma store_kept {w : ι × α} (h : w.1 = i → w.2 = v) (hm : m i = v) : store m w i = v := by
  by_cases hw : w.1 = i
  · have hval := h hw
    simp [store, hw, hval]
  · have hne : i ≠ w.1 := fun heq => hw heq.symm
    simp [store, Function.update_of_ne hne, hm]

/-- What holds wherever the cell has its value holds throughout stores that keep it. -/
lemma throughout_of_kept {P : (ι → α) → Prop} (hP : ∀ m : ι → α, m i = v → P m)
    (h : ∀ w ∈ stores, w.1 = i → w.2 = v) (hm : m i = v) : Throughout P m stores := by
  induction stores generalizing m with
  | nil => trivial
  | cons w stores ih =>
    have hnext : store m w i = v := store_kept (h w List.mem_cons_self) hm
    exact ⟨hP _ hnext, ih (fun w' hw' => h w' (List.mem_cons_of_mem _ hw')) hnext⟩

/-- Storing what is there already changes nothing. -/
lemma throughout_of_same {P : (ι → α) → Prop} (hP : P m) (h : ∀ w ∈ stores, m w.1 = w.2) :
    Throughout P m stores := by
  induction stores with
  | nil => trivial
  | cons w stores ih =>
    have hsame : store m w = m := by
      rw [store, ← h w List.mem_cons_self, Function.update_eq_self]
    have hrest := ih fun w' hw' => h w' (List.mem_cons_of_mem _ hw')
    rw [← hsame] at hrest hP
    exact ⟨hP, hrest⟩

lemma throughout_append {P : (ι → α) → Prop} {stores' : List (ι × α)} :
    Throughout P m (stores ++ stores') ↔
      Throughout P m stores ∧ Throughout P (run store m stores) stores' := meets_append

lemma throughout_cons {P : (ι → α) → Prop} {w : ι × α} :
    Throughout P m (w :: stores) ↔ P (store m w) ∧ Throughout P (store m w) stores := Iff.rfl

end StoreSequences
