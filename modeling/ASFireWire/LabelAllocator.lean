import Mathlib

/-! The transaction-label allocator (`Async/Track/LabelAllocator`): a bitmap over the 64 labels,
a round-robin cursor and the ten-bit generation that only the generation tracker writes. -/
namespace ASFireWire.Async

def kMaxLabels : ℕ := 64

instance : NeZero kMaxLabels := ⟨by decide⟩

abbrev Label := Fin kMaxLabels

/-- `kGenerationMask = 0x03FF` keeps ten bits. -/
def kGenerationModulus : ℕ := 1024

structure LabelAllocator where
  bitmap : Label → Bool := fun _ => false
  generation : ℕ := 0
  nextLabel : Label := 0
  deriving DecidableEq

namespace LabelAllocator

def reset (_ : LabelAllocator) : LabelAllocator := {}

/-- Labels in the order one `Allocate` call tries them, from the cursor round to the cursor. -/
def attempts (start : Label) : List Label := (List.finRange kMaxLabels).map (start + ·)

/-- `Allocate`: the first free label at or after the cursor; `none` is `kInvalidLabel`. -/
def allocate (a : LabelAllocator) : LabelAllocator × Option Label :=
  match (attempts a.nextLabel).find? fun idx => !a.bitmap idx with
  | none => (a, none)
  | some idx =>
      ({ a with bitmap := Function.update a.bitmap idx true, nextLabel := idx + 1 }, some idx)

def free (a : LabelAllocator) (label : Label) : LabelAllocator :=
  { a with bitmap := Function.update a.bitmap label false }

def clearBitmap (a : LabelAllocator) : LabelAllocator :=
  { a with bitmap := fun _ => false, nextLabel := 0 }

def hasAnyLabelsInUse (a : LabelAllocator) : Bool := (List.finRange kMaxLabels).any a.bitmap

def isLabelInUse (a : LabelAllocator) (label : Label) : Bool := a.bitmap label

def setGeneration (a : LabelAllocator) (newGen : ℕ) : LabelAllocator :=
  { a with generation := newGen % kGenerationModulus }

def currentGeneration (a : LabelAllocator) : ℕ := a.generation % kGenerationModulus

lemma mem_attempts (start idx : Label) : idx ∈ attempts start := by
  simp only [attempts, List.mem_map, List.mem_finRange, true_and]
  exact ⟨idx - start, by abel⟩

/-- What one `Allocate` call does: it takes a free label, or every label is in use. -/
lemma allocate_cases (a : LabelAllocator) :
    (∃ idx, a.bitmap idx = false ∧ a.allocate =
      ({ a with bitmap := Function.update a.bitmap idx true, nextLabel := idx + 1 }, some idx)) ∨
    ((∀ idx, a.bitmap idx = true) ∧ a.allocate = (a, none)) := by
  unfold allocate
  split
  · rename_i hnone
    refine Or.inr ⟨fun idx => ?_, rfl⟩
    have h := List.find?_eq_none.mp hnone idx (mem_attempts _ idx)
    simpa using h
  · rename_i idx hsome
    have h := List.find?_some hsome
    exact Or.inl ⟨idx, by simpa using h, rfl⟩

lemma hasAnyLabelsInUse_eq_false {a : LabelAllocator} :
    a.hasAnyLabelsInUse = false ↔ ∀ l, a.bitmap l = false := by
  simp [hasAnyLabelsInUse]

@[simp] lemma allocate_currentGeneration (a : LabelAllocator) :
    a.allocate.1.currentGeneration = a.currentGeneration := by
  obtain ⟨idx, -, h⟩ | ⟨-, h⟩ := a.allocate_cases <;> rw [h] <;> rfl

@[simp] lemma free_currentGeneration (a : LabelAllocator) (label : Label) :
    (a.free label).currentGeneration = a.currentGeneration := rfl

@[simp] lemma clearBitmap_currentGeneration (a : LabelAllocator) :
    a.clearBitmap.currentGeneration = a.currentGeneration := rfl

lemma setGeneration_currentGeneration (a : LabelAllocator) (newGen : ℕ) :
    (a.setGeneration newGen).currentGeneration = newGen % kGenerationModulus := by
  simp [setGeneration, currentGeneration]

end LabelAllocator

end ASFireWire.Async
