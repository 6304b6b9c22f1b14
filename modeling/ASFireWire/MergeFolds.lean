import Mathlib

/-! Folding a merge over a sequence: what a merge of two keeps of them, the fold keeps of all. -/
namespace ASFireWire.MergeFolds

variable {α β : Type*} {merge : α → α → α}

/-- What a merge is exactly when one of the two is. -/
lemma foldl_iff {p : α → Prop} (h : ∀ a b, p (merge a b) ↔ p a ∨ p b) (first : α)
    (later : List α) : p (later.foldl merge first) ↔ ∃ x ∈ first :: later, p x := by
  induction later generalizing first with
  | nil => simp
  | cons next later ih =>
    rw [List.foldl_cons, ih]
    simp only [List.mem_cons, exists_eq_or_imp, h, or_assoc]

/-- A rank of which a merge takes the higher one. -/
lemma foldl_rank [LinearOrder β] (rank : α → β)
    (h : ∀ a b, rank (merge a b) = max (rank a) (rank b)) (first : α) (later : List α) :
    (∃ x ∈ first :: later, rank x = rank (later.foldl merge first)) ∧
      ∀ x ∈ first :: later, rank x ≤ rank (later.foldl merge first) := by
  induction later generalizing first with
  | nil => simp
  | cons next later ih =>
    obtain ⟨⟨x, hx, hrank⟩, hall⟩ := ih (merge first next)
    rw [List.foldl_cons]
    have hmerged := hall (merge first next) List.mem_cons_self
    rw [h, max_le_iff] at hmerged
    constructor
    · rcases List.mem_cons.mp hx with rfl | hx
      · rw [h] at hrank
        rcases max_choice (rank first) (rank next) with hmax | hmax
        · exact ⟨first, by simp, hmax ▸ hrank⟩
        · exact ⟨next, by simp, hmax ▸ hrank⟩
      · exact ⟨x, by simp [hx], hrank⟩
    · intro y hy
      rcases List.mem_cons.mp hy with rfl | hy
      · exact hmerged.1
      · rcases List.mem_cons.mp hy with rfl | hy
        · exact hmerged.2
        · exact hall y (List.mem_cons_of_mem _ hy)

/-- A setting for which a merge lets the later one win. -/
lemma foldl_lastGiven {get : α → Option β} (h : ∀ a b, get (merge a b) = (get b).or (get a))
    (first : α) (later : List α) :
    get (later.foldl merge first) = ((first :: later).filterMap get).getLast? := by
  induction later using List.reverseRecOn with
  | nil =>
    cases hget : get first with
    | none => simp [hget]
    | some value => simp [hget]
  | append_singleton later last ih =>
    rw [List.foldl_append, List.foldl_cons, List.foldl_nil, h, ih, ← List.cons_append,
      List.filterMap_append, List.getLast?_append]
    cases hget : get last with
    | none => simp [hget]
    | some value => simp [hget]

/-- What every merge is that has a property, the fold is when something was merged. -/
lemma foldl_merged {p q : α → Prop} (h : ∀ a b, p (merge a b) → q (merge a b)) {first : α}
    {later : List α} (hlater : later ≠ []) (hp : p (later.foldl merge first)) :
    q (later.foldl merge first) := by
  induction later using List.reverseRecOn with
  | nil => exact absurd rfl hlater
  | append_singleton later last =>
    rw [List.foldl_append] at hp ⊢
    exact h _ _ hp

end ASFireWire.MergeFolds
