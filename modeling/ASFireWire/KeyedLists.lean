import Mathlib

/-! Lists of records found by a key: what the key finds after a record is added, changed or
removed. -/
namespace KeyedLists

variable {α κ : Type*} [DecidableEq κ] {key : α → κ} {l : List α} {k : κ} {x : α}

def lookup (key : α → κ) (l : List α) (k : κ) : Option α := l.find? fun x => key x = k

/-- Change the records with a key. -/
def modify (key : α → κ) (k : κ) (f : α → α) (l : List α) : List α :=
  l.map fun x => if key x = k then f x else x

def erase (key : α → κ) (k : κ) (l : List α) : List α := l.filter fun x => key x ≠ k

@[simp] lemma lookup_nil (k : κ) : lookup key [] k = none := rfl

lemma lookup_cons (x : α) (l : List α) (k : κ) :
    lookup key (x :: l) k = if key x = k then some x else lookup key l k := by
  unfold lookup
  rw [List.find?_cons]
  by_cases h : key x = k
  · simp [h]
  · simp [h]

lemma key_of_lookup (h : lookup key l k = some x) : key x = k := by
  have := List.find?_some h
  simpa using this

lemma lookup_eq_none : lookup key l k = none ↔ ∀ x ∈ l, key x ≠ k := by
  unfold lookup
  simp

lemma lookup_orderedInsert (r : α → α → Prop) [DecidableRel r] (h : lookup key l (key x) = none)
    (k : κ) :
    lookup key (l.orderedInsert r x) k = if key x = k then some x else lookup key l k := by
  induction l with
  | nil => exact lookup_cons x [] k
  | cons y l ih =>
    rw [List.orderedInsert_cons]
    by_cases hr : r x y
    · rw [if_pos hr]
      exact lookup_cons x (y :: l) k
    · rw [if_neg hr, lookup_cons]
      rw [lookup_cons] at h
      by_cases hy : key y = key x
      · rw [if_pos hy] at h
        exact absurd h (Option.some_ne_none y)
      · rw [if_neg hy] at h
        rw [ih h, lookup_cons]
        by_cases hx : key x = k
        · rw [if_neg fun hk => hy (hk.trans hx.symm), if_pos hx, if_pos hx]
        · rw [if_neg hx, if_neg hx]

lemma lookup_modify {f : α → α} (hf : ∀ x, key x = k → key (f x) = k) (k' : κ) :
    lookup key (modify key k f l) k' =
      if k' = k then (lookup key l k').map f else lookup key l k' := by
  induction l with
  | nil => simp [modify]
  | cons y l ih =>
    have hkey : key (if key y = k then f y else y) = key y := by
      split_ifs with hy
      · rw [hf y hy, hy]
      · rfl
    show lookup key ((if key y = k then f y else y) :: modify key k f l) k' = _
    rw [lookup_cons, lookup_cons, hkey, ih]
    by_cases hy : key y = k'
    · rw [if_pos hy, if_pos hy, hy, Option.map_some]
      split_ifs <;> rfl
    · rw [if_neg hy, if_neg hy]

lemma lookup_erase (k' : κ) :
    lookup key (erase key k l) k' = if k' = k then none else lookup key l k' := by
  induction l with
  | nil => simp [erase]
  | cons y l ih =>
    unfold erase at ih ⊢
    rw [List.filter_cons]
    by_cases hy : key y = k
    · rw [if_neg (by simp [hy]), ih, lookup_cons]
      by_cases hk : k' = k
      · rw [if_pos hk, if_pos hk]
      · rw [if_neg hk, if_neg hk, if_neg fun h => hk (h.symm.trans hy)]
    · rw [if_pos (by simp [hy]), lookup_cons, ih, lookup_cons]
      by_cases hk : k' = k
      · rw [if_pos hk, if_pos hk, if_neg fun h => hy (h.trans hk)]
      · rw [if_neg hk, if_neg hk]

lemma mem_of_lookup (h : lookup key l k = some x) : x ∈ l := List.mem_of_find?_eq_some h

lemma mem_erase {y : α} : y ∈ erase key k l ↔ y ∈ l ∧ key y ≠ k := by
  simp [erase]

lemma mem_modify {f : α → α} {y : α} :
    y ∈ modify key k f l ↔ ∃ x ∈ l, (if key x = k then f x else x) = y := List.mem_map

/-- A change that keeps what `g` reads. -/
lemma map_modify {β : Type*} {f : α → α} (g : α → β) (hf : ∀ x, g (f x) = g x) :
    (modify key k f l).map g = l.map g := by
  unfold modify
  rw [List.map_map]
  refine List.map_congr_left fun x _ => ?_
  simp only [Function.comp_apply]
  split_ifs
  · exact hf x
  · rfl

/-- What is erased and what is left. -/
lemma count_map_erase {β : Type*} [BEq β] (key : α → κ) (k : κ) (l : List α) (f : α → β) (b : β) :
    ((erase key k l).map f).count b + ((l.filter fun x => key x = k).map f).count b =
      (l.map f).count b := by
  induction l with
  | nil => rfl
  | cons x l ih =>
    unfold erase at ih ⊢
    by_cases hx : key x = k
    · rw [List.filter_cons_of_neg (by simp [hx]), List.filter_cons_of_pos (by simp [hx])]
      simp only [List.map_cons, List.count_cons]
      omega
    · rw [List.filter_cons_of_pos (by simp [hx]), List.filter_cons_of_neg (by simp [hx])]
      simp only [List.map_cons, List.count_cons]
      omega

/-- A selection without the records of a key does not see them erased. -/
lemma filter_erase {p : α → Bool} (hp : ∀ x ∈ l, key x = k → p x = false) :
    (erase key k l).filter p = l.filter p := by
  unfold erase
  rw [List.filter_filter]
  refine List.filter_congr fun x hx => ?_
  by_cases hk : key x = k
  · simp [hk, hp x hx hk]
  · simp [hk]

lemma filter_modify {f : α → α} {p : α → Bool}
    (hp : ∀ x ∈ l, key x = k → p x = false ∧ p (f x) = false) :
    (modify key k f l).filter p = l.filter p := by
  induction l with
  | nil => rfl
  | cons x l ih =>
    have hrest := ih fun y hy => hp y (List.mem_cons_of_mem x hy)
    change List.filter p ((if key x = k then f x else x) :: modify key k f l) = _
    by_cases hk : key x = k
    · obtain ⟨hold, hnew⟩ := hp x List.mem_cons_self hk
      rw [if_pos hk, List.filter_cons_of_neg (by simp [hnew]),
        List.filter_cons_of_neg (by simp [hold]), hrest]
    · rw [if_neg hk, List.filter_cons, List.filter_cons, hrest]

end KeyedLists
