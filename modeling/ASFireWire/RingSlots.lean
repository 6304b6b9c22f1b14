import ASFireWire.EventLog

/-! Rings of cells that each hold the latest entry written at their position. Entries are numbered,
the cell of an entry is its number reduced to the ring, and the log of the entries is kept newest
first. -/
namespace RingSlots

open EventLog

variable {β γ : Type*} {number : β → ℕ} {M N i : ℕ} {log newer older : List β} {e : β}

/-- The latest entry at a position. -/
def latest (number : β → ℕ) (N : ℕ) (log : List β) (i : ℕ) : Option β :=
  log.find? fun e => number e % N = i

lemma latest_cons_self (e : β) (log : List β) :
    latest number N (e :: log) (number e % N) = some e := by
  simp [latest]

lemma latest_cons_of_ne (log : List β) (h : number e % N ≠ i) :
    latest number N (e :: log) i = latest number N log i := by
  simp [latest, h]

lemma latest_eq_some_iff : latest number N log i = some e ↔
    number e % N = i ∧ ∃ newer older, log = newer ++ e :: older ∧
      ∀ x ∈ newer, number x % N ≠ i := by
  simp [latest, List.find?_eq_some_iff_append]

/-- Every cell shows the latest entry at its position, or is empty where there is none. -/
def Holds (number : β → ℕ) (Shows : γ → β → Prop) (Empty : γ → Prop) (cells : List γ)
    (log : List β) : Prop :=
  ∀ i cell, cells[i]? = some cell →
    match latest number cells.length log i with
    | some e => Shows cell e
    | none => Empty cell

variable {Shows : γ → β → Prop} {Empty : γ → Prop} {cells : List γ} {cell : γ}

lemma holds_nil (h : ∀ cell ∈ cells, Empty cell) : Holds number Shows Empty cells [] :=
  fun _ cell hcell => h cell (List.mem_of_getElem? hcell)

/-- The write lemma. -/
theorem Holds.write (h : Holds number Shows Empty cells log) (hshows : Shows cell e) :
    Holds number Shows Empty (cells.set (number e % cells.length) cell) (e :: log) := by
  intro i other hother
  rw [List.length_set]
  by_cases hi : number e % cells.length = i
  · subst hi
    rw [latest_cons_self]
    have hlt : number e % cells.length < cells.length := by
      have hbound := (List.getElem?_eq_some_iff.mp hother).1
      rwa [List.length_set] at hbound
    rw [List.getElem?_set_self hlt] at hother
    exact Option.some.inj hother ▸ hshows
  · rw [latest_cons_of_ne log hi]
    rw [List.getElem?_set_ne hi] at hother
    exact h i other hother

/-- A cell with a property that only entries bring shows one that does. -/
lemma Holds.entry (h : Holds number Shows Empty cells log) (hcell : cells[i]? = some cell)
    (hsome : ¬ Empty cell) : ∃ e, latest number cells.length log i = some e ∧ Shows cell e := by
  have hshown := h i cell hcell
  cases hlatest : latest number cells.length log i with
  | none =>
    rw [hlatest] at hshown
    exact absurd hshown hsome
  | some e =>
    rw [hlatest] at hshown
    exact ⟨e, rfl, hshown⟩

lemma Holds.shown (h : Holds number Shows Empty cells log)
    (hlatest : latest number cells.length log i = some e) (hi : i < cells.length) :
    ∃ cell, cells[i]? = some cell ∧ Shows cell e := by
  have hcell := List.getElem?_eq_getElem hi
  have hshown := h i _ hcell
  rw [hlatest] at hshown
  exact ⟨_, hcell, hshown⟩

/-- What entries and emptiness both bring holds of every cell. -/
lemma Holds.forall_cells (h : Holds number Shows Empty cells log) {P : γ → Prop}
    (hshows : ∀ cell e, Shows cell e → P cell) (hempty : ∀ cell, Empty cell → P cell) :
    ∀ cell ∈ cells, P cell := by
  intro cell hcell
  obtain ⟨i, hi⟩ := List.mem_iff_getElem?.mp hcell
  have hshown := h i cell hi
  cases hlatest : latest number cells.length log i with
  | none =>
    rw [hlatest] at hshown
    exact hempty cell hshown
  | some e =>
    rw [hlatest] at hshown
    exact hshows cell e hshown

/-! ### Entries numbered one after the other -/

/-- The number behind that of the entry before, counted modulo `M`. -/
def Follows (M : ℕ) (number : β → ℕ) (e : β) (older : List β) : Prop :=
  ∀ last ∈ older.head?, number e = (number last + 1) % M

/-- An entry is ahead of an older one by the entries in between. -/
lemma number_ahead (h : Throughout (Follows M number) (newer ++ e :: older)) {before after : List β}
    {x : β} (hsplit : newer = before ++ x :: after) :
    number x ≡ number e + (after.length + 1) [MOD M] := by
  induction newer generalizing before x after with
  | nil => simp at hsplit
  | cons y newer ih =>
    cases before with
    | cons z before =>
      obtain ⟨-, htail⟩ := List.cons.inj hsplit
      exact ih h.2 htail
    | nil =>
      obtain ⟨rfl, rfl⟩ := List.cons.inj hsplit
      cases newer with
      | nil =>
        rw [h.1 e rfl]
        exact Nat.mod_modEq _ _
      | cons z newer =>
        have hlast := @ih h.2 [] newer z rfl
        rw [h.1 z rfl, List.length_cons, ← Nat.add_assoc]
        exact (Nat.mod_modEq _ _).trans (hlast.add_right 1)

/-- Fewer than `N` entries further on, the position is not taken again. -/
lemma apart_of_recent (hdvd : N ∣ M)
    (h : Throughout (Follows M number) (newer ++ e :: older)) (hrecent : newer.length < N) :
    ∀ x ∈ newer, number x % N ≠ number e % N := by
  intro x hx hsame
  obtain ⟨before, after, hsplit⟩ := List.append_of_mem hx
  have hahead := (number_ahead h hsplit).of_dvd hdvd
  have hlength := congrArg List.length hsplit
  rw [List.length_append, List.length_cons] at hlength
  have hturn : 0 ≡ after.length + 1 [MOD N] := by
    apply Nat.ModEq.add_left_cancel' (number e)
    exact (show number e ≡ number x [MOD N] from hsame.symm).trans hahead
  have hzero := hturn.symm
  rw [Nat.ModEq, Nat.zero_mod, Nat.mod_eq_of_lt (by omega)] at hzero
  omega

/-- After `N` entries the position is taken again. -/
lemma recent_of_apart (hdvd : N ∣ M) (hpos : 0 < N)
    (h : Throughout (Follows M number) (newer ++ e :: older))
    (hapart : ∀ x ∈ newer, number x % N ≠ number e % N) : newer.length < N := by
  by_contra hmany
  have hdrop : newer.drop (newer.length - N) ≠ [] := by
    intro hnil
    have hlength := congrArg List.length hnil
    rw [List.length_drop, List.length_nil] at hlength
    omega
  obtain ⟨x, after, hcons⟩ := List.exists_cons_of_ne_nil hdrop
  have hlength := congrArg List.length hcons
  rw [List.length_drop, List.length_cons] at hlength
  have hsplit : newer = newer.take (newer.length - N) ++ x :: after := by
    rw [← hcons, List.take_append_drop]
  have hahead := (number_ahead h hsplit).of_dvd hdvd
  rw [show after.length + 1 = N by omega] at hahead
  have hsame : number x ≡ number e [MOD N] := by
    apply hahead.trans
    rw [Nat.ModEq, Nat.add_mod_right]
  have hmem : x ∈ newer := by
    rw [hsplit]
    simp
  exact hapart x hmem hsame

/-- In a ring of `N` cells the last `N` entries are there, and nothing else. -/
theorem latest_iff_recent (hdvd : N ∣ M) (hpos : 0 < N) (h : Throughout (Follows M number) log) :
    latest number N log (number e % N) = some e ↔ e ∈ log.take N := by
  constructor
  · intro hlatest
    obtain ⟨-, newer, older, rfl, hapart⟩ := latest_eq_some_iff.mp hlatest
    have hrecent := recent_of_apart hdvd hpos h hapart
    obtain ⟨k, hk⟩ : ∃ k, N = newer.length + (k + 1) := ⟨N - newer.length - 1, by omega⟩
    rw [hk, List.take_length_add_append, List.take_succ_cons]
    simp
  · intro hmem
    obtain ⟨newer, rest, hsplit⟩ := List.append_of_mem hmem
    have hlength := congrArg List.length hsplit
    rw [List.length_append, List.length_cons] at hlength
    have hrecent : newer.length < N := by
      have hbound := List.length_take_le N log
      omega
    have hlog : log = newer ++ e :: (rest ++ log.drop N) := by
      rw [← List.cons_append, ← List.append_assoc, ← hsplit, List.take_append_drop]
    apply latest_eq_some_iff.mpr
    refine ⟨rfl, newer, rest ++ log.drop N, hlog, ?_⟩
    rw [hlog] at h
    exact apart_of_recent hdvd h hrecent

end RingSlots
