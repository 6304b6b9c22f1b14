import Mathlib

/-! Searching a graph from one vertex with a running minimum. A search keeps the vertices it has
met, the best weight it knows for each and the vertices whose edges it still has to follow; the
order in which it follows them does not matter. Trees come from orders: a graph in which no vertex
has two larger neighbours has no cycle. -/
namespace TreeSearch

variable {V β : Type*} {G : SimpleGraph V} {w : V → β} {a u v : V}

/-- The weights met along a walk. -/
def weights (w : V → β) (p : G.Walk u v) : Set β := {x | ∃ y ∈ p.support, w y = x}

lemma weights_reverse (p : G.Walk u v) : weights w p.reverse = weights w p := by
  ext x
  simp [weights]

variable [LinearOrder β]

lemma isLeast_weights_nil (w : V → β) (a : V) :
    IsLeast (weights w (SimpleGraph.Walk.nil : G.Walk a a)) (w a) := by
  constructor
  · exact ⟨a, by simp, rfl⟩
  · rintro x ⟨y, hy, rfl⟩
    rw [SimpleGraph.Walk.mem_support_nil_iff] at hy
    rw [hy]

/-- One more edge takes the minimum with its end. -/
lemma isLeast_weights_concat {p : G.Walk a u} {b : β} (h : IsLeast (weights w p) b)
    (hadj : G.Adj u v) : IsLeast (weights w (p.concat hadj)) (min b (w v)) := by
  obtain ⟨⟨y, hy, rfl⟩, hle⟩ := h
  constructor
  · rcases min_choice (w y) (w v) with hmin | hmin
    · exact ⟨y, by simp [SimpleGraph.Walk.support_concat, hy], hmin.symm⟩
    · exact ⟨v, by simp [SimpleGraph.Walk.support_concat], hmin.symm⟩
  · rintro x ⟨z, hz, rfl⟩
    rw [SimpleGraph.Walk.support_concat, List.mem_append] at hz
    rcases hz with hz | hz
    · exact (min_le_left _ _).trans (hle ⟨z, hz, rfl⟩)
    · rw [List.mem_singleton.mp hz]
      exact min_le_right _ _

/-! ### The invariant of a search -/

/-- Every met vertex has a path through met vertices whose minimum is its best weight, and only
pending vertices may have edges to unmet ones. -/
structure Explored (G : SimpleGraph V) (w : V → β) (a : V) (seen : Finset V) (best : V → β)
    (pending : List V) : Prop where
  start : a ∈ seen
  path : ∀ v ∈ seen, ∃ p : G.Walk a v, p.IsPath ∧ (∀ x ∈ p.support, x ∈ seen) ∧
    IsLeast (weights w p) (best v)
  met : ∀ v ∈ pending, v ∈ seen
  closed : ∀ u ∈ seen, u ∉ pending → ∀ v, G.Adj u v → v ∈ seen

namespace Explored

variable {seen : Finset V} {best best' : V → β} {pending : List V}

lemma initial (h : best a = w a) : Explored G w a {a} best [a] := by
  refine ⟨Finset.mem_singleton_self a, ?_, ?_, ?_⟩
  · intro v hv
    rw [Finset.mem_singleton] at hv
    subst hv
    refine ⟨SimpleGraph.Walk.nil, SimpleGraph.Walk.IsPath.nil, ?_, ?_⟩
    · intro x hx
      rw [SimpleGraph.Walk.mem_support_nil_iff] at hx
      rw [hx]
      exact Finset.mem_singleton_self v
    · rw [h]
      exact isLeast_weights_nil w v
  · intro v hv
    rw [List.mem_singleton.mp hv]
    exact Finset.mem_singleton_self a
  · intro u hu hnot
    rw [Finset.mem_singleton] at hu
    exact absurd (List.mem_singleton.mpr hu) hnot

/-- The search meets a new vertex over an edge of a met one. -/
lemma reach [DecidableEq V] (h : Explored G w a seen best pending) (hu : u ∈ seen)
    (hadj : G.Adj u v) (hv : v ∉ seen) (hnew : best' v = min (best u) (w v))
    (hkeep : ∀ x ∈ seen, best' x = best x) :
    Explored G w a (insert v seen) best' (pending ++ [v]) := by
  refine ⟨Finset.mem_insert_of_mem h.start, ?_, ?_, ?_⟩
  · intro x hx
    rcases Finset.mem_insert.mp hx with rfl | hx
    · obtain ⟨p, hp, hsupport, hleast⟩ := h.path u hu
      refine ⟨p.concat hadj, hp.concat (fun hmem => hv (hsupport _ hmem)) hadj, ?_, ?_⟩
      · intro y hy
        rw [SimpleGraph.Walk.support_concat, List.mem_append] at hy
        rcases hy with hy | hy
        · exact Finset.mem_insert_of_mem (hsupport y hy)
        · rw [List.mem_singleton.mp hy]
          exact Finset.mem_insert_self x seen
      · rw [hnew]
        exact isLeast_weights_concat hleast hadj
    · obtain ⟨p, hp, hsupport, hleast⟩ := h.path x hx
      refine ⟨p, hp, fun y hy => Finset.mem_insert_of_mem (hsupport y hy), ?_⟩
      rw [hkeep x hx]
      exact hleast
  · intro x hx
    rcases List.mem_append.mp hx with hx | hx
    · exact Finset.mem_insert_of_mem (h.met x hx)
    · rw [List.mem_singleton.mp hx]
      exact Finset.mem_insert_self v seen
  · intro x hx hnot y hxy
    rw [List.mem_append, not_or] at hnot
    rcases Finset.mem_insert.mp hx with rfl | hx
    · exact absurd (List.mem_singleton_self x) hnot.2
    · exact Finset.mem_insert_of_mem (h.closed x hx hnot.1 y hxy)

/-- All edges of the first pending vertex have been followed. -/
lemma finish (h : Explored G w a seen best (u :: pending))
    (hall : ∀ v, G.Adj u v → v ∈ seen) : Explored G w a seen best pending := by
  refine ⟨h.start, h.path, fun v hv => h.met v (List.mem_cons_of_mem u hv), ?_⟩
  intro x hx hnot y hxy
  by_cases hxu : x = u
  · subst hxu
    exact hall y hxy
  · apply h.closed x hx _ y hxy
    rw [List.mem_cons, not_or]
    exact ⟨hxu, hnot⟩

/-- A search with nothing pending has met all it can reach. -/
lemma complete (h : Explored G w a seen best []) (hreach : G.Reachable a v) : v ∈ seen := by
  obtain ⟨p⟩ := hreach
  have hwalk : ∀ x y (p : G.Walk x y), x ∈ seen → y ∈ seen := by
    intro x y p
    induction p with
    | nil => exact id
    | cons hadj p ih => exact fun hx => ih (h.closed _ hx List.not_mem_nil _ hadj)
  exact hwalk a v p h.start

/-- The best weight takes the vertex itself into account. -/
lemma best_le (h : Explored G w a seen best pending) (hv : v ∈ seen) : best v ≤ w v := by
  obtain ⟨p, -, -, hleast⟩ := h.path v hv
  exact hleast.2 ⟨v, p.end_mem_support, rfl⟩

end Explored

/-! ### Trees from orders -/

/-- A cycle has a least vertex, and that one has two larger neighbours. -/
theorem isAcyclic_of_unique_greater {V : Type*} [LinearOrder V] {G : SimpleGraph V}
    (h : ∀ v x y, G.Adj v x → G.Adj v y → v < x → v < y → x = y) : G.IsAcyclic := by
  intro v c hc
  obtain ⟨m, hm, hmin⟩ := c.support.toFinset.exists_min_image id
    ⟨v, List.mem_toFinset.mpr c.start_mem_support⟩
  rw [List.mem_toFinset] at hm
  have hcycle := hc.rotate hm
  have hgreater : ∀ x ∈ (c.rotate m hm).support, G.Adj m x → m < x := by
    intro x hx hadj
    rw [SimpleGraph.Walk.mem_support_rotate_iff] at hx
    have hle : m ≤ x := hmin x (List.mem_toFinset.mpr hx)
    exact lt_of_le_of_ne hle hadj.ne
  have hsnd := (c.rotate m hm).adj_snd hcycle.not_nil
  have hpen := ((c.rotate m hm).adj_penultimate hcycle.not_nil).symm
  apply hcycle.snd_ne_penultimate
  exact h m _ _ hsnd hpen (hgreater _ ((c.rotate m hm).getVert_mem_support _) hsnd)
    (hgreater _ ((c.rotate m hm).getVert_mem_support _) hpen)

/-- Climbing to larger neighbours ends at the top. -/
theorem reachable_of_ascending {G : SimpleGraph ℕ} {r : ℕ}
    (h : ∀ i < r, ∃ j, i < j ∧ j ≤ r ∧ G.Adj i j) : ∀ i ≤ r, G.Reachable i r := by
  intro i hi
  induction hk : r - i using Nat.strong_induction_on generalizing i with
  | _ k ih =>
    by_cases heq : i = r
    · rw [heq]
    · obtain ⟨j, hij, hjr, hadj⟩ := h i (by omega)
      exact hadj.reachable.trans (ih (r - j) (by omega) j hjr rfl)

end TreeSearch
