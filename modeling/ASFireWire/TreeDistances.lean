import ASFireWire.TreeSearch

/-! Distances in graphs without cycles. Paths are unique there, so every path is a shortest one:
a search knows the distance of a vertex when it meets it, in whatever order it works, and the
vertex farthest from any start is an end of a longest path. -/
namespace TreeSearch

variable {V : Type*} {G : SimpleGraph V} {a m u v x y z : V}

section Paths
variable (hG : G.IsAcyclic)
include hG

lemma length_eq_dist {p : G.Walk u v} (hp : p.IsPath) : p.length = G.dist u v := by
  obtain ⟨q, hq, hlength⟩ := p.reachable.exists_path_of_dist
  have heq : p = q := congrArg Subtype.val ((hG.subsingleton_path u v).elim ⟨p, hp⟩ ⟨q, hq⟩)
  rw [heq, hlength]

/-- Distances add up along a path. -/
lemma dist_eq_add {p : G.Walk x y} (hp : p.IsPath) (hm : m ∈ p.support) :
    G.dist x y = G.dist x m + G.dist m y := by
  classical
  rw [← length_eq_dist hG hp, ← length_eq_dist hG (hp.takeUntil hm),
    ← length_eq_dist hG (hp.dropUntil hm), ← SimpleGraph.Walk.length_append,
    SimpleGraph.Walk.take_spec]

lemma dist_concat {p : G.Walk a u} (hp : p.IsPath) (hadj : G.Adj u v) (hv : v ∉ p.support) :
    G.dist a v = G.dist a u + 1 := by
  rw [← length_eq_dist hG (hp.concat hv hadj), SimpleGraph.Walk.length_concat, length_eq_dist hG hp]

/-- One neighbour is closer to the start, and only one. -/
lemma closer_unique (hreach : G.Reachable a v) (hx : G.Adj v x) (hy : G.Adj v y)
    (hdx : G.dist a x < G.dist a v) (hdy : G.dist a y < G.dist a v) : x = y := by
  have hend : ∀ z, G.Adj v z → G.dist a z < G.dist a v →
      ∃ (p : G.Walk a z) (hadj : G.Adj z v), (p.concat hadj).IsPath := by
    intro z hz hd
    obtain ⟨p, hp, hlength⟩ := (hreach.trans hz.reachable).exists_path_of_dist
    refine ⟨p, hz.symm, hp.concat ?_ hz.symm⟩
    intro hmem
    have := dist_eq_add hG hp hmem
    omega
  obtain ⟨p, hxv, hp⟩ := hend x hx hdx
  obtain ⟨q, hyv, hq⟩ := hend y hy hdy
  have heq := congrArg Subtype.val ((hG.subsingleton_path a v).elim ⟨_, hp⟩ ⟨_, hq⟩)
  have hpen := congrArg SimpleGraph.Walk.penultimate heq
  rwa [SimpleGraph.Walk.penultimate_concat, SimpleGraph.Walk.penultimate_concat] at hpen

lemma exists_closer (hreach : G.Reachable a v) (hne : v ≠ a) :
    ∃ x, G.Adj v x ∧ G.dist a x + 1 = G.dist a v := by
  obtain ⟨p, hp, hlength⟩ := hreach.exists_path_of_dist
  have hnil : ¬ p.Nil := SimpleGraph.Walk.not_nil_of_ne hne.symm
  refine ⟨p.penultimate, (p.adj_penultimate hnil).symm, ?_⟩
  have hsplit := dist_eq_add hG hp (SimpleGraph.Walk.getVert_mem_support p (p.length - 1))
  have hone : G.dist p.penultimate v = 1 :=
    SimpleGraph.dist_eq_one_iff_adj.mpr (p.adj_penultimate hnil)
  change G.dist a v = G.dist a p.penultimate + G.dist p.penultimate v at hsplit
  omega

/-! ### The farthest vertex -/

/-- A path from outside meets another one at a vertex between its ends and both of them. -/
lemma exists_median {p : G.Walk x y} (hp : p.IsPath) (hreach : G.Reachable z x) :
    ∃ m ∈ p.support, G.dist z x = G.dist z m + G.dist m x ∧
      G.dist z y = G.dist z m + G.dist m y := by
  classical
  obtain ⟨q, hq⟩ := hreach.exists_isPath
  obtain ⟨m, hm, hmq, hfirst⟩ := q.exists_mem_support_forall_mem_support_imp_eq p.support.toFinset
    ⟨x, Finset.mem_filter.mpr ⟨List.mem_toFinset.mpr p.start_mem_support, q.end_mem_support⟩⟩
  rw [List.mem_toFinset] at hm
  refine ⟨m, hm, dist_eq_add hG hq hmq, ?_⟩
  have hjoin : ((q.takeUntil m hmq).append (p.dropUntil m hm)).IsPath := by
    have hdrop := hp.dropUntil hm
    rw [SimpleGraph.Walk.isPath_def, SimpleGraph.Walk.support_append, List.nodup_append]
    refine ⟨(hq.takeUntil hmq).support_nodup, hdrop.support_nodup.tail, ?_⟩
    rintro t ht s hs rfl
    have hmem : t ∈ p.support :=
      SimpleGraph.Walk.support_dropUntil_subset_support p hm (List.mem_of_mem_tail hs)
    obtain rfl := hfirst t (List.mem_toFinset.mpr hmem) ht
    have hnodup := hdrop.support_nodup
    rw [← SimpleGraph.Walk.cons_tail_support, List.nodup_cons] at hnodup
    exact hnodup.1 hs
  apply dist_eq_add hG hjoin
  rw [SimpleGraph.Walk.mem_support_append_iff]
  exact Or.inl (SimpleGraph.Walk.end_mem_support _)

/-- Of the three ways to pair four vertices, the two with the larger sums agree. -/
theorem four_point (hx : G.Reachable a x) (hy : G.Reachable a y) (hu : G.Reachable a u) :
    G.dist a u + G.dist x y ≤ max (G.dist a x + G.dist u y) (G.dist a y + G.dist u x) := by
  classical
  obtain ⟨p, hp⟩ := (hx.symm.trans hy).exists_isPath
  obtain ⟨m, hm, hax, hay⟩ := exists_median hG hp hx
  obtain ⟨k, hk, hux, huy⟩ := exists_median hG hp (hu.symm.trans hx)
  have hsplit := dist_eq_add hG hp hm
  have hsplit' := dist_eq_add hG hp hk
  have hgap : G.dist a u ≤ G.dist a m + G.dist m k + G.dist u k := by
    have ham : G.Reachable a m := hx.trans (p.takeUntil m hm).reachable
    have hmk : G.Reachable m k := ham.symm.trans (hx.trans (p.takeUntil k hk).reachable)
    have h₁ : G.dist a k ≤ G.dist a m + G.dist m k := ham.dist_triangle_left k
    have h₂ : G.dist a u ≤ G.dist a k + G.dist k u := (ham.trans hmk).dist_triangle_left u
    rw [SimpleGraph.dist_comm (u := k)] at h₂
    omega
  have hcomm : G.dist m x = G.dist x m ∧ G.dist k x = G.dist x k :=
    ⟨SimpleGraph.dist_comm, SimpleGraph.dist_comm⟩
  rw [← SimpleGraph.Walk.take_spec p hm, SimpleGraph.Walk.mem_support_append_iff] at hk
  rcases hk with hk | hk
  · have hbefore := dist_eq_add hG (hp.takeUntil hm) hk
    have hcomm' : G.dist m k = G.dist k m := SimpleGraph.dist_comm
    omega
  · have hafter := dist_eq_add hG (hp.dropUntil hm) hk
    omega

/-- No path is longer than the longest one from a vertex farthest from anywhere. -/
theorem dist_le_of_farthest (hx : G.Reachable a x) (hy : G.Reachable a y) (hu : G.Reachable a u)
    (hfar : ∀ v, G.Reachable a v → G.dist a v ≤ G.dist a u) :
    G.dist x y ≤ max (G.dist u x) (G.dist u y) := by
  have hfour := four_point hG hx hy hu
  have hfx := hfar x hx
  have hfy := hfar y hy
  omega

end Paths

section Search
variable {β : Type*} [LinearOrder β] {w best : V → β} {seen : Finset V} {pending : List V}

/-- A new vertex is one step farther than the one it is met from. -/
lemma Explored.dist_reach (h : Explored G w a seen best pending) (hG : G.IsAcyclic) (hu : u ∈ seen)
    (hadj : G.Adj u v) (hv : v ∉ seen) : G.dist a v = G.dist a u + 1 := by
  obtain ⟨p, hp, hsupport, -⟩ := h.path u hu
  exact dist_concat hG hp hadj fun hmem => hv (hsupport v hmem)

/-- The order of the pending vertices does not matter. -/
lemma Explored.congr {pending' : List V} (h : Explored G w a seen best pending)
    (hsame : ∀ v, v ∈ pending ↔ v ∈ pending') : Explored G w a seen best pending' :=
  ⟨h.start, h.path, fun v hv => h.met v ((hsame v).mpr hv),
    fun u hu hnot => h.closed u hu fun hmem => hnot ((hsame u).mp hmem)⟩

lemma Explored.reachable (h : Explored G w a seen best pending) (hv : v ∈ seen) :
    G.Reachable a v := by
  obtain ⟨p, -⟩ := h.path v hv
  exact p.reachable

/-- Distances stay below the number of vertices met. -/
lemma Explored.dist_lt (h : Explored G w a seen best pending) (hG : G.IsAcyclic) (hv : v ∈ seen) :
    G.dist a v < seen.card := by
  classical
  obtain ⟨p, hp, hsupport, -⟩ := h.path v hv
  have hcard : p.support.toFinset.card ≤ seen.card :=
    Finset.card_le_card fun x hx => hsupport x (List.mem_toFinset.mp hx)
  rw [List.toFinset_card_of_nodup hp.support_nodup, SimpleGraph.Walk.length_support,
    length_eq_dist hG hp] at hcard
  omega

end Search

end TreeSearch
