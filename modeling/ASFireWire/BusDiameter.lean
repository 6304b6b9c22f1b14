import ASFireWire.TreeDistances
import ASFireWire.AcceptedTrees

/-! `ComputeBusDiameter` finds the length of the longest path. Each of its two searches knows the
distances from its start, because a tree leaves no choice of path, and the node farthest from node 0
is an end of a longest path. Distances are bytes with 255 for unmet nodes, which IDs below 255 do
not reach. -/
namespace ASFireWire.Topology

open TreeSearch

/-- What the searches rely on: links are the edges of a forest on the positions below `m`. -/
structure Forest (nodes : List TopologyNodeRecord) (G : SimpleGraph ℕ) (m : ℕ) : Prop where
  adj : ∀ (i : ℕ) (node : TopologyNodeRecord) (port : Port), nodes[i]? = some node →
    (node.links port).connected = true → G.Adj i (node.links port).remoteNodeId
  link : ∀ i j, G.Adj i j → ∃ (node : TopologyNodeRecord) (port : Port), nodes[i]? = some node ∧
    (node.links port).connected = true ∧ (node.links port).remoteNodeId = j
  below : ∀ i j, G.Adj i j → i < m
  inside : m ≤ nodes.length
  bytes : m ≤ kInvalidPhysicalId
  acyclic : G.IsAcyclic

variable {nodes : List TopologyNodeRecord} {G : SimpleGraph ℕ} {m start : ℕ}

/-- A search on its way: the nodes met are those with a distance, and it is the right one. -/
structure Searching (nodes : List TopologyNodeRecord) (G : SimpleGraph ℕ) (m start : ℕ)
    (seen : Finset ℕ) (s : Search) (pending : List ℕ) : Prop where
  length : s.distance.length = nodes.length
  marks : ∀ v, s.distanceOf v ≠ kInvalidPhysicalId ↔ v ∈ seen
  within : seen ⊆ Finset.range m
  explored : Explored G (fun _ => ()) start seen (fun _ => ()) pending
  distances : ∀ v ∈ seen, s.distanceOf v = G.dist start v
  met : s.farthestNode ∈ seen
  farthest : ∀ v ∈ seen, G.dist start v ≤ G.dist start s.farthestNode
  entered : s.frontier.length = seen.card

lemma Search.distanceOf_set {s : Search} {v x d : ℕ} (hv : v < s.distance.length) :
    Search.distanceOf { s with distance := s.distance.set v d } x =
      if x = v then d else s.distanceOf x := by
  unfold Search.distanceOf
  by_cases hx : x = v
  · rw [if_pos hx, hx, List.getElem?_set_self hv, Option.getD_some]
  · rw [if_neg hx, List.getElem?_set_ne (Ne.symm hx)]

/-- One link of the node under the cursor. -/
lemma visitLink_spec (F : Forest nodes G m) {current : ℕ} {node : TopologyNodeRecord}
    (hnode : nodes[current]? = some node) (port : Port) {seen : Finset ℕ} {s : Search}
    {pending : List ℕ} (h : Searching nodes G m start seen s pending) (hcurrent : current ∈ seen) :
    ∃ seen' news, seen ⊆ seen' ∧
      Searching nodes G m start seen' (visitLink current s (node.links port)) (pending ++ news) ∧
      (visitLink current s (node.links port)).frontier = s.frontier ++ news ∧
      ((node.links port).connected = true → (node.links port).remoteNodeId ∈ seen') := by
  unfold visitLink
  cases hconnected : (node.links port).connected with
  | false =>
    rw [Bool.not_false, if_pos rfl]
    refine ⟨seen, [], subset_rfl, ?_, (List.append_nil _).symm, fun hcon => by cases hcon⟩
    rw [List.append_nil]
    exact h
  | true =>
    have hadj := F.adj current node port hnode hconnected
    generalize (node.links port).remoteNodeId = v at *
    rw [Bool.not_true, if_neg Bool.false_ne_true]
    have hv : v < m := F.below v current hadj.symm
    have hlength : ¬ s.distance.length ≤ v := by
      rw [h.length]
      exact not_le.mpr (hv.trans_le F.inside)
    by_cases hmet : s.distanceOf v ≠ kInvalidPhysicalId
    · rw [if_pos (Or.inr hmet)]
      refine ⟨seen, [], subset_rfl, ?_, (List.append_nil _).symm, fun _ => (h.marks v).mp hmet⟩
      rw [List.append_nil]
      exact h
    rw [if_neg (fun hcon => hcon.elim hlength hmet)]
    have hnew : v ∉ seen := fun hmem => hmet ((h.marks v).mpr hmem)
    have hreach : Explored G (fun _ => ()) start (insert v seen) (fun _ => ()) (pending ++ [v]) :=
      h.explored.reach hcurrent hadj hnew rfl fun _ _ => rfl
    have hdist := h.explored.dist_reach F.acyclic hcurrent hadj hnew
    have hwithin : insert v seen ⊆ Finset.range m :=
      Finset.insert_subset (Finset.mem_range.mpr hv) h.within
    have hsmall : G.dist start v < kInvalidPhysicalId := by
      have hcard := Finset.card_le_card hwithin
      rw [Finset.card_range] at hcard
      exact (hreach.dist_lt F.acyclic (Finset.mem_insert_self v seen)).trans_le (hcard.trans F.bytes)
    have hbyte : (s.distanceOf current + 1) % 256 = G.dist start v := by
      rw [h.distances current hcurrent, ← hdist]
      exact Nat.mod_eq_of_lt (hsmall.trans (by decide))
    rw [hbyte]
    dsimp only
    -- the distances after the link, whichever node is farthest now
    have hof : ∀ x far, Search.distanceOf { s with
        distance := s.distance.set v (G.dist start v)
        frontier := s.frontier ++ [v]
        farthestNode := far } x = if x = v then G.dist start v else s.distanceOf x :=
      fun x far => Search.distanceOf_set (not_le.mp hlength)
    have hnext : ∀ far, far ∈ insert v seen →
        (∀ x ∈ insert v seen, G.dist start x ≤ G.dist start far) →
        Searching nodes G m start (insert v seen)
          ⟨s.distance.set v (G.dist start v), s.frontier ++ [v], far⟩ (pending ++ [v]) := by
      intro far hfar hall
      refine ⟨?_, ?_, hwithin, hreach, ?_, hfar, hall, ?_⟩
      · rw [List.length_set]
        exact h.length
      · intro x
        rw [hof x far, Finset.mem_insert]
        by_cases hx : x = v
        · rw [if_pos hx]
          exact iff_of_true hsmall.ne (Or.inl hx)
        · rw [if_neg hx, h.marks]
          exact ⟨Or.inr, fun hmem => hmem.resolve_left hx⟩
      · intro x hx
        rw [hof x far]
        by_cases hxv : x = v
        · rw [if_pos hxv, hxv]
        · rw [if_neg hxv]
          exact h.distances x ((Finset.mem_insert.mp hx).resolve_left hxv)
      · rw [List.length_append, Finset.card_insert_of_notMem hnew, h.entered]
        rfl
    have hold : s.farthestNode ≠ v := fun heq => hnew (heq ▸ h.met)
    refine ⟨insert v seen, [v], Finset.subset_insert v seen, ?_, ?_,
      fun _ => Finset.mem_insert_self v seen⟩
    · rw [hof v s.farthestNode, hof s.farthestNode s.farthestNode, if_pos rfl, if_neg hold,
        h.distances _ h.met]
      by_cases hfar : G.dist start v > G.dist start s.farthestNode
      · rw [if_pos hfar]
        apply hnext v (Finset.mem_insert_self v seen)
        intro x hx
        rcases Finset.mem_insert.mp hx with rfl | hx
        · exact le_rfl
        · exact (h.farthest x hx).trans hfar.le
      · rw [if_neg hfar]
        apply hnext s.farthestNode (Finset.mem_insert_of_mem h.met)
        intro x hx
        rcases Finset.mem_insert.mp hx with rfl | hx
        · exact not_lt.mp hfar
        · exact h.farthest x hx
    · split
      · rfl
      · rfl

lemma visitLinks_spec (F : Forest nodes G m) {current : ℕ} {node : TopologyNodeRecord}
    (hnode : nodes[current]? = some node) (ports : List Port) {seen : Finset ℕ} {s : Search}
    {pending : List ℕ} (h : Searching nodes G m start seen s pending) (hcurrent : current ∈ seen) :
    ∃ seen' news, seen ⊆ seen' ∧
      Searching nodes G m start seen' ((ports.map node.links).foldl (visitLink current) s)
        (pending ++ news) ∧
      ((ports.map node.links).foldl (visitLink current) s).frontier = s.frontier ++ news ∧
      ∀ port ∈ ports, (node.links port).connected = true → (node.links port).remoteNodeId ∈ seen' := by
  induction ports generalizing seen s pending with
  | nil =>
    refine ⟨seen, [], subset_rfl, ?_, (List.append_nil _).symm, by simp⟩
    rw [List.append_nil]
    exact h
  | cons port ports ih =>
    obtain ⟨seen₁, news₁, hsub₁, h₁, hfrontier₁, hmet₁⟩ := visitLink_spec F hnode port h hcurrent
    obtain ⟨seen₂, news₂, hsub₂, h₂, hfrontier₂, hmet₂⟩ := ih h₁ (hsub₁ hcurrent)
    rw [List.map_cons, List.foldl_cons]
    refine ⟨seen₂, news₁ ++ news₂, hsub₁.trans hsub₂, ?_, ?_, ?_⟩
    · rw [← List.append_assoc]
      exact h₂
    · rw [hfrontier₂, hfrontier₁, List.append_assoc]
    · intro q hq hconnected
      rcases List.mem_cons.mp hq with rfl | hmem
      · exact hsub₂ (hmet₁ hconnected)
      · exact hmet₂ q hmem hconnected

lemma Searching.card_le (F : Forest nodes G m) {seen : Finset ℕ} {s : Search} {pending : List ℕ}
    (h : Searching nodes G m start seen s pending) : s.frontier.length ≤ nodes.length := by
  have hcard := Finset.card_le_card h.within
  rw [Finset.card_range] at hcard
  rw [h.entered]
  exact hcard.trans F.inside

/-- The cursor passes every entry of the frontier. -/
lemma searchFrom_spec (F : Forest nodes G m) (fuel head : ℕ) {seen : Finset ℕ} {s : Search}
    (h : Searching nodes G m start seen s (s.frontier.drop head)) (hhead : head ≤ s.frontier.length)
    (hfuel : nodes.length < head + fuel) :
    ∃ seen', Searching nodes G m start seen' (searchFrom nodes fuel head s) [] := by
  induction fuel generalizing head seen s with
  | zero => exact absurd (hhead.trans (h.card_le F)) (by omega)
  | succ fuel ih =>
    unfold searchFrom
    by_cases hlt : head < s.frontier.length
    · rw [List.getElem?_eq_getElem hlt]
      rw [List.drop_eq_getElem_cons hlt] at h
      generalize s.frontier[head] = current at *
      have hcurrent : current ∈ seen := h.explored.met current List.mem_cons_self
      have hnode : ∃ node, nodes[current]? = some node := by
        have hm := Finset.mem_range.mp (h.within hcurrent)
        exact ⟨_, List.getElem?_eq_getElem (hm.trans_le F.inside)⟩
      obtain ⟨node, hnode⟩ := hnode
      dsimp only
      rw [hnode, Option.map_some, Option.getD_some, List.ofFn_eq_map]
      obtain ⟨seen', news, -, h', hfrontier, hmet⟩ :=
        visitLinks_spec F hnode (List.finRange kMaxPhyPorts) h hcurrent
      generalize ((List.finRange kMaxPhyPorts).map node.links).foldl (visitLink current) s = s' at *
      have hpending : s'.frontier.drop (head + 1) = s.frontier.drop (head + 1) ++ news := by
        rw [hfrontier, List.drop_append_of_le_length hlt]
      have hdone : Explored G (fun _ => ()) start seen' (fun _ => ()) (s'.frontier.drop (head + 1)) := by
        rw [hpending]
        apply h'.explored.finish
        intro v hadj
        obtain ⟨node', port, hget, hconnected, rfl⟩ := F.link current v hadj
        obtain rfl := Option.some.inj (hnode.symm.trans hget)
        exact hmet port (List.mem_finRange port) hconnected
      have hnext : Searching nodes G m start seen' s' (s'.frontier.drop (head + 1)) :=
        ⟨h'.length, h'.marks, h'.within, hdone, h'.distances, h'.met, h'.farthest, h'.entered⟩
      apply ih (head + 1) hnext _ (by omega)
      rw [hfrontier, List.length_append]
      omega
    · rw [List.getElem?_eq_none_iff.mpr (not_lt.mp hlt)]
      rw [List.drop_eq_nil_of_le (not_lt.mp hlt)] at h
      exact ⟨seen, h⟩

/-- A search ends with a node that no node it can reach is farther than. -/
lemma farthestFrom_spec (F : Forest nodes G m) (hstart : start < m) :
    G.Reachable start (farthestFrom nodes start).1 ∧
      (farthestFrom nodes start).2 = G.dist start (farthestFrom nodes start).1 ∧
      ∀ v, G.Reachable start v → G.dist start v ≤ (farthestFrom nodes start).2 := by
  have hlt : start < nodes.length := hstart.trans_le F.inside
  have hof : ∀ v, Search.distanceOf
      ⟨(List.replicate nodes.length kInvalidPhysicalId).set start 0, [start], start⟩ v =
        if v = start then 0 else kInvalidPhysicalId := by
    intro v
    have hset := Search.distanceOf_set (s := ⟨List.replicate nodes.length kInvalidPhysicalId, [start], start⟩)
      (v := start) (x := v) (d := 0) (by rwa [List.length_replicate])
    refine hset.trans ?_
    by_cases hv : v = start
    · rw [if_pos hv, if_pos hv]
    · rw [if_neg hv, if_neg hv, Search.distanceOf, List.getElem?_replicate]
      split
      · rfl
      · rfl
  have hinit : Searching nodes G m start {start}
      ⟨(List.replicate nodes.length kInvalidPhysicalId).set start 0, [start], start⟩ [start] := by
    refine ⟨?_, ?_, ?_, Explored.initial rfl, ?_, Finset.mem_singleton_self start, ?_, rfl⟩
    · rw [List.length_set, List.length_replicate]
    · intro v
      rw [hof, Finset.mem_singleton]
      by_cases hv : v = start
      · rw [if_pos hv]
        exact iff_of_true (by decide) hv
      · rw [if_neg hv]
        exact iff_of_false (fun hne => hne rfl) hv
    · exact Finset.singleton_subset_iff.mpr (Finset.mem_range.mpr hstart)
    · intro v hv
      rw [Finset.mem_singleton] at hv
      rw [hof, if_pos hv, hv, SimpleGraph.dist_self]
    · intro v hv
      rw [Finset.mem_singleton.mp hv]
  obtain ⟨seen, h⟩ := searchFrom_spec F (nodes.length + 1) 0 hinit (Nat.zero_le 1) (by omega)
  have hvalue : (farthestFrom nodes start).2 = G.dist start (farthestFrom nodes start).1 :=
    h.distances _ h.met
  refine ⟨h.explored.reachable h.met, hvalue, fun v hv => ?_⟩
  rw [hvalue]
  exact h.farthest v (h.explored.complete hv)

/-- The longest path among the nodes that hang together with node 0. -/
lemma computeBusDiameter_spec (F : Forest nodes G m) (hm : 0 < m) :
    (∃ v, G.Reachable 0 v ∧ ∃ w, G.Reachable 0 w ∧ G.dist v w = computeBusDiameter nodes) ∧
      ∀ v w, G.Reachable 0 v → G.Reachable 0 w → G.dist v w ≤ computeBusDiameter nodes := by
  obtain ⟨hreach, hfar, hall⟩ := farthestFrom_spec F hm
  unfold computeBusDiameter
  by_cases hone : nodes.length ≤ 1
  · rw [if_pos hone]
    have hinside := F.inside
    have hself : ∀ v, G.Reachable 0 v → v = 0 := by
      rintro v ⟨p⟩
      cases p with
      | nil => rfl
      | cons hadj p =>
        have hlow := F.below _ _ hadj.symm
        exact absurd hadj.ne (not_not.mpr (by omega))
    refine ⟨⟨0, SimpleGraph.Reachable.refl 0, 0, SimpleGraph.Reachable.refl 0,
      SimpleGraph.dist_self⟩, fun v w hv hw => ?_⟩
    rw [hself v hv, hself w hw, SimpleGraph.dist_self]
  rw [if_neg hone]
  have hlow : (farthestFrom nodes 0).1 < m := by
    obtain ⟨p⟩ := hreach.symm
    generalize (farthestFrom nodes 0).1 = v at *
    cases p with
    | nil => exact hm
    | cons hadj p => exact F.below _ _ hadj
  obtain ⟨hreach', hfar', hall'⟩ := farthestFrom_spec F hlow
  refine ⟨⟨_, hreach, _, hreach.trans hreach', hfar'.symm⟩, fun v w hv hw => ?_⟩
  have hle := dist_le_of_farthest F.acyclic hv hw hreach fun x hx => (hall x hx).trans hfar.le
  have h₁ := hall' v (hreach.symm.trans hv)
  have h₂ := hall' w (hreach.symm.trans hw)
  exact hle.trans (max_le h₁ h₂)

/-! ### The graph that is returned -/

variable {records : List SelfIDNodeRecord} {localId : ℕ} {g : PhysicalTopologyGraph}
  {es : List BusEdge}

/-- The lengths of all paths between nodes of the graph. -/
def PhysicalTopologyGraph.pathLengths (g : PhysicalTopologyGraph) : Set ℕ :=
  {d | ∃ i < g.nodes.length, ∃ j < g.nodes.length, ∃ p : g.cables.Walk i j, p.IsPath ∧ p.length = d}

lemma Accepted.forest (h : Accepted records localId g es) (hroot : g.rootId < kInvalidPhysicalId) :
    Forest (linkedNodes records g.rootId localId es) g.cables (g.rootId + 1) := by
  have hget : ∀ (i : ℕ) (port : Port), g.linkAt i port =
      (linkedNodes records g.rootId localId es)[i]?.map fun node => node.links port := by
    intro i port
    have hgraph : g.linkAt i port = _ := congrArg (fun g => g.linkAt i port) h.graph
    rw [hgraph, finishGraph_linkAt]
  have hlink : ∀ (i : ℕ) (node : TopologyNodeRecord) (port : Port),
      (linkedNodes records g.rootId localId es)[i]? = some node →
        g.linkAt i port = some (node.links port) := by
    intro i node port hnode
    rw [hget, hnode, Option.map_some]
  refine ⟨?_, ?_, fun i j hadj => Nat.lt_succ_of_le (h.adj_le hadj), ?_, hroot, h.acyclic⟩
  · intro i node port hnode hconnected
    have heq := (h.linkAt_connected hconnected).mp (hlink i node port hnode)
    rw [h.adj_iff, joins_iff_linkOf h.cabled]
    exact ⟨port, by rw [heq, hconnected], by rw [heq]⟩
  · intro i j hadj
    obtain ⟨port, hconnected, hremote⟩ := (joins_iff_linkOf h.cabled).mp (h.adj_iff.mp hadj)
    have hsome := (h.linkAt_connected hconnected).mpr rfl
    rw [hget, Option.map_eq_some_iff] at hsome
    obtain ⟨node, hnode, hlinks⟩ := hsome
    exact ⟨node, port, hnode, by rw [hlinks, hconnected], by rw [hlinks, hremote]⟩
  · rw [linkedNodes, wired, List.length_append, List.length_map, List.length_map,
      ← List.length_append, List.take_append_drop]
    exact h.inside

/-- The diameter of every graph that is built is the length of its longest path. -/
theorem busDiameterHops_isGreatest (h : Builds records localId g) :
    IsGreatest g.pathLengths g.busDiameterHops := by
  obtain ⟨es, ha⟩ := buildPhysicalGraph_accepted h.1
  have F := ha.forest h.2
  have hdiameter : g.busDiameterHops = computeBusDiameter (linkedNodes records g.rootId localId es) :=
    congrArg PhysicalTopologyGraph.busDiameterHops ha.graph
  have hlength := ha.nodes_length
  have hinside := ha.inside
  have hzero : g.cables.Reachable g.rootId 0 := (ha.reachable_root (Nat.zero_le _)).symm
  have hnode : ∀ v, g.cables.Reachable 0 v → v ≤ g.rootId := by
    intro v hv
    by_contra hnot
    have heq := ha.eq_of_reachable (not_le.mp hnot) hv.symm
    omega
  obtain ⟨⟨v, hv, w, hw, hdist⟩, hall⟩ := computeBusDiameter_spec F (Nat.succ_pos _)
  rw [hdiameter]
  constructor
  · obtain ⟨p, hp, hplength⟩ := (hv.symm.trans hw).exists_path_of_dist
    have hvle := hnode v hv
    have hwle := hnode w hw
    exact ⟨v, by omega, w, by omega, p, hp, hplength.trans hdist⟩
  · rintro d ⟨i, -, j, -, p, hp, rfl⟩
    rw [length_eq_dist F.acyclic hp]
    by_cases hi : i ≤ g.rootId
    · have hreach := ((ha.reachable_root hi).trans hzero).symm
      exact hall i j hreach (hreach.trans p.reachable)
    · rw [ha.eq_of_reachable (not_le.mp hi) p.reachable, SimpleGraph.dist_self]
      exact Nat.zero_le _

theorem chain_busDiameterHops : ∃ g,
    Builds [reportOf 0 [.parent], reportOf 1 [.child, .parent], reportOf 2 [.child]] 0 g ∧
      g.busDiameterHops = 2 ∧ IsGreatest g.pathLengths g.busDiameterHops := by
  obtain ⟨g, hg, hhops⟩ : ∃ g,
      Builds [reportOf 0 [.parent], reportOf 1 [.child, .parent], reportOf 2 [.child]] 0 g ∧
        g.busDiameterHops = 2 := ⟨_, ⟨rfl, by decide⟩, by decide⟩
  exact ⟨g, hg, hhops, busDiameterHops_isGreatest hg⟩

end ASFireWire.Topology
