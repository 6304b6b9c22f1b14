import ASFireWire.PhysicalTree
import ASFireWire.TopologySpeed
import ASFireWire.SelfIDPackets

/-! Both path speed computations take the minimum over the one path between their nodes. Each
search is followed by the invariant of `TreeSearch`; a node enters a queue when it is met, so the
unmet nodes and the queue together bound the number of rounds. -/
namespace ASFireWire.Topology

open TreeSearch

/-- Speed code a node reports. -/
def PhysicalTopologyGraph.speedOf (g : PhysicalTopologyGraph) (id : ℕ) : ℕ :=
  (g.nodes[id]?.map (·.speedCode)).getD 0

/-- The path between two nodes and the minimum of the weights on it. -/
def PathLeast (g : PhysicalTopologyGraph) (w : ℕ → ℕ) (a b speed : ℕ) : Prop :=
  ∃ p : g.cables.Walk a b, p.IsPath ∧ IsLeast (weights w p) speed

variable {g : PhysicalTopologyGraph} {a b : ℕ}

lemma PathLeast.symm {w : ℕ → ℕ} {speed : ℕ} (h : PathLeast g w a b speed) :
    PathLeast g w b a speed := by
  obtain ⟨p, hp, hleast⟩ := h
  refine ⟨p.reverse, hp.reverse, ?_⟩
  rw [weights_reverse]
  exact hleast

lemma TreeTopology.findNode_eq (T : TreeTopology g) (id : ℕ) : findNode g.nodes id = g.nodes[id]? := by
  cases hfind : findNode g.nodes id with
  | none =>
    cases hget : g.nodes[id]? with
    | none => rfl
    | some node =>
      have hnot := List.find?_eq_none.mp hfind node (List.mem_of_getElem? hget)
      simp [T.physicalId id node hget] at hnot
  | some node =>
    obtain ⟨j, hj⟩ := List.mem_iff_getElem?.mp (List.mem_of_find?_eq_some hfind)
    have hid := List.find?_some hfind
    rw [decide_eq_true_eq, T.physicalId j node hj] at hid
    rw [← hid, hj]

lemma TreeTopology.exists_node (T : TreeTopology g) {id : ℕ} (h : id < g.nodes.length) :
    ∃ node, g.nodes[id]? = some node ∧ node.speedCode = g.speedOf id ∧ g.speedOf id < 4 := by
  have hget : g.nodes[id]? = some g.nodes[id] := List.getElem?_eq_getElem h
  have hspeed : g.speedOf id = g.nodes[id].speedCode := by
    rw [PhysicalTopologyGraph.speedOf, hget]
    rfl
  refine ⟨g.nodes[id], hget, hspeed.symm, ?_⟩
  rw [hspeed]
  exact (T.speed id _ hget).1

/-- The links a search follows lead to the neighbours. -/
lemma TreeTopology.adj_of_link (T : TreeTopology g) {u : ℕ} {node : TopologyNodeRecord}
    (hnode : g.nodes[u]? = some node) {port : Port} (h : (node.links port).connected = true) :
    g.cables.Adj u (node.links port).remoteNodeId :=
  (T.adj u node _ hnode).mpr ⟨port, h, rfl⟩

/-! ### The search for one target -/

structure PathInv (g : PhysicalTopologyGraph) (a b : ℕ) (seen : Finset ℕ) (s : PathSearch)
    (pending : List ℕ) : Prop where
  marks : ∀ v, s.seen v = true ↔ v ∈ seen
  nodes : seen ⊆ Finset.range g.nodes.length
  explored : Explored g.cables g.speedOf a seen s.best pending
  target : b ∉ seen

/-- What following links of the current node can lead to. -/
def PathStep (g : PhysicalTopologyGraph) (a b current : ℕ) (seen : Finset ℕ) (s : PathSearch)
    (links : List TopologyPortLink) : Except ℕ PathSearch → Prop
  | .error speed => PathLeast g g.speedOf a b speed
  | .ok s' => ∃ seen', seen ⊆ seen' ∧ PathInv g a b seen' s' (current :: s'.queue) ∧
      s'.queue.length + seen.card = s.queue.length + seen'.card ∧
      ∀ link ∈ links, link.connected = true → link.remoteNodeId ∈ seen'

lemma visitPathLink_spec (T : TreeTopology g) {current : ℕ} {seen : Finset ℕ} {s : PathSearch}
    (h : PathInv g a b seen s (current :: s.queue)) {node : TopologyNodeRecord}
    (hnode : g.nodes[current]? = some node) (port : Port) :
    PathStep g a b current seen s [node.links port]
      (visitPathLink g.nodes b current s (node.links port)) := by
  unfold visitPathLink
  cases hconnected : (node.links port).connected with
  | false =>
    refine ⟨seen, subset_rfl, h, rfl, ?_⟩
    intro link hlink hcon
    rw [List.mem_singleton.mp hlink, hconnected] at hcon
    cases hcon
  | true =>
    have hadj := T.adj_of_link hnode hconnected
    obtain ⟨hremote, -⟩ := T.remote current node port hnode hconnected
    obtain ⟨record, hrecord, hspeed, hcode⟩ := T.exists_node hremote
    have hsize : ¬ kMaxPhysicalIds ≤ (node.links port).remoteNodeId :=
      Nat.not_le.mpr (hremote.trans_le T.size)
    rw [Bool.not_true, if_neg Bool.false_ne_true]
    by_cases hseen : s.seen (node.links port).remoteNodeId = true
    · rw [if_pos (Or.inr hseen)]
      refine ⟨seen, subset_rfl, h, rfl, ?_⟩
      intro link hlink _
      rw [List.mem_singleton.mp hlink]
      exact (h.marks _).mp hseen
    rw [if_neg (fun hcon => hcon.elim hsize hseen), T.findNode_eq, hrecord]
    have hnew : (node.links port).remoteNodeId ∉ seen := fun hmem => hseen ((h.marks _).mpr hmem)
    have hcurrent : current ∈ seen := h.explored.met current List.mem_cons_self
    have hmod : record.speedCode % 256 = g.speedOf (node.links port).remoteNodeId := by omega
    dsimp only
    rw [hmod]
    generalize hv : (node.links port).remoteNodeId = v at *
    -- the new state, whether or not the search stops here
    have hreach : Explored g.cables g.speedOf a (insert v seen)
        (Function.update s.best v (min (s.best current) (g.speedOf v)))
        ((current :: s.queue) ++ [v]) := by
      apply h.explored.reach hcurrent hadj hnew
      · exact Function.update_self ..
      · intro x hx
        have hne : x ≠ v := fun heq => hnew (heq ▸ hx)
        exact Function.update_of_ne hne ..
    by_cases htarget : v = b
    · rw [if_pos htarget]
      obtain ⟨p, hp, -, hleast⟩ := hreach.path v (Finset.mem_insert_self v seen)
      rw [Function.update_self] at hleast
      subst htarget
      exact ⟨p, hp, hleast⟩
    · rw [if_neg htarget]
      refine ⟨insert v seen, Finset.subset_insert v seen, ⟨?_, ?_, hreach, ?_⟩, ?_, ?_⟩
      · intro x
        by_cases hx : x = v
        · subst hx
          simp
        · dsimp only
          rw [Function.update_of_ne hx, h.marks, Finset.mem_insert]
          tauto
      · intro x hx
        rcases Finset.mem_insert.mp hx with rfl | hmem
        · exact Finset.mem_range.mpr hremote
        · exact h.nodes hmem
      · rw [Finset.mem_insert, not_or]
        exact ⟨fun heq => htarget heq.symm, h.target⟩
      · rw [Finset.card_insert_of_notMem hnew, List.length_append, List.length_singleton]
        omega
      · intro link hlink _
        rw [List.mem_singleton.mp hlink, hv]
        exact Finset.mem_insert_self v seen

lemma foldlM_visitPathLink_spec (T : TreeTopology g) {current : ℕ} {node : TopologyNodeRecord}
    (hnode : g.nodes[current]? = some node) (ports : List Port) {seen : Finset ℕ} {s : PathSearch}
    (h : PathInv g a b seen s (current :: s.queue)) :
    PathStep g a b current seen s (ports.map node.links)
      ((ports.map node.links).foldlM (visitPathLink g.nodes b current) s) := by
  induction ports generalizing seen s with
  | nil => exact ⟨seen, subset_rfl, h, rfl, fun _ hlink => absurd hlink List.not_mem_nil⟩
  | cons port ports ih =>
    rw [List.map_cons, List.foldlM_cons]
    have hone := visitPathLink_spec T h hnode port
    cases hvisit : visitPathLink g.nodes b current s (node.links port) with
    | error speed =>
      rw [hvisit] at hone
      exact hone
    | ok s' =>
      rw [hvisit] at hone
      obtain ⟨seen', hsub, hinv, hcount, hmet⟩ := hone
      have hrest := ih hinv
      change PathStep g a b current seen s (node.links port :: ports.map node.links)
        ((ports.map node.links).foldlM (visitPathLink g.nodes b current) s')
      cases hfold : (ports.map node.links).foldlM (visitPathLink g.nodes b current) s' with
      | error speed =>
        rw [hfold] at hrest
        exact hrest
      | ok s'' =>
        rw [hfold] at hrest
        obtain ⟨seen'', hsub', hinv', hcount', hmet'⟩ := hrest
        refine ⟨seen'', hsub.trans hsub', hinv', by omega, ?_⟩
        intro link hlink hconnected
        rcases List.mem_cons.mp hlink with rfl | hmem
        · exact hsub' (hmet _ (List.mem_singleton_self _) hconnected)
        · exact hmet' link hmem hconnected

/-- The ports below the port count have all the cables. -/
lemma TreeTopology.portLinks_complete (T : TreeTopology g) {u v : ℕ} {node : TopologyNodeRecord}
    (hnode : g.nodes[u]? = some node) (hadj : g.cables.Adj u v) :
    ∃ link ∈ portLinks node, link.connected = true ∧ link.remoteNodeId = v := by
  obtain ⟨port, hconnected, hremote⟩ := (T.adj u node v hnode).mp hadj
  refine ⟨node.links port, ?_, hconnected, hremote⟩
  apply List.mem_map_of_mem
  rw [List.mem_filter, decide_eq_true_eq]
  exact ⟨List.mem_finRange port, (T.remote u node port hnode hconnected).2⟩

/-- The search ends at its target, with the minimum on the path to it. -/
lemma searchPath_spec (T : TreeTopology g) (hreach : g.cables.Reachable a b) (fuel : ℕ)
    {seen : Finset ℕ} {s : PathSearch} (h : PathInv g a b seen s s.queue)
    (hfuel : g.nodes.length + s.queue.length < fuel + seen.card) :
    ∃ speed, searchPath g.nodes b fuel s = some speed ∧ PathLeast g g.speedOf a b speed := by
  induction fuel generalizing seen s with
  | zero =>
    have hcard := Finset.card_le_card h.nodes
    rw [Finset.card_range] at hcard
    omega
  | succ fuel ih =>
    rw [searchPath]
    cases hqueue : s.queue with
    | nil =>
      have hdone := h.explored
      rw [hqueue] at hdone
      exact absurd (hdone.complete hreach) h.target
    | cons current queue =>
      have hcurrent : current ∈ seen := by
        apply h.explored.met
        rw [hqueue]
        exact List.mem_cons_self
      obtain ⟨node, hnode, -⟩ := T.exists_node (Finset.mem_range.mp (h.nodes hcurrent))
      have hpopped : PathInv g a b seen { s with queue := queue } (current :: queue) :=
        ⟨h.marks, h.nodes, hqueue ▸ h.explored, h.target⟩
      have hfold := foldlM_visitPathLink_spec T hnode
        ((List.finRange kMaxPhyPorts).filter fun port => port.val < node.portCount) hpopped
      change PathStep g a b current seen { s with queue := queue } (portLinks node)
        ((portLinks node).foldlM (visitPathLink g.nodes b current) { s with queue := queue }) at hfold
      dsimp only
      rw [T.findNode_eq, hnode]
      dsimp only
      cases hresult : (portLinks node).foldlM (visitPathLink g.nodes b current)
          { s with queue := queue } with
      | error speed =>
        rw [hresult] at hfold
        exact ⟨speed, rfl, hfold⟩
      | ok s' =>
        rw [hresult] at hfold
        obtain ⟨seen', -, hinv, hcount, hmet⟩ := hfold
        rw [hqueue, List.length_cons] at hfuel
        apply ih ⟨hinv.marks, hinv.nodes, ?_, hinv.target⟩
        · dsimp only at hcount
          omega
        · apply hinv.explored.finish
          intro v hadj
          obtain ⟨link, hlink, hconnected, rfl⟩ := T.portLinks_complete hnode hadj
          exact hmet link hlink hconnected

/-- The node is there and its link is active. -/
def PhysicalTopologyGraph.Active (g : PhysicalTopologyGraph) (id : ℕ) : Prop :=
  ∃ node, g.nodes[id]? = some node ∧ node.linkActive = true

lemma PhysicalTopologyGraph.Active.lt (h : g.Active a) : a < g.nodes.length := by
  obtain ⟨node, hnode, -⟩ := h
  exact (List.getElem?_eq_some_iff.mp hnode).1

lemma pathLeast_self (w : ℕ → ℕ) (a : ℕ) : PathLeast g w a a (w a) :=
  ⟨SimpleGraph.Walk.nil, SimpleGraph.Walk.IsPath.nil, isLeast_weights_nil w a⟩

/-- `PathSpeedCodeBetween` of link-active nodes. -/
lemma pathSpeedCodeBetween_spec (T : TreeTopology g) (generation : ℕ) (ha : g.Active a)
    (hb : g.Active b) :
    ∃ speed, pathSpeedCodeBetween (validSnapshot generation g) a b = some speed ∧
      PathLeast g g.speedOf a b speed := by
  have hlta := ha.lt
  have hltb := hb.lt
  have hsize : ¬ (kMaxPhysicalIds ≤ a ∨ kMaxPhysicalIds ≤ b) := by
    have := T.size
    unfold kMaxFireWireNodes at this
    unfold kMaxPhysicalIds
    omega
  obtain ⟨recordA, hrecordA, hactiveA⟩ := ha
  obtain ⟨recordB, hrecordB, hactiveB⟩ := hb
  obtain ⟨node, hnode, hspeed, hcode⟩ := T.exists_node hlta
  obtain rfl : recordA = node := Option.some.inj (hrecordA.symm.trans hnode)
  have hmod : recordA.speedCode % 256 = g.speedOf a := by omega
  have hcall : pathSpeedCodeBetween (validSnapshot generation g) a b =
      if a = b then some (g.speedOf a)
      else searchPath g.nodes b (kMaxPhysicalIds + 1) {
        best := Function.update (fun _ => 0) a (g.speedOf a)
        seen := Function.update (fun _ => false) a true
        queue := [a] } := by
    unfold pathSpeedCodeBetween validSnapshot
    dsimp only
    rw [if_neg (not_not.mpr rfl), if_neg hsize, T.findNode_eq, T.findNode_eq, hrecordA, hrecordB]
    dsimp only
    rw [hactiveA, hactiveB, hmod]
    rfl
  rw [hcall]
  by_cases hab : a = b
  · subst hab
    exact ⟨g.speedOf a, if_pos rfl, pathLeast_self g.speedOf a⟩
  · rw [if_neg hab]
    have hinv : PathInv g a b {a} {
        best := Function.update (fun _ => 0) a (g.speedOf a)
        seen := Function.update (fun _ => false) a true
        queue := [a] } [a] := by
      refine ⟨?_, ?_, ?_, ?_⟩
      · intro v
        by_cases hv : v = a
        · subst hv
          simp
        · simp [hv]
      · rw [Finset.singleton_subset_iff]
        exact Finset.mem_range.mpr hlta
      · apply Explored.initial
        exact Function.update_self a (g.speedOf a) fun _ => 0
      · rw [Finset.mem_singleton]
        exact fun heq => hab heq.symm
    apply searchPath_spec T (T.reachable a hlta b hltb) _ hinv
    have := T.size
    unfold kMaxFireWireNodes at this
    unfold kMaxPhysicalIds
    rw [Finset.card_singleton, List.length_singleton]
    omega

/-! ### The matrix -/

/-- Speed code capped at S400. -/
def PhysicalTopologyGraph.legacyOf (g : PhysicalTopologyGraph) (id : ℕ) : ℕ := min (g.speedOf id) 2

lemma legacySpeedCode_ne_unknown (mbps : ℕ) : legacySpeedCode mbps ≠ .unknown := by
  unfold legacySpeedCode
  split
  · decide
  · split
    · decide
    · decide

lemma legacySpeedCode_min (x y : ℕ) : (legacySpeedCode (min x y)).code =
    min (legacySpeedCode x).code (legacySpeedCode y).code := by
  have hmono : ∀ x y, x ≤ y → (legacySpeedCode x).code ≤ (legacySpeedCode y).code := by
    intro x y hxy
    unfold legacySpeedCode
    by_cases hx : 400 ≤ x
    · rw [if_pos hx, if_pos (hx.trans hxy)]
    rw [if_neg hx]
    by_cases hx' : 200 ≤ x
    · rw [if_pos hx']
      by_cases hy : 400 ≤ y
      · rw [if_pos hy]
        decide
      · rw [if_neg hy, if_pos (hx'.trans hxy)]
    · rw [if_neg hx']
      exact Nat.zero_le _
  rcases Nat.le_total x y with hxy | hxy
  · rw [min_eq_left hxy, min_eq_left (hmono x y hxy)]
  · rw [min_eq_right hxy, min_eq_right (hmono y x hxy)]

lemma TreeTopology.legacySpeedCode_mbpsOf (T : TreeTopology g) {id : ℕ} (h : id < g.nodes.length) :
    (legacySpeedCode (mbpsOf g.nodes id)).code = g.legacyOf id := by
  obtain ⟨node, hnode, hspeed, hcode⟩ := T.exists_node h
  have hmbps : mbpsOf g.nodes id = decodeSpeed (g.speedOf id) := by
    rw [mbpsOf, hnode, ← hspeed]
    exact (T.speed id node hnode).2
  rw [hmbps, PhysicalTopologyGraph.legacyOf]
  generalize g.speedOf id = code at hcode
  match code, hcode with
  | 0, _ => rfl
  | 1, _ => rfl
  | 2, _ => rfl
  | 3, _ => rfl

/-- State of the search from one node: entries of met nodes are known and symmetric, and only
entries of the start's row and column change. -/
structure MatrixInv (g : PhysicalTopologyGraph) (before : SpeedMatrix) (start : ℕ)
    (seen : Finset ℕ) (s : MatrixSearch) (pending : List ℕ) : Prop where
  marks : ∀ v, s.visited v = true ↔ v ∈ seen
  nodes : seen ⊆ Finset.range g.nodes.length
  explored : Explored g.cables g.legacyOf start seen
    (fun v => if v = start then g.legacyOf start else (s.matrix start v).code) pending
  known : ∀ v ∈ seen, v ≠ start → s.matrix start v ≠ .unknown
  mirror : ∀ v ∈ seen, v ≠ start → s.matrix v start = s.matrix start v
  frame : ∀ x y, x = y ∨ x ≠ start ∧ y ≠ start → s.matrix x y = before x y

lemma finalSpeed_code {x y : FireWireSpeedCode} (h : x ≠ .unknown) :
    (finalSpeed x y).code = min x.code y.code := by
  unfold finalSpeed
  rw [if_neg h]
  by_cases hlt : x.code < y.code
  · rw [if_pos hlt, min_eq_left hlt.le]
  · rw [if_neg hlt, min_eq_right (not_lt.mp hlt)]

lemma finalSpeed_ne_unknown {x y : FireWireSpeedCode} (h : y ≠ .unknown) :
    finalSpeed x y ≠ .unknown := by
  unfold finalSpeed
  by_cases hx : x = .unknown
  · rw [if_pos hx]
    exact h
  rw [if_neg hx]
  split
  · exact hx
  · exact h

lemma set_set_apply (m : SpeedMatrix) (i j : ℕ) (speed : FireWireSpeedCode) (x y : ℕ) :
    (SpeedMatrix.set (SpeedMatrix.set m i j speed) j i speed) x y =
      if (x = i ∧ y = j) ∨ (x = j ∧ y = i) then speed else m x y := by
  unfold SpeedMatrix.set
  by_cases h : x = j ∧ y = i
  · rw [if_pos h, if_pos (Or.inr h)]
  rw [if_neg h]
  by_cases h' : x = i ∧ y = j
  · rw [if_pos h', if_pos (Or.inl h')]
  · rw [if_neg h', if_neg (fun hcon => hcon.elim h' h)]

/-- The speed written for a newly met node. -/
lemma MatrixInv.newSpeed {before : SpeedMatrix} {start u v : ℕ} {seen : Finset ℕ}
    {s : MatrixSearch} {pending : List ℕ} (T : TreeTopology g)
    (h : MatrixInv g before start seen s pending) (hu : u ∈ seen) (hv : v < g.nodes.length) :
    (finalSpeed (if u = start then .unknown else s.matrix start u)
        (legacySpeedCode (min (mbpsOf g.nodes u) (mbpsOf g.nodes v)))).code =
      min (if u = start then g.legacyOf start else (s.matrix start u).code) (g.legacyOf v) := by
  have hult := Finset.mem_range.mp (h.nodes hu)
  have hedge : (legacySpeedCode (min (mbpsOf g.nodes u) (mbpsOf g.nodes v))).code =
      min (g.legacyOf u) (g.legacyOf v) := by
    rw [legacySpeedCode_min, T.legacySpeedCode_mbpsOf hult, T.legacySpeedCode_mbpsOf hv]
  by_cases hstart : u = start
  · rw [if_pos hstart, if_pos hstart, finalSpeed, if_pos rfl, hedge, hstart]
  · have hle := h.explored.best_le hu
    rw [if_neg hstart] at hle
    rw [if_neg hstart, if_neg hstart, finalSpeed_code (h.known u hu hstart), hedge, ← min_assoc,
      min_eq_left hle]

lemma visitMatrixLink_spec (T : TreeTopology g) {before : SpeedMatrix} {start current : ℕ}
    {seen : Finset ℕ} {s : MatrixSearch}
    (h : MatrixInv g before start seen s (current :: s.queue)) {node : TopologyNodeRecord}
    (hnode : g.nodes[current]? = some node) (port : Port) :
    ∃ seen', seen ⊆ seen' ∧
      MatrixInv g before start seen' (visitMatrixLink g.nodes start current s (node.links port))
        (current :: (visitMatrixLink g.nodes start current s (node.links port)).queue) ∧
      (visitMatrixLink g.nodes start current s (node.links port)).queue.length + seen.card =
        s.queue.length + seen'.card ∧
      ((node.links port).connected = true → (node.links port).remoteNodeId ∈ seen') := by
  unfold visitMatrixLink
  dsimp only
  cases hconnected : (node.links port).connected with
  | false => exact ⟨seen, subset_rfl, h, rfl, fun hcon => by cases hcon⟩
  | true =>
    have hadj := T.adj_of_link hnode hconnected
    obtain ⟨hremote, -⟩ := T.remote current node port hnode hconnected
    have hsize : ¬ 64 ≤ (node.links port).remoteNodeId := by
      have := T.size
      unfold kMaxFireWireNodes at this
      omega
    rw [Bool.not_true, if_neg Bool.false_ne_true]
    by_cases hseen : s.visited (node.links port).remoteNodeId = true
    · rw [if_pos (Or.inr hseen)]
      exact ⟨seen, subset_rfl, h, rfl, fun _ => (h.marks _).mp hseen⟩
    rw [if_neg (fun hcon => hcon.elim hsize hseen)]
    have hnew : (node.links port).remoteNodeId ∉ seen := fun hmem => hseen ((h.marks _).mpr hmem)
    have hcurrent : current ∈ seen := h.explored.met current List.mem_cons_self
    generalize (node.links port).remoteNodeId = v at *
    have hspeed := h.newSpeed T hcurrent hremote
    have hknown : finalSpeed (if current = start then .unknown else s.matrix start current)
        (legacySpeedCode (min (mbpsOf g.nodes current) (mbpsOf g.nodes v))) ≠ .unknown :=
      finalSpeed_ne_unknown (legacySpeedCode_ne_unknown _)
    generalize finalSpeed (if current = start then .unknown else s.matrix start current)
      (legacySpeedCode (min (mbpsOf g.nodes current) (mbpsOf g.nodes v))) = speed at hspeed hknown ⊢
    have hstart : v ≠ start := fun heq => hnew (heq ▸ h.explored.start)
    have hold : ∀ x ∈ seen, x ≠ v := fun x hx heq => hnew (heq ▸ hx)
    refine ⟨insert v seen, Finset.subset_insert v seen, ⟨?_, ?_, ?_, ?_, ?_, ?_⟩, ?_, ?_⟩
    · intro x
      dsimp only
      by_cases hx : x = v
      · subst hx
        simp
      · rw [Function.update_of_ne hx, h.marks, Finset.mem_insert]
        tauto
    · intro x hx
      rcases Finset.mem_insert.mp hx with rfl | hmem
      · exact Finset.mem_range.mpr hremote
      · exact h.nodes hmem
    · apply h.explored.reach hcurrent hadj hnew
      · dsimp only
        rw [if_neg hstart, set_set_apply, if_pos (Or.inl ⟨rfl, rfl⟩)]
        exact hspeed
      · intro x hx
        dsimp only
        by_cases hxs : x = start
        · rw [if_pos hxs, if_pos hxs]
        · rw [if_neg hxs, if_neg hxs, set_set_apply,
            if_neg (fun hcon => hcon.elim (fun hc => hold x hx hc.2) (fun hc => hxs hc.2))]
    · intro x hx hxs
      dsimp only
      rw [set_set_apply]
      split
      · exact hknown
      · rename_i hother
        have hmem := (Finset.mem_insert.mp hx).resolve_left fun heq => hother (Or.inl ⟨rfl, heq⟩)
        exact h.known x hmem hxs
    · intro x hx hxs
      dsimp only
      rw [set_set_apply, set_set_apply]
      rcases Finset.mem_insert.mp hx with rfl | hmem
      · rw [if_pos (Or.inr ⟨rfl, rfl⟩), if_pos (Or.inl ⟨rfl, rfl⟩)]
      · have hxv := hold x hmem
        rw [if_neg (by tauto), if_neg (by tauto)]
        exact h.mirror x hmem hxs
    · intro x y hxy
      dsimp only
      rw [set_set_apply, if_neg]
      · exact h.frame x y hxy
      · rintro (⟨hx, hy⟩ | ⟨hx, hy⟩)
        · rcases hxy with heq | ⟨hne, -⟩
          · exact hstart (hy.symm.trans (heq.symm.trans hx))
          · exact hne hx
        · rcases hxy with heq | ⟨-, hne⟩
          · exact hstart (hx.symm.trans (heq.trans hy))
          · exact hne hy
    · dsimp only
      rw [Finset.card_insert_of_notMem hnew, List.length_append, List.length_singleton]
      omega
    · exact fun _ => Finset.mem_insert_self v seen

lemma foldl_visitMatrixLink_spec (T : TreeTopology g) {before : SpeedMatrix} {start current : ℕ}
    {node : TopologyNodeRecord} (hnode : g.nodes[current]? = some node) (ports : List Port)
    {seen : Finset ℕ} {s : MatrixSearch}
    (h : MatrixInv g before start seen s (current :: s.queue)) :
    ∃ seen', seen ⊆ seen' ∧
      MatrixInv g before start seen'
        ((ports.map node.links).foldl (visitMatrixLink g.nodes start current) s)
        (current :: ((ports.map node.links).foldl (visitMatrixLink g.nodes start current) s).queue) ∧
      ((ports.map node.links).foldl (visitMatrixLink g.nodes start current) s).queue.length +
        seen.card = s.queue.length + seen'.card ∧
      ∀ port ∈ ports, (node.links port).connected = true →
        (node.links port).remoteNodeId ∈ seen' := by
  induction ports generalizing seen s with
  | nil => exact ⟨seen, subset_rfl, h, rfl, fun _ hport => absurd hport List.not_mem_nil⟩
  | cons port ports ih =>
    obtain ⟨seen', hsub, hinv, hcount, hmet⟩ := visitMatrixLink_spec T h hnode port
    obtain ⟨seen'', hsub', hinv', hcount', hmet'⟩ := ih hinv
    rw [List.map_cons, List.foldl_cons]
    refine ⟨seen'', hsub.trans hsub', hinv', by omega, ?_⟩
    intro q hq hconnected
    rcases List.mem_cons.mp hq with rfl | hmem
    · exact hsub' (hmet hconnected)
    · exact hmet' q hmem hconnected

/-- The search meets every node. -/
lemma searchMatrix_spec (T : TreeTopology g) {before : SpeedMatrix} {start : ℕ} (fuel : ℕ)
    {seen : Finset ℕ} {s : MatrixSearch} (h : MatrixInv g before start seen s s.queue)
    (hfuel : g.nodes.length + s.queue.length < fuel + seen.card) :
    ∃ seen', MatrixInv g before start seen' (searchMatrix g.nodes start fuel s) [] := by
  induction fuel generalizing seen s with
  | zero =>
    have hcard := Finset.card_le_card h.nodes
    rw [Finset.card_range] at hcard
    omega
  | succ fuel ih =>
    rw [searchMatrix]
    cases hqueue : s.queue with
    | nil =>
      rw [hqueue] at h
      exact ⟨seen, h⟩
    | cons current queue =>
      have hcurrent : current ∈ seen := by
        apply h.explored.met
        rw [hqueue]
        exact List.mem_cons_self
      obtain ⟨node, hnode, -⟩ := T.exists_node (Finset.mem_range.mp (h.nodes hcurrent))
      have hpopped : MatrixInv g before start seen { s with queue := queue } (current :: queue) :=
        ⟨h.marks, h.nodes, hqueue ▸ h.explored, h.known, h.mirror, h.frame⟩
      obtain ⟨seen', -, hinv, hcount, hmet⟩ :=
        foldl_visitMatrixLink_spec T hnode (List.finRange kMaxPhyPorts) hpopped
      dsimp only
      rw [hnode, Option.map_some, Option.getD_some, List.ofFn_eq_map]
      rw [hqueue, List.length_cons] at hfuel
      have hall : ∀ v, g.cables.Adj current v → v ∈ seen' := by
        intro v hadj
        obtain ⟨port, hconnected, rfl⟩ := (T.adj current node v hnode).mp hadj
        exact hmet port (List.mem_finRange port) hconnected
      apply ih ⟨hinv.marks, hinv.nodes, hinv.explored.finish hall, hinv.known, hinv.mirror,
        hinv.frame⟩
      dsimp only at hcount
      omega

/-- An entry that holds the capped minimum of its path. -/
def EntryRight (g : PhysicalTopologyGraph) (m : SpeedMatrix) (a b : ℕ) : Prop :=
  m a b ≠ .unknown ∧ PathLeast g g.legacyOf a b (m a b).code

/-- One start: its row and column are right afterwards, the rest is as before. -/
lemma matrixFrom_spec (T : TreeTopology g) (m : SpeedMatrix × Bool) {start : ℕ}
    (hactive : g.Active start) :
    (∀ v < g.nodes.length, v ≠ start →
      EntryRight g (matrixFrom g.nodes m start).1 start v ∧
        EntryRight g (matrixFrom g.nodes m start).1 v start) ∧
      ∀ x y, x = y ∨ x ≠ start ∧ y ≠ start → (matrixFrom g.nodes m start).1 x y = m.1 x y := by
  have hlt := hactive.lt
  obtain ⟨node, hnode, hlink⟩ := hactive
  have hinv : MatrixInv g m.1 start {start} {
      visited := Function.update (fun _ => false) start true
      queue := [start]
      matrix := m.1 } [start] := by
    refine ⟨?_, ?_, Explored.initial (if_pos rfl), ?_, ?_, fun _ _ _ => rfl⟩
    · intro v
      by_cases hv : v = start
      · subst hv
        simp
      · simp [hv]
    · rw [Finset.singleton_subset_iff]
      exact Finset.mem_range.mpr hlt
    · intro v hv hne
      exact absurd (Finset.mem_singleton.mp hv) hne
    · intro v hv hne
      exact absurd (Finset.mem_singleton.mp hv) hne
  have hsize := T.size
  unfold kMaxFireWireNodes at hsize
  obtain ⟨seen, hdone⟩ := searchMatrix_spec T (64 + 1) hinv
    (by rw [Finset.card_singleton, List.length_singleton]; omega)
  have hmatrix : (matrixFrom g.nodes m start).1 = (searchMatrix g.nodes start (64 + 1) {
      visited := Function.update (fun _ => false) start true
      queue := [start]
      matrix := m.1 }).matrix := by
    unfold matrixFrom
    rw [hnode, Option.map_some, Option.getD_some, hlink, if_neg (by decide)]
  rw [hmatrix]
  refine ⟨?_, hdone.frame⟩
  intro v hv hne
  have hseen := hdone.explored.complete (T.reachable start hlt v hv)
  obtain ⟨p, hp, -, hleast⟩ := hdone.explored.path v hseen
  rw [if_neg hne] at hleast
  have hright : EntryRight g _ start v := ⟨hdone.known v hseen hne, p, hp, hleast⟩
  refine ⟨hright, ?_⟩
  rw [EntryRight, hdone.mirror v hseen hne]
  exact ⟨hright.1, hright.2.symm⟩

/-- After the first `k` starts the entries of active ones are right, and the diagonal is as it was
set up. -/
lemma foldl_matrixFrom_spec (T : TreeTopology g) (k : ℕ) (hk : k ≤ g.nodes.length) :
    (∀ a b, g.Active a → g.Active b → a ≠ b → a < k ∨ b < k →
      EntryRight g ((List.range k).foldl (matrixFrom g.nodes) (initialMatrix g.nodes, true)).1 a b) ∧
      ∀ a, ((List.range k).foldl (matrixFrom g.nodes) (initialMatrix g.nodes, true)).1 a a =
        initialMatrix g.nodes a a := by
  induction k with
  | zero => exact ⟨fun a b _ _ _ hlt => by omega, fun _ => rfl⟩
  | succ k ih =>
    obtain ⟨hright, hdiag⟩ := ih (by omega)
    rw [List.range_succ, List.foldl_append, List.foldl_cons, List.foldl_nil]
    generalize (List.range k).foldl (matrixFrom g.nodes) (initialMatrix g.nodes, true) = m at *
    by_cases hactive : g.Active k
    · obtain ⟨hrow, hframe⟩ := matrixFrom_spec T m hactive
      refine ⟨?_, fun a => (hframe a a (Or.inl rfl)).trans (hdiag a)⟩
      intro a b ha hb hab hlt
      by_cases hak : a = k
      · subst hak
        exact (hrow b hb.lt (Ne.symm hab)).1
      by_cases hbk : b = k
      · subst hbk
        exact (hrow a ha.lt hab).2
      · rw [EntryRight, hframe a b (Or.inr ⟨hak, hbk⟩)]
        exact hright a b ha hb hab (by omega)
    · have hskip : matrixFrom g.nodes m k = m := by
        unfold matrixFrom
        rw [if_pos]
        cases hnode : g.nodes[k]? with
        | none => rfl
        | some node =>
          cases hlink : node.linkActive with
          | false => simp [hlink]
          | true => exact absurd ⟨node, hnode, hlink⟩ hactive
      rw [hskip]
      refine ⟨?_, hdiag⟩
      intro a b ha hb hab hlt
      have hak : a ≠ k := fun heq => hactive (heq ▸ ha)
      have hbk : b ≠ k := fun heq => hactive (heq ▸ hb)
      exact hright a b ha hb hab (by omega)

/-- The published entry of two link-active nodes. -/
lemma publishFromTopology_spec (T : TreeTopology g) (s : SpeedMapService) (generation : ℕ)
    (ha : g.Active a) (hb : g.Active b) :
    PathLeast g g.legacyOf a b
      ((s.publishFromTopology (validSnapshot generation g)).speedMatrix a b).code := by
  have hcount : ¬ ((validSnapshot generation g).graphStatus ≠ .valid ∨
      (validSnapshot generation g).nodeCount = 0) := by
    rintro (hcon | hcon)
    · exact hcon rfl
    · have hlen := T.count
      rw [show g.nodeCount = 0 from hcon] at hlen
      exact T.nonempty (List.length_eq_zero_iff.mp hlen.symm)
  have hmatrix : (s.publishFromTopology (validSnapshot generation g)).speedMatrix =
      (computeMatrix g.nodes).1 := by
    unfold SpeedMapService.publishFromTopology
    rw [if_neg hcount]
    rfl
  obtain ⟨hright, hdiag⟩ := foldl_matrixFrom_spec T g.nodes.length le_rfl
  rw [hmatrix, computeMatrix]
  dsimp only
  by_cases hab : a = b
  · subst hab
    have hlt := ha.lt
    obtain ⟨node, hnode, -⟩ := ha
    have hself : initialMatrix g.nodes a a = legacySpeedCode (mbpsOf g.nodes a) := by
      rw [initialMatrix, if_pos rfl, hnode, mbpsOf, hnode]
      rfl
    rw [hdiag, hself, if_neg (legacySpeedCode_ne_unknown _), T.legacySpeedCode_mbpsOf hlt]
    exact pathLeast_self g.legacyOf a
  · obtain ⟨hknown, hleast⟩ := hright a b ha hb hab (Or.inl ha.lt)
    rw [if_neg hknown]
    exact hleast

/-! ### Agreement -/

lemma isLeast_legacy {p : g.cables.Walk a b} {speed : ℕ} (h : IsLeast (weights g.speedOf p) speed) :
    IsLeast (weights g.legacyOf p) (min speed 2) := by
  obtain ⟨⟨y, hy, rfl⟩, hle⟩ := h
  constructor
  · exact ⟨y, hy, rfl⟩
  · rintro x ⟨z, hz, rfl⟩
    exact min_le_min_right 2 (hle ⟨z, hz, rfl⟩)

/-- Path speed between link-active nodes of a graph built from a parsed self-ID stream: there is
one path, both directions give the minimum speed code on it, and the published matrix holds that
minimum capped at S400. -/
theorem pathSpeeds_agree {result : SelfIDCaptureResult} {recs : List SelfIDNodeRecord} {localId : ℕ}
    (hparse : parse result = .ok recs) (hbuild : buildPhysicalGraph recs localId = .ok g)
    (generation : ℕ) (s : SpeedMapService) (ha : g.Active a) (hb : g.Active b) :
    ∃ (p : g.cables.Walk a b) (speed : ℕ), p.IsPath ∧ (∀ q : g.cables.Walk a b, q.IsPath → q = p) ∧
      IsLeast (weights g.speedOf p) speed ∧
      pathSpeedCodeBetween (validSnapshot generation g) a b = some speed ∧
      pathSpeedCodeBetween (validSnapshot generation g) b a = some speed ∧
      ((s.publishFromTopology (validSnapshot generation g)).speedMatrix a b).code =
        min speed FireWireSpeedCode.s400.code := by
  have T := treeTopology_of_build hparse hbuild
  have hunique : ∀ p q : g.cables.Walk a b, p.IsPath → q.IsPath → q = p := by
    intro p q hp hq
    exact congrArg Subtype.val ((T.acyclic.subsingleton_path a b).elim ⟨q, hq⟩ ⟨p, hp⟩)
  obtain ⟨speed, hspeed, p, hp, hleast⟩ := pathSpeedCodeBetween_spec T generation ha hb
  refine ⟨p, speed, hp, fun q hq => hunique p q hp hq, hleast, hspeed, ?_, ?_⟩
  · obtain ⟨speed', hspeed', hback⟩ := pathSpeedCodeBetween_spec T generation hb ha
    obtain ⟨q, hq, hleast'⟩ := hback.symm
    rw [hunique p q hp hq] at hleast'
    rw [hspeed', hleast'.unique hleast]
  · obtain ⟨q, hq, hleast'⟩ := publishFromTopology_spec T s generation ha hb
    rw [hunique p q hp hq] at hleast'
    exact hleast'.unique (isLeast_legacy hleast)

/-- A leaf, a link-inactive S200 repeater and the root, one behind the other. -/
def repeaterBus : SelfIDCaptureResult :=
  PhyReport.capture 0 [
    { phyId := 0, extended := 0, absent := by decide
      ports := fun port => if port.val = 0 then .parent else .notPresent },
    { phyId := 1, linkActive := false, speedCode := 1, extended := 0, absent := by decide
      ports := fun port => if port.val = 0 then .parent else if port.val = 1 then .child
        else .notPresent },
    { phyId := 2, speedCode := 3, extended := 0, absent := by decide
      ports := fun port => if port.val = 0 then .child else .notPresent }]

theorem repeaterBus_pathSpeed :
    ∃ recs g, parse repeaterBus = .ok recs ∧ buildPhysicalGraph recs 0 = .ok g ∧ g.Active 0 ∧
      g.Active 2 ∧ ∃ p : g.cables.Walk 0 2, p.IsPath ∧ IsLeast (weights g.speedOf p) 1 ∧
        ((SpeedMapService.publishFromTopology {} (validSnapshot 7 g)).speedMatrix 0 2).code = 1 := by
  have hrun : ((parse repeaterBus).toOption.bind fun recs => (buildPhysicalGraph recs 0).toOption).map
      (fun g => ((g.nodes[0]?.map (·.linkActive)), (g.nodes[2]?.map (·.linkActive)),
        pathSpeedCodeBetween (validSnapshot 7 g) 0 2)) = some (some true, some true, some 1) := by
    decide +kernel
  cases hparse : parse repeaterBus with
  | error err =>
    rw [hparse] at hrun
    cases hrun
  | ok recs =>
    rw [hparse] at hrun
    cases hbuild : buildPhysicalGraph recs 0 with
    | error err =>
      change Option.map _ (buildPhysicalGraph recs 0).toOption = _ at hrun
      rw [hbuild] at hrun
      cases hrun
    | ok g =>
      change Option.map _ (buildPhysicalGraph recs 0).toOption = _ at hrun
      rw [hbuild] at hrun
      obtain ⟨h0, h2, hval⟩ : (g.nodes[0]?.map (·.linkActive)) = some true ∧
          (g.nodes[2]?.map (·.linkActive)) = some true ∧
          pathSpeedCodeBetween (validSnapshot 7 g) 0 2 = some 1 := by
        simpa only [Except.toOption, Option.map_some, Option.some.injEq, Prod.mk.injEq] using hrun
      have hactive0 : g.Active 0 := Option.map_eq_some_iff.mp h0
      have hactive2 : g.Active 2 := Option.map_eq_some_iff.mp h2
      obtain ⟨p, speed, hp, -, hleast, hspeed, -, hmatrix⟩ :=
        pathSpeeds_agree hparse hbuild 7 {} hactive0 hactive2
      obtain rfl : speed = 1 := Option.some.inj (hspeed.symm.trans hval)
      exact ⟨recs, g, rfl, hbuild, hactive0, hactive2, p, hp, hleast, hmatrix⟩

end ASFireWire.Topology
