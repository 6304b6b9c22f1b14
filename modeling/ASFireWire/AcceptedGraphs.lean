import ASFireWire.PhysicalTree

/-! What `BuildPhysicalGraph` returns for an arbitrary record list. The root is the last record, and
the loop runs over the positions up to the root's ID only: records at later positions come through
unread, whatever they say. -/
namespace ASFireWire.Topology

variable {records : List SelfIDNodeRecord} {rootId localId id : ℕ}

/-! ### What the loop keeps -/

/-- A node keeps its record, and its links stay. -/
structure NodeKept (node node' : TopologyNodeRecord) : Prop where
  physicalId : node'.physicalId = node.physicalId
  ports : node'.reportedPorts = node.reportedPorts
  links : ∀ port, (node.links port).connected = true → (node'.links port).connected = true

lemma NodeKept.refl (node : TopologyNodeRecord) : NodeKept node node :=
  ⟨rfl, rfl, fun _ h => h⟩

lemma NodeKept.trans {a b c : TopologyNodeRecord} (hab : NodeKept a b) (hbc : NodeKept b c) :
    NodeKept a c :=
  ⟨hbc.physicalId.trans hab.physicalId, hbc.ports.trans hab.ports,
    fun port h => hbc.links port (hab.links port h)⟩

lemma setLink_connected (node : TopologyNodeRecord) (port : Port) {link : TopologyPortLink}
    (h : link.connected = true) : ((setLink node port link).links port).connected = true :=
  (congrArg TopologyPortLink.connected (Function.update_self ..)).trans h

lemma NodeKept.setLink (node : TopologyNodeRecord) (port : Port) {link : TopologyPortLink}
    (h : link.connected = true) : NodeKept node (setLink node port link) := by
  refine ⟨rfl, rfl, fun q hq => ?_⟩
  by_cases hport : q = port
  · rw [hport]
    exact setLink_connected node port h
  · exact (congrArg TopologyPortLink.connected (Function.update_of_ne hport ..)).trans hq

/-- The node array of a later state. -/
structure Kept (nodes nodes' : List TopologyNodeRecord) : Prop where
  length : nodes'.length = nodes.length
  node : ∀ (i : ℕ) (node' : TopologyNodeRecord), nodes'[i]? = some node' →
    ∃ node, nodes[i]? = some node ∧ NodeKept node node'

lemma Kept.refl (nodes : List TopologyNodeRecord) : Kept nodes nodes :=
  ⟨rfl, fun _ node h => ⟨node, h, NodeKept.refl node⟩⟩

lemma Kept.trans {a b c : List TopologyNodeRecord} (hab : Kept a b) (hbc : Kept b c) : Kept a c := by
  refine ⟨hbc.length.trans hab.length, fun i node'' h => ?_⟩
  obtain ⟨node', h', hkept'⟩ := hbc.node i node'' h
  obtain ⟨node, h₀, hkept⟩ := hab.node i node' h'
  exact ⟨node, h₀, hkept.trans hkept'⟩

lemma Kept.modify (nodes : List TopologyNodeRecord) (i : ℕ) (port : Port) {link : TopologyPortLink}
    (h : link.connected = true) : Kept nodes (nodes.modify i (setLink · port link)) := by
  refine ⟨List.length_modify .., fun j node' hget => ?_⟩
  rw [List.getElem?_modify, Option.map_eq_map, Option.map_eq_some_iff] at hget
  obtain ⟨node, hnode, rfl⟩ := hget
  refine ⟨node, hnode, ?_⟩
  split
  · exact NodeKept.setLink node port h
  · exact NodeKept.refl node

lemma connectBidirectional_kept (nodes : List TopologyNodeRecord) (parent : ℕ) (parentPort : Port)
    (child : ℕ) (childPort : Port) :
    Kept nodes (connectBidirectional nodes parent parentPort child childPort) := by
  unfold connectBidirectional
  split
  · exact (Kept.modify nodes parent parentPort rfl).trans (Kept.modify _ child childPort rfl)
  · exact Kept.refl nodes

/-- A Child port that has its cable. -/
def Resolved (nodes : List TopologyNodeRecord) (id : ℕ) (port : Port) : Prop :=
  ∀ node, nodes[id]? = some node → node.reportedPorts port = .child →
    (node.links port).connected = true

lemma Resolved.kept {nodes nodes' : List TopologyNodeRecord} {port : Port}
    (h : Resolved nodes id port) (hkept : Kept nodes nodes') : Resolved nodes' id port := by
  intro node' hget hport
  obtain ⟨node, hnode, hk⟩ := hkept.node id node' hget
  exact hk.links port (h node hnode (hk.ports ▸ hport))

lemma connectBidirectional_resolved {nodes : List TopologyNodeRecord} {child : ℕ}
    {c : TopologyNodeRecord} (hc : nodes[child]? = some c) (port childPort : Port) :
    Resolved (connectBidirectional nodes id port child childPort) id port := by
  intro node' hget hport
  unfold connectBidirectional at hget
  cases hnode : nodes[id]? with
  | none =>
    rw [hnode] at hget
    exact absurd (hnode.symm.trans hget) (by simp)
  | some node =>
    rw [hnode, hc] at hget
    dsimp only at hget
    obtain ⟨middle, hmiddle, hkept⟩ := (Kept.modify _ child childPort rfl).node id node' hget
    apply hkept.links
    rw [List.getElem?_modify_eq, hnode] at hmiddle
    cases hmiddle
    exact setLink_connected node port rfl

/-- One port of the inner loop. -/
lemma resolveChildPort_kept {current : TopologyNodeRecord} {port : Port} {s s' : BuildState}
    (hcurrent : ∀ node, s.nodes[id]? = some node → node.reportedPorts = current.reportedPorts)
    (hstep : resolveChildPort id current s port = .ok s') :
    Kept s.nodes s'.nodes ∧ Resolved s'.nodes id port := by
  unfold resolveChildPort at hstep
  by_cases hkind : current.reportedPorts port ≠ .child
  · rw [if_pos hkind] at hstep
    cases hstep
    refine ⟨Kept.refl _, fun node hget hport => ?_⟩
    rw [hcurrent node hget] at hport
    exact absurd hport hkind
  rw [if_neg hkind] at hstep
  cases hstack : s.unresolvedChildren with
  | nil =>
    rw [hstack] at hstep
    cases hstep
  | cons childId rest =>
    rw [hstack] at hstep
    dsimp only at hstep
    cases hchild : s.nodes[childId]? with
    | none =>
      rw [hchild] at hstep
      cases hstep
    | some child =>
      rw [hchild] at hstep
      dsimp only at hstep
      cases hfree : firstUnresolvedParentPort child with
      | none =>
        rw [hfree] at hstep
        cases hstep
      | some childPort =>
        rw [hfree] at hstep
        cases hstep
        exact ⟨connectBidirectional_kept _ _ _ _ _, connectBidirectional_resolved hchild _ _⟩

lemma resolveChildPorts_kept {current : TopologyNodeRecord} {s s' : BuildState} (ports : List Port)
    (hcurrent : ∀ node, s.nodes[id]? = some node → node.reportedPorts = current.reportedPorts)
    (hfold : ports.foldlM (resolveChildPort id current) s = .ok s') :
    Kept s.nodes s'.nodes ∧ ∀ port ∈ ports, Resolved s'.nodes id port := by
  induction ports generalizing s with
  | nil =>
    cases hfold
    exact ⟨Kept.refl _, by simp⟩
  | cons port ports ih =>
    rw [List.foldlM_cons] at hfold
    cases hstep : resolveChildPort id current s port with
    | error err =>
      rw [hstep] at hfold
      cases hfold
    | ok middle =>
      rw [hstep] at hfold
      obtain ⟨hkept, hport⟩ := resolveChildPort_kept hcurrent hstep
      have hmiddle : ∀ node, middle.nodes[id]? = some node →
          node.reportedPorts = current.reportedPorts := by
        intro node hget
        obtain ⟨old, hold, hk⟩ := hkept.node id node hget
        exact hk.ports.trans (hcurrent old hold)
      obtain ⟨hkept', hrest⟩ := ih hmiddle hfold
      refine ⟨hkept.trans hkept', fun q hq => ?_⟩
      rcases List.mem_cons.mp hq with rfl | hmem
      · exact hport.kept hkept'
      · exact hrest q hmem

/-- A node the loop has passed. -/
structure Passed (nodes : List TopologyNodeRecord) (id : ℕ) : Prop where
  numbered : ∃ node, nodes[id]? = some node ∧ node.physicalId = id
  resolved : ∀ port, Resolved nodes id port

lemma Passed.kept {nodes nodes' : List TopologyNodeRecord} (h : Passed nodes id)
    (hkept : Kept nodes nodes') : Passed nodes' id := by
  obtain ⟨node, hnode, hid⟩ := h.numbered
  refine ⟨?_, fun port => (h.resolved port).kept hkept⟩
  have hlt : id < nodes'.length := hkept.length ▸ (List.getElem?_eq_some_iff.mp hnode).1
  obtain ⟨old, hold, hk⟩ := hkept.node id _ (List.getElem?_eq_getElem hlt)
  obtain rfl := Option.some.inj (hold.symm.trans hnode)
  exact ⟨_, List.getElem?_eq_getElem hlt, hk.physicalId.trans hid⟩

lemma processNode_kept {s s' : BuildState} (hstep : processNode rootId s id = .ok s') :
    Kept s.nodes s'.nodes ∧ Passed s'.nodes id := by
  unfold processNode at hstep
  cases hcurrent : s.nodes[id]? with
  | none =>
    rw [hcurrent] at hstep
    cases hstep
  | some current =>
    rw [hcurrent] at hstep
    dsimp only at hstep
    by_cases hid : current.physicalId ≠ id
    · rw [if_pos hid] at hstep
      cases hstep
    rw [if_neg hid] at hstep
    cases hfold : descendingPorts.foldlM (resolveChildPort id current) s with
    | error err =>
      rw [hfold] at hstep
      cases hstep
    | ok middle =>
      rw [hfold] at hstep
      obtain ⟨hkept, hports⟩ := resolveChildPorts_kept descendingPorts
        (fun node hget => congrArg TopologyNodeRecord.reportedPorts
          (Option.some.inj (hget.symm.trans hcurrent))) hfold
      have hnodes : s'.nodes = middle.nodes := by
        change (if id < rootId then _ else _) = _ at hstep
        by_cases hroot : id < rootId
        · rw [if_pos hroot] at hstep
          cases hport : middle.nodes[id]?.bind firstUnresolvedParentPort with
          | none =>
            rw [hport] at hstep
            cases hstep
          | some port =>
            rw [hport] at hstep
            cases hstep
            rfl
        · rw [if_neg hroot] at hstep
          cases hstep
          rfl
      rw [hnodes]
      refine ⟨hkept, ?_, fun port => hports port ?_⟩
      · have hlt : id < middle.nodes.length := hkept.length ▸ (List.getElem?_eq_some_iff.mp hcurrent).1
        obtain ⟨old, hold, hk⟩ := hkept.node id _ (List.getElem?_eq_getElem hlt)
        obtain rfl := Option.some.inj (hold.symm.trans hcurrent)
        exact ⟨_, List.getElem?_eq_getElem hlt, hk.physicalId.trans (not_not.mp hid)⟩
      · exact List.mem_reverse.mpr (List.mem_finRange port)

lemma processNodes_kept {s s' : BuildState} {n : ℕ}
    (hfold : (List.range n).foldlM (processNode rootId) s = .ok s') :
    Kept s.nodes s'.nodes ∧ ∀ i < n, Passed s'.nodes i := by
  induction n generalizing s' with
  | zero =>
    cases hfold
    exact ⟨Kept.refl _, fun i hi => absurd hi (Nat.not_lt_zero i)⟩
  | succ n ih =>
    rw [foldlM_range_succ] at hfold
    cases hrun : (List.range n).foldlM (processNode rootId) s with
    | error err =>
      rw [hrun] at hfold
      cases hfold
    | ok middle =>
      rw [hrun] at hfold
      obtain ⟨hkept, hpassed⟩ := ih hrun
      obtain ⟨hkept', hlast⟩ := processNode_kept hfold
      refine ⟨hkept.trans hkept', fun i hi => ?_⟩
      rcases Nat.lt_succ_iff_lt_or_eq.mp hi with hlt | rfl
      · exact (hpassed i hlt).kept hkept'
      · exact hlast

/-! ### Records beyond the root -/

/-- More nodes after those that the loop reaches. -/
def BuildState.extend (s : BuildState) (extra : List TopologyNodeRecord) : BuildState :=
  { s with nodes := s.nodes ++ extra }

/-- The nodes of the stack are positions of the array. -/
def BuildState.Closed (s : BuildState) : Prop := ∀ child ∈ s.unresolvedChildren, child < s.nodes.length

variable {extra : List TopologyNodeRecord}

lemma modify_append {nodes : List TopologyNodeRecord} {i : ℕ} (hi : i < nodes.length)
    (f : TopologyNodeRecord → TopologyNodeRecord) :
    (nodes ++ extra).modify i f = nodes.modify i f ++ extra := by
  apply List.ext_getElem?
  intro j
  rw [List.getElem?_modify]
  by_cases hj : j < nodes.length
  · rw [List.getElem?_append_left hj, List.getElem?_append_left (by rwa [List.length_modify]),
      List.getElem?_modify]
  · rw [List.getElem?_append_right (not_lt.mp hj),
      List.getElem?_append_right (by rw [List.length_modify]; exact not_lt.mp hj),
      List.length_modify]
    have hne : i ≠ j := by omega
    simp [hne]

lemma connectBidirectional_append {nodes : List TopologyNodeRecord} {parent child : ℕ}
    (hp : parent < nodes.length) (hc : child < nodes.length) (parentPort childPort : Port) :
    connectBidirectional (nodes ++ extra) parent parentPort child childPort =
      connectBidirectional nodes parent parentPort child childPort ++ extra := by
  unfold connectBidirectional
  rw [List.getElem?_append_left hp, List.getElem?_append_left hc, List.getElem?_eq_getElem hp,
    List.getElem?_eq_getElem hc]
  dsimp only
  rw [modify_append hp, modify_append (by rwa [List.length_modify])]

lemma resolveChildPort_extend {current : TopologyNodeRecord} {port : Port} {s t : BuildState}
    (hid : id < s.nodes.length) (hclosed : s.Closed)
    (hstep : resolveChildPort id current (s.extend extra) port = .ok t) :
    ∃ s', resolveChildPort id current s port = .ok s' ∧ t = s'.extend extra ∧
      s'.nodes.length = s.nodes.length ∧ s'.Closed := by
  unfold resolveChildPort at hstep ⊢
  by_cases hkind : current.reportedPorts port ≠ .child
  · rw [if_pos hkind] at hstep ⊢
    cases hstep
    exact ⟨s, rfl, rfl, rfl, hclosed⟩
  rw [if_neg hkind] at hstep ⊢
  obtain ⟨nodes, stack⟩ := s
  cases stack with
  | nil => cases hstep
  | cons childId rest =>
    have hchild : childId < nodes.length := hclosed childId List.mem_cons_self
    dsimp only [BuildState.extend] at hstep ⊢
    rw [List.getElem?_append_left hchild, List.getElem?_eq_getElem hchild] at hstep
    rw [List.getElem?_eq_getElem hchild]
    dsimp only at hstep ⊢
    cases hfree : firstUnresolvedParentPort nodes[childId] with
    | none =>
      rw [hfree] at hstep
      cases hstep
    | some childPort =>
      rw [hfree] at hstep
      cases hstep
      have hlength := (connectBidirectional_kept nodes id port childId childPort).length
      refine ⟨_, rfl, ?_, hlength, fun child hmem => ?_⟩
      · rw [connectBidirectional_append hid hchild]
      · exact hlength ▸ hclosed child (List.mem_cons_of_mem childId hmem)

lemma resolveChildPorts_extend {current : TopologyNodeRecord} {s t : BuildState} (ports : List Port)
    (hid : id < s.nodes.length) (hclosed : s.Closed)
    (hfold : ports.foldlM (resolveChildPort id current) (s.extend extra) = .ok t) :
    ∃ s', ports.foldlM (resolveChildPort id current) s = .ok s' ∧ t = s'.extend extra ∧
      s'.nodes.length = s.nodes.length ∧ s'.Closed := by
  induction ports generalizing s with
  | nil =>
    cases hfold
    exact ⟨s, rfl, rfl, rfl, hclosed⟩
  | cons port ports ih =>
    rw [List.foldlM_cons] at hfold ⊢
    cases hstep : resolveChildPort id current (s.extend extra) port with
    | error err =>
      rw [hstep] at hfold
      cases hfold
    | ok middle =>
      rw [hstep] at hfold
      obtain ⟨s', hs', rfl, hlength, hclosed'⟩ := resolveChildPort_extend hid hclosed hstep
      obtain ⟨s'', hs'', rfl, hlength', hclosed''⟩ := ih (hlength ▸ hid) hclosed' hfold
      refine ⟨s'', ?_, rfl, hlength'.trans hlength, hclosed''⟩
      rw [hs']
      exact hs''

lemma processNode_extend {s t : BuildState} (hid : id < s.nodes.length) (hclosed : s.Closed)
    (hstep : processNode rootId (s.extend extra) id = .ok t) :
    ∃ s', processNode rootId s id = .ok s' ∧ t = s'.extend extra ∧
      s'.nodes.length = s.nodes.length ∧ s'.Closed := by
  unfold processNode at hstep ⊢
  have hget : (s.extend extra).nodes[id]? = some s.nodes[id] := by
    rw [BuildState.extend, List.getElem?_append_left hid, List.getElem?_eq_getElem hid]
  rw [hget] at hstep
  rw [List.getElem?_eq_getElem hid]
  dsimp only at hstep ⊢
  by_cases hphysical : s.nodes[id].physicalId ≠ id
  · rw [if_pos hphysical] at hstep
    cases hstep
  rw [if_neg hphysical] at hstep ⊢
  cases hfold : descendingPorts.foldlM (resolveChildPort id s.nodes[id]) (s.extend extra) with
  | error err =>
    rw [hfold] at hstep
    cases hstep
  | ok middle =>
    rw [hfold] at hstep
    obtain ⟨s', hs', rfl, hlength, hclosed'⟩ := resolveChildPorts_extend descendingPorts hid hclosed hfold
    rw [hs']
    change (if id < rootId then _ else _) = _ at hstep
    change ∃ s'', (if id < rootId then _ else _) = _ ∧ _
    by_cases hroot : id < rootId
    · rw [if_pos hroot] at hstep ⊢
      have hnode : (s'.extend extra).nodes[id]? = s'.nodes[id]? :=
        List.getElem?_append_left (hlength ▸ hid)
      rw [hnode] at hstep
      cases hport : s'.nodes[id]?.bind firstUnresolvedParentPort with
      | none =>
        rw [hport] at hstep
        cases hstep
      | some port =>
        rw [hport] at hstep
        cases hstep
        refine ⟨_, rfl, rfl, hlength, fun child hmem => ?_⟩
        rcases List.mem_cons.mp hmem with rfl | hmem
        · exact hlength ▸ hid
        · exact hclosed' child hmem
    · rw [if_neg hroot] at hstep ⊢
      cases hstep
      exact ⟨s', rfl, rfl, hlength, hclosed'⟩

/-- The loop does the same without the records it does not reach. -/
lemma processNodes_extend {s t : BuildState} {n : ℕ} (hn : n ≤ s.nodes.length) (hclosed : s.Closed)
    (hfold : (List.range n).foldlM (processNode rootId) (s.extend extra) = .ok t) :
    ∃ s', (List.range n).foldlM (processNode rootId) s = .ok s' ∧ t = s'.extend extra ∧
      s'.nodes.length = s.nodes.length ∧ s'.Closed := by
  induction n generalizing t with
  | zero =>
    cases hfold
    exact ⟨s, rfl, rfl, rfl, hclosed⟩
  | succ n ih =>
    rw [foldlM_range_succ] at hfold ⊢
    cases hrun : (List.range n).foldlM (processNode rootId) (s.extend extra) with
    | error err =>
      rw [hrun] at hfold
      cases hfold
    | ok middle =>
      rw [hrun] at hfold
      obtain ⟨s', hs', rfl, hlength, hclosed'⟩ := ih (by omega) hrun
      obtain ⟨s'', hs'', rfl, hlength', hclosed''⟩ := processNode_extend (by omega) hclosed' hfold
      refine ⟨s'', ?_, rfl, hlength'.trans hlength, hclosed''⟩
      rw [hs']
      exact hs''

/-! ### The graph -/

/-- The call returns this graph. Its loop counter is a `uint8_t`, which never passes a root ID of
255: with that root the loop over the nodes ends by an error or not at all. -/
def Builds (records : List SelfIDNodeRecord) (localPhysicalId : ℕ) (g : PhysicalTopologyGraph) :
    Prop :=
  buildPhysicalGraph records localPhysicalId = .ok g ∧ g.rootId < kInvalidPhysicalId

/-- The node array at the end of the loop: links on the records up to the root's ID, none on the
others. -/
def linkedNodes (records : List SelfIDNodeRecord) (rootId localId : ℕ) (es : List BusEdge) :
    List TopologyNodeRecord :=
  wired rootId localId (records.take (rootId + 1)) es ++
    (records.drop (rootId + 1)).map (toNodeRecord rootId localId)

/-- A graph that was built, with the cables the loop has found. -/
structure Accepted (records : List SelfIDNodeRecord) (localId : ℕ) (g : PhysicalTopologyGraph)
    (es : List BusEdge) : Prop where
  root : ∃ r, records.getLast? = some r ∧ r.physicalId = g.rootId
  inside : g.rootId < records.length
  numbered : Numbered (records.take (g.rootId + 1))
  cabled : Cabled (records.take (g.rootId + 1)) g.rootId es []
  resolved : ∀ (i : ℕ) (r : SelfIDNodeRecord) (port : Port),
    (records.take (g.rootId + 1))[i]? = some r → r.ports port = .child →
      (linkOf es i port).connected = true
  graph : g = finishGraph g.rootId localId (linkedNodes records g.rootId localId es)

theorem buildPhysicalGraph_accepted {g : PhysicalTopologyGraph}
    (h : buildPhysicalGraph records localId = .ok g) : ∃ es, Accepted records localId g es := by
  unfold buildPhysicalGraph at h
  cases hlast : records.getLast? with
  | none =>
    rw [hlast] at h
    cases h
  | some root =>
    rw [hlast] at h
    dsimp only at h
    cases hrun : (List.range (root.physicalId + 1)).foldlM (processNode root.physicalId)
        (⟨records.map (toNodeRecord root.physicalId localId), []⟩ : BuildState) with
    | error err =>
      rw [hrun] at h
      cases h
    | ok s =>
      rw [hrun] at h
      change (if s.unresolvedChildren ≠ [] then _ else _) = _ at h
      by_cases hstack : s.unresolvedChildren ≠ []
      · rw [if_pos hstack] at h
        cases h
      rw [if_neg hstack] at h
      obtain ⟨hkept, hpassed⟩ := processNodes_kept hrun
      have hinside : root.physicalId < records.length := by
        obtain ⟨node, hnode, -⟩ := (hpassed root.physicalId (Nat.lt_succ_self _)).numbered
        have hlt := (List.getElem?_eq_some_iff.mp hnode).1
        rwa [hkept.length, List.length_map] at hlt
      generalize hid : root.physicalId = rootId at *
      have hnumbered : Numbered (records.take (rootId + 1)) := by
        intro i r hr
        have hi : i < rootId + 1 := by
          have := (List.getElem?_eq_some_iff.mp hr).1
          rw [List.length_take] at this
          omega
        obtain ⟨node, hnode, hphysical⟩ := (hpassed i hi).numbered
        obtain ⟨old, hold, hk⟩ := hkept.node i node hnode
        rw [List.getElem?_take_of_lt hi] at hr
        dsimp only at hold
        rw [List.getElem?_map, hr] at hold
        cases hold
        exact hk.physicalId.symm.trans hphysical
      have hsplit : (⟨records.map (toNodeRecord rootId localId), []⟩ : BuildState) =
          (builtState rootId localId (records.take (rootId + 1)) [] []).extend
            ((records.drop (rootId + 1)).map (toNodeRecord rootId localId)) := by
        rw [builtState, wired_nil, BuildState.extend, ← List.map_append, List.take_append_drop]
      rw [hsplit] at hrun
      obtain ⟨s', hs', rfl, -, -⟩ := processNodes_extend
        (by simp only [builtState, wired, List.length_map, List.length_take]; omega)
        (fun _ hmem => absurd hmem List.not_mem_nil) hrun
      obtain ⟨es, stack, rfl, hcabled⟩ := processAll_ok hnumbered hs'
      rw [not_not] at hstack
      obtain rfl : stack = [] := hstack
      cases h
      refine ⟨es, ⟨root, hlast, hid⟩, hinside, hnumbered, hcabled, ?_, rfl⟩
      intro i r port hr hport
      have hi : i < rootId + 1 := by
        have := (List.getElem?_eq_some_iff.mp hr).1
        rw [List.length_take] at this
        exact (lt_min_iff.mp this).1
      have hnode : ((builtState rootId localId (records.take (rootId + 1)) es []).extend
          ((records.drop (rootId + 1)).map (toNodeRecord rootId localId))).nodes[i]? =
          some (wiredNode rootId localId es r) := by
        have hget : (wired rootId localId (records.take (rootId + 1)) es)[i]? = _ := wired_getElem? hr
        rw [BuildState.extend, builtState,
          List.getElem?_append_left (List.getElem?_eq_some_iff.mp hget).1, hget]
      have hresolved := (hpassed i hi).resolved port _ hnode hport
      rwa [wiredNode, hnumbered i r hr] at hresolved

namespace Accepted

variable {g : PhysicalTopologyGraph} {es : List BusEdge} (h : Accepted records localId g es)
include h

lemma length_take : (records.take (g.rootId + 1)).length = g.rootId + 1 := by
  rw [List.length_take]
  exact min_eq_left h.inside

lemma nodes_length : g.nodes.length = records.length := by
  have hlength : (linkedNodes records g.rootId localId es).length = records.length := by
    rw [linkedNodes, wired, List.length_append, List.length_map, List.length_map,
      ← List.length_append, List.take_append_drop]
  rw [h.graph, finishGraph_nodes_length, hlength]

lemma linkAt (i : ℕ) (port : Port) : g.linkAt i port =
    if i ≤ g.rootId then some (linkOf es i port) else if i < records.length then some {} else none := by
  have htake := h.length_take
  have hwired : (wired g.rootId localId (records.take (g.rootId + 1)) es).length = g.rootId + 1 := by
    rw [wired, List.length_map, htake]
  have hgraph : g.linkAt i port = _ := congrArg (fun g => g.linkAt i port) h.graph
  rw [hgraph, finishGraph_linkAt, linkedNodes]
  by_cases hi : i ≤ g.rootId
  · have hlt : i < (records.take (g.rootId + 1)).length := by omega
    have hget := List.getElem?_eq_getElem hlt
    rw [List.getElem?_append_left (by omega), wired_getElem? hget, Option.map_some, wiredNode,
      h.numbered i _ hget, if_pos hi]
  · rw [List.getElem?_append_right (by omega), hwired, List.getElem?_map, List.getElem?_drop,
      if_neg hi]
    have hindex : g.rootId + 1 + (i - (g.rootId + 1)) = i := by omega
    rw [hindex]
    by_cases hlt : i < records.length
    · rw [List.getElem?_eq_getElem hlt, if_pos hlt]
      rfl
    · rw [List.getElem?_eq_none_iff.mpr (not_lt.mp hlt), if_neg hlt]
      rfl

lemma node {i : ℕ} {node : TopologyNodeRecord} (hget : g.nodes[i]? = some node) :
    ∃ r, records[i]? = some r ∧ node.physicalId = r.physicalId ∧ node.reportedPorts = r.ports := by
  have hgraph : g.nodes[i]? = _ := congrArg (fun g => g.nodes[i]?) h.graph
  rw [hgraph] at hget
  obtain ⟨old, hold, hnode⟩ := finishGraph_node hget
  have hrecord : ∃ r, records[i]? = some r ∧ old.physicalId = r.physicalId ∧
      old.reportedPorts = r.ports := by
    rw [linkedNodes] at hold
    by_cases hi : i < (wired g.rootId localId (records.take (g.rootId + 1)) es).length
    · rw [List.getElem?_append_left hi, wired, List.getElem?_map, Option.map_eq_some_iff] at hold
      obtain ⟨r, hr, rfl⟩ := hold
      have hlt := (List.getElem?_eq_some_iff.mp hr).1
      rw [List.length_take] at hlt
      rw [List.getElem?_take_of_lt (lt_min_iff.mp hlt).1] at hr
      exact ⟨r, hr, rfl, rfl⟩
    · rw [List.getElem?_append_right (not_lt.mp hi), List.getElem?_map, Option.map_eq_some_iff] at hold
      obtain ⟨r, hr, rfl⟩ := hold
      rw [wired, List.length_map, h.length_take] at hi hr
      rw [List.getElem?_drop] at hr
      have hindex : g.rootId + 1 + (i - (g.rootId + 1)) = i := by omega
      exact ⟨r, hindex ▸ hr, rfl, rfl⟩
  obtain ⟨r, hr, hid, hports⟩ := hrecord
  refine ⟨r, hr, ?_, ?_⟩
  · rw [hnode]
    exact hid
  · rw [hnode]
    exact hports

/-- Connected links are cables. -/
lemma linkAt_connected {i : ℕ} {port : Port} {link : TopologyPortLink}
    (hconnected : link.connected = true) : g.linkAt i port = some link ↔ linkOf es i port = link := by
  rw [h.linkAt]
  by_cases hi : i ≤ g.rootId
  · rw [if_pos hi, Option.some.injEq]
  · have hnone : ¬ (linkOf es i port).connected = true := by
      intro hcon
      have hlt := ((joins_iff_linkOf h.cabled).mpr ⟨port, hcon, rfl⟩).lt h.cabled
      rw [h.length_take] at hlt
      omega
    rw [if_neg hi]
    constructor
    · intro hlink
      by_cases hlt : i < records.length
      · rw [if_pos hlt] at hlink
        cases hlink
        cases hconnected
      · rw [if_neg hlt] at hlink
        cases hlink
    · rintro rfl
      exact absurd hconnected hnone

lemma adj_iff {i j : ℕ} : g.cables.Adj i j ↔ Joins es i j :=
  cables_adj_iff h.cabled fun _ _ _ hconnected => h.linkAt_connected hconnected

lemma acyclic : g.cables.IsAcyclic := by
  apply TreeSearch.isAcyclic_of_unique_greater
  intro v x y hx hy hvx hvy
  exact (h.adj_iff.mp hx).parent_unique h.cabled (h.adj_iff.mp hy) hvx hvy

lemma adj_le {i j : ℕ} (hadj : g.cables.Adj i j) : i ≤ g.rootId := by
  have hlt := (h.adj_iff.mp hadj).lt h.cabled
  rw [h.length_take] at hlt
  omega

lemma reachable_root {i : ℕ} (hi : i ≤ g.rootId) : g.cables.Reachable i g.rootId := by
  apply TreeSearch.reachable_of_ascending _ i hi
  intro k hk
  obtain ⟨j, hkj, hjoins⟩ := exists_parent h.cabled hk
  have hadj := h.adj_iff.mpr hjoins
  exact ⟨j, hkj, h.adj_le hadj.symm, hadj⟩

/-- Nodes beyond the root hang on nothing. -/
lemma eq_of_reachable {i j : ℕ} (hi : g.rootId < i) (hreach : g.cables.Reachable i j) : i = j := by
  obtain ⟨p⟩ := hreach
  cases p with
  | nil => rfl
  | cons hadj p => exact absurd (h.adj_le hadj) (not_le.mpr hi)

end Accepted

end ASFireWire.Topology
