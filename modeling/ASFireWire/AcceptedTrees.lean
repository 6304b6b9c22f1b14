import ASFireWire.AcceptedGraphs

/-! When an accepted graph is a tree and when it shows every connection its records report. Records
beyond the root are the only way to a graph that is no tree. A Parent port of the root, or a second
one of another node, is left open without a word: the loop only asks for a first unresolved one. -/
namespace ASFireWire.Topology

variable {records : List SelfIDNodeRecord} {localId : ℕ} {g : PhysicalTopologyGraph}
  {es : List BusEdge}

lemma reached_getElem? {i rootId : ℕ} (hi : i ≤ rootId) :
    (records.take (rootId + 1))[i]? = records[i]? :=
  List.getElem?_take_of_lt (Nat.lt_succ_of_le hi)

namespace Accepted

variable (h : Accepted records localId g es)
include h

/-- The cable at a connected port, seen from either end. -/
lemma cable {i : ℕ} {port : Port} (hconnected : (linkOf es i port).connected = true) :
    ∃ e ∈ es, (e.child = i ∧ e.childPort = port ∧
        linkOf es i port = ⟨true, e.parent, e.parentPort⟩) ∨
      (e.parent = i ∧ e.parentPort = port ∧ linkOf es i port = ⟨true, e.child, e.childPort⟩) := by
  obtain ⟨e, he, htouch, -⟩ := linkOf_connected hconnected
  obtain ⟨hparent, hchild⟩ := linkOf_of_mem h.cabled.apart
    (fun e he => (h.cabled.ordered e he).1.ne') he
  rcases htouch with ⟨rfl, rfl⟩ | ⟨rfl, rfl⟩
  · exact ⟨e, he, Or.inl ⟨rfl, rfl, hchild⟩⟩
  · exact ⟨e, he, Or.inr ⟨rfl, rfl, hparent⟩⟩

lemma linkOf_child {e : BusEdge} (he : e ∈ es) :
    linkOf es e.child e.childPort = ⟨true, e.parent, e.parentPort⟩ :=
  (linkOf_of_mem h.cabled.apart (fun e he => (h.cabled.ordered e he).1.ne') he).2

lemma linkOf_parent {e : BusEdge} (he : e ∈ es) :
    linkOf es e.parent e.parentPort = ⟨true, e.child, e.childPort⟩ :=
  (linkOf_of_mem h.cabled.apart (fun e he => (h.cabled.ordered e he).1.ne') he).1

lemma child_lt {e : BusEdge} (he : e ∈ es) : e.child < g.rootId := by
  have hperm := h.cabled.perm
  rw [List.append_nil] at hperm
  exact List.mem_range.mp (hperm.subset (List.mem_map_of_mem he))

lemma child_inj {e e' : BusEdge} (he : e ∈ es) (he' : e' ∈ es) (heq : e.child = e'.child) :
    e = e' := by
  have hperm := h.cabled.perm
  rw [List.append_nil] at hperm
  exact List.inj_on_of_nodup_map (hperm.nodup_iff.mpr List.nodup_range) he he' heq

lemma exists_up {i : ℕ} (hi : i < g.rootId) : ∃ e ∈ es, e.child = i := by
  have hperm := h.cabled.perm
  rw [List.append_nil] at hperm
  exact List.mem_map.mp (hperm.mem_iff.mpr (List.mem_range.mpr hi))

lemma childPort_kind {e : BusEdge} (he : e ∈ es) {r : SelfIDNodeRecord}
    (hr : records[e.child]? = some r) : r.ports e.childPort = .parent := by
  apply h.cabled.childKind e he
  rw [reached_getElem? (h.child_lt he).le]
  exact hr

lemma parent_le {e : BusEdge} (he : e ∈ es) : e.parent ≤ g.rootId := h.cabled.below e he

lemma parentPort_kind {e : BusEdge} (he : e ∈ es) {r : SelfIDNodeRecord}
    (hr : records[e.parent]? = some r) : r.ports e.parentPort = .child := by
  apply h.cabled.parentKind e he
  rw [reached_getElem? (h.parent_le he)]
  exact hr

/-- The link of a port of a node, with the node's record. -/
lemma port_spec {i : ℕ} {node : TopologyNodeRecord} (hget : g.nodes[i]? = some node) (port : Port) :
    ∃ r, records[i]? = some r ∧ node.reportedPorts = r.ports ∧
      node.links port = if i ≤ g.rootId then linkOf es i port else {} := by
  obtain ⟨r, hr, -, hports⟩ := h.node hget
  refine ⟨r, hr, hports, ?_⟩
  have hlink := h.linkAt i port
  have hlt := (List.getElem?_eq_some_iff.mp hr).1
  rw [PhysicalTopologyGraph.linkAt, hget, Option.map_some] at hlink
  by_cases hi : i ≤ g.rootId
  · rw [if_pos hi] at hlink ⊢
    exact Option.some.inj hlink
  · rw [if_neg hi, if_pos hlt] at hlink
    rw [if_neg hi]
    exact Option.some.inj hlink

end Accepted

/-! ### The tree -/

/-- A reciprocal link on every cable, from each node but the root exactly one towards a higher ID,
and a path between any two nodes. -/
structure IsBusTree (g : PhysicalTopologyGraph) : Prop where
  numbered : ∀ (i : ℕ) (node : TopologyNodeRecord), g.nodes[i]? = some node → node.physicalId = i
  reciprocal : ∀ (i : ℕ) (port : Port) (link : TopologyPortLink), g.linkAt i port = some link →
    link.connected = true →
      ∃ q : Port, link.remotePort = q ∧ g.linkAt link.remoteNodeId q = some ⟨true, i, port⟩
  childPorts : ∀ (i : ℕ) (node : TopologyNodeRecord) (port : Port), g.nodes[i]? = some node →
    node.reportedPorts port = .child →
      (node.links port).connected = true ∧ (node.links port).remoteNodeId < i
  parentPorts : ∀ (i : ℕ) (node : TopologyNodeRecord) (port : Port), g.nodes[i]? = some node →
    node.reportedPorts port = .parent → (node.links port).connected = true →
      i < (node.links port).remoteNodeId
  upward : ∀ i < g.nodes.length, i ≠ g.rootId → ∃! port : Port, ∃ link, g.linkAt i port = some link ∧
    link.connected = true ∧ i < link.remoteNodeId
  top : ∀ (port : Port) (link : TopologyPortLink), g.linkAt g.rootId port = some link →
    link.connected = true → link.remoteNodeId < g.rootId
  edges : {e : ℕ × Port | ∃ link, g.linkAt e.1 e.2 = some link ∧ link.connected = true ∧
    link.remoteNodeId < e.1}.ncard + 1 = g.nodeCount
  connected : ∀ i < g.nodes.length, ∀ j < g.nodes.length, g.cables.Reachable i j

/-- No record lies beyond the position that the last record's ID names. -/
def EndsAtRoot (records : List SelfIDNodeRecord) : Prop :=
  ∃ root, records.getLast? = some root ∧ records.length = root.physicalId + 1

lemma Accepted.endsAtRoot_iff (h : Accepted records localId g es) :
    EndsAtRoot records ↔ records.length = g.rootId + 1 := by
  obtain ⟨r, hr, hid⟩ := h.root
  constructor
  · rintro ⟨root, hroot, hlength⟩
    obtain rfl := Option.some.inj (hr.symm.trans hroot)
    rw [hlength, hid]
  · intro hlength
    exact ⟨r, hr, by rw [hlength, hid]⟩

/-- Each cable counts once, at its upper end. -/
lemma Accepted.ncard_edges (h : Accepted records localId g es) :
    {e : ℕ × Port | ∃ link, g.linkAt e.1 e.2 = some link ∧ link.connected = true ∧
      link.remoteNodeId < e.1}.ncard = g.rootId := by
  have hset : {e : ℕ × Port | ∃ link, g.linkAt e.1 e.2 = some link ∧ link.connected = true ∧
      link.remoteNodeId < e.1} = ↑(es.map fun e => (e.parent, e.parentPort)).toFinset := by
    ext ⟨i, port⟩
    rw [List.coe_toFinset, Set.mem_ofPred_eq, Set.mem_ofPred_eq, List.mem_map]
    constructor
    · rintro ⟨link, hlink, hconnected, hlow⟩
      obtain rfl := (h.linkAt_connected hconnected).mp hlink
      obtain ⟨e, he, ⟨hi, -, hup⟩ | ⟨hi, hport, -⟩⟩ := h.cable hconnected
      · rw [hup] at hlow
        have := (h.cabled.ordered e he).1
        dsimp only at hlow
        omega
      · exact ⟨e, he, by rw [hi, hport]⟩
    · rintro ⟨e, he, heq⟩
      cases heq
      refine ⟨_, (h.linkAt_connected rfl).mpr (h.linkOf_parent he), rfl, ?_⟩
      exact (h.cabled.ordered e he).1
  have hnodup : (es.map fun e => (e.parent, e.parentPort)).Nodup := by
    apply List.Pairwise.map _ _ h.cabled.apart
    intro e e' hapart heq
    obtain ⟨hparent, hport⟩ := Prod.mk.inj heq
    exact hapart.1 (Or.inr ⟨hparent.symm, hport.symm⟩)
  have hperm := h.cabled.perm.length_eq
  rw [List.append_nil, List.length_map, List.length_range] at hperm
  rw [hset, Set.ncard_coe_finset, List.toFinset_card_of_nodup hnodup, List.length_map, hperm]

lemma Accepted.nodeCount (h : Accepted records localId g es) :
    g.nodeCount = records.length % 256 := by
  rw [← h.nodes_length]
  have hgraph : g.nodeCount = _ := congrArg PhysicalTopologyGraph.nodeCount h.graph
  have hlength : g.nodes.length = (linkedNodes records g.rootId localId es).length := by
    have hnodes : g.nodes.length = _ := congrArg (fun g => g.nodes.length) h.graph
    rw [hnodes, finishGraph_nodes_length]
  rw [hgraph, hlength]
  rfl

lemma Accepted.isBusTree (h : Accepted records localId g es) (hroot : g.rootId < kInvalidPhysicalId)
    (hends : records.length = g.rootId + 1) : IsBusTree g := by
  have hlength := h.nodes_length
  have hle : ∀ i < g.nodes.length, i ≤ g.rootId := by
    intro i hi
    omega
  refine ⟨?_, ?_, ?_, ?_, ?_, ?_, ?_, ?_⟩
  · intro i node hget
    obtain ⟨r, hr, hid, -⟩ := h.node hget
    rw [hid]
    apply h.numbered
    rw [reached_getElem? (hle i (List.getElem?_eq_some_iff.mp hget).1)]
    exact hr
  · intro i port link hlink hconnected
    obtain rfl := (h.linkAt_connected hconnected).mp hlink
    obtain ⟨e, he, ⟨rfl, rfl, hup⟩ | ⟨rfl, rfl, hdown⟩⟩ := h.cable hconnected
    · rw [hup]
      exact ⟨e.parentPort, rfl, (h.linkAt_connected rfl).mpr (h.linkOf_parent he)⟩
    · rw [hdown]
      exact ⟨e.childPort, rfl, (h.linkAt_connected rfl).mpr (h.linkOf_child he)⟩
  · intro i node port hget hkind
    have hi := hle i (List.getElem?_eq_some_iff.mp hget).1
    obtain ⟨r, hr, hports, hlink⟩ := h.port_spec hget port
    rw [if_pos hi] at hlink
    rw [hports] at hkind
    have hconnected := h.resolved i r port ((reached_getElem? hi).trans hr) hkind
    rw [hlink]
    refine ⟨hconnected, ?_⟩
    obtain ⟨e, he, ⟨rfl, rfl, -⟩ | ⟨rfl, rfl, hdown⟩⟩ := h.cable hconnected
    · rw [h.childPort_kind he hr] at hkind
      cases hkind
    · rw [hdown]
      exact (h.cabled.ordered e he).1
  · intro i node port hget hkind hconnected
    have hi := hle i (List.getElem?_eq_some_iff.mp hget).1
    obtain ⟨r, hr, hports, hlink⟩ := h.port_spec hget port
    rw [if_pos hi] at hlink
    rw [hports] at hkind
    rw [hlink] at hconnected ⊢
    obtain ⟨e, he, ⟨rfl, rfl, hup⟩ | ⟨rfl, rfl, -⟩⟩ := h.cable hconnected
    · rw [hup]
      exact (h.cabled.ordered e he).1
    · rw [h.parentPort_kind he hr] at hkind
      cases hkind
  · intro i hi hne
    obtain ⟨e, he, rfl⟩ := h.exists_up (lt_of_le_of_ne (hle i hi) hne)
    refine ⟨e.childPort, ⟨_, (h.linkAt_connected rfl).mpr (h.linkOf_child he), rfl,
      (h.cabled.ordered e he).1⟩, ?_⟩
    rintro port ⟨link, hlink, hconnected, hup⟩
    obtain rfl := (h.linkAt_connected hconnected).mp hlink
    obtain ⟨e', he', ⟨hchild, rfl, -⟩ | ⟨hparent, -, hdown⟩⟩ := h.cable hconnected
    · rw [h.child_inj he' he hchild]
    · rw [hdown] at hup
      have := (h.cabled.ordered e' he').1
      dsimp only at hup
      omega
  · intro port link hlink hconnected
    obtain rfl := (h.linkAt_connected hconnected).mp hlink
    obtain ⟨e, he, ⟨hchild, -, -⟩ | ⟨-, -, hdown⟩⟩ := h.cable hconnected
    · exact absurd hchild (h.child_lt he).ne
    · rw [hdown]
      exact h.child_lt he
  · rw [h.ncard_edges, h.nodeCount, hends]
    unfold kInvalidPhysicalId at hroot
    omega
  · intro i hi j hj
    exact (h.reachable_root (hle i hi)).trans (h.reachable_root (hle j hj)).symm

/-- What is built is a tree exactly when the last record's ID is its position. -/
theorem isBusTree_iff_endsAtRoot (h : Builds records localId g) : IsBusTree g ↔ EndsAtRoot records := by
  obtain ⟨es, ha⟩ := buildPhysicalGraph_accepted h.1
  rw [ha.endsAtRoot_iff]
  constructor
  · intro htree
    by_contra hne
    have hinside := ha.inside
    have hlength := ha.nodes_length
    have hreach := htree.connected (g.rootId + 1) (by omega) g.rootId (by omega)
    exact absurd (ha.eq_of_reachable (Nat.lt_succ_self _) hreach) (by omega)
  · exact ha.isBusTree h.2

/-- A record by its ID and the states of its first ports. -/
def reportOf (id : ℕ) (kinds : List PortState) : SelfIDNodeRecord :=
  { physicalId := id, ports := fun port => kinds[port.val]?.getD .notPresent }

theorem pair_isBusTree : ∃ g, Builds [reportOf 0 [.parent], reportOf 1 [.child]] 0 g ∧ IsBusTree g := by
  obtain ⟨g, hg⟩ : ∃ g, Builds [reportOf 0 [.parent], reportOf 1 [.child]] 0 g := ⟨_, rfl, by decide⟩
  exact ⟨g, hg, (isBusTree_iff_endsAtRoot hg).mpr ⟨_, rfl, rfl⟩⟩

/-- Two records of node 0 are taken for a bus of two nodes that nothing connects. -/
theorem not_isBusTree_twice :
    ∃ records localId g, Builds records localId g ∧ ¬ IsBusTree g := by
  refine ⟨[reportOf 0 [], reportOf 0 []], 0, _, ⟨rfl, by decide⟩, fun htree => ?_⟩
  obtain ⟨port, ⟨link, hlink, hconnected, -⟩, -⟩ := htree.upward 1 (by decide) (by decide)
  cases hlink
  cases hconnected

/-! ### Reported connections -/

/-- The connected links are those that the nodes report. -/
def Accounted (g : PhysicalTopologyGraph) : Prop :=
  ∀ (i : ℕ) (node : TopologyNodeRecord) (port : Port), g.nodes[i]? = some node →
    ((node.links port).connected = true ↔
      node.reportedPorts port = .parent ∨ node.reportedPorts port = .child)

/-- No Parent port at the root, no second one at another node, and nothing connected in the records
beyond the root. -/
def SoleParentPorts (records : List SelfIDNodeRecord) : Prop :=
  ∃ root, records.getLast? = some root ∧ ∀ (i : ℕ) (r : SelfIDNodeRecord), records[i]? = some r →
    (i < root.physicalId → ∀ p q, r.ports p = .parent → r.ports q = .parent → p = q) ∧
    (i = root.physicalId → ∀ p, r.ports p ≠ .parent) ∧
    (root.physicalId < i → ∀ p, r.ports p ≠ .parent ∧ r.ports p ≠ .child)

/-- The connected ports of a node that the loop has reached. -/
lemma Accepted.connected_iff (h : Accepted records localId g es) {i : ℕ} {r : SelfIDNodeRecord}
    (hi : i ≤ g.rootId) (hr : records[i]? = some r) (port : Port) :
    (linkOf es i port).connected = true ↔
      r.ports port = .child ∨ ∃ e ∈ es, e.child = i ∧ e.childPort = port := by
  constructor
  · intro hconnected
    obtain ⟨e, he, ⟨rfl, rfl, -⟩ | ⟨rfl, rfl, -⟩⟩ := h.cable hconnected
    · exact Or.inr ⟨e, he, rfl, rfl⟩
    · exact Or.inl (h.parentPort_kind he hr)
  · rintro (hkind | ⟨e, he, rfl, rfl⟩)
    · exact h.resolved i r port ((reached_getElem? hi).trans hr) hkind
    · rw [h.linkOf_child he]

lemma Accepted.accounted (h : Accepted records localId g es) (hsole : SoleParentPorts records) :
    Accounted g := by
  obtain ⟨last, hlast, hid⟩ := h.root
  obtain ⟨root, hroot, hrecords⟩ := hsole
  obtain rfl := Option.some.inj (hlast.symm.trans hroot)
  rw [hid] at hrecords
  intro i node port hget
  obtain ⟨r, hr, hports, hlink⟩ := h.port_spec hget port
  obtain ⟨hbelow, hat, hbeyond⟩ := hrecords i r hr
  rw [hports, hlink]
  by_cases hi : i ≤ g.rootId
  · rw [if_pos hi, h.connected_iff hi hr]
    constructor
    · rintro (hkind | ⟨e, he, rfl, rfl⟩)
      · exact Or.inr hkind
      · exact Or.inl (h.childPort_kind he hr)
    · rintro (hkind | hkind)
      · have hlt : i < g.rootId := lt_of_le_of_ne hi fun heq => hat heq port hkind
        obtain ⟨e, he, rfl⟩ := h.exists_up hlt
        exact Or.inr ⟨e, he, rfl, hbelow hlt _ _ (h.childPort_kind he hr) hkind⟩
      · exact Or.inl hkind
  · rw [if_neg hi]
    constructor
    · exact fun hcon => by cases hcon
    · rintro (hkind | hkind)
      · exact absurd hkind (hbeyond (not_le.mp hi) port).1
      · exact absurd hkind (hbeyond (not_le.mp hi) port).2

lemma Accepted.soleParentPorts (h : Accepted records localId g es) (haccounted : Accounted g) :
    SoleParentPorts records := by
  obtain ⟨root, hroot, hid⟩ := h.root
  refine ⟨root, hroot, fun i r hr => ?_⟩
  rw [hid]
  have hlt : i < g.nodes.length := h.nodes_length ▸ (List.getElem?_eq_some_iff.mp hr).1
  have hget := List.getElem?_eq_getElem hlt
  -- what an unaccounted port would have to be
  have hparent : i ≤ g.rootId → ∀ p, r.ports p = .parent →
      ∃ e ∈ es, e.child = i ∧ e.childPort = p := by
    intro hi p hp
    obtain ⟨r', hr', hports, hlink⟩ := h.port_spec hget p
    obtain rfl := Option.some.inj (hr.symm.trans hr')
    have hconnected := (haccounted i _ p hget).mpr (Or.inl (by rw [hports, hp]))
    rw [hlink, if_pos hi, h.connected_iff hi hr, hp] at hconnected
    exact hconnected.resolve_left (by decide)
  refine ⟨?_, ?_, ?_⟩
  · intro hi p q hp hq
    obtain ⟨e, he, hchild, rfl⟩ := hparent hi.le p hp
    obtain ⟨e', he', hchild', rfl⟩ := hparent hi.le q hq
    rw [h.child_inj he he' (hchild.trans hchild'.symm)]
  · intro hi p hp
    obtain ⟨e, he, hchild, -⟩ := hparent hi.le p hp
    exact absurd (hchild.trans hi) (h.child_lt he).ne
  · intro hi p
    obtain ⟨r', hr', hports, hlink⟩ := h.port_spec hget p
    obtain rfl := Option.some.inj (hr.symm.trans hr')
    have haccount := haccounted i _ p hget
    rw [hlink, if_neg (not_le.mpr hi), hports] at haccount
    constructor
    · intro hp
      cases haccount.mpr (Or.inl hp)
    · intro hp
      cases haccount.mpr (Or.inr hp)

/-- What is built shows every reported connection exactly when no node reports a Parent port that
nothing answers. -/
theorem accounted_iff_soleParentPorts (h : Builds records localId g) :
    Accounted g ↔ SoleParentPorts records := by
  obtain ⟨es, ha⟩ := buildPhysicalGraph_accepted h.1
  exact ⟨ha.soleParentPorts, ha.accounted⟩

theorem pair_accounted :
    ∃ g, Builds [reportOf 0 [.parent], reportOf 1 [.child]] 0 g ∧ Accounted g := by
  obtain ⟨g, hg⟩ : ∃ g, Builds [reportOf 0 [.parent], reportOf 1 [.child]] 0 g := ⟨_, rfl, by decide⟩
  refine ⟨g, hg, (accounted_iff_soleParentPorts hg).mpr ⟨_, rfl, fun i r hr => ?_⟩⟩
  match i with
  | 0 =>
    cases hr
    decide
  | 1 =>
    cases hr
    decide
  | i + 2 => cases hr

/-- A root with a Parent port is accepted, and so is a node with two of them. -/
theorem not_accounted_parentPorts :
    (∃ g, Builds [reportOf 0 [.parent], reportOf 1 [.child, .parent]] 0 g ∧ ¬ Accounted g) ∧
    ∃ g, Builds [reportOf 0 [.parent, .parent], reportOf 1 [.child]] 0 g ∧ ¬ Accounted g := by
  constructor
  · refine ⟨_, ⟨rfl, by decide⟩, fun haccounted => ?_⟩
    have hport := (haccounted 1 _ 1 rfl).mpr (Or.inl rfl)
    revert hport
    decide
  · refine ⟨_, ⟨rfl, by decide⟩, fun haccounted => ?_⟩
    have hport := (haccounted 0 _ 1 rfl).mpr (Or.inl rfl)
    revert hport
    decide

end ASFireWire.Topology
