import ASFireWire.TreeSearch
import ASFireWire.TopologyReconstruction
import ASFireWire.SelfIDStreamParser

/-! Whatever records `BuildPhysicalGraph` accepts, the graph it returns is a tree: the nodes with
a known parent and the nodes on the stack are together the nodes processed so far, so in the end
every node but the root has one cable upwards. -/
namespace ASFireWire.Topology

open TreeSearch

/-- Cables found while node `id` is processed, and the nodes still waiting for their parent. -/
structure Cabled (recs : List SelfIDNodeRecord) (id : ℕ) (es : List BusEdge) (stack : List ℕ) :
    Prop where
  ordered : ∀ e ∈ es, e.child < e.parent ∧ e.parent < recs.length
  below : ∀ e ∈ es, e.parent ≤ id
  parentKind : ∀ e ∈ es, ∀ r, recs[e.parent]? = some r → r.ports e.parentPort = .child
  childKind : ∀ e ∈ es, ∀ r, recs[e.child]? = some r → r.ports e.childPort = .parent
  apart : es.Pairwise BusEdge.Apart
  perm : (es.map (·.child) ++ stack).Perm (List.range id)

variable {recs : List SelfIDNodeRecord} {rootId localId id : ℕ} {es : List BusEdge}
  {stack : List ℕ}

lemma Cabled.initial : Cabled recs 0 [] [] :=
  ⟨by simp, by simp, by simp, by simp, List.Pairwise.nil, List.Perm.refl _⟩

lemma untouched_of_not_connected {port : Port} (h : (linkOf es id port).connected = false) :
    Untouched es id port := by
  induction es with
  | nil => exact fun e he => absurd he List.not_mem_nil
  | cons e es ih =>
    by_cases htouch : e.Touches id port
    · exfalso
      rw [linkOf] at h
      by_cases hchild : e.child = id ∧ e.childPort = port
      · rw [if_pos hchild] at h
        cases h
      · rw [if_neg hchild, if_pos (htouch.resolve_left hchild)] at h
        cases h
    · rw [linkOf_cons_of_not_touches htouch] at h
      intro e' he'
      rcases List.mem_cons.mp he' with rfl | hmem
      · exact htouch
      · exact ih h e' hmem

lemma firstUnresolvedParentPort_some {r : SelfIDNodeRecord} {port : Port}
    (h : firstUnresolvedParentPort (wiredNode rootId localId es r) = some port) :
    r.ports port = .parent ∧ Untouched es r.physicalId port := by
  have hfound := List.find?_some h
  rw [Bool.and_eq_true, decide_eq_true_eq, Bool.not_eq_true'] at hfound
  exact ⟨hfound.1, untouched_of_not_connected hfound.2⟩

/-- A waiting node gets its cable, at a port of the current node that has none yet. -/
lemma Cabled.connect {e : BusEdge} (h : Cabled recs id es (e.child :: stack)) (hparent : e.parent = id)
    (hid : id < recs.length) (hport : ∀ r, recs[id]? = some r → r.ports e.parentPort = .child)
    (hup : ∀ r, recs[e.child]? = some r → r.ports e.childPort = .parent)
    (hnew : ∀ e' ∈ es, e'.parent = id → e'.parentPort ≠ e.parentPort)
    (hfree : Untouched es e.child e.childPort) : Cabled recs id (e :: es) stack := by
  have hperm : ((e :: es).map (·.child) ++ stack).Perm (List.range id) := by
    apply List.Perm.trans _ h.perm
    rw [List.map_cons, List.cons_append]
    exact List.perm_middle.symm
  have hbelow : ∀ e' ∈ e :: es, e'.child < id := by
    intro e' he'
    apply List.mem_range.mp
    apply hperm.subset
    exact List.mem_append_left _ (List.mem_map_of_mem he')
  refine ⟨?_, ?_, ?_, ?_, ?_, hperm⟩
  · intro e' he'
    rcases List.mem_cons.mp he' with rfl | hmem
    · rw [hparent]
      exact ⟨hbelow e' he', hid⟩
    · exact h.ordered e' hmem
  · intro e' he'
    rcases List.mem_cons.mp he' with rfl | hmem
    · exact hparent.le
    · exact h.below e' hmem
  · intro e' he' r hr
    rcases List.mem_cons.mp he' with rfl | hmem
    · exact hport r (hparent ▸ hr)
    · exact h.parentKind e' hmem r hr
  · intro e' he' r hr
    rcases List.mem_cons.mp he' with rfl | hmem
    · exact hup r hr
    · exact h.childKind e' hmem r hr
  · rw [List.pairwise_cons]
    refine ⟨fun e' hmem => ⟨?_, hfree e' hmem⟩, h.apart⟩
    rintro (⟨hchild, -⟩ | ⟨hsame, hp⟩)
    · have hlt := hbelow e' (List.mem_cons_of_mem e hmem)
      omega
    · exact hnew e' hmem (hsame.trans hparent) hp

/-! ### The run -/

/-- The state with these cables and waiting nodes. -/
def builtState (rootId localId : ℕ) (recs : List SelfIDNodeRecord) (es : List BusEdge)
    (stack : List ℕ) : BuildState :=
  ⟨wired rootId localId recs es, stack⟩

lemma resolveChildPort_ok (hn : Numbered recs) (hid : id < recs.length)
    {current : TopologyNodeRecord} {port : Port} {s : BuildState}
    (hcurrent : ∀ r, recs[id]? = some r → current.reportedPorts = r.ports)
    (h : Cabled recs id es stack)
    (hnew : ∀ e ∈ es, e.parent = id → e.parentPort ≠ port)
    (hstep : resolveChildPort id current (builtState rootId localId recs es stack) port = .ok s) :
    ∃ es' stack', s = builtState rootId localId recs es' stack' ∧ Cabled recs id es' stack' ∧
      ∀ e ∈ es', e ∈ es ∨ e.parentPort = port := by
  unfold resolveChildPort at hstep
  by_cases hkind : current.reportedPorts port ≠ .child
  · rw [if_pos hkind] at hstep
    cases hstep
    exact ⟨es, stack, rfl, h, fun e he => Or.inl he⟩
  rw [if_neg hkind, not_not] at *
  cases stack with
  | nil => cases hstep
  | cons childId rest =>
    dsimp only [builtState] at hstep
    have hchild : childId < id := by
      apply List.mem_range.mp
      apply h.perm.subset
      exact List.mem_append_right _ List.mem_cons_self
    have hget : recs[childId]? = some recs[childId] := List.getElem?_eq_getElem (by omega)
    rw [wired_getElem? hget] at hstep
    dsimp only at hstep
    cases hfree : firstUnresolvedParentPort (wiredNode rootId localId es recs[childId]) with
    | none =>
      rw [hfree] at hstep
      cases hstep
    | some childPort =>
      rw [hfree] at hstep
      obtain ⟨hup, huntouched⟩ := firstUnresolvedParentPort_some hfree
      rw [hn childId _ hget] at huntouched
      let e : BusEdge := ⟨id, port, childId, childPort⟩
      have hconnect : connectBidirectional (wired rootId localId recs es) e.parent e.parentPort
          e.child e.childPort = wired rootId localId recs (e :: es) :=
        connectBidirectional_wired hn e hid (hchild.trans hid) hchild.ne'
      dsimp only at hstep
      rw [show connectBidirectional (wired rootId localId recs es) id port childId childPort = _
        from hconnect] at hstep
      cases hstep
      refine ⟨e :: es, rest, rfl, ?_, ?_⟩
      · apply Cabled.connect (e := e) h rfl hid
        · intro r hr
          rw [← hcurrent r hr]
          exact hkind
        · intro r hr
          rw [hget] at hr
          exact (Option.some.inj hr) ▸ hup
        · exact hnew
        · exact huntouched
      · intro e' he'
        rcases List.mem_cons.mp he' with rfl | hmem
        · exact Or.inr rfl
        · exact Or.inl hmem

/-- The inner loop: each port is used for one cable at most. -/
lemma resolveChildPorts_ok (hn : Numbered recs) (hid : id < recs.length)
    {current : TopologyNodeRecord} {s : BuildState}
    (hcurrent : ∀ r, recs[id]? = some r → current.reportedPorts = r.ports) (ports : List Port)
    (hnodup : ports.Nodup) (h : Cabled recs id es stack)
    (hnew : ∀ e ∈ es, e.parent = id → e.parentPort ∉ ports)
    (hfold : ports.foldlM (resolveChildPort id current) (builtState rootId localId recs es stack) =
      .ok s) :
    ∃ es' stack', s = builtState rootId localId recs es' stack' ∧ Cabled recs id es' stack' := by
  induction ports generalizing es stack with
  | nil =>
    cases hfold
    exact ⟨es, stack, rfl, h⟩
  | cons port ports ih =>
    rw [List.nodup_cons] at hnodup
    rw [List.foldlM_cons] at hfold
    cases hstep : resolveChildPort id current (builtState rootId localId recs es stack) port with
    | error err =>
      rw [hstep] at hfold
      cases hfold
    | ok s' =>
      rw [hstep] at hfold
      obtain ⟨es', stack', rfl, hcabled, hedges⟩ := resolveChildPort_ok hn hid hcurrent h
        (fun e he hpar heq => hnew e he hpar (heq ▸ List.mem_cons_self)) hstep
      apply ih hnodup.2 hcabled _ hfold
      intro e he hpar hmem
      rcases hedges e he with hold | hport
      · exact hnew e hold hpar (List.mem_cons_of_mem port hmem)
      · exact hnodup.1 (hport ▸ hmem)

lemma descendingPorts_nodup : descendingPorts.Nodup :=
  List.nodup_reverse.mpr (List.nodup_finRange kMaxPhyPorts)

/-- The node itself has a Parent port left and joins the waiting ones. -/
lemma Cabled.push (h : Cabled recs id es stack) : Cabled recs (id + 1) es (id :: stack) := by
  refine ⟨h.ordered, fun e he => (h.below e he).trans (Nat.le_succ id), h.parentKind, h.childKind,
    h.apart, ?_⟩
  rw [List.range_succ]
  apply List.perm_middle.trans
  exact (h.perm.cons id).trans (List.perm_append_singleton id (List.range id)).symm

/-- One iteration of the outer loop: the node joins the waiting ones unless it is the root. -/
lemma processNode_ok (hn : Numbered recs) {s : BuildState} (h : Cabled recs id es stack)
    (hbelow : ∀ e ∈ es, e.parent < id)
    (hstep : processNode rootId (builtState rootId localId recs es stack) id = .ok s) :
    ∃ es' stack', s = builtState rootId localId recs es' stack' ∧
      Cabled recs (if id < rootId then id + 1 else id) es' stack' ∧
      ∀ e ∈ es', e.parent < id + 1 := by
  unfold processNode at hstep
  by_cases hid : id < recs.length
  · have hget : recs[id]? = some recs[id] := List.getElem?_eq_getElem hid
    have hnodes : (builtState rootId localId recs es stack).nodes[id]? =
        some (wiredNode rootId localId es recs[id]) := wired_getElem? hget
    have hphysical : ¬ (wiredNode rootId localId es recs[id]).physicalId ≠ id :=
      not_not.mpr (hn id _ hget)
    rw [hnodes] at hstep
    dsimp only at hstep
    rw [if_neg hphysical] at hstep
    cases hfold : descendingPorts.foldlM (resolveChildPort id (wiredNode rootId localId es recs[id]))
        (builtState rootId localId recs es stack) with
    | error err =>
      rw [hfold] at hstep
      cases hstep
    | ok s' =>
      rw [hfold] at hstep
      have hcurrent : ∀ r, recs[id]? = some r →
          (wiredNode rootId localId es recs[id]).reportedPorts = r.ports := by
        intro r hr
        rw [hget] at hr
        exact congrArg SelfIDNodeRecord.ports (Option.some.inj hr)
      obtain ⟨es', stack', rfl, hcabled⟩ :=
        resolveChildPorts_ok hn hid hcurrent descendingPorts descendingPorts_nodup h
          (fun e he hpar => absurd hpar (hbelow e he).ne) hfold
      have hnext : ∀ e ∈ es', e.parent < id + 1 := fun e he => Nat.lt_succ_of_le (hcabled.below e he)
      change (if id < rootId then _ else _) = _ at hstep
      by_cases hroot : id < rootId
      · rw [if_pos hroot] at hstep ⊢
        cases hport : (builtState rootId localId recs es' stack').nodes[id]?.bind
            firstUnresolvedParentPort with
        | none =>
          rw [hport] at hstep
          cases hstep
        | some port =>
          rw [hport] at hstep
          cases hstep
          exact ⟨es', id :: stack', rfl, hcabled.push, hnext⟩
      · rw [if_neg hroot] at hstep ⊢
        cases hstep
        exact ⟨es', stack', rfl, hcabled, hnext⟩
  · have hnodes : (builtState rootId localId recs es stack).nodes[id]? = none := by
      rw [List.getElem?_eq_none_iff]
      simp only [builtState, wired, List.length_map]
      omega
    rw [hnodes] at hstep
    cases hstep

lemma foldlM_range_succ {α : Type} (step : α → ℕ → Except TopologyBuildError α) (s : α) (n : ℕ) :
    (List.range (n + 1)).foldlM step s = (List.range n).foldlM step s >>= fun s => step s n := by
  rw [List.range_succ, List.foldlM_append]
  simp only [List.foldlM_cons, List.foldlM_nil, bind_pure]

/-- The outer loop over the nodes below the root. -/
lemma processNodes_ok (hn : Numbered recs) {n : ℕ} (hroot : n ≤ rootId) {s : BuildState}
    (hfold : (List.range n).foldlM (processNode rootId) (builtState rootId localId recs [] []) =
      .ok s) :
    ∃ es stack, s = builtState rootId localId recs es stack ∧ Cabled recs n es stack ∧
      ∀ e ∈ es, e.parent < n := by
  induction n generalizing s with
  | zero =>
    cases hfold
    exact ⟨[], [], rfl, Cabled.initial, by simp⟩
  | succ n ih =>
    rw [foldlM_range_succ] at hfold
    cases hrun : (List.range n).foldlM (processNode rootId) (builtState rootId localId recs [] []) with
    | error err =>
      rw [hrun] at hfold
      cases hfold
    | ok s' =>
      rw [hrun] at hfold
      obtain ⟨es, stack, rfl, hcabled, hbelow⟩ := ih (by omega) hrun
      obtain ⟨es', stack', rfl, hcabled', hbelow'⟩ := processNode_ok hn hcabled hbelow hfold
      rw [if_pos (by omega)] at hcabled'
      exact ⟨es', stack', rfl, hcabled', hbelow'⟩

/-- The whole loop. -/
lemma processAll_ok (hn : Numbered recs) {s : BuildState}
    (hfold : (List.range (rootId + 1)).foldlM (processNode rootId)
      (builtState rootId localId recs [] []) = .ok s) :
    ∃ es stack, s = builtState rootId localId recs es stack ∧ Cabled recs rootId es stack := by
  rw [foldlM_range_succ] at hfold
  cases hrun : (List.range rootId).foldlM (processNode rootId)
      (builtState rootId localId recs [] []) with
  | error err =>
    rw [hrun] at hfold
    cases hfold
  | ok s' =>
    rw [hrun] at hfold
    obtain ⟨es, stack, rfl, hcabled, hbelow⟩ := processNodes_ok hn le_rfl hrun
    obtain ⟨es', stack', rfl, hcabled', -⟩ := processNode_ok hn hcabled hbelow hfold
    rw [if_neg (lt_irrefl _)] at hcabled'
    exact ⟨es', stack', rfl, hcabled'⟩

/-- An accepted graph: the records with the links of cables in which every node below the root is
the child of exactly one cable. -/
theorem buildPhysicalGraph_cabled (hn : Numbered recs) {g : PhysicalTopologyGraph}
    (h : buildPhysicalGraph recs localId = .ok g) :
    ∃ es, g = finishGraph (recs.length - 1) localId (wired (recs.length - 1) localId recs es) ∧
      recs ≠ [] ∧ Cabled recs (recs.length - 1) es [] := by
  unfold buildPhysicalGraph at h
  cases hlast : recs.getLast? with
  | none =>
    rw [hlast] at h
    cases h
  | some root =>
    rw [hlast] at h
    dsimp only at h
    have hne : recs ≠ [] := by
      rintro rfl
      cases hlast
    have hroot : root.physicalId = recs.length - 1 := by
      apply hn
      rw [← List.getLast?_eq_getElem?]
      exact hlast
    have hzero : (⟨recs.map (toNodeRecord (recs.length - 1) localId), []⟩ : BuildState) =
        builtState (recs.length - 1) localId recs [] [] := by
      rw [builtState, wired_nil]
    rw [hroot, hzero] at h
    cases hrun : (List.range (recs.length - 1 + 1)).foldlM (processNode (recs.length - 1))
        (builtState (recs.length - 1) localId recs [] []) with
    | error err =>
      rw [hrun] at h
      cases h
    | ok s =>
      rw [hrun] at h
      obtain ⟨es, stack, rfl, hcabled⟩ := processAll_ok hn hrun
      change (if stack ≠ [] then _ else _) = _ at h
      by_cases hstack : stack ≠ []
      · rw [if_pos hstack] at h
        cases h
      · rw [if_neg hstack] at h
        rw [not_not] at hstack
        subst hstack
        cases h
        exact ⟨es, rfl, hne, hcabled⟩

/-! ### The tree -/

/-- The cables as a reader of the graph sees them. -/
def PhysicalTopologyGraph.cables (g : PhysicalTopologyGraph) : SimpleGraph ℕ :=
  SimpleGraph.fromRel fun i j =>
    ∃ port link, g.linkAt i port = some link ∧ link.connected = true ∧ link.remoteNodeId = j

lemma linkOf_connected {port : Port} (h : (linkOf es id port).connected = true) :
    ∃ e ∈ es, e.Touches id port ∧ (e.child = id ∧ e.parent = (linkOf es id port).remoteNodeId ∨
      e.parent = id ∧ e.child = (linkOf es id port).remoteNodeId) := by
  induction es with
  | nil => cases h
  | cons e es ih =>
    by_cases htouch : e.Touches id port
    · refine ⟨e, List.mem_cons_self, htouch, ?_⟩
      rw [linkOf]
      by_cases hchild : e.child = id ∧ e.childPort = port
      · rw [if_pos hchild]
        exact Or.inl ⟨hchild.1, rfl⟩
      · have hparent := htouch.resolve_left hchild
        rw [if_neg hchild, if_pos hparent]
        exact Or.inr ⟨hparent.1, rfl⟩
    · rw [linkOf_cons_of_not_touches htouch] at h ⊢
      obtain ⟨e', he', htouch', hends⟩ := ih h
      exact ⟨e', List.mem_cons_of_mem e he', htouch', hends⟩

/-- What a search over a built graph relies on. -/
structure TreeTopology (g : PhysicalTopologyGraph) : Prop where
  nonempty : g.nodes ≠ []
  size : g.nodes.length ≤ kMaxFireWireNodes
  count : g.nodeCount = g.nodes.length
  physicalId : ∀ (i : ℕ) (node : TopologyNodeRecord), g.nodes[i]? = some node → node.physicalId = i
  remote : ∀ (i : ℕ) (node : TopologyNodeRecord) (port : Port), g.nodes[i]? = some node →
    (node.links port).connected = true →
    (node.links port).remoteNodeId < g.nodes.length ∧ port.val < node.portCount
  adj : ∀ (i : ℕ) (node : TopologyNodeRecord) (j : ℕ), g.nodes[i]? = some node →
    (g.cables.Adj i j ↔ ∃ port, (node.links port).connected = true ∧
      (node.links port).remoteNodeId = j)
  acyclic : g.cables.IsAcyclic
  reachable : ∀ i < g.nodes.length, ∀ j < g.nodes.length, g.cables.Reachable i j
  speed : ∀ (i : ℕ) (node : TopologyNodeRecord), g.nodes[i]? = some node →
    node.speedCode < 4 ∧ node.maxSpeedMbps = decodeSpeed node.speedCode

/-- The two ends of a cable. -/
def Joins (es : List BusEdge) (i j : ℕ) : Prop :=
  ∃ e ∈ es, e.child = i ∧ e.parent = j ∨ e.parent = i ∧ e.child = j

lemma Joins.symm {i j : ℕ} (h : Joins es i j) : Joins es j i := by
  obtain ⟨e, he, hends⟩ := h
  exact ⟨e, he, by tauto⟩

section Accepted
variable {n : ℕ}

lemma joins_iff_linkOf (hcabled : Cabled recs n es []) {i j : ℕ} :
    Joins es i j ↔ ∃ port, (linkOf es i port).connected = true ∧
      (linkOf es i port).remoteNodeId = j := by
  constructor
  · rintro ⟨e, he, hends⟩
    obtain ⟨hparent, hchild⟩ := linkOf_of_mem hcabled.apart
      (fun e he => (hcabled.ordered e he).1.ne') he
    rcases hends with ⟨rfl, rfl⟩ | ⟨rfl, rfl⟩
    · exact ⟨e.childPort, by rw [hchild], by rw [hchild]⟩
    · exact ⟨e.parentPort, by rw [hparent], by rw [hparent]⟩
  · rintro ⟨port, hconnected, rfl⟩
    obtain ⟨e, he, -, hends⟩ := linkOf_connected hconnected
    exact ⟨e, he, hends⟩

lemma Joins.lt (hcabled : Cabled recs n es []) {i j : ℕ} (h : Joins es i j) : i < recs.length := by
  obtain ⟨e, he, hends⟩ := h
  have hb := hcabled.ordered e he
  rcases hends with ⟨rfl, rfl⟩ | ⟨rfl, rfl⟩
  · omega
  · omega

lemma Joins.ne (hcabled : Cabled recs n es []) {i j : ℕ} (h : Joins es i j) : i ≠ j := by
  obtain ⟨e, he, hends⟩ := h
  have hb := hcabled.ordered e he
  rcases hends with ⟨rfl, rfl⟩ | ⟨rfl, rfl⟩
  · omega
  · omega

variable {g : PhysicalTopologyGraph}

/-- The graph's neighbours are the joined nodes. -/
lemma cables_adj_iff (hcabled : Cabled recs n es [])
    (hlinks : ∀ i port link, link.connected = true →
      (g.linkAt i port = some link ↔ linkOf es i port = link))
    {i j : ℕ} : g.cables.Adj i j ↔ Joins es i j := by
  have hrel : ∀ i j, (∃ port link, g.linkAt i port = some link ∧ link.connected = true ∧
      link.remoteNodeId = j) ↔ Joins es i j := by
    intro i j
    constructor
    · rintro ⟨port, link, hlink, hconnected, hremote⟩
      obtain rfl := (hlinks i port link hconnected).mp hlink
      exact (joins_iff_linkOf hcabled).mpr ⟨port, hconnected, hremote⟩
    · intro hjoins
      obtain ⟨port, hconnected, hremote⟩ := (joins_iff_linkOf hcabled).mp hjoins
      exact ⟨port, linkOf es i port, (hlinks i port _ hconnected).mpr rfl, hconnected, hremote⟩
  unfold PhysicalTopologyGraph.cables
  rw [SimpleGraph.fromRel_adj, hrel, hrel]
  constructor
  · rintro ⟨-, hjoins | hjoins⟩
    · exact hjoins
    · exact hjoins.symm
  · intro hjoins
    exact ⟨hjoins.ne hcabled, Or.inl hjoins⟩

/-- Nobody has two cables upwards. -/
lemma Joins.parent_unique (hcabled : Cabled recs n es []) {i j k : ℕ} (hj : Joins es i j)
    (hk : Joins es i k) (hij : i < j) (hik : i < k) : j = k := by
  have hup : ∀ j, Joins es i j → i < j → ∃ e ∈ es, e.child = i ∧ e.parent = j := by
    rintro j ⟨e, he, hends | ⟨rfl, rfl⟩⟩ hlt
    · exact ⟨e, he, hends⟩
    · have := hcabled.ordered e he
      omega
  obtain ⟨e, he, hchild, rfl⟩ := hup j hj hij
  obtain ⟨e', he', hchild', rfl⟩ := hup k hk hik
  have hnodup : (es.map (·.child)).Nodup := by
    have hperm := hcabled.perm
    rw [List.append_nil] at hperm
    exact hperm.nodup_iff.mpr List.nodup_range
  rw [List.inj_on_of_nodup_map hnodup he he' (hchild.trans hchild'.symm)]

lemma exists_parent (hcabled : Cabled recs n es []) {i : ℕ} (hi : i < n) :
    ∃ j, i < j ∧ Joins es i j := by
  have hmem : i ∈ es.map (·.child) := by
    have hperm := hcabled.perm
    rw [List.append_nil] at hperm
    exact hperm.mem_iff.mpr (List.mem_range.mpr hi)
  obtain ⟨e, he, rfl⟩ := List.mem_map.mp hmem
  exact ⟨e.parent, (hcabled.ordered e he).1, e, he, Or.inl ⟨rfl, rfl⟩⟩

end Accepted

/-! ### From the parser to the tree -/

/-- What the parser makes sure of in every record. -/
structure Decoded (r : SelfIDNodeRecord) : Prop where
  speed : r.speedCode < 4
  mbps : r.maxSpeedMbps = decodeSpeed r.speedCode
  ports : ∀ port, r.ports port ≠ .notPresent → port.val < r.portCount

lemma highestPort_spec (ports : Port → PortState) (port : Port) (h : ports port ≠ .notPresent) :
    port.val < highestPort ports := by
  have hfold : ∀ (l : List Port) (count : ℕ), (l.Pairwise (· < ·)) → (∀ p ∈ l, count ≤ p.val) →
      count ≤ l.foldl (fun c p => if ports p ≠ .notPresent then p.val + 1 else c) count ∧
        ∀ p ∈ l, ports p ≠ .notPresent →
          p.val < l.foldl (fun c p => if ports p ≠ .notPresent then p.val + 1 else c) count := by
    intro l
    induction l with
    | nil => exact fun count _ _ => ⟨le_rfl, by simp⟩
    | cons q l ih =>
      intro count hsorted hle
      rw [List.pairwise_cons] at hsorted
      rw [List.foldl_cons]
      have hq := hle q List.mem_cons_self
      by_cases hpresent : ports q ≠ .notPresent
      · rw [if_pos hpresent]
        obtain ⟨hmono, hall⟩ := ih (q.val + 1) hsorted.2 fun p hp => hsorted.1 p hp
        refine ⟨by omega, fun p hp hne => ?_⟩
        rcases List.mem_cons.mp hp with rfl | hmem
        · exact hmono
        · exact hall p hmem hne
      · rw [if_neg hpresent]
        obtain ⟨hmono, hall⟩ := ih count hsorted.2 fun p hp => hle p (List.mem_cons_of_mem q hp)
        refine ⟨hmono, fun p hp hne => ?_⟩
        rcases List.mem_cons.mp hp with rfl | hmem
        · exact absurd hne hpresent
        · exact hall p hmem hne
  exact (hfold (List.finRange kMaxPhyPorts) 0 (List.sortedLT_finRange kMaxPhyPorts).pairwise
    (fun p _ => Nat.zero_le _)).2 port (List.mem_finRange port) h

/-- Extended quadlets leave the fields of the base quadlet alone. -/
lemma foldl_decodeExtended_speed (quads : List ℕ) (record : SelfIDNodeRecord) :
    (quads.foldl decodeExtended record).speedCode = record.speedCode ∧
      (quads.foldl decodeExtended record).maxSpeedMbps = record.maxSpeedMbps := by
  induction quads generalizing record with
  | nil => exact ⟨rfl, rfl⟩
  | cons quad quads ih =>
    have hone : (decodeExtended record quad).speedCode = record.speedCode ∧
        (decodeExtended record quad).maxSpeedMbps = record.maxSpeedMbps := by
      unfold decodeExtended
      by_cases h0 : extractSeq quad = 0
      · rw [if_pos h0]
        exact ⟨rfl, rfl⟩
      rw [if_neg h0]
      by_cases h1 : extractSeq quad = 1
      · rw [if_pos h1]
        exact ⟨rfl, rfl⟩
      · rw [if_neg h1]
        exact ⟨rfl, rfl⟩
    obtain ⟨hspeed, hmbps⟩ := ih (decodeExtended record quad)
    exact ⟨hspeed.trans hone.1, hmbps.trans hone.2⟩

lemma decodeNode_decoded (baseQuad : ℕ) (extQuads : List ℕ) : Decoded (decodeNode baseQuad extQuads) := by
  obtain ⟨hspeed, hmbps⟩ := foldl_decodeExtended_speed extQuads (decodeBase baseQuad)
  refine ⟨?_, ?_, fun port => highestPort_spec _ port⟩
  · change (extQuads.foldl decodeExtended (decodeBase baseQuad)).speedCode < 4
    rw [hspeed]
    exact Nat.mod_lt _ (by decide)
  · change (extQuads.foldl decodeExtended (decodeBase baseQuad)).maxSpeedMbps =
      decodeSpeed (extQuads.foldl decodeExtended (decodeBase baseQuad)).speedCode
    rw [hspeed, hmbps]
    rfl

lemma parseSequence_decoded {quads : List ℕ} {nodeMap nodeMap' : NodeMap} {seq : ℕ × ℕ}
    (h : ∀ id r, nodeMap id = some r → Decoded r)
    (hstep : parseSequence quads nodeMap seq = .ok nodeMap') :
    ∀ id r, nodeMap' id = some r → Decoded r := by
  unfold parseSequence at hstep
  split at hstep
  · cases hstep
  cases hquads : (quads.drop seq.1).take seq.2 with
  | nil =>
    rw [hquads] at hstep
    cases hstep
    exact h
  | cons baseQuad extQuads =>
    rw [hquads] at hstep
    dsimp only at hstep
    split at hstep
    · cases hstep
    split at hstep
    · cases hstep
    cases hstep
    intro id r hr
    by_cases hid : id = extractPhyID baseQuad
    · subst hid
      rw [Function.update_self] at hr
      rw [← Option.some.inj hr]
      exact decodeNode_decoded baseQuad extQuads
    · rw [Function.update_of_ne hid] at hr
      exact h id r hr

lemma foldlM_parseSequence_decoded (quads : List ℕ) (seqs : List (ℕ × ℕ)) {nodeMap nodeMap' : NodeMap}
    (h : ∀ id r, nodeMap id = some r → Decoded r)
    (hfold : seqs.foldlM (parseSequence quads) nodeMap = .ok nodeMap') :
    ∀ id r, nodeMap' id = some r → Decoded r := by
  induction seqs generalizing nodeMap with
  | nil =>
    cases hfold
    exact h
  | cons seq seqs ih =>
    rw [List.foldlM_cons] at hfold
    cases hstep : parseSequence quads nodeMap seq with
    | error err =>
      rw [hstep] at hfold
      cases hfold
    | ok nodeMap'' =>
      rw [hstep] at hfold
      exact ih (parseSequence_decoded h hstep) hfold

/-- Parsed records are decoded, and numbered by their position. -/
lemma parse_ok {result : SelfIDCaptureResult} (h : parse result = .ok recs) :
    Numbered recs ∧ recs.length ≤ kMaxFireWireNodes ∧ ∀ r ∈ recs, Decoded r := by
  unfold parse at h
  split at h
  · cases h
  split at h
  · cases h
  cases hfold : result.sequences.foldlM (parseSequence result.quads) (fun _ => none) with
  | error err =>
    rw [hfold] at h
    cases h
  | ok nodeMap =>
    rw [hfold] at h
    change (if NodeMap.records nodeMap = [] then _ else _) = _ at h
    split at h
    · cases h
    split at h
    · cases h
    rename_i hvalid
    cases h
    rw [Bool.not_eq_true', Bool.not_eq_false, validateContiguousPhysicalIds, Bool.and_eq_true,
      beq_iff_eq] at hvalid
    refine ⟨?_, ?_, ?_⟩
    · intro i r hr
      have hid := congrArg (·[i]?) hvalid.2
      rw [List.getElem?_map, hr, Option.map_some,
        List.getElem?_range (List.getElem?_eq_some_iff.mp hr).1] at hid
      exact Option.some.inj hid
    · apply (List.length_filterMap_le _ _).trans
      rw [List.length_range]
    · intro r hr
      obtain ⟨id, -, hid⟩ := List.mem_filterMap.mp hr
      exact foldlM_parseSequence_decoded _ _ (fun _ _ hcon => by cases hcon) hfold id r hid

/-- The last passes change nothing of a node but its IRM mark. -/
lemma finishGraph_node {nodes : List TopologyNodeRecord} {i : ℕ} {node : TopologyNodeRecord}
    (h : (finishGraph rootId localId nodes).nodes[i]? = some node) :
    ∃ old, nodes[i]? = some old ∧ node = { old with isIRM := node.isIRM } := by
  unfold finishGraph at h
  dsimp only at h
  cases hirm : electIRM nodes with
  | none =>
    rw [hirm] at h
    exact ⟨node, h, rfl⟩
  | some irm =>
    rw [hirm] at h
    dsimp only at h
    rw [List.getElem?_modify, Option.map_eq_map, Option.map_eq_some_iff] at h
    obtain ⟨old, hold, rfl⟩ := h
    refine ⟨old, hold, ?_⟩
    split
    · rfl
    · rfl

lemma finishGraph_wired_node {i : ℕ} {node : TopologyNodeRecord}
    (h : (finishGraph rootId localId (wired rootId localId recs es)).nodes[i]? = some node) :
    ∃ r, recs[i]? = some r ∧
      node = { wiredNode rootId localId es r with isIRM := node.isIRM } := by
  obtain ⟨old, hold, hnode⟩ := finishGraph_node h
  rw [wired, List.getElem?_map, Option.map_eq_some_iff] at hold
  obtain ⟨r, hr, rfl⟩ := hold
  exact ⟨r, hr, hnode⟩

/-- Every graph the builder makes of parsed records is a tree with links in both directions. -/
theorem treeTopology_of_build {result : SelfIDCaptureResult} {g : PhysicalTopologyGraph}
    (hparse : parse result = .ok recs) (hbuild : buildPhysicalGraph recs localId = .ok g) :
    TreeTopology g := by
  obtain ⟨hn, hsize, hdecoded⟩ := parse_ok hparse
  obtain ⟨es, hg, hne, hcabled⟩ := buildPhysicalGraph_cabled hn hbuild
  have hlen : g.nodes.length = recs.length := by
    rw [hg, finishGraph_nodes_length, wired, List.length_map]
  have hlinks : ∀ i port link, link.connected = true →
      (g.linkAt i port = some link ↔ linkOf es i port = link) := by
    intro i port link hconnected
    rw [hg, finishGraph_linkAt]
    by_cases hi : i < recs.length
    · have hget : recs[i]? = some recs[i] := List.getElem?_eq_getElem hi
      rw [wired_getElem? hget, Option.map_some, wiredNode, hn i _ hget, Option.some.injEq]
    · rw [wired, List.getElem?_map, List.getElem?_eq_none_iff.mpr (not_lt.mp hi)]
      constructor
      · exact fun h => by cases h
      · rintro rfl
        exact absurd (((joins_iff_linkOf hcabled).mpr ⟨port, hconnected, rfl⟩).lt hcabled) hi
  have hadj : ∀ i j, g.cables.Adj i j ↔ Joins es i j := fun i j => cables_adj_iff hcabled hlinks
  have hnode : ∀ (i : ℕ) (node : TopologyNodeRecord), g.nodes[i]? = some node →
      ∃ r, recs[i]? = some r ∧ Decoded r ∧ node.physicalId = i ∧ node.links = linkOf es i ∧
        node.portCount = r.portCount ∧ node.speedCode = r.speedCode ∧
        node.maxSpeedMbps = r.maxSpeedMbps := by
    intro i node h
    rw [hg] at h
    obtain ⟨r, hr, hnode⟩ := finishGraph_wired_node h
    have hid := hn i r hr
    refine ⟨r, hr, hdecoded r (List.mem_of_getElem? hr), ?_, ?_, ?_, ?_, ?_⟩
    · rw [hnode]
      exact hid
    · rw [hnode, ← hid]
      rfl
    · rw [hnode]
      rfl
    · rw [hnode]
      rfl
    · rw [hnode]
      rfl
  have hpos : 0 < recs.length := List.length_pos_iff.mpr hne
  refine ⟨?_, ?_, ?_, ?_, ?_, ?_, ?_, ?_, ?_⟩
  · rw [← List.length_pos_iff, hlen]
    exact hpos
  · rw [hlen]
    exact hsize
  · unfold kMaxFireWireNodes at hsize
    rw [hlen, hg]
    simp only [finishGraph, wired, List.length_map]
    omega
  · intro i node h
    exact (hnode i node h).choose_spec.2.2.1
  · intro i node port h hconnected
    obtain ⟨r, hr, hdec, -, hlink, hcount, -⟩ := hnode i node h
    rw [hlink] at hconnected ⊢
    obtain ⟨e, he, htouch, hends⟩ := linkOf_connected hconnected
    have hordered := hcabled.ordered e he
    constructor
    · rw [hlen]
      rcases hends with ⟨-, hremote⟩ | ⟨-, hremote⟩
      · omega
      · omega
    · rw [hcount]
      apply hdec.ports
      rcases htouch with ⟨rfl, rfl⟩ | ⟨rfl, rfl⟩
      · rw [hcabled.childKind e he r hr]
        decide
      · rw [hcabled.parentKind e he r hr]
        decide
  · intro i node j h
    obtain ⟨r, -, -, -, hlink, -⟩ := hnode i node h
    rw [hadj, hlink]
    exact joins_iff_linkOf hcabled
  · apply isAcyclic_of_unique_greater
    intro v x y hx hy hvx hvy
    rw [hadj] at hx hy
    exact hx.parent_unique hcabled hy hvx hvy
  · have hup : ∀ i < recs.length, g.cables.Reachable i (recs.length - 1) := by
      intro i hi
      apply reachable_of_ascending _ i (by omega)
      intro k hk
      obtain ⟨j, hkj, hjoins⟩ := exists_parent hcabled hk
      have hj := hjoins.symm.lt hcabled
      exact ⟨j, hkj, by omega, (hadj k j).mpr hjoins⟩
    intro i hi j hj
    rw [hlen] at hi hj
    exact (hup i hi).trans (hup j hj).symm
  · intro i node h
    obtain ⟨r, -, hdec, -, -, -, hspeed, hmbps⟩ := hnode i node h
    rw [hspeed, hmbps]
    exact ⟨hdec.speed, hdec.mbps⟩

end ASFireWire.Topology
