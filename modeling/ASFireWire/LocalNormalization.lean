import ASFireWire.TreeDistances
import ASFireWire.AcceptedTrees

/-! `NormalizeFromLocal`: the physical graph seen from one node. A walk from the observer, with a
stack of nodes whose ports it still has to look at, marks both ends of each cable when it meets the
far node. -/
namespace ASFireWire.Topology

open TreeSearch

/-- `Parent` means toward the observer, `Child` away from it. -/
structure NormalizedPortLink where
  connected : Bool := false
  remotePhysicalId : ℕ := kInvalidPhysicalId
  remotePort : ℕ := kInvalidPhysicalId
  normalizedState : PortState := .notPresent
  deriving DecidableEq, Repr

structure NormalizedNode where
  physicalId : ℕ := kInvalidPhysicalId
  isObserver : Bool := false
  ports : Port → NormalizedPortLink := fun _ => {}
  deriving DecidableEq

structure NormalizedTopologyGraph where
  observerPhysicalId : ℕ := kInvalidPhysicalId
  nodes : List NormalizedNode := []
  deriving DecidableEq

/-- An error of the function, or an array access past the end, which has no defined result. -/
inductive NormalizeFailure
  | error (e : TopologyBuildError)
  | outOfBounds
  deriving DecidableEq

/-- The nodes of the result under construction, the marks of the nodes met and the stack. -/
structure LocalWalk where
  nodes : List NormalizedNode
  visited : List Bool
  stack : List ℕ
  deriving DecidableEq

/-- A node of the result gets its names from the node of the physical graph. -/
def nameNode (localPhysicalId : ℕ) (nodes : List NormalizedNode) (physicalNode : TopologyNodeRecord) :
    Except NormalizeFailure (List NormalizedNode) :=
  if physicalNode.physicalId < nodes.length then
    .ok (nodes.modify physicalNode.physicalId fun node => { node with
      physicalId := physicalNode.physicalId
      isObserver := physicalNode.physicalId = localPhysicalId })
  else .error .outOfBounds

def setNormalizedPort (node : NormalizedNode) (port : Port) (link : NormalizedPortLink) :
    NormalizedNode :=
  { node with ports := Function.update node.ports port link }

/-- One port of the current node: a cable to a node not met before is marked at both ends. -/
def followPort (physical : PhysicalTopologyGraph) (currentId : ℕ) (link : TopologyPortLink)
    (w : LocalWalk) (port : Port) : Except NormalizeFailure LocalWalk :=
  if !link.connected then .ok w
  else if physical.nodes.length ≤ link.remoteNodeId then
    .error (.error ⟨.reciprocalLinkMissing,
      "Physical link references a remote node outside the graph"⟩)
  else if w.visited[link.remoteNodeId]?.getD true then .ok w
  else if hport : link.remotePort < kMaxPhyPorts then
    .ok {
      nodes := (w.nodes.modify currentId
          (setNormalizedPort · port ⟨true, link.remoteNodeId, link.remotePort, .child⟩)).modify
        link.remoteNodeId
        (setNormalizedPort · ⟨link.remotePort, hport⟩ ⟨true, currentId, port, .parent⟩)
      visited := w.visited.set link.remoteNodeId true
      stack := link.remoteNodeId :: w.stack }
  else .error .outOfBounds

/-- The loop over the stack. A node enters the stack at most once, so the number of nodes bounds
the rounds. -/
def walkFrom (physical : PhysicalTopologyGraph) :
    ℕ → LocalWalk → Except NormalizeFailure LocalWalk
  | 0, w => .ok w
  | fuel + 1, w =>
    match w.stack with
    | [] => .ok w
    | currentId :: rest =>
      match physical.nodes[currentId]? with
      | none => .error .outOfBounds
      | some current => do
        let w ← (List.finRange kMaxPhyPorts).foldlM
          (fun w port => followPort physical currentId (current.links port) w port)
          { w with stack := rest }
        walkFrom physical fuel w

def normalizeFromLocal (physical : PhysicalTopologyGraph) (localPhysicalId : ℕ) :
    Except NormalizeFailure NormalizedTopologyGraph :=
  if localPhysicalId = kInvalidPhysicalId ∨ physical.nodes.length ≤ localPhysicalId then
    .error (.error ⟨.localNodeUnavailable,
      "Local physical ID is unavailable or outside physical graph"⟩)
  else do
    let n := physical.nodes.length
    let nodes ← physical.nodes.foldlM (nameNode localPhysicalId) (List.replicate n {})
    let w ← walkFrom physical (n + 1)
      ⟨nodes, (List.replicate n false).set localPhysicalId true, [localPhysicalId]⟩
    if w.visited.all id then .ok ⟨localPhysicalId, w.nodes⟩
    else .error (.error ⟨.edgeCountMismatch, "Physical graph is disconnected from local observer"⟩)

variable {records : List SelfIDNodeRecord} {localId start : ℕ} {g : PhysicalTopologyGraph}
  {es : List BusEdge}

/-! ### Links of an accepted graph -/

namespace Accepted

variable (h : Accepted records localId g es)
include h

lemma links {i : ℕ} {node : TopologyNodeRecord} (hget : g.nodes[i]? = some node) :
    node.links = linkOf es i := by
  funext port
  obtain ⟨r, -, -, hlink⟩ := h.port_spec hget port
  rw [hlink]
  by_cases hi : i ≤ g.rootId
  · rw [if_pos hi]
  · rw [if_neg hi, linkOf_of_untouched]
    intro e he htouch
    have hparent := h.parent_le he
    have hchild := h.child_lt he
    rcases htouch with ⟨rfl, -⟩ | ⟨rfl, -⟩
    · exact hi hchild.le
    · exact hi hparent

lemma adj_link {i : ℕ} {port : Port} (hconnected : (linkOf es i port).connected = true) :
    g.cables.Adj i (linkOf es i port).remoteNodeId :=
  h.adj_iff.mpr ((joins_iff_linkOf h.cabled).mpr ⟨port, hconnected, rfl⟩)

/-- The far end of a cable. -/
lemma reciprocal {i : ℕ} {port : Port} (hconnected : (linkOf es i port).connected = true) :
    ∃ j, ∃ q : Port, linkOf es i port = ⟨true, j, q⟩ ∧ linkOf es j q = ⟨true, i, port⟩ := by
  obtain ⟨e, he, ⟨rfl, rfl, hup⟩ | ⟨rfl, rfl, hdown⟩⟩ := h.cable hconnected
  · exact ⟨e.parent, e.parentPort, hup, h.linkOf_parent he⟩
  · exact ⟨e.child, e.childPort, hdown, h.linkOf_child he⟩

/-- Two nodes share one cable at most. -/
lemma port_unique {i : ℕ} {p q : Port} (hp : (linkOf es i p).connected = true)
    (hq : (linkOf es i q).connected = true)
    (hsame : (linkOf es i p).remoteNodeId = (linkOf es i q).remoteNodeId) : p = q := by
  obtain ⟨e, he, ⟨hi, rfl, hlink⟩ | ⟨hi, rfl, hlink⟩⟩ := h.cable hp
  · obtain ⟨e', he', ⟨hi', rfl, hlink'⟩ | ⟨hi', rfl, hlink'⟩⟩ := h.cable hq
    · rw [h.child_inj he he' (hi.trans hi'.symm)]
    · rw [hlink, hlink'] at hsame
      have h₁ := (h.cabled.ordered e he).1
      have h₂ := (h.cabled.ordered e' he').1
      dsimp only at hsame
      omega
  · obtain ⟨e', he', ⟨hi', rfl, hlink'⟩ | ⟨hi', rfl, hlink'⟩⟩ := h.cable hq
    · rw [hlink, hlink'] at hsame
      have h₁ := (h.cabled.ordered e he).1
      have h₂ := (h.cabled.ordered e' he').1
      dsimp only at hsame
      omega
    · rw [hlink, hlink'] at hsame
      rw [h.child_inj he he' hsame]

end Accepted

/-! ### The walk -/

/-- The port of a result in which the walk has met these nodes: a cable between two of them is
marked, away from the observer at its nearer end. -/
noncomputable def orientedPort (g : PhysicalTopologyGraph) (es : List BusEdge) (start : ℕ)
    (seen : Finset ℕ) (i : ℕ) (port : Port) : NormalizedPortLink :=
  let link := linkOf es i port
  if link.connected = true ∧ i ∈ seen ∧ link.remoteNodeId ∈ seen then
    ⟨true, link.remoteNodeId, link.remotePort,
      if g.cables.dist start i < g.cables.dist start link.remoteNodeId then .child else .parent⟩
  else {}

structure Walking (g : PhysicalTopologyGraph) (es : List BusEdge) (start : ℕ) (seen : Finset ℕ)
    (w : LocalWalk) (pending : List ℕ) : Prop where
  marks : w.visited.length = g.nodes.length ∧ ∀ v < g.nodes.length,
    (w.visited[v]?.getD true = true ↔ v ∈ seen)
  within : seen ⊆ Finset.range g.nodes.length
  explored : Explored g.cables (fun _ => ()) start seen (fun _ => ()) pending
  ports : ∀ i, w.nodes[i]?.map (·.ports) =
    if i < g.nodes.length then some (orientedPort g es start seen i) else none

lemma orientedPort_outside {seen : Finset ℕ} {i : ℕ} {port : Port}
    (h : ¬ ((linkOf es i port).connected = true ∧ i ∈ seen ∧ (linkOf es i port).remoteNodeId ∈ seen)) :
    orientedPort g es start seen i port = {} := if_neg h

/-- The marks of one new cable are the only ones that a new node brings. -/
lemma Accepted.orientedPort_insert (h : Accepted records localId g es) {seen : Finset ℕ}
    {pending : List ℕ} {current v : ℕ} {port q : Port}
    (hexplored : Explored g.cables (fun _ => ()) start seen (fun _ => ()) pending)
    (hcurrent : current ∈ seen) (hv : v ∉ seen) (hlink : linkOf es current port = ⟨true, v, q⟩)
    (hback : linkOf es v q = ⟨true, current, port⟩) (i : ℕ) :
    orientedPort g es start (insert v seen) i =
      if i = v then Function.update (orientedPort g es start seen v) q ⟨true, current, port, .parent⟩
      else if i = current then
        Function.update (orientedPort g es start seen current) port ⟨true, v, q, .child⟩
      else orientedPort g es start seen i := by
  have hadj : g.cables.Adj current v := by
    have hconnected : (linkOf es current port).connected = true := by rw [hlink]
    have hedge := h.adj_link hconnected
    rwa [hlink] at hedge
  have hdist := hexplored.dist_reach h.acyclic hcurrent hadj hv
  have hne : current ≠ v := hadj.ne
  -- a met neighbour of the new node is the current one
  have honly : ∀ x ∈ seen, g.cables.Adj v x → x = current := by
    intro x hx hvx
    have hdistx := hexplored.dist_reach h.acyclic hx hvx.symm hv
    have hreach := (hexplored.reachable hcurrent).trans hadj.reachable
    exact closer_unique h.acyclic hreach hvx hadj.symm (by omega) (by omega)
  funext p
  by_cases hiv : i = v
  · subst hiv
    rw [if_pos rfl]
    by_cases hp : p = q
    · subst hp
      rw [Function.update_self]
      unfold orientedPort
      rw [hback]
      dsimp only
      rw [if_pos ⟨rfl, Finset.mem_insert_self i seen, Finset.mem_insert_of_mem hcurrent⟩,
        if_neg (by omega)]
    · rw [Function.update_of_ne hp, orientedPort_outside (fun hcon => hv hcon.2.1)]
      apply orientedPort_outside
      rintro ⟨hconnected, -, hmem⟩
      have hedge := h.adj_link hconnected
      have hremote := honly _ ((Finset.mem_insert.mp hmem).resolve_left hedge.ne') hedge
      exact hp (h.port_unique hconnected (by rw [hback]) (by rw [hremote, hback]))
  · rw [if_neg hiv]
    -- a cable of another node to the new one
    have hto : ∀ r, (linkOf es i r).connected = true → i ∈ seen →
        (linkOf es i r).remoteNodeId = v → i = current := by
      intro r hconnected hi hremote
      have hedge := h.adj_link hconnected
      rw [hremote] at hedge
      exact honly i hi hedge.symm
    by_cases hic : i = current
    · subst hic
      rw [if_pos rfl]
      by_cases hp : p = port
      · subst hp
        rw [Function.update_self]
        unfold orientedPort
        rw [hlink]
        dsimp only
        rw [if_pos ⟨rfl, Finset.mem_insert_of_mem hcurrent, Finset.mem_insert_self v seen⟩,
          if_pos (by omega)]
      · rw [Function.update_of_ne hp]
        by_cases hin : (linkOf es i p).connected = true ∧ i ∈ seen ∧ (linkOf es i p).remoteNodeId ∈ seen
        · unfold orientedPort
          rw [if_pos hin, if_pos ⟨hin.1, Finset.mem_insert_of_mem hin.2.1,
            Finset.mem_insert_of_mem hin.2.2⟩]
        · rw [orientedPort_outside hin]
          apply orientedPort_outside
          rintro ⟨hconnected, -, hmem⟩
          rcases Finset.mem_insert.mp hmem with hremote | hmem
          · exact hp (h.port_unique hconnected (by rw [hlink]) (by rw [hremote, hlink]))
          · exact hin ⟨hconnected, hcurrent, hmem⟩
    · rw [if_neg hic]
      by_cases hin : (linkOf es i p).connected = true ∧ i ∈ seen ∧ (linkOf es i p).remoteNodeId ∈ seen
      · unfold orientedPort
        rw [if_pos hin, if_pos ⟨hin.1, Finset.mem_insert_of_mem hin.2.1,
          Finset.mem_insert_of_mem hin.2.2⟩]
      · rw [orientedPort_outside hin]
        apply orientedPort_outside
        rintro ⟨hconnected, hi, hmem⟩
        have hiseen := (Finset.mem_insert.mp hi).resolve_left hiv
        rcases Finset.mem_insert.mp hmem with hremote | hmem
        · exact hic (hto p hconnected hiseen hremote)
        · exact hin ⟨hconnected, hiseen, hmem⟩

lemma modify_ports {nodes : List NormalizedNode} (i : ℕ) {j : ℕ} (port : Port)
    (link : NormalizedPortLink) {f : Port → NormalizedPortLink} (h : nodes[j]?.map (·.ports) = some f) :
    (nodes.modify i (setNormalizedPort · port link))[j]?.map (·.ports) =
      some (if i = j then Function.update f port link else f) := by
  rw [Option.map_eq_some_iff] at h
  obtain ⟨node, hnode, rfl⟩ := h
  rw [List.getElem?_modify, hnode, Option.map_eq_map, Option.map_some, Option.map_some]
  by_cases hij : i = j
  · rw [if_pos hij, if_pos hij]
    rfl
  · rw [if_neg hij, if_neg hij]

lemma modify_none {nodes : List NormalizedNode} {i j : ℕ} {f : NormalizedNode → NormalizedNode}
    (h : nodes[j]?.map (·.ports) = none) : (nodes.modify i f)[j]?.map (·.ports) = none := by
  rw [Option.map_eq_none_iff] at h
  rw [List.getElem?_modify, h]
  rfl

lemma followPort_spec (h : Accepted records localId g es) {current : ℕ} {seen : Finset ℕ}
    {w : LocalWalk} (hw : Walking g es start seen w (current :: w.stack)) (port : Port) :
    ∃ w' seen', followPort g current (linkOf es current port) w port = .ok w' ∧ seen ⊆ seen' ∧
      Walking g es start seen' w' (current :: w'.stack) ∧
      w'.stack.length + seen.card = w.stack.length + seen'.card ∧
      ((linkOf es current port).connected = true → (linkOf es current port).remoteNodeId ∈ seen') := by
  have hcurrent : current ∈ seen := hw.explored.met current List.mem_cons_self
  unfold followPort
  cases hconnected : (linkOf es current port).connected with
  | false =>
    rw [Bool.not_false, if_pos rfl]
    exact ⟨w, seen, rfl, subset_rfl, hw, rfl, fun hcon => by cases hcon⟩
  | true =>
    have hadj := h.adj_link hconnected
    obtain ⟨v, q, hlink, hback⟩ := h.reciprocal hconnected
    rw [hlink] at hadj ⊢
    have hv : v < g.nodes.length := by
      rw [h.nodes_length]
      exact (h.adj_le hadj.symm).trans_lt h.inside
    dsimp only at hadj ⊢
    rw [Bool.not_true, if_neg Bool.false_ne_true, if_neg (not_le.mpr hv)]
    by_cases hmet : w.visited[v]?.getD true = true
    · rw [if_pos hmet]
      exact ⟨w, seen, rfl, subset_rfl, hw, rfl, fun _ => (hw.marks.2 v hv).mp hmet⟩
    have hnew : v ∉ seen := fun hmem => hmet ((hw.marks.2 v hv).mpr hmem)
    rw [if_neg hmet, dif_pos q.isLt]
    refine ⟨_, insert v seen, rfl, Finset.subset_insert v seen, ⟨⟨?_, ?_⟩, ?_, ?_, ?_⟩, ?_,
      fun _ => Finset.mem_insert_self v seen⟩
    · rw [List.length_set]
      exact hw.marks.1
    · intro x hx
      rw [Finset.mem_insert]
      by_cases hxv : x = v
      · have hlt : v < w.visited.length := by rwa [hw.marks.1]
        rw [hxv, List.getElem?_set_self hlt]
        exact iff_of_true rfl (Or.inl rfl)
      · rw [List.getElem?_set_ne (Ne.symm hxv), hw.marks.2 x hx]
        exact ⟨Or.inr, fun hmem => hmem.resolve_left hxv⟩
    · exact Finset.insert_subset (Finset.mem_range.mpr hv) hw.within
    · apply (hw.explored.reach hcurrent hadj hnew rfl fun _ _ => rfl).congr
      intro x
      simp only [List.mem_append, List.mem_cons, List.not_mem_nil, or_false]
      tauto
    · intro i
      have hports := hw.ports i
      by_cases hi : i < g.nodes.length
      · rw [if_pos hi] at hports ⊢
        have hone := modify_ports current port ⟨true, v, q, .child⟩ hports
        rw [modify_ports v q _ hone, h.orientedPort_insert hw.explored hcurrent hnew hlink hback]
        have hne := hadj.ne
        by_cases hiv : i = v
        · subst hiv
          rw [if_pos rfl, if_pos rfl, if_neg hne]
        · rw [if_neg (Ne.symm hiv), if_neg hiv]
          by_cases hic : i = current
          · rw [if_pos hic.symm, if_pos hic, hic]
          · rw [if_neg (Ne.symm hic), if_neg hic]
      · rw [if_neg hi] at hports ⊢
        exact modify_none (modify_none hports)
    · rw [Finset.card_insert_of_notMem hnew, List.length_cons]
      omega

lemma followPorts_spec (h : Accepted records localId g es) {current : ℕ} (ports : List Port)
    {seen : Finset ℕ} {w : LocalWalk} (hw : Walking g es start seen w (current :: w.stack)) :
    ∃ w' seen', ports.foldlM (fun w port => followPort g current (linkOf es current port) w port) w =
        .ok w' ∧ seen ⊆ seen' ∧ Walking g es start seen' w' (current :: w'.stack) ∧
      w'.stack.length + seen.card = w.stack.length + seen'.card ∧
      ∀ port ∈ ports, (linkOf es current port).connected = true →
        (linkOf es current port).remoteNodeId ∈ seen' := by
  induction ports generalizing seen w with
  | nil => exact ⟨w, seen, rfl, subset_rfl, hw, rfl, by simp⟩
  | cons port ports ih =>
    obtain ⟨w₁, seen₁, hstep, hsub₁, hw₁, hcard₁, hmet₁⟩ := followPort_spec h hw port
    obtain ⟨w₂, seen₂, hfold, hsub₂, hw₂, hcard₂, hmet₂⟩ := ih hw₁
    refine ⟨w₂, seen₂, ?_, hsub₁.trans hsub₂, hw₂, by omega, fun q hq hconnected => ?_⟩
    · rw [List.foldlM_cons, hstep]
      exact hfold
    · rcases List.mem_cons.mp hq with rfl | hmem
      · exact hsub₂ (hmet₁ hconnected)
      · exact hmet₂ q hmem hconnected

/-- The walk ends with an empty stack. -/
lemma walkFrom_spec (h : Accepted records localId g es) (fuel : ℕ) {seen : Finset ℕ} {w : LocalWalk}
    (hw : Walking g es start seen w w.stack)
    (hfuel : w.stack.length + g.nodes.length < fuel + seen.card) :
    ∃ w' seen', walkFrom g fuel w = .ok w' ∧ Walking g es start seen' w' [] := by
  have hcard : seen.card ≤ g.nodes.length := by
    have hle := Finset.card_le_card hw.within
    rwa [Finset.card_range] at hle
  induction fuel generalizing seen w with
  | zero => omega
  | succ fuel ih =>
    unfold walkFrom
    cases hstack : w.stack with
    | nil =>
      rw [hstack] at hw
      exact ⟨w, seen, rfl, hw⟩
    | cons current rest =>
      rw [hstack] at hw hfuel
      have hcurrent : current < g.nodes.length :=
        Finset.mem_range.mp (hw.within (hw.explored.met current List.mem_cons_self))
      have hget := List.getElem?_eq_getElem hcurrent
      obtain ⟨w', seen', hfold, -, hw', hlength, hmet⟩ := followPorts_spec h
        (List.finRange kMaxPhyPorts) (w := { w with stack := rest })
        ⟨hw.marks, hw.within, hw.explored, hw.ports⟩
      dsimp only
      rw [hget]
      dsimp only
      rw [h.links hget, hfold]
      have hdone : Explored g.cables (fun _ => ()) start seen' (fun _ => ()) w'.stack := by
        apply hw'.explored.finish
        intro v hadj
        obtain ⟨port, hconnected, rfl⟩ := (joins_iff_linkOf h.cabled).mp (h.adj_iff.mp hadj)
        exact hmet port (List.mem_finRange port) hconnected
      have hcard' : seen'.card ≤ g.nodes.length := by
        have hle := Finset.card_le_card hw'.within
        rwa [Finset.card_range] at hle
      rw [List.length_cons] at hfuel
      dsimp only at hlength
      exact ih ⟨hw'.marks, hw'.within, hdone, hw'.ports⟩ (by omega) hcard'

/-! ### The result -/

/-- Naming the nodes leaves their ports alone. -/
lemma nameNodes_ports {observer : ℕ} (physical : List TopologyNodeRecord)
    {nodes nodes' : List NormalizedNode} (hfold : physical.foldlM (nameNode observer) nodes = .ok nodes')
    (i : ℕ) : nodes'[i]?.map (·.ports) = nodes[i]?.map (·.ports) := by
  induction physical generalizing nodes with
  | nil =>
    cases hfold
    rfl
  | cons node physical ih =>
    rw [List.foldlM_cons] at hfold
    unfold nameNode at hfold
    by_cases hlt : node.physicalId < nodes.length
    · rw [if_pos hlt] at hfold
      rw [ih hfold, List.getElem?_modify]
      cases nodes[i]? with
      | none => rfl
      | some old =>
        rw [Option.map_eq_map, Option.map_some, Option.map_some, Option.map_some]
        split
        · rfl
        · rfl
    · rw [if_neg hlt] at hfold
      cases hfold

lemma nameNodes_ok (observer : ℕ) (physical : List TopologyNodeRecord) {nodes : List NormalizedNode}
    (hall : ∀ node ∈ physical, node.physicalId < nodes.length) :
    ∃ nodes', physical.foldlM (nameNode observer) nodes = .ok nodes' := by
  induction physical generalizing nodes with
  | nil => exact ⟨nodes, rfl⟩
  | cons node physical ih =>
    have hrest : ∀ next ∈ physical, next.physicalId <
        (nodes.modify node.physicalId fun old => { old with
          physicalId := node.physicalId
          isObserver := node.physicalId = observer }).length := by
      intro next hnext
      rw [List.length_modify]
      exact hall next (List.mem_cons_of_mem node hnext)
    obtain ⟨nodes', hfold⟩ := ih hrest
    refine ⟨nodes', ?_⟩
    rw [List.foldlM_cons, nameNode, if_pos (hall node List.mem_cons_self)]
    exact hfold

lemma Accepted.walking_initial (h : Accepted records localId g es) {observer : ℕ}
    (hlt : observer < g.nodes.length) {nodes : List NormalizedNode}
    (hnames : g.nodes.foldlM (nameNode observer) (List.replicate g.nodes.length {}) = .ok nodes) :
    Walking g es observer {observer}
      ⟨nodes, (List.replicate g.nodes.length false).set observer true, [observer]⟩ [observer] := by
  refine ⟨⟨?_, ?_⟩, ?_, Explored.initial rfl, ?_⟩
  · rw [List.length_set, List.length_replicate]
  · intro v hv
    rw [Finset.mem_singleton]
    by_cases hvo : v = observer
    · rw [hvo, List.getElem?_set_self (by rwa [List.length_replicate])]
      exact iff_of_true rfl rfl
    · rw [List.getElem?_set_ne (Ne.symm hvo), List.getElem?_replicate, if_pos hv]
      exact iff_of_false Bool.false_ne_true hvo
  · exact Finset.singleton_subset_iff.mpr (Finset.mem_range.mpr hlt)
  · intro i
    dsimp only
    rw [nameNodes_ports _ hnames, List.getElem?_replicate]
    by_cases hi : i < g.nodes.length
    · rw [if_pos hi, if_pos hi, Option.map_some]
      congr 1
      funext port
      symm
      apply orientedPort_outside
      rintro ⟨hconnected, hself, hremote⟩
      rw [Finset.mem_singleton] at hself hremote
      exact (h.adj_link hconnected).ne (hself.trans hremote.symm)
    · rw [if_neg hi, if_neg hi]
      rfl

/-- The function answers by the marks at the end of its walk. -/
lemma normalizeFromLocal_eq (h : Accepted records localId g es) (observer : ℕ)
    (hvalid : observer ≠ kInvalidPhysicalId) (hlt : observer < g.nodes.length)
    {nodes : List NormalizedNode}
    (hnames : g.nodes.foldlM (nameNode observer) (List.replicate g.nodes.length {}) = .ok nodes) :
    ∃ w seen, normalizeFromLocal g observer = (if w.visited.all id then .ok ⟨observer, w.nodes⟩
        else .error (.error ⟨.edgeCountMismatch,
          "Physical graph is disconnected from local observer"⟩)) ∧
      Walking g es observer seen w [] := by
  obtain ⟨w, seen, hwalk, hw⟩ := walkFrom_spec h (g.nodes.length + 1)
    (h.walking_initial hlt hnames) (by simp only [List.length_singleton, Finset.card_singleton]; omega)
  refine ⟨w, seen, ?_, hw⟩
  rw [normalizeFromLocal, if_neg (fun hcon => hcon.elim hvalid (not_le.mpr hlt))]
  dsimp only
  rw [hnames]
  change (walkFrom g _ _ >>= _) = _
  rw [hwalk]
  rfl

def NormalizedTopologyGraph.portAt (n : NormalizedTopologyGraph) (i : ℕ) (port : Port) :
    Option NormalizedPortLink :=
  n.nodes[i]?.map fun node => node.ports port

/-- Every cable is marked at both of its ports, `Child` where the observer is nearer; every node but
the observer has one Parent port. -/
structure Oriented (g : PhysicalTopologyGraph) (observer : ℕ) (n : NormalizedTopologyGraph) : Prop where
  length : n.nodes.length = g.nodes.length
  cables : ∀ (i : ℕ) (port : Port) (link : TopologyPortLink), g.linkAt i port = some link →
    link.connected = true → ∃ state, n.portAt i port =
        some ⟨true, link.remoteNodeId, link.remotePort, state⟩ ∧
      (g.cables.dist observer i < g.cables.dist observer link.remoteNodeId ∧ state = .child ∨
        g.cables.dist observer link.remoteNodeId < g.cables.dist observer i ∧ state = .parent)
  parent : ∀ i < g.nodes.length, i ≠ observer →
    ∃! port : Port, ∃ l, n.portAt i port = some l ∧ l.normalizedState = .parent
  top : ∀ (port : Port) (l : NormalizedPortLink), n.portAt observer port = some l →
    l.normalizedState ≠ .parent
  unconnected : ∀ (i : ℕ) (port : Port) (link : TopologyPortLink), g.linkAt i port = some link →
    link.connected = false → ∃ l, n.portAt i port = some l ∧ l.connected = false

/-- Normalization succeeds from everywhere. -/
def Orients (g : PhysicalTopologyGraph) : Prop :=
  ∀ observer, observer ≠ kInvalidPhysicalId → observer < g.nodes.length →
    ∃ n, normalizeFromLocal g observer = .ok n ∧ Oriented g observer n

lemma Walking.oriented (h : Accepted records localId g es) {observer : ℕ} {w : LocalWalk}
    {seen : Finset ℕ} (hw : Walking g es observer seen w [])
    (hall : ∀ v < g.nodes.length, v ∈ seen) : Oriented g observer ⟨observer, w.nodes⟩ := by
  have hport : ∀ (i : ℕ) (port : Port), NormalizedTopologyGraph.portAt ⟨observer, w.nodes⟩ i port =
      if i < g.nodes.length then some (orientedPort g es observer seen i port) else none := by
    intro i port
    have hports := congrArg (Option.map fun f : Port → NormalizedPortLink => f port) (hw.ports i)
    rw [Option.map_map] at hports
    refine hports.trans ?_
    split
    · rfl
    · rfl
  have hlt : ∀ {i : ℕ} {port : Port} {link : TopologyPortLink}, g.linkAt i port = some link →
      i < g.nodes.length := by
    intro i port link hlink
    rw [PhysicalTopologyGraph.linkAt, Option.map_eq_some_iff] at hlink
    obtain ⟨node, hnode, -⟩ := hlink
    exact (List.getElem?_eq_some_iff.mp hnode).1
  have hinside : ∀ {i : ℕ} {port : Port}, (linkOf es i port).connected = true →
      i ∈ seen ∧ (linkOf es i port).remoteNodeId ∈ seen := by
    intro i port hconnected
    have hadj := h.adj_link hconnected
    have hi := (h.adj_le hadj).trans_lt h.inside
    have hj := (h.adj_le hadj.symm).trans_lt h.inside
    rw [← h.nodes_length] at hi hj
    exact ⟨hall _ hi, hall _ hj⟩
  -- a Parent mark is the way to a nearer neighbour
  have hparent : ∀ {i : ℕ} {port : Port}, (orientedPort g es observer seen i port).normalizedState =
      .parent ↔ (linkOf es i port).connected = true ∧
        g.cables.dist observer (linkOf es i port).remoteNodeId < g.cables.dist observer i := by
    intro i port
    unfold orientedPort
    dsimp only
    by_cases hconnected : (linkOf es i port).connected = true
    · rw [if_pos ⟨hconnected, hinside hconnected⟩]
      have hadj := h.adj_link hconnected
      have hne := h.acyclic.dist_ne_of_adj hadj
        (hw.explored.reachable (hinside hconnected).1)
      by_cases hnear : g.cables.dist observer i < g.cables.dist observer (linkOf es i port).remoteNodeId
      · rw [if_pos hnear]
        exact iff_of_false (fun hcon => by cases hcon) (fun hcon => absurd hcon.2 (by omega))
      · rw [if_neg hnear]
        exact iff_of_true rfl ⟨hconnected, by omega⟩
    · rw [if_neg (fun hcon => hconnected hcon.1)]
      exact iff_of_false (by decide) (fun hcon => hconnected hcon.1)
  have hiff : ∀ {i : ℕ} {port : Port}, i < g.nodes.length →
      ((∃ l, NormalizedTopologyGraph.portAt ⟨observer, w.nodes⟩ i port = some l ∧
        l.normalizedState = .parent) ↔ (linkOf es i port).connected = true ∧
          g.cables.dist observer (linkOf es i port).remoteNodeId < g.cables.dist observer i) := by
    intro i port hi
    rw [← hparent, hport, if_pos hi]
    constructor
    · rintro ⟨l, hl, hstate⟩
      rw [Option.some.inj hl]
      exact hstate
    · exact fun hstate => ⟨_, rfl, hstate⟩
  refine ⟨?_, ?_, ?_, ?_, ?_⟩
  · apply le_antisymm
    · by_contra hlong
      have hnone := hw.ports g.nodes.length
      rw [if_neg (lt_irrefl _), Option.map_eq_none_iff, List.getElem?_eq_none_iff] at hnone
      exact hlong hnone
    · by_contra hshort
      have hsome := hw.ports w.nodes.length
      rw [if_pos (not_le.mp hshort), List.getElem?_eq_none_iff.mpr le_rfl] at hsome
      cases hsome
  · intro i port link hlink hconnected
    have hi := hlt hlink
    obtain rfl := (h.linkAt_connected hconnected).mp hlink
    have hne := h.acyclic.dist_ne_of_adj (h.adj_link hconnected)
      (hw.explored.reachable (hinside hconnected).1)
    refine ⟨if g.cables.dist observer i < g.cables.dist observer (linkOf es i port).remoteNodeId
      then .child else .parent, ?_, ?_⟩
    · rw [hport, if_pos hi]
      unfold orientedPort
      rw [if_pos ⟨hconnected, hinside hconnected⟩]
    · by_cases hnear : g.cables.dist observer i < g.cables.dist observer (linkOf es i port).remoteNodeId
      · exact Or.inl ⟨hnear, if_pos hnear⟩
      · exact Or.inr ⟨by omega, if_neg hnear⟩
  · intro i hi hne
    have hreach := hw.explored.reachable (hall i hi)
    obtain ⟨x, hadj, hdist⟩ := exists_closer h.acyclic hreach hne
    obtain ⟨port, hconnected, hremote⟩ := (joins_iff_linkOf h.cabled).mp (h.adj_iff.mp hadj)
    refine ⟨port, (hiff hi).mpr ⟨hconnected, by rw [hremote]; omega⟩, fun q hq => ?_⟩
    obtain ⟨hconnected', hcloser⟩ := (hiff hi).mp hq
    have hsame := closer_unique h.acyclic hreach (h.adj_link hconnected') hadj hcloser (by omega)
    exact h.port_unique hconnected' hconnected (hsame.trans hremote.symm)
  · intro port l hl hstate
    have hi : observer < g.nodes.length := Finset.mem_range.mp (hw.within hw.explored.start)
    have hcloser := ((hiff hi).mp ⟨l, hl, hstate⟩).2
    rw [SimpleGraph.dist_self] at hcloser
    exact absurd hcloser (Nat.not_lt_zero _)
  · intro i port link hlink hoff
    have hi := hlt hlink
    refine ⟨_, (hport i port).trans (if_pos hi), ?_⟩
    rw [orientedPort_outside]
    rintro ⟨hconnected, -⟩
    obtain rfl := Option.some.inj (((h.linkAt_connected hconnected).mpr rfl).symm.trans hlink)
    rw [hoff] at hconnected
    cases hconnected

/-- Normalization orients what is built, from every node, exactly when the last record's ID is its
position. -/
theorem orients_iff_endsAtRoot (h : Builds records localId g) : Orients g ↔ EndsAtRoot records := by
  obtain ⟨es, ha⟩ := buildPhysicalGraph_accepted h.1
  have hinside := ha.inside
  have hlength := ha.nodes_length
  rw [ha.endsAtRoot_iff]
  constructor
  · intro horients
    by_contra hends
    obtain ⟨n, hn, -⟩ := horients 0 (by decide) (by omega)
    cases hnames : g.nodes.foldlM (nameNode 0) (List.replicate g.nodes.length {}) with
    | error err =>
      have hvalid : ¬ (0 = kInvalidPhysicalId ∨ g.nodes.length ≤ 0) := by
        rintro (hcon | hcon)
        · cases hcon
        · omega
      rw [normalizeFromLocal, if_neg hvalid] at hn
      dsimp only at hn
      rw [hnames] at hn
      cases hn
    | ok nodes =>
      obtain ⟨w, seen, heq, hw⟩ := normalizeFromLocal_eq ha 0 (by decide) (by omega) hnames
      rw [heq] at hn
      by_cases hall : w.visited.all id = true
      · have hnext : g.rootId + 1 < g.nodes.length := by omega
        have hmem : g.rootId + 1 ∈ seen := by
          apply (hw.marks.2 _ hnext).mp
          have hlt : g.rootId + 1 < w.visited.length := by rwa [hw.marks.1]
          rw [List.getElem?_eq_getElem hlt]
          exact List.all_eq_true.mp hall _ (List.getElem_mem hlt)
        have hreach := (hw.explored.reachable hmem).symm
        exact absurd (ha.eq_of_reachable (Nat.lt_succ_self _) hreach) (Nat.succ_ne_zero _)
      · rw [if_neg hall] at hn
        cases hn
  · intro hends observer hvalid hlt
    have hids : ∀ node ∈ g.nodes, node.physicalId < (List.replicate g.nodes.length
        ({} : NormalizedNode)).length := by
      intro node hnode
      obtain ⟨i, hget⟩ := List.mem_iff_getElem?.mp hnode
      obtain ⟨r, hr, hid, -⟩ := ha.node hget
      have hi := (List.getElem?_eq_some_iff.mp hget).1
      rw [List.length_replicate, hid, ha.numbered i r ((reached_getElem? (by omega)).trans hr)]
      exact hi
    obtain ⟨nodes, hnames⟩ := nameNodes_ok observer g.nodes hids
    obtain ⟨w, seen, heq, hw⟩ := normalizeFromLocal_eq ha observer hvalid hlt hnames
    have hall : ∀ v < g.nodes.length, v ∈ seen := by
      intro v hv
      apply hw.explored.complete
      exact (ha.reachable_root (by omega)).trans (ha.reachable_root (by omega)).symm
    refine ⟨⟨observer, w.nodes⟩, ?_, hw.oriented ha hall⟩
    rw [heq, if_pos]
    rw [List.all_eq_true]
    intro mark hmark
    obtain ⟨v, hv, rfl⟩ := List.getElem_of_mem hmark
    have hmarked := (hw.marks.2 v (hw.marks.1 ▸ hv)).mpr (hall v (hw.marks.1 ▸ hv))
    rw [List.getElem?_eq_getElem hv] at hmarked
    exact hmarked

theorem pair_orients : ∃ g, Builds [reportOf 0 [.parent], reportOf 1 [.child]] 0 g ∧ Orients g := by
  obtain ⟨g, hg⟩ : ∃ g, Builds [reportOf 0 [.parent], reportOf 1 [.child]] 0 g := ⟨_, rfl, by decide⟩
  exact ⟨g, hg, (orients_iff_endsAtRoot hg).mpr ⟨_, rfl, rfl⟩⟩

/-- From node 0 of two records of node 0 there is no way to the second record. -/
theorem not_orients_twice : ∃ records localId g, Builds records localId g ∧ ¬ Orients g := by
  refine ⟨[reportOf 0 [], reportOf 0 []], 0, _, ⟨rfl, by decide⟩, fun horients => ?_⟩
  obtain ⟨n, hn, -⟩ := horients 0 (by decide) (by decide)
  cases hn

end ASFireWire.Topology
