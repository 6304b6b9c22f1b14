import ASFireWire.TopologyTypes

/-! `SelfIDTopologyNormalizer::BuildPhysicalGraph`: the Annex P stack algorithm that
recovers the physical links from ordered Self-ID records, with the IRM election, the
diameter search and the beta-repeater scan that complete the graph. -/
namespace ASFireWire.Topology

def setLink (node : TopologyNodeRecord) (port : Port) (link : TopologyPortLink) :
    TopologyNodeRecord :=
  { node with links := Function.update node.links port link }

def firstUnresolvedParentPort (node : TopologyNodeRecord) : Option Port :=
  (List.finRange kMaxPhyPorts).find? fun port =>
    node.reportedPorts port = .parent && !(node.links port).connected

/-- Both ends of a cable, the parent's port first. The nodes are named by their position in
the node array, as the references of the source are. -/
def connectBidirectional (nodes : List TopologyNodeRecord) (parent : ℕ) (parentPort : Port)
    (child : ℕ) (childPort : Port) : List TopologyNodeRecord :=
  match nodes[parent]?, nodes[child]? with
  | some p, some c =>
      (nodes.modify parent (setLink · parentPort ⟨true, c.physicalId, childPort⟩)).modify child
        (setLink · childPort ⟨true, p.physicalId, parentPort⟩)
  | _, _ => nodes

/-- The node array under construction and the stack of nodes whose parent is still unknown,
most recent first. -/
structure BuildState where
  nodes : List TopologyNodeRecord
  unresolvedChildren : List ℕ
  deriving DecidableEq

/-- One port of the current node: a connected child port takes the top of the stack. -/
def resolveChildPort (id : ℕ) (current : TopologyNodeRecord) (s : BuildState) (port : Port) :
    Except TopologyBuildError BuildState :=
  if current.reportedPorts port ≠ .child then .ok s
  else
    match s.unresolvedChildren with
    | [] => .error ⟨.childPortWithEmptyStack,
        "Child port encountered but unresolved-child stack is empty"⟩
    | childId :: rest =>
      match s.nodes[childId]? with
      | none => .error ⟨.nonContiguousPhysicalIds,
          "Unresolved child physical ID is outside graph node array"⟩
      | some child =>
        match firstUnresolvedParentPort child with
        | none => .error ⟨.poppedNodeHasNoUnresolvedParent,
            "Popped child node has no unresolved Parent port"⟩
        | some childPort =>
            .ok ⟨connectBidirectional s.nodes id port childId childPort, rest⟩

/-- Ports in the order of the inner loop, from the highest number down to zero. -/
def descendingPorts : List Port := (List.finRange kMaxPhyPorts).reverse

/-- One iteration of the outer loop over physical IDs. -/
def processNode (rootId : ℕ) (s : BuildState) (id : ℕ) : Except TopologyBuildError BuildState :=
  match s.nodes[id]? with
  | none => .error ⟨.nonContiguousPhysicalIds, "Physical IDs are not contiguous from 0 to root"⟩
  | some current =>
    if current.physicalId ≠ id then
      .error ⟨.nonContiguousPhysicalIds, "Physical IDs are not contiguous from 0 to root"⟩
    else do
      let s ← descendingPorts.foldlM (resolveChildPort id current) s
      if id < rootId then
        match s.nodes[id]?.bind firstUnresolvedParentPort with
        | none => .error ⟨.nonRootWithoutParentPort,
            "Non-root node has no Parent port after child links were resolved"⟩
        | some _ => .ok { s with unresolvedChildren := id :: s.unresolvedChildren }
      else .ok s

def toNodeRecord (rootId localPhysicalId : ℕ) (record : SelfIDNodeRecord) : TopologyNodeRecord where
  physicalId := record.physicalId
  linkActive := record.linkActive
  contender := record.contender
  initiatedReset := record.initiatedReset
  gapCount := record.gapCount
  powerClass := record.powerClass
  speedCode := record.speedCode
  maxSpeedMbps := record.maxSpeedMbps
  baseRaw := record.baseRaw
  reportedPorts := record.ports
  portCount := record.portCount
  isRoot := record.physicalId = rootId
  isLocal := record.physicalId = localPhysicalId

/-- Breadth-first state of `farthestFrom`: distances by node, the visiting order and the
farthest node met so far. -/
structure Search where
  distance : List ℕ
  frontier : List ℕ
  farthestNode : ℕ
  deriving DecidableEq, Repr

def Search.distanceOf (s : Search) (id : ℕ) : ℕ := s.distance[id]?.getD kInvalidPhysicalId

/-- Relax one link of the node under the cursor. -/
def visitLink (current : ℕ) (s : Search) (link : TopologyPortLink) : Search :=
  if !link.connected then s
  else if s.distance.length ≤ link.remoteNodeId ∨
      s.distanceOf link.remoteNodeId ≠ kInvalidPhysicalId then s
  else
    let distance := s.distance.set link.remoteNodeId ((s.distanceOf current + 1) % 256)
    let reached := { s with distance := distance, frontier := s.frontier ++ [link.remoteNodeId] }
    if reached.distanceOf link.remoteNodeId > reached.distanceOf s.farthestNode then
      { reached with farthestNode := link.remoteNodeId }
    else reached

/-- The frontier is scanned by an index that moves while entries are appended. A node enters
it at most once, so the number of nodes bounds the scan. -/
def searchFrom (nodes : List TopologyNodeRecord) : ℕ → ℕ → Search → Search
  | 0, _, s => s
  | fuel + 1, head, s =>
    match s.frontier[head]? with
    | none => s
    | some current =>
      let links := (nodes[current]?.map fun node => List.ofFn node.links).getD []
      searchFrom nodes fuel (head + 1) (links.foldl (visitLink current) s)

/-- Farthest node from `start` and its distance. -/
def farthestFrom (nodes : List TopologyNodeRecord) (start : ℕ) : ℕ × ℕ :=
  let n := nodes.length
  let s := searchFrom nodes (n + 1) 0
    ⟨(List.replicate n kInvalidPhysicalId).set start 0, [start], start⟩
  (s.farthestNode, s.distanceOf s.farthestNode)

def computeBusDiameter (nodes : List TopologyNodeRecord) : ℕ :=
  if nodes.length ≤ 1 then 0
  else (farthestFrom nodes (farthestFrom nodes 0).1).2

/-- Highest node that is both contender and link-active. -/
def electIRM (nodes : List TopologyNodeRecord) : Option ℕ :=
  (List.range nodes.length).reverse.find? fun i =>
    (nodes[i]?.map fun node => node.contender && node.linkActive).getD false

def isBetaRepeater (node : TopologyNodeRecord) : Bool :=
  node.speedCode = 3 &&
    1 < (List.finRange kMaxPhyPorts).countP fun port =>
      node.reportedPorts port = .parent || node.reportedPorts port = .child

/-- The passes after the links are known: IRM, diameter, beta repeaters. -/
def finishGraph (rootId localPhysicalId : ℕ) (nodes : List TopologyNodeRecord) :
    PhysicalTopologyGraph :=
  let irm := electIRM nodes
  { rootId := rootId
    localId := localPhysicalId
    irmId := (irm.bind fun i => nodes[i]?.map (·.physicalId)).getD kInvalidPhysicalId
    nodeCount := nodes.length % 256
    busDiameterHops := computeBusDiameter nodes
    betaRepeatersPresent := nodes.any isBetaRepeater
    nodes := match irm with
      | none => nodes
      | some i => nodes.modify i fun node => { node with isIRM := true } }

def buildPhysicalGraph (records : List SelfIDNodeRecord) (localPhysicalId : ℕ) :
    Except TopologyBuildError PhysicalTopologyGraph :=
  match records.getLast? with
  | none => .error ⟨.emptySequenceSet, "No Self-ID node records are available"⟩
  | some root => do
    let rootId := root.physicalId
    let nodes := records.map (toNodeRecord rootId localPhysicalId)
    let s ← (List.range (rootId + 1)).foldlM (processNode rootId) ⟨nodes, []⟩
    if s.unresolvedChildren ≠ [] then
      .error ⟨.unresolvedStackAfterRoot,
        "Unresolved child stack is not empty after processing the root node"⟩
    else .ok (finishGraph rootId localPhysicalId s.nodes)

end ASFireWire.Topology
