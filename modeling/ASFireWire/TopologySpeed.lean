import ASFireWire.TopologyNormalizer

/-! The two path speed computations over a topology snapshot: `PathSpeedCodeBetween`
(`Bus/TopologySpeed.hpp`), one breadth-first search that stops at its target, and
`SpeedMapService::ComputeMatrix` (`Bus/CSR/SpeedMapService`), a search from every link-active
node that fills the speed matrix in both directions. -/
namespace ASFireWire.Topology

inductive TopologyGraphStatus | unknown | valid | invalid
  deriving DecidableEq, Repr

/-- The fields of `TopologySnapshot` that path speeds depend on. -/
structure TopologySnapshot where
  generation : ℕ := 0
  graphStatus : TopologyGraphStatus := .unknown
  localNodeId : ℕ := kInvalidPhysicalId
  rootNodeId : ℕ := kInvalidPhysicalId
  nodeCount : ℕ := 0
  betaRepeatersPresent : Bool := false
  physical : PhysicalTopologyGraph := {}

/-- The snapshot `UpdateFromSelfID` makes of a built graph. -/
def validSnapshot (generation : ℕ) (g : PhysicalTopologyGraph) : TopologySnapshot where
  generation := generation
  graphStatus := .valid
  localNodeId := g.localId
  rootNodeId := g.rootId
  nodeCount := g.nodeCount
  betaRepeatersPresent := g.betaRepeatersPresent
  physical := g

/-! ### `PathSpeedCodeBetween` -/

def kMaxPhysicalIds : ℕ := 63

def findNode (nodes : List TopologyNodeRecord) (id : ℕ) : Option TopologyNodeRecord :=
  nodes.find? fun node => node.physicalId = id

structure PathSearch where
  best : ℕ → ℕ
  seen : ℕ → Bool
  queue : List ℕ

/-- One link of the node under the cursor; the error is the value returned on meeting `nodeB`. -/
def visitPathLink (nodes : List TopologyNodeRecord) (nodeB current : ℕ) (s : PathSearch)
    (link : TopologyPortLink) : Except ℕ PathSearch :=
  if !link.connected then .ok s
  else if kMaxPhysicalIds ≤ link.remoteNodeId ∨ s.seen link.remoteNodeId = true then .ok s
  else
    match findNode nodes link.remoteNodeId with
    | none => .ok s
    | some neighbourRecord =>
      let speed := min (s.best current) (neighbourRecord.speedCode % 256)
      if link.remoteNodeId = nodeB then .error speed
      else .ok {
        best := Function.update s.best link.remoteNodeId speed
        seen := Function.update s.seen link.remoteNodeId true
        queue := s.queue ++ [link.remoteNodeId] }

/-- The links of the ports a node has. -/
def portLinks (record : TopologyNodeRecord) : List TopologyPortLink :=
  ((List.finRange kMaxPhyPorts).filter fun port => port.val < record.portCount).map record.links

/-- The loop over the queue. A node enters it once, so the number of IDs bounds it. -/
def searchPath (nodes : List TopologyNodeRecord) (nodeB : ℕ) : ℕ → PathSearch → Option ℕ
  | 0, _ => none
  | fuel + 1, s =>
    match s.queue with
    | [] => none
    | current :: queue =>
      match findNode nodes current with
      | none => searchPath nodes nodeB fuel { s with queue := queue }
      | some record =>
        match (portLinks record).foldlM (visitPathLink nodes nodeB current)
            { s with queue := queue } with
        | .error speed => some speed
        | .ok s => searchPath nodes nodeB fuel s

def pathSpeedCodeBetween (topology : TopologySnapshot) (nodeA nodeB : ℕ) : Option ℕ :=
  if topology.graphStatus ≠ .valid then none
  else if kMaxPhysicalIds ≤ nodeA ∨ kMaxPhysicalIds ≤ nodeB then none
  else
    match findNode topology.physical.nodes nodeA, findNode topology.physical.nodes nodeB with
    | some recordA, some recordB =>
      if !recordA.linkActive || !recordB.linkActive then none
      else if nodeA = nodeB then some (recordA.speedCode % 256)
      else searchPath topology.physical.nodes nodeB (kMaxPhysicalIds + 1) {
        best := Function.update (fun _ => 0) nodeA (recordA.speedCode % 256)
        seen := Function.update (fun _ => false) nodeA true
        queue := [nodeA] }
    | _, _ => none

/-! ### `SpeedMapService` -/

inductive SpeedMapStatus | invalid | valid | conservativeFallback | unsupportedBetaPath
  deriving DecidableEq, Repr

inductive FireWireSpeedCode | s100 | s200 | s400 | s800 | unknown
  deriving DecidableEq, Repr

def FireWireSpeedCode.code : FireWireSpeedCode → ℕ
  | s100 => 0
  | s200 => 1
  | s400 => 2
  | s800 => 3
  | unknown => 0xFF

/-- A data rate as a legacy code, capped at S400. -/
def legacySpeedCode (mbps : ℕ) : FireWireSpeedCode :=
  if 400 ≤ mbps then .s400 else if 200 ≤ mbps then .s200 else .s100

abbrev SpeedMatrix := ℕ → ℕ → FireWireSpeedCode

def SpeedMatrix.set (m : SpeedMatrix) (i j : ℕ) (speed : FireWireSpeedCode) : SpeedMatrix :=
  fun x y => if x = i ∧ y = j then speed else m x y

structure MatrixSearch where
  visited : ℕ → Bool
  queue : List ℕ
  matrix : SpeedMatrix

def mbpsOf (nodes : List TopologyNodeRecord) (id : ℕ) : ℕ :=
  (nodes[id]?.map (·.maxSpeedMbps)).getD 0

def finalSpeed (pathSpeedToU edgeSpeed : FireWireSpeedCode) : FireWireSpeedCode :=
  if pathSpeedToU = .unknown then edgeSpeed
  else if pathSpeedToU.code < edgeSpeed.code then pathSpeedToU else edgeSpeed

def visitMatrixLink (nodes : List TopologyNodeRecord) (startNode u : ℕ) (s : MatrixSearch)
    (link : TopologyPortLink) : MatrixSearch :=
  let v := link.remoteNodeId
  if !link.connected then s
  else if 64 ≤ v ∨ s.visited v = true then s
  else
    let edgeSpeed := legacySpeedCode (min (mbpsOf nodes u) (mbpsOf nodes v))
    let pathSpeedToU := if u = startNode then .unknown else s.matrix startNode u
    let speed := finalSpeed pathSpeedToU edgeSpeed
    { matrix := (s.matrix.set startNode v speed).set v startNode speed
      visited := Function.update s.visited v true
      queue := s.queue ++ [v] }

def searchMatrix (nodes : List TopologyNodeRecord) (startNode : ℕ) : ℕ → MatrixSearch → MatrixSearch
  | 0, s => s
  | fuel + 1, s =>
    match s.queue with
    | [] => s
    | u :: queue =>
      let links := (nodes[u]?.map fun node => List.ofFn node.links).getD []
      searchMatrix nodes startNode fuel
        (links.foldl (visitMatrixLink nodes startNode u) { s with queue := queue })

/-- The search from one node, and whether it met every link-active one. -/
def matrixFrom (nodes : List TopologyNodeRecord) (m : SpeedMatrix × Bool) (startNode : ℕ) :
    SpeedMatrix × Bool :=
  if (nodes[startNode]?.map (·.linkActive)).getD false = false then m
  else
    let s := searchMatrix nodes startNode (64 + 1) {
      visited := Function.update (fun _ => false) startNode true
      queue := [startNode]
      matrix := m.1 }
    (s.matrix, m.2 && (List.range nodes.length).all fun i =>
      !(nodes[i]?.map (·.linkActive)).getD false || s.visited i)

/-- Unknown everywhere but on the diagonal. -/
def initialMatrix (nodes : List TopologyNodeRecord) : SpeedMatrix := fun i j =>
  if i = j then
    match nodes[i]? with
    | none => .unknown
    | some node => legacySpeedCode node.maxSpeedMbps
  else .unknown

def computeMatrix (nodes : List TopologyNodeRecord) : SpeedMatrix × Bool :=
  let m := (List.range nodes.length).foldl (matrixFrom nodes) (initialMatrix nodes, true)
  (fun i j => if m.1 i j = .unknown then .s100 else m.1 i j, m.2)

/-- `SpeedMapSnapshot` and the encoded CSR image. -/
structure SpeedMapService where
  generation : ℕ := 0
  status : SpeedMapStatus := .invalid
  nodeCount : ℕ := 0
  localNodeId : ℕ := 0x3F
  rootNodeId : ℕ := 0x3F
  topologyValid : Bool := false
  betaRepeatersPresent : Bool := false
  speedMatrix : SpeedMatrix := fun _ _ => .s100
  encodedLengthQuadlets : ℕ := 0
  encoded : ℕ → ℕ := fun _ => 0
  encodedQuadletCount : ℕ := 0

namespace SpeedMapService

def kSpeedMapCSRQuadlets : ℕ := 256

def kSpeedMapEntriesPerQuadlet : ℕ := 16

/-- Length and generation. -/
def headerQuadlet (generation : ℕ) : ℕ :=
  (kSpeedMapCSRQuadlets - 1) * 2 ^ 16 + generation % 2 ^ 8

def invalidate (generation : ℕ) : SpeedMapService where
  generation := generation
  encoded := Function.update (fun _ => 0) 0 (headerQuadlet generation)
  encodedQuadletCount := kSpeedMapCSRQuadlets

/-- Sixteen consecutive entries of the matrix in row order, two bits each. -/
def encodeQuadlet (m : SpeedMatrix) (quadlet : ℕ) : ℕ :=
  (List.range kSpeedMapEntriesPerQuadlet).foldl
    (fun word k =>
      let index := (quadlet - 1) * kSpeedMapEntriesPerQuadlet + k
      word + min (m (index / 64) (index % 64)).code 2 * 4 ^ k) 0

def encodeCSRImage (s : SpeedMapService) : SpeedMapService :=
  { s with
    encodedLengthQuadlets := kSpeedMapCSRQuadlets
    encoded := fun quadlet =>
      if quadlet = 0 then headerQuadlet s.generation
      else if quadlet < kSpeedMapCSRQuadlets then encodeQuadlet s.speedMatrix quadlet else 0 }

def publishFromTopology (s : SpeedMapService) (topology : TopologySnapshot) : SpeedMapService :=
  if topology.graphStatus ≠ .valid ∨ topology.nodeCount = 0 then invalidate topology.generation
  else
    let m := computeMatrix topology.physical.nodes
    encodeCSRImage { s with
      generation := topology.generation
      status := if m.2 then .valid else .conservativeFallback
      nodeCount := topology.nodeCount
      localNodeId := topology.localNodeId
      rootNodeId := topology.rootNodeId
      topologyValid := true
      betaRepeatersPresent := topology.betaRepeatersPresent
      speedMatrix := m.1 }

def readQuadlet (s : SpeedMapService) (offsetWithinSpeedMap : ℕ) : Option ℕ :=
  if s.encodedQuadletCount ≤ offsetWithinSpeedMap / 4 then none
  else some (s.encoded (offsetWithinSpeedMap / 4))

end SpeedMapService

end ASFireWire.Topology
