import Mathlib

/-! Records of the topology layer (`Bus/TopologyTypes.hpp`): decoded Self-ID nodes,
the physical graph with its per-port links, and the build errors. Physical IDs are
six-bit values, so the `uint8_t` fields are modelled by natural numbers. -/
namespace ASFireWire.Topology

inductive PortState | notPresent | notActive | parent | child
  deriving DecidableEq, Repr

inductive TopologyBuildErrorCode
  | none | invalidSelfID | emptySequenceSet | nonContiguousPhysicalIds | duplicatePhysicalId
  | missingBasePacket | invalidExtendedPacketOrder
  | nonRootWithoutParentPort | rootHasParentPort | childPortWithEmptyStack
  | poppedNodeHasNoUnresolvedParent | unresolvedStackAfterRoot | reciprocalLinkMissing
  | edgeCountMismatch | localNodeUnavailable
  deriving DecidableEq, Repr

structure TopologyBuildError where
  code : TopologyBuildErrorCode
  detail : String
  deriving DecidableEq, Repr

/-- `kInvalidPhysicalId`: the "no node" marker of every ID and port field. -/
def kInvalidPhysicalId : ℕ := 0xFF

def kMaxPhyPorts : ℕ := 16

instance : NeZero kMaxPhyPorts := ⟨by decide⟩

abbrev Port := Fin kMaxPhyPorts

structure SelfIDNodeRecord where
  physicalId : ℕ := kInvalidPhysicalId
  linkActive : Bool := false
  contender : Bool := false
  initiatedReset : Bool := false
  gapCount : ℕ := 63
  powerClass : ℕ := 0
  speedCode : ℕ := 0
  maxSpeedMbps : ℕ := 0
  baseRaw : ℕ := 0
  ports : Port → PortState := fun _ => .notPresent
  portCount : ℕ := 0
  hasBasePacket : Bool := false
  deriving DecidableEq

structure TopologyPortLink where
  connected : Bool := false
  remoteNodeId : ℕ := kInvalidPhysicalId
  remotePort : ℕ := kInvalidPhysicalId
  deriving DecidableEq, Repr

structure TopologyNodeRecord where
  physicalId : ℕ := kInvalidPhysicalId
  linkActive : Bool := false
  contender : Bool := false
  initiatedReset : Bool := false
  isRoot : Bool := false
  isLocal : Bool := false
  isIRM : Bool := false
  gapCount : ℕ := 63
  powerClass : ℕ := 0
  speedCode : ℕ := 0
  maxSpeedMbps : ℕ := 0
  baseRaw : ℕ := 0
  reportedPorts : Port → PortState := fun _ => .notPresent
  links : Port → TopologyPortLink := fun _ => {}
  portCount : ℕ := 0
  deriving DecidableEq

structure PhysicalTopologyGraph where
  rootId : ℕ := kInvalidPhysicalId
  localId : ℕ := kInvalidPhysicalId
  irmId : ℕ := kInvalidPhysicalId
  nodeCount : ℕ := 0
  busDiameterHops : ℕ := 0
  betaRepeatersPresent : Bool := false
  nodes : List TopologyNodeRecord := []
  deriving DecidableEq

/-- The link of a node's port as a reader of the graph sees it. -/
def PhysicalTopologyGraph.linkAt (g : PhysicalTopologyGraph) (id : ℕ) (port : Port) :
    Option TopologyPortLink :=
  g.nodes[id]?.map fun node => node.links port

end ASFireWire.Topology
