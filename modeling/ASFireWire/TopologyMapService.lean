import ASFireWire.ConfigROMBuilder
import ASFireWire.StoreSequences
import ASFireWire.Widths

/-! The TOPOLOGY_MAP region (`Bus/CSR/TopologyMapService`, `TopologyMapBuilder`): a map of 256
quadlets that the CPU reads from a host copy and remote nodes read by DMA from a big-endian
mirror. -/
namespace ASFireWire.CSR

open ASFireWire.ConfigROM Quadlets

/-- Quadlet `i` lies at region offset `4 i`. -/
abbrev MapImage := Fin 256 → UInt32

/-- `OSSwapHostToBigInt32` on a little-endian host. -/
def swapHostToBig (v : UInt32) : UInt32 := UInt32.ofNat (be32At (leBytes v.toNat) 0)

/-- The fields of `TopologySnapshot` a map is built from. -/
structure TopologySnapshot where
  generation : UInt32 := 0
  nodeCount : UInt8 := 0
  rawSelfIdQuadlets : List UInt32 := []
  deriving DecidableEq, Repr

/-- Quadlet 0 of the raw stream is the header of the controller. -/
def TopologySnapshot.selfIDs (snapshot : TopologySnapshot) : List UInt32 :=
  snapshot.rawSelfIdQuadlets.drop 1

def kMaxSelfIDs : ℕ := 253

def selfIdCount (snapshot : TopologySnapshot) : ℕ := min snapshot.selfIDs.length kMaxSelfIDs

/-- `ComputeBlockCRC16`. -/
def computeBlockCRC16 (block : List UInt32) : UInt16 := computeCRC16 (block.map (·.toNat))

/-- The quadlets behind the header: generation, counts and Self-ID quadlets. -/
def mapBody (snapshot : TopologySnapshot) (topologyMapGeneration : UInt32) : List UInt32 :=
  topologyMapGeneration ::
    UInt32.ofNat (snapshot.nodeCount.toNat * 2 ^ 16 + selfIdCount snapshot) ::
    snapshot.selfIDs.take (selfIdCount snapshot)

def mapHeader (snapshot : TopologySnapshot) (topologyMapGeneration : UInt32) : UInt32 :=
  UInt32.ofNat (lengthAndCRC (selfIdCount snapshot + 2)
    (computeBlockCRC16 (mapBody snapshot topologyMapGeneration)))

/-- `BuildTopologyMap`. -/
def buildTopologyMap (snapshot : TopologySnapshot) (topologyMapGeneration : UInt32) : MapImage :=
  fun i => (mapHeader snapshot topologyMapGeneration ::
    mapBody snapshot topologyMapGeneration).getD i 0

inductive PublishStatus | invalid | valid | zeroLengthDueToTopologyError
  deriving DecidableEq, Repr

/-- The mapped DMA buffer; `words` are its 32-bit words as the host stores them. -/
structure DMABuffer where
  deviceAddress : ℕ
  words : MapImage

structure TopologyMapService where
  generation : UInt32 := 0
  publishStatus : PublishStatus := .invalid
  hostMap : MapImage := buildTopologyMap {} 0
  dma : Option DMABuffer := none
  started : Bool := false

namespace TopologyMapService

open StoreSequences

abbrev Word := Fin 256 × UInt32

/-- `ZeroBuffer`. -/
def zeroStores : List Word := (0, 0) :: ((List.finRange 255).map Fin.succ).map fun i => (i, 0)

/-- Everything behind the header, in big-endian form. -/
def bodyStores (image : MapImage) : List Word :=
  ((List.finRange 255).map Fin.succ).map fun i => (i, swapHostToBig (image i))

/-- The stores of `StartLocked`: the buffer is zeroed, then filled from the header on. -/
def startStores (hostMap : MapImage) : List Word :=
  zeroStores ++ (0, swapHostToBig (hostMap 0)) :: bodyStores hostMap

/-- The stores of `Rebuild`: header zero, body, header. -/
def rebuildStores (hostMap : MapImage) : List Word :=
  (0, 0) :: (bodyStores hostMap ++ [(0, swapHostToBig (hostMap 0))])

def storeDMA (dma : Option DMABuffer) (stores : List Word) : Option DMABuffer :=
  dma.map fun buffer => { buffer with words := Runs.run store buffer.words stores }

def invalidateLocked (s : TopologyMapService) : TopologyMapService :=
  { s with
    hostMap := Function.update s.hostMap 0 0
    publishStatus := .invalid
    dma := storeDMA s.dma [(0, 0)] }

/-- `StartLocked`. `available` is the buffer the hardware interface allocates and maps, with what
is in it; `none` when it cannot. -/
def startLocked (s : TopologyMapService) (available : Option DMABuffer) :
    TopologyMapService × Bool :=
  if s.started then (s, true)
  else
    match available with
    | none => (s.invalidateLocked, false)
    | some buffer =>
      ({ s with dma := storeDMA (some buffer) (startStores s.hostMap), started := true }, true)

def stop (s : TopologyMapService) : TopologyMapService :=
  if !s.started then s else { s.invalidateLocked with dma := none, started := false }

def rebuild (s : TopologyMapService) (snapshot : TopologySnapshot)
    (available : Option DMABuffer) : TopologyMapService :=
  match s.startLocked available with
  | (s, false) => s
  | (s, true) =>
    let hostMap := buildTopologyMap snapshot snapshot.generation
    { s with
      generation := snapshot.generation
      hostMap := hostMap
      publishStatus := .valid
      dma := storeDMA s.dma (rebuildStores hostMap) }

/-- A map of length zero, the generation in place of the CRC. -/
def zeroLengthMap (generation : UInt32) : MapImage :=
  Function.update (fun _ => 0) 0 (UInt32.ofNat (generation.toNat % 2 ^ 16))

/-- `PublishZeroLength`: the host map is cleared, of the mirror only the header is written. -/
def publishZeroLength (s : TopologyMapService) (generation : UInt32)
    (available : Option DMABuffer) : TopologyMapService :=
  match s.startLocked available with
  | (s, false) => s
  | (s, true) =>
    let hostMap := zeroLengthMap generation
    { s with
      generation := generation
      publishStatus := .zeroLengthDueToTopologyError
      hostMap := hostMap
      dma := storeDMA s.dma [(0, swapHostToBig (hostMap 0))] }

/-- `ReadQuadlet`. -/
def readQuadlet (s : TopologyMapService) (regionByteOffset : UInt32) : Option UInt32 :=
  if regionByteOffset.toNat % 4 ≠ 0 ∨ 1024 ≤ regionByteOffset.toNat then none
  else some (s.hostMap (Fin.ofNat 256 (regionByteOffset.toNat / 4)))

/-- `ResolveBlockRead`: device address and length of the payload; the sum is a 32-bit one. -/
def resolveBlockRead (s : TopologyMapService) (regionByteOffset requestedLength : UInt32) :
    Option (ℕ × UInt32) :=
  match s.started, s.dma with
  | true, some buffer =>
    if regionByteOffset.toNat % 4 ≠ 0 ∨ requestedLength.toNat % 4 ≠ 0 then none
    else if 1024 < (regionByteOffset + requestedLength).toNat then none
    else some (buffer.deviceAddress + regionByteOffset.toNat, requestedLength)
  | _, _ => none

end TopologyMapService

inductive MapEvent
  | start (available : Option DMABuffer)
  | stop
  | rebuild (snapshot : TopologySnapshot) (available : Option DMABuffer)
  | publishZeroLength (generation : UInt32) (available : Option DMABuffer)
  | invalidate
  | resolveBlockRead (regionByteOffset requestedLength : UInt32)

namespace TopologyMapService

def step (s : TopologyMapService) : MapEvent → TopologyMapService
  | .start available => (s.startLocked available).1
  | .stop => s.stop
  | .rebuild snapshot available => s.rebuild snapshot available
  | .publishZeroLength generation available => s.publishZeroLength generation available
  | .invalidate => s.invalidateLocked
  | .resolveBlockRead _ _ => s

end TopologyMapService

end ASFireWire.CSR
