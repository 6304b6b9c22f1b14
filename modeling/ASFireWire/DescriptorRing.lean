import Mathlib

/-! The AT descriptor ring (`Shared/Rings/DescriptorRing`) and the chains that
`DescriptorBuilder` lays out in it. Storage is a function from ring index to the 16-byte block;
an immediate descriptor owns two blocks, and the header bytes of its second block are kept with
the first. -/
namespace ASFireWire.Async

inductive DescriptorCommand | outputMore | outputLast
  deriving DecidableEq, Repr

inductive DescriptorKey | standard | immediate
  deriving DecidableEq, Repr

structure OHCIDescriptor where
  command : DescriptorCommand := .outputMore
  key : DescriptorKey := .standard
  interruptBits : ℕ := 0
  branchBits : ℕ := 0
  reqCount : ℕ := 0
  dataAddress : ℕ := 0
  branchWord : ℕ := 0
  timeStamp : ℕ := 0
  xferStatus : ℕ := 0
  immediateData : List UInt8 := []
  deriving DecidableEq, Repr

def kBranchAlways : ℕ := 3

def kIntAlways : ℕ := 3

/-- An initialised and finalised ring: the device address of the storage is 16-byte aligned,
non-zero and 32-bit over its whole length. -/
structure DescriptorRing where
  capacity : ℕ
  storage : ℕ → OHCIDescriptor := fun _ => {}
  head : ℕ := 0
  tail : ℕ := 0
  prevLastBlocks : ℕ := 0
  descIOVABase : ℕ
  aligned : descIOVABase % 16 = 0
  based : 0 < descIOVABase
  fits : descIOVABase + 16 * capacity ≤ 2 ^ 32

namespace DescriptorRing

def isEmpty (ring : DescriptorRing) : Bool := ring.head = ring.tail

def iovaOf (ring : DescriptorRing) (index : ℕ) : ℕ := ring.descIOVABase + 16 * index

def write (ring : DescriptorRing) (index : ℕ) (d : OHCIDescriptor) : DescriptorRing :=
  { ring with storage := Function.update ring.storage index d }

/-- `CommandPtrWordFromIOVA`: zero when the address is not that of a ring block. -/
def commandPtrWordFromIOVA (ring : DescriptorRing) (iova zBlocks : ℕ) : ℕ :=
  if iova % 16 ≠ 0 ∨ iova < ring.descIOVABase ∨
      (iova - ring.descIOVABase) / 16 ≥ ring.capacity then 0
  else iova / 16 * 16 + zBlocks % 16

/-- Ring index of the block a command pointer or branch word addresses. -/
def indexOf (ring : DescriptorRing) (word : ℕ) : ℕ := word / 16 - ring.descIOVABase / 16

/-- `LocatePreviousLast`: index and block count of the previous chain's last descriptor, from
the cached `prevLastBlocks`. -/
def locatePreviousLast (ring : DescriptorRing) (tailIndex : ℕ) : Option (ℕ × ℕ) :=
  let prevBlocks := ring.prevLastBlocks
  if ring.capacity = 0 then none
  else if prevBlocks = 0 then none
  else if prevBlocks ≠ 2 ∧ prevBlocks ≠ 3 then none
  else
    let prevStart := (tailIndex + ring.capacity - prevBlocks) % ring.capacity
    let prevTailOffset := if prevBlocks = 2 then 0 else prevBlocks - 1
    let index := (prevStart + prevTailOffset) % ring.capacity
    if prevBlocks = 2 ∧ (ring.storage index).key ≠ .immediate then
      let headerIndex := (index + ring.capacity - 1) % ring.capacity
      if (ring.storage headerIndex).key ≠ .immediate then none else some (headerIndex, prevBlocks)
    else some (index, prevBlocks)

/-- `ReserveBlocks`: a contiguous run of blocks at the tail, or at index 0 after a wrap. -/
def reserveBlocks (ring : DescriptorRing) (blocks : ℕ) : Option ℕ :=
  if ring.capacity = 0 ∨ blocks = 0 then none
  else if ring.tail ≥ ring.head then
    if blocks ≤ ring.capacity - ring.tail then some ring.tail
    else if blocks ≤ ring.head then some 0
    else none
  else if blocks ≤ ring.head - ring.tail then some ring.tail
  else none

end DescriptorRing

/-- `DescriptorBuilder::DescriptorChain` with its descriptors named by ring index. -/
structure DescriptorChain where
  first : ℕ
  last : ℕ
  firstIOVA32 : ℕ
  lastIOVA32 : ℕ
  firstBlocks : ℕ
  lastBlocks : ℕ
  firstRingIndex : ℕ
  lastRingIndex : ℕ
  needsFlush : Bool
  deriving DecidableEq, Repr

def DescriptorChain.totalBlocks (chain : DescriptorChain) : ℕ :=
  if chain.last ≠ chain.first then chain.firstBlocks + chain.lastBlocks else chain.firstBlocks

/-- Arguments of `BuildTransactionChain`. -/
structure ChainRequest where
  headerData : List UInt8
  payloadDeviceAddress : ℕ := 0
  payloadSize : ℕ := 0
  needsFlush : Bool := false
  atTimeStamp : ℕ := 0
  deriving DecidableEq, Repr

/-- Requests without payload become a single OUTPUT_LAST_Immediate. -/
def ChainRequest.headerOnly (req : ChainRequest) : Bool := req.payloadSize = 0

def kImmediateCapacity : ℕ := 16

def lastImmediate (req : ChainRequest) : OHCIDescriptor where
  command := .outputLast
  key := .immediate
  interruptBits := kIntAlways
  branchBits := kBranchAlways
  reqCount := req.headerData.length
  timeStamp := req.atTimeStamp
  immediateData := req.headerData ++ List.replicate (kImmediateCapacity - req.headerData.length) 0

def moreImmediate (req : ChainRequest) : OHCIDescriptor :=
  { lastImmediate req with command := .outputMore, interruptBits := 0, branchBits := 0 }

def payloadLast (req : ChainRequest) : OHCIDescriptor where
  command := .outputLast
  interruptBits := kIntAlways
  branchBits := kBranchAlways
  reqCount := req.payloadSize
  dataAddress := req.payloadDeviceAddress

/-- Device addresses a descriptor may have. -/
def validDescriptorIOVA (iova : ℕ) : Bool := iova ≠ 0 && iova ≤ 0xFFFFFFFF && iova % 16 = 0

def validPayloadAddress (address : ℕ) : Bool :=
  address ≠ 0 && address % 4 = 0 && address ≤ 0xFFFFFFFF

/-- The single-descriptor path. -/
def buildHeaderOnly (ring : DescriptorRing) (req : ChainRequest) :
    DescriptorRing × Option DescriptorChain :=
  match ring.reserveBlocks 2 with
  | none => (ring, none)
  | some index =>
    let built := (ring.write (index + 1) {}).write index (lastImmediate req)
    let iova := ring.iovaOf index
    if !validDescriptorIOVA iova then (built, none)
    else (built, some {
      first := index, last := index, firstIOVA32 := iova, lastIOVA32 := iova
      firstBlocks := 2, lastBlocks := 2, firstRingIndex := index
      lastRingIndex := (index + 1) % ring.capacity, needsFlush := req.needsFlush })

/-- The two-descriptor path: header and payload in three contiguous blocks. -/
def buildHeaderPayload (ring : DescriptorRing) (req : ChainRequest) :
    DescriptorRing × Option DescriptorChain :=
  if !validPayloadAddress req.payloadDeviceAddress then (ring, none)
  else
    match ring.reserveBlocks 3 with
    | none => (ring, none)
    | some index =>
      let payloadIndex := (index + 2) % ring.capacity
      let zeroed := ((ring.write index {}).write (index + 1) {}).write payloadIndex {}
      if !validDescriptorIOVA (ring.iovaOf index) ||
          !validDescriptorIOVA (ring.iovaOf payloadIndex) then (zeroed, none)
      else ((zeroed.write index (moreImmediate req)).write payloadIndex (payloadLast req), some {
        first := index, last := payloadIndex
        firstIOVA32 := ring.iovaOf index, lastIOVA32 := ring.iovaOf payloadIndex
        firstBlocks := 2, lastBlocks := 1, firstRingIndex := index
        lastRingIndex := payloadIndex % ring.capacity, needsFlush := req.needsFlush })

/-- `BuildTransactionChain`; `none` is the empty chain. -/
def buildTransactionChain (ring : DescriptorRing) (req : ChainRequest) :
    DescriptorRing × Option DescriptorChain :=
  if req.headerData.length = 0 ∨ req.headerData.length > kImmediateCapacity then (ring, none)
  else if req.payloadSize > 0xFFFF then (ring, none)
  else if ring.capacity = 0 then (ring, none)
  else if req.headerOnly then buildHeaderOnly ring req
  else buildHeaderPayload ring req

/-- `MakeBranchWordAT`: zero for an address or block count it cannot encode. -/
def makeBranchWordAT (physAddr zBlocks : ℕ) : ℕ :=
  if physAddr % 16 ≠ 0 ∨ physAddr > 0xFFFFFFFF then 0
  else if zBlocks ≠ 0 ∧ (zBlocks < 2 ∨ zBlocks > 8) then 0
  else physAddr / 16 * 16 + zBlocks % 16

namespace DescriptorRing

/-- `PatchBranchWord`: the link first, then the b field forced to BranchAlways. -/
def patchBranchWord (ring : DescriptorRing) (index branchWord : ℕ) : DescriptorRing :=
  ring.write index
    { ring.storage index with branchWord := branchWord, branchBits := kBranchAlways }

/-- `LinkTailTo`; `none` when there is nothing to link to. -/
def linkTailTo (ring : DescriptorRing) (tailIndex : ℕ) (newChain : DescriptorChain) :
    Option DescriptorRing :=
  match ring.locatePreviousLast tailIndex with
  | none => none
  | some (prevLastIndex, _) =>
    let branch := makeBranchWordAT newChain.firstIOVA32 newChain.totalBlocks
    if branch = 0 then none else some (ring.patchBranchWord prevLastIndex branch)

/-- `UnlinkTail`: back to end of list. -/
def unlinkTail (ring : DescriptorRing) (tailIndex : ℕ) : DescriptorRing :=
  match ring.locatePreviousLast tailIndex with
  | none => ring
  | some (prevLastIndex, _) =>
    ring.write prevLastIndex { ring.storage prevLastIndex with branchWord := 0 }

/-- `UpdateRingTail_`. -/
def updateRingTail (ring : DescriptorRing) (chain : DescriptorChain) : DescriptorRing :=
  { ring with
    tail := (chain.lastRingIndex + 1) % ring.capacity
    prevLastBlocks := chain.lastBlocks }

end DescriptorRing

end ASFireWire.Async
