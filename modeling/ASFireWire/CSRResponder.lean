import ASFireWire.ResponseSender

/-! The software-owned CSRs (`Bus/CSR/CSRResponder`) and the TOPOLOGY_MAP they delegate to
(`Bus/CSR/TopologyMapService`). The map is kept twice: host-order words for quadlet reads and a
big-endian mirror in DMA memory for block reads. -/
namespace ASFireWire.Bus

open Async Quadlets

def kCSRCoreBase : ℕ := 0xF0000000
def kCSRStateClear : ℕ := kCSRCoreBase + 0x0000
def kCSRStateSet : ℕ := kCSRCoreBase + 0x0004
def kCSRResetStart : ℕ := kCSRCoreBase + 0x000C
def kCSRBusManagerID : ℕ := kCSRCoreBase + 0x021C
def kCSRBandwidthAvailable : ℕ := kCSRCoreBase + 0x0220
def kCSRChannelsAvailableHi : ℕ := kCSRCoreBase + 0x0224
def kCSRChannelsAvailableLo : ℕ := kCSRCoreBase + 0x0228
def kCSRBroadcastChannel : ℕ := kCSRCoreBase + 0x0234
def kCSRTopologyMapBase : ℕ := kCSRCoreBase + 0x1000
def kCSRTopologyMapEnd : ℕ := kCSRCoreBase + 0x13FF
def kCSRSpeedMapBase : ℕ := kCSRCoreBase + 0x2000
def kCSRSpeedMapEnd : ℕ := kCSRCoreBase + 0x23FF

def kCSRStateBitCMSTR : ℕ := 8

def kCSRStateBitABDICATE : ℕ := 10

def kBroadcastChannelInitial : ℕ := 0x8000001F

/-! ### TOPOLOGY_MAP -/

/-- `dma` is the device address of the mapped buffer and `mirror` the four bytes of each of its
quadlets. -/
structure TopologyMapService where
  hardware : Bool
  started : Bool := false
  dma : Option ℕ := none
  hostMap : ℕ → UInt32
  mirror : ℕ → List UInt8 := fun _ => [0, 0, 0, 0]

namespace TopologyMapService

/-- `OSSwapHostToBigInt32` of a word, as it lies in memory. -/
def swapped (value : UInt32) : List UInt8 := beBytes value.toNat

def invalidateLocked (s : TopologyMapService) : TopologyMapService :=
  { s with
    hostMap := Function.update s.hostMap 0 0
    mirror := if s.dma.isSome then Function.update s.mirror 0 (swapped 0) else s.mirror }

/-- `StartLocked`; `allocated` is the device address of the DMA buffer, if there is one. -/
def startLocked (s : TopologyMapService) (allocated : Option ℕ) : TopologyMapService × Bool :=
  if s.started then (s, true)
  else if !s.hardware then (s.invalidateLocked, false)
  else
    match allocated with
    | none => (s.invalidateLocked, false)
    | some deviceAddress =>
      ({ s with
        dma := some deviceAddress, started := true
        mirror := fun i => if i < 256 then swapped (s.hostMap i) else s.mirror i }, true)

def stop (s : TopologyMapService) : TopologyMapService :=
  if !s.started then s else { s.invalidateLocked with dma := none, started := false }

/-- `Rebuild` with the words `BuildTopologyMap` computes. -/
def rebuild (s : TopologyMapService) (built : ℕ → UInt32) (allocated : Option ℕ) :
    TopologyMapService :=
  let (s, ok) := s.startLocked allocated
  if !ok then s
  else
    { s with
      hostMap := built
      mirror := if s.dma.isSome then fun i => if i < 256 then swapped (built i) else s.mirror i
        else s.mirror }

/-- `PublishZeroLength` clears every host word but only the mirror's header. -/
def publishZeroLength (s : TopologyMapService) (generation : UInt32) (allocated : Option ℕ) :
    TopologyMapService :=
  let (s, ok) := s.startLocked allocated
  if !ok then s
  else
    let header : UInt32 := generation % 0x10000
    { s with
      hostMap := Function.update (fun _ => 0) 0 header
      mirror := if s.dma.isSome then Function.update s.mirror 0 (swapped header) else s.mirror }

def readQuadlet (s : TopologyMapService) (regionByteOffset : ℕ) : Option UInt32 :=
  if regionByteOffset % 4 ≠ 0 ∨ 1024 ≤ regionByteOffset then none
  else some (s.hostMap (regionByteOffset / 4))

/-- Device address and length of a block read. -/
def resolveBlockRead (s : TopologyMapService) (regionByteOffset requestedLength : ℕ) :
    Option (ℕ × ℕ) :=
  match s.dma with
  | none => none
  | some deviceAddress =>
    if !s.started then none
    else if regionByteOffset % 4 ≠ 0 ∨ requestedLength % 4 ≠ 0 then none
    else if 1024 < regionByteOffset + requestedLength then none
    else some (deviceAddress + regionByteOffset, requestedLength)

/-- The quadlet the controller fetches from a device address in the mirror. -/
def fetchQuadlet (s : TopologyMapService) (address : ℕ) : List UInt8 :=
  match s.dma with
  | none => []
  | some deviceAddress => s.mirror ((address - deviceAddress) / 4)

inductive Event
  | start (allocated : Option ℕ)
  | stop
  | rebuild (built : ℕ → UInt32) (allocated : Option ℕ)
  | publishZeroLength (generation : UInt32) (allocated : Option ℕ)
  | invalidate

def step (s : TopologyMapService) : Event → TopologyMapService
  | .start allocated => (s.startLocked allocated).1
  | .stop => s.stop
  | .rebuild built allocated => s.rebuild built allocated
  | .publishZeroLength generation allocated => s.publishZeroLength generation allocated
  | .invalidate => s.invalidateLocked

end TopologyMapService

/-! ### The responder -/

structure CSRResult where
  mine : Bool := false
  rcode : ResponseCode := .addressError
  readValue : ℕ := 0
  readBlockDeviceAddress : ℕ := 0
  readBlockLength : ℕ := 0
  deriving DecidableEq, Repr

/-- `root` and `cycleMaster` hold what the hardware adapters report; `none` is a missing
dependency. -/
structure CSRResponder where
  root : Option Bool := none
  cycleMaster : Option Bool := none
  topologyMap : Option TopologyMapService := none
  speedMap : Option (ℕ → Option ℕ) := none
  broadcastChannel : Option ℕ := none
  abdicate : Bool := false
  unexpectedResourceCsrSoftwareCount : ℕ := 0

namespace CSRResponder

def inTopologyRegion (csrOffsetLo : ℕ) : Bool :=
  kCSRTopologyMapBase ≤ csrOffsetLo && csrOffsetLo ≤ kCSRTopologyMapEnd

def inSpeedMapRegion (csrOffsetLo : ℕ) : Bool :=
  kCSRSpeedMapBase ≤ csrOffsetLo && csrOffsetLo ≤ kCSRSpeedMapEnd

def isIrmResourceCsr (csrOffsetLo : ℕ) : Bool :=
  csrOffsetLo = kCSRBusManagerID || csrOffsetLo = kCSRBandwidthAvailable ||
    csrOffsetLo = kCSRChannelsAvailableHi || csrOffsetLo = kCSRChannelsAvailableLo

/-- `BroadcastChannelCSR::Sanitize`: implemented, the incoming valid bit, channel 31. -/
def sanitize (incoming : ℕ) : ℕ := 0x80000000 + incoming / 2 ^ 30 % 2 * 2 ^ 30 + 0x1F

def isBit (value bit : ℕ) : Bool := value / 2 ^ bit % 2 = 1

def handleStateWrite (csr : CSRResponder) (isSet : Bool) (value : ℕ) : CSRResult × CSRResponder :=
  let csr := if isBit value kCSRStateBitCMSTR ∧ csr.root = some true ∧ csr.cycleMaster.isSome then
    { csr with cycleMaster := some isSet } else csr
  let csr := if isBit value kCSRStateBitABDICATE then { csr with abdicate := isSet } else csr
  ({ mine := true, rcode := .complete }, csr)

def handleStateRead (csr : CSRResponder) : CSRResult :=
  let cmstr := if csr.root = some true ∧ csr.cycleMaster = some true then 2 ^ kCSRStateBitCMSTR
    else 0
  let abdicate := if csr.abdicate then 2 ^ kCSRStateBitABDICATE else 0
  { mine := true, rcode := .complete, readValue := cmstr + abdicate }

def countUnexpected (csr : CSRResponder) : CSRResponder :=
  { csr with unexpectedResourceCsrSoftwareCount :=
      (csr.unexpectedResourceCsrSoftwareCount + 1) % 2 ^ 32 }

def writeQuadlet (csr : CSRResponder) (csrOffsetLo value : ℕ) : CSRResult × CSRResponder :=
  if inSpeedMapRegion csrOffsetLo then ({ mine := true, rcode := .typeError }, csr)
  else if csrOffsetLo = kCSRStateSet then csr.handleStateWrite true value
  else if csrOffsetLo = kCSRStateClear then csr.handleStateWrite false value
  else if csrOffsetLo = kCSRResetStart then csr.handleStateWrite false (2 ^ kCSRStateBitABDICATE)
  else if csrOffsetLo = kCSRBroadcastChannel then
    ({ mine := true, rcode := .complete },
      { csr with broadcastChannel := csr.broadcastChannel.map fun _ => sanitize value })
  else if isIrmResourceCsr csrOffsetLo then ({}, csr.countUnexpected)
  else if inTopologyRegion csrOffsetLo then ({ mine := true, rcode := .typeError }, csr)
  else ({}, csr)

/-- A quadlet of the TOPOLOGY_MAP region. -/
def readTopologyQuadlet (csr : CSRResponder) (regionByteOffset : ℕ) : CSRResult :=
  match csr.topologyMap with
  | none => {}
  | some topologyMap =>
    match topologyMap.readQuadlet regionByteOffset with
    | some out => { mine := true, rcode := .complete, readValue := out.toNat }
    | none => { mine := true, rcode := .addressError }

def readQuadlet (csr : CSRResponder) (csrOffsetLo : ℕ) : CSRResult × CSRResponder :=
  if csrOffsetLo = kCSRStateSet ∨ csrOffsetLo = kCSRStateClear then (csr.handleStateRead, csr)
  else if csrOffsetLo = kCSRBroadcastChannel then
    ({ mine := true, rcode := .complete
       readValue := csr.broadcastChannel.getD kBroadcastChannelInitial }, csr)
  else if csrOffsetLo = kCSRResetStart then ({ mine := true, rcode := .typeError }, csr)
  else if isIrmResourceCsr csrOffsetLo then ({}, csr.countUnexpected)
  else if inTopologyRegion csrOffsetLo then
    if csrOffsetLo % 4 ≠ 0 then ({ mine := true, rcode := .addressError }, csr)
    else (csr.readTopologyQuadlet (csrOffsetLo - kCSRTopologyMapBase), csr)
  else if inSpeedMapRegion csrOffsetLo then
    if csrOffsetLo % 4 ≠ 0 then ({ mine := true, rcode := .addressError }, csr)
    else
      match csr.speedMap with
      | none => ({}, csr)
      | some speedMap =>
        match speedMap (csrOffsetLo - kCSRSpeedMapBase) with
        | some out => ({ mine := true, rcode := .complete, readValue := out }, csr)
        | none => ({ mine := true, rcode := .addressError }, csr)
  else ({}, csr)

def blockReadClaim (csr : CSRResponder) (csrOffsetLo length : ℕ) : CSRResult :=
  if inSpeedMapRegion csrOffsetLo then { mine := true, rcode := .typeError }
  else if !inTopologyRegion csrOffsetLo then {}
  else
    match csr.topologyMap with
    | none => {}
    | some topologyMap =>
      match topologyMap.resolveBlockRead (csrOffsetLo - kCSRTopologyMapBase) length with
      | some (addr, len) =>
        { mine := true, rcode := .complete
          readBlockDeviceAddress := addr, readBlockLength := len }
      | none => { mine := true, rcode := .addressError }

end CSRResponder

/-! ### The two copies of the map -/

namespace TopologyMapService

/-- A started service has its buffer, and every word is mirrored or cleared. -/
def InStep (s : TopologyMapService) : Prop :=
  s.started = true → s.dma.isSome = true ∧
    ∀ i < 256, s.mirror i = swapped (s.hostMap i) ∨ s.hostMap i = 0

variable {s : TopologyMapService}

lemma InStep.invalidateLocked (h : s.InStep) : s.invalidateLocked.InStep := by
  intro hstarted
  obtain ⟨hdma, hwords⟩ := h hstarted
  refine ⟨hdma, fun i hi => ?_⟩
  unfold TopologyMapService.invalidateLocked
  dsimp only
  by_cases hzero : i = 0
  · subst hzero
    exact Or.inr (Function.update_self ..)
  · rw [if_pos hdma, Function.update_of_ne hzero, Function.update_of_ne hzero]
    exact hwords i hi

lemma InStep.startLocked (h : s.InStep) (allocated : Option ℕ) :
    (s.startLocked allocated).1.InStep ∧
      ((s.startLocked allocated).2 = true → (s.startLocked allocated).1.dma.isSome = true) := by
  unfold TopologyMapService.startLocked
  by_cases hstarted : s.started = true
  · rw [if_pos hstarted]
    exact ⟨h, fun _ => (h hstarted).1⟩
  · rw [if_neg hstarted]
    split
    · exact ⟨h.invalidateLocked, by simp⟩
    · cases allocated with
      | none => exact ⟨h.invalidateLocked, by simp⟩
      | some deviceAddress =>
        refine ⟨fun _ => ⟨rfl, fun i hi => Or.inl ?_⟩, fun _ => rfl⟩
        exact if_pos hi

lemma InStep.stop (h : s.InStep) : s.stop.InStep := by
  unfold TopologyMapService.stop
  split
  · exact h
  · intro hcon
    cases hcon

lemma InStep.rebuild (h : s.InStep) (built : ℕ → UInt32) (allocated : Option ℕ) :
    (s.rebuild built allocated).InStep := by
  obtain ⟨hstart, hdma⟩ := h.startLocked allocated
  unfold TopologyMapService.rebuild
  dsimp only
  split
  · exact hstart
  · rename_i hok
    have hsome := hdma (by simpa using hok)
    refine fun _ => ⟨hsome, fun i hi => Or.inl ?_⟩
    dsimp only
    rw [if_pos hsome, if_pos hi]

lemma InStep.publishZeroLength (h : s.InStep) (generation : UInt32) (allocated : Option ℕ) :
    (s.publishZeroLength generation allocated).InStep := by
  obtain ⟨hstart, hdma⟩ := h.startLocked allocated
  unfold TopologyMapService.publishZeroLength
  dsimp only
  split
  · exact hstart
  · rename_i hok
    have hsome := hdma (by simpa using hok)
    refine fun _ => ⟨hsome, fun i hi => ?_⟩
    dsimp only
    by_cases hzero : i = 0
    · subst hzero
      rw [if_pos hsome, Function.update_self, Function.update_self]
      exact Or.inl rfl
    · exact Or.inr (Function.update_of_ne hzero ..)

lemma InStep.step (h : s.InStep) (e : Event) : (s.step e).InStep := by
  cases e with
  | start allocated => exact (h.startLocked allocated).1
  | stop => exact h.stop
  | rebuild built allocated => exact h.rebuild built allocated
  | publishZeroLength generation allocated => exact h.publishZeroLength generation allocated
  | invalidate => exact h.invalidateLocked

/-- A service from its construction on: nothing started, some initial words. -/
def Reachable (s : TopologyMapService) : Prop :=
  ∃ hardware hostMap events, s = Runs.run step { hardware := hardware, hostMap := hostMap } events

lemma Reachable.inStep (h : s.Reachable) : s.InStep := by
  obtain ⟨hardware, hostMap, events, rfl⟩ := h
  apply Runs.invariant_run (I := InStep) fun _ e h => h.step e
  intro hcon
  cases hcon

end TopologyMapService

end ASFireWire.Bus
