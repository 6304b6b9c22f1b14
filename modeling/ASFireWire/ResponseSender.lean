import ASFireWire.ARPacket
import ASFireWire.ATManager

/-! Inbound requests and their responses: `LocalRequestDispatch` asks the registered handlers in
order, read and lock responses leave from the dispatcher and write responses from
`PacketRouter::RouteParsedPacket`, all through `ResponseSender` onto the AT response context. The
handlers are arbitrary functions over a state of their own. -/
namespace ASFireWire.Async

open Quadlets

inductive ResponseCode
  | complete | busy | conflictError | dataError | typeError | addressError | noResponse
  deriving DecidableEq, Repr

def ResponseCode.toNat : ResponseCode → ℕ
  | complete => 0x0
  | busy => 0x1
  | conflictError => 0x4
  | dataError => 0x5
  | typeError => 0x6
  | addressError => 0x7
  | noResponse => 0xFF

structure LocalRequestResult where
  claimed : Bool := false
  rcode : ResponseCode := .addressError
  readQuadlet : ℕ := 0
  readBlockDeviceAddress : ℕ := 0
  readBlockLength : ℕ := 0
  lockResponseQuadlet : ℕ := 0
  deriving DecidableEq, Repr

namespace LocalRequestResult

def notMine : LocalRequestResult := {}

def write (rc : ResponseCode) : LocalRequestResult := { claimed := true, rcode := rc }

def quadlet (rc : ResponseCode) (value : ℕ) : LocalRequestResult :=
  { claimed := true, rcode := rc, readQuadlet := value }

def block (rc : ResponseCode) (addr len : ℕ) : LocalRequestResult :=
  { claimed := true, rcode := rc, readBlockDeviceAddress := addr, readBlockLength := len }

def lock (rc : ResponseCode) (oldValue : ℕ) : LocalRequestResult :=
  { claimed := true, rcode := rc, lockResponseQuadlet := oldValue }

/-- The rCode `DispatchView` answers with. -/
def responseCode (result : LocalRequestResult) : ResponseCode :=
  if result.claimed then result.rcode else .addressError

end LocalRequestResult

/-- `ILocalAddressHandler::HandleLocalRequest` over the state `W` the handlers share. -/
abbrev LocalAddressHandler (W : Type*) := LocalRequestContext → W → LocalRequestResult × W

/-- `Route`: the first claim wins. -/
def route {W : Type*} (handlers : List (LocalAddressHandler W)) (ctx : LocalRequestContext)
    (world : W) : LocalRequestResult × W :=
  match handlers with
  | [] => (.notMine, world)
  | handler :: rest =>
    let (result, world) := handler ctx world
    if result.claimed then (result, world) else route rest ctx world

/-! ### Response headers -/

def kSpeedS400 : ℕ := 2

def kRetryX : ℕ := 1

def kSplitTimeoutCycles : ℕ := 2 * 8000

def kLockResponseScratchStride : ℕ := 16

def buildQ0 (tLabel tCode : ℕ) : ℕ :=
  kSpeedS400 * 2 ^ 16 + tLabel % 64 * 2 ^ 10 + kRetryX * 2 ^ 8 + tCode % 16 * 2 ^ 4

def buildQ1 (destID : ℕ) (rcode : ResponseCode) : ℕ :=
  destID * 2 ^ 16 + rcode.toNat % 16 * 2 ^ 12

/-- `ComputeResponseDeadline`: three bits of seconds and thirteen of cycles. -/
def computeResponseDeadline (requestTimeStamp : ℕ) : ℕ :=
  let cycles := kSplitTimeoutCycles + requestTimeStamp % 2 ^ 13
  (requestTimeStamp / 2 ^ 13 * 2 ^ 13 + cycles / 8000 * 2 ^ 13 + cycles % 8000) % 2 ^ 16

/-- A quadlet buffer in host memory. -/
def headerBytes (quadlets : List ℕ) : List UInt8 := quadlets.flatMap leBytes

/-! ### The sender -/

/-- Payload slots of lock responses. `memory` is indexed by the byte offset from the base. -/
structure ScratchRegion where
  allocated : Bool := false
  deviceBase : ℕ := 0
  slotCount : ℕ := 0
  nextSlot : ℕ := 0
  memory : ℕ → UInt8 := fun _ => 0

namespace ScratchRegion

def usable (scratch : ScratchRegion) : Bool := scratch.allocated && scratch.slotCount ≠ 0

/-- The slot the next lock response takes. -/
def slot (scratch : ScratchRegion) : ℕ := scratch.nextSlot % scratch.slotCount

def slotAddress (scratch : ScratchRegion) (slot : ℕ) : ℕ :=
  scratch.deviceBase + slot * kLockResponseScratchStride

/-- Store four bytes at a slot. -/
def store (scratch : ScratchRegion) (slot : ℕ) (bytes : List UInt8) : ScratchRegion :=
  { scratch with memory := fun i =>
      if slot * kLockResponseScratchStride ≤ i ∧ i < slot * kLockResponseScratchStride + 4 then
        bytes.getD (i - slot * kLockResponseScratchStride) 0
      else scratch.memory i }

/-- The four bytes the controller fetches from a device address in the region. -/
def fetch (scratch : ScratchRegion) (address : ℕ) : List UInt8 :=
  (List.range 4).map fun k => scratch.memory (address - scratch.deviceBase + k)

/-- Claim the next slot for an old value, most significant byte first. -/
def take (scratch : ScratchRegion) (oldValue : ℕ) : ScratchRegion :=
  { scratch.store scratch.slot (beBytes oldValue) with
    nextSlot := (scratch.nextSlot + 1) % 2 ^ 32 }

end ScratchRegion

/-- `ResponseSender` with the AT response context and the DMA manager it finds at
`ContextManager`. -/
structure ResponseSender where
  atResponse : Option ATContext := none
  dmaManager : Bool := false
  lockResponseScratch : ScratchRegion := {}

namespace ResponseSender

/-- `SendResponse`. -/
def sendResponse (s : ResponseSender) (request : ARPacketView) (header : List ℕ)
    (payloadDeviceAddress payloadLength : ℕ) (polled : Option ℕ) : ResponseSender :=
  if request.destID = 0xFFFF then s
  else
    match s.atResponse with
    | none => s
    | some context =>
      { s with atResponse := some (context.submit {
          headerData := headerBytes header
          payloadDeviceAddress := payloadDeviceAddress
          payloadSize := payloadLength
          needsFlush := false
          atTimeStamp := computeResponseDeadline (request.timeStamp % 2 ^ 16) } polled).1 }

def sendWriteResponse (s : ResponseSender) (request : ARPacketView) (rcode : ResponseCode)
    (polled : Option ℕ) : ResponseSender :=
  if request.tCode ≠ 0x0 ∧ request.tCode ≠ 0x1 then s
  else s.sendResponse request [buildQ0 request.tLabel 0x2, buildQ1 request.sourceID rcode, 0]
    0 0 polled

/-- Header of a quadlet read response; its fourth quadlet is the data. -/
def readQuadletHeader (request : ARPacketView) (rcode : ResponseCode) (quadletData : ℕ) : List ℕ :=
  [buildQ0 request.tLabel 0x6, buildQ1 request.sourceID rcode, 0,
    if rcode = .complete then quadletData else 0]

def sendReadQuadletResponse (s : ResponseSender) (request : ARPacketView) (rcode : ResponseCode)
    (quadletData : ℕ) (polled : Option ℕ) : ResponseSender :=
  if request.tCode ≠ 0x4 then s
  else s.sendResponse request (readQuadletHeader request rcode quadletData) 0 0 polled

def sendReadBlockResponse (s : ResponseSender) (request : ARPacketView) (rcode : ResponseCode)
    (payloadDeviceAddress payloadLength : ℕ) (polled : Option ℕ) : ResponseSender :=
  if request.tCode ≠ 0x5 then s
  else
    let q0 := buildQ0 request.tLabel 0x7
    let q1 := buildQ1 request.sourceID rcode
    if rcode = .complete ∧ 0 < payloadLength then
      s.sendResponse request [q0, q1, 0, payloadLength * 2 ^ 16 % 2 ^ 32] payloadDeviceAddress
        payloadLength polled
    else s.sendResponse request [q0, q1, 0, 0] 0 0 polled

/-- A completed lock without scratch memory is answered as busy. -/
def sendLockResponse (s : ResponseSender) (request : ARPacketView) (rcode : ResponseCode)
    (oldValue : ℕ) (polled : Option ℕ) : ResponseSender :=
  if request.tCode ≠ 0x9 then s
  else
    let extTCode := extractExtendedTCode request.header
    let q0 := buildQ0 request.tLabel 0xB
    let busy := [q0, buildQ1 request.sourceID .busy, 0, 0]
    if rcode = .complete then
      if !s.lockResponseScratch.usable then s.sendResponse request busy 0 0 polled
      else if s.dmaManager then
        let scratch := s.lockResponseScratch
        { s with lockResponseScratch := scratch.take oldValue }.sendResponse request
          [q0, buildQ1 request.sourceID rcode, 0, 4 * 2 ^ 16 + extTCode]
          (scratch.slotAddress scratch.slot) 4 polled
      else s.sendResponse request busy 0 0 polled
    else s.sendResponse request [q0, buildQ1 request.sourceID rcode, 0, 0] 0 0 polled

end ResponseSender

/-! ### Dispatch -/

/-- The local node: its handlers with their state, and the response sender both the router and
the dispatcher use. -/
structure LocalNode (W : Type*) where
  handlers : List (LocalAddressHandler W)
  world : W
  sender : ResponseSender := {}

namespace LocalNode

variable {W : Type*}

/-- `DispatchView`: the code of the write response still to be sent, `noResponse` for the kinds
answered here. -/
def dispatchView (node : LocalNode W) (view : ARPacketView) (generation : ℕ)
    (polled : Option ℕ) : LocalNode W × ResponseCode :=
  let (result, world) := route node.handlers (requestContext view generation) node.world
  let node := { node with world := world }
  let rcode := result.responseCode
  if view.tCode = kTcodeReadQuad then
    ({ node with
      sender := node.sender.sendReadQuadletResponse view rcode result.readQuadlet polled },
      .noResponse)
  else if view.tCode = kTcodeReadBlock then
    let sender := if rcode = .complete then
        node.sender.sendReadBlockResponse view rcode result.readBlockDeviceAddress
          result.readBlockLength polled
      else node.sender.sendReadBlockResponse view rcode 0 0 polled
    ({ node with sender := sender }, .noResponse)
  else if view.tCode = kTcodeLockRequest then
    ({ node with
      sender := node.sender.sendLockResponse view rcode result.lockResponseQuadlet polled },
      .noResponse)
  else (node, rcode)

/-- The tCodes `Install` registers. -/
def installed : List ℕ :=
  [kTcodeWriteQuad, kTcodeWriteBlock, kTcodeReadQuad, kTcodeReadBlock, kTcodeLockRequest]

/-- `RouteParsedPacket` for the request context. -/
def routeParsedPacket (node : LocalNode W) (info : PacketInfo) (generation : ℕ)
    (polled : Option ℕ) : LocalNode W :=
  match buildView info with
  | none => node
  | some view =>
    if view.tCode ∈ installed then
      let (node, rcode) := node.dispatchView view generation polled
      if rcode ≠ .noResponse then
        { node with sender := node.sender.sendWriteResponse view rcode polled }
      else node
    else node

end LocalNode

/-- What happens at the node: a parsed request packet, or the response context moving on. -/
inductive NodeEvent
  | packet (info : PacketInfo) (generation : ℕ) (polled : Option ℕ)
  | hwStep (status : ℕ)
  | reclaim
  deriving DecidableEq, Repr

namespace LocalNode

variable {W : Type*}

def mapResponse (node : LocalNode W) (f : ATContext → ATContext) : LocalNode W :=
  { node with sender := { node.sender with atResponse := node.sender.atResponse.map f } }

def step (node : LocalNode W) : NodeEvent → LocalNode W
  | .packet info generation polled => node.routeParsedPacket info generation polled
  | .hwStep status => node.mapResponse (·.hwStep status)
  | .reclaim => node.mapResponse ATContext.reclaim

end LocalNode

end ASFireWire.Async
