import ASFireWire.RxSequenceReplay

/-! From a received isochronous packet to its data blocks and its time
(`Audio/Engine/Direct/Rx/RxAudioPacketProcessor.cpp`, `Isoch/Receive/IsochRxTiming.hpp`). The
samples themselves, which nothing here reads, are left out. -/
namespace ASFireWire.AudioRx

/-- A completed receive descriptor: its buffer has a 16-bit length. -/
structure IsochReceivePacket where
  payload : List UInt8
  bound : payload.length < 2 ^ 16 := by decide
  deriving DecidableEq, Repr

def byteAt (payload : List UInt8) (i : ℕ) : ℕ := (payload[i]?.getD 0).toNat

/-- A big-endian quadlet. -/
def quadletBE (payload : List UInt8) (i : ℕ) : ℕ :=
  byteAt payload i * 2 ^ 24 + byteAt payload (i + 1) * 2 ^ 16 + byteAt payload (i + 2) * 2 ^ 8 +
    byteAt payload (i + 3)

/-- `[sec:3][cycle:13]` in the low half of the first little-endian quadlet. -/
def decodeReceiveTimestamp (payload : List UInt8) : Option ℕ :=
  if payload.length < 8 then none
  else
    let timestamp := byteAt payload 0 + byteAt payload 1 * 2 ^ 8
    if kCyclesPerSecond ≤ timestamp % 2 ^ 13 then none else some timestamp

structure ExpandedReceiveTimestamp where
  cycleTimer : ℕ
  ageTicks : ℤ
  deriving DecidableEq, Repr

def tstampToOffsets (seconds cycle offset : ℕ) : ℤ :=
  kTicksPerCycle * (cycle + kCyclesPerSecond * seconds) + offset

def kEightSecondTicks : ℤ := 8 * kTicksPerSecond

/-- Distance from the reference within eight seconds, the shorter way round. -/
def shortestDelta (delta : ℤ) : ℤ :=
  if kEightSecondTicks / 2 < delta then delta - kEightSecondTicks
  else if delta < -(kEightSecondTicks / 2) then delta + kEightSecondTicks
  else delta

def kFullDomainTicks : ℤ := kFWTimeWrapSeconds * kTicksPerSecond

def cycleTimerOfTicks (ticks : ℕ) : ℕ :=
  ticks / kTicksPerSecond * 2 ^ 25 + ticks % kTicksPerSecond / kTicksPerCycle * 2 ^ 12 +
    ticks % kTicksPerSecond % kTicksPerCycle

def expandReceiveTimestamp (timestamp referenceCycleTimer : ℕ) : Option ExpandedReceiveTimestamp :=
  let reference := decodeCycleTimer referenceCycleTimer
  if kCyclesPerSecond ≤ timestamp % 2 ^ 13 then none
  else
    let referenceTicks := tstampToOffsets reference.seconds reference.cycle reference.offset
    let candidateSeconds := reference.seconds / 8 * 8 + timestamp / 2 ^ 13 % 8
    let deltaTicks :=
      shortestDelta (tstampToOffsets candidateSeconds (timestamp % 2 ^ 13) 0 - referenceTicks)
    if deltaTicks < -kTicksPerSecond ∨ kTicksPerSecond < deltaTicks then none
    else
      some
        { cycleTimer := cycleTimerOfTicks ((referenceTicks + deltaTicks) % kFullDomainTicks).toNat
          ageTicks := -deltaTicks }

structure CIPHeader where
  dataBlockSize : ℕ
  dataBlockCounter : ℕ
  fdf : ℕ
  syt : ℕ
  deriving DecidableEq, Repr

/-- The end-of-header bits of the two quadlets are 0 and 1. -/
def CIPHeader.decode (q0 q1 : ℕ) : Option CIPHeader :=
  if q0 / 2 ^ 31 % 2 ≠ 0 then none
  else if q1 / 2 ^ 31 % 2 ≠ 1 then none
  else
    some
      { dataBlockSize := q0 / 2 ^ 16 % 2 ^ 8
        dataBlockCounter := q0 % 2 ^ 8
        fdf := q1 / 2 ^ 16 % 2 ^ 8
        syt := q1 % 2 ^ 16 }

/-- What a payload codec tells about the blocks of a packet. -/
structure RxPayloadCodec where
  strideQuadlets : ℕ → ℕ
  validateGeometry : ℕ → ℕ → ℕ → Bool

/-- `Am824RxPayloadCodec` and `RawPcm24In32RxPayloadCodec` agree here. -/
def am824RxPayloadCodec (am824Slots : ℕ) (trustConfiguredStride : Bool) : RxPayloadCodec where
  strideQuadlets := fun cipDbs => if trustConfiguredStride then am824Slots else cipDbs
  validateGeometry := fun channels strideQuadlets cipDbs =>
    channels ≠ 0 && channels ≤ strideQuadlets && (trustConfiguredStride || am824Slots = cipDbs)

inductive DirectRxWriteStatus
  | available | invalidBinding | shortPacket | invalidCipHeader | zeroDataBlockSize
  | geometryMismatch
  deriving DecidableEq, Repr

structure RxAudioPacketProcessorResult where
  status : DirectRxWriteStatus
  framesDecoded : ℕ := 0
  receiveCycleTimestamp : Option ℕ := none
  cip : Option CIPHeader := none
  deriving DecidableEq, Repr

def kIsochHeaderSize : ℕ := 8

/-- The blocks of a packet of `length` bytes under its header. A bound writer has a frame for
every position. -/
def processBlocks (length channels : ℕ) (codec : RxPayloadCodec) (writerBound : Bool)
    (timestamp : Option ℕ) (cip : CIPHeader) : RxAudioPacketProcessorResult :=
  let strideQuadlets := codec.strideQuadlets cip.dataBlockSize
  if strideQuadlets * 4 = 0 then
    { status := .zeroDataBlockSize, receiveCycleTimestamp := timestamp, cip := some cip }
  else
    let eventCount := (length - kIsochHeaderSize - 8) / (strideQuadlets * 4)
    { status :=
        if eventCount = 0 then .available
        else if writerBound = false then .invalidBinding
        else if codec.validateGeometry channels strideQuadlets cip.dataBlockSize = false then
          .geometryMismatch
        else .available
      framesDecoded := eventCount
      receiveCycleTimestamp := timestamp
      cip := some cip }

def processDecoded (length channels : ℕ) (codec : RxPayloadCodec) (writerBound : Bool)
    (timestamp : Option ℕ) : Option CIPHeader → RxAudioPacketProcessorResult
  | none => { status := .invalidCipHeader, receiveCycleTimestamp := timestamp }
  | some cip => processBlocks length channels codec writerBound timestamp cip

def processPacket (payload : List UInt8) (channels : ℕ) (codec : RxPayloadCodec)
    (writerBound : Bool) : RxAudioPacketProcessorResult :=
  if payload.length < kIsochHeaderSize + 8 then { status := .shortPacket }
  else
    processDecoded payload.length channels codec writerBound (decodeReceiveTimestamp payload)
      (CIPHeader.decode (quadletBE payload kIsochHeaderSize)
        (quadletBE payload (kIsochHeaderSize + 4)))

lemma processBlocks_framesDecoded_le (length channels : ℕ) (codec : RxPayloadCodec)
    (writerBound : Bool) (timestamp : Option ℕ) (cip : CIPHeader) :
    (processBlocks length channels codec writerBound timestamp cip).framesDecoded ≤ length := by
  unfold processBlocks
  dsimp only
  by_cases hstride : codec.strideQuadlets cip.dataBlockSize * 4 = 0
  · rw [if_pos hstride]
    exact Nat.zero_le _
  · rw [if_neg hstride]
    exact (Nat.div_le_self _ _).trans ((Nat.sub_le _ _).trans (Nat.sub_le _ _))

lemma processDecoded_framesDecoded_le (length channels : ℕ) (codec : RxPayloadCodec)
    (writerBound : Bool) (timestamp : Option ℕ) (cip : Option CIPHeader) :
    (processDecoded length channels codec writerBound timestamp cip).framesDecoded ≤ length := by
  cases cip with
  | none => exact Nat.zero_le _
  | some cip => exact processBlocks_framesDecoded_le _ _ _ _ _ _

lemma framesDecoded_le (payload : List UInt8) (channels : ℕ) (codec : RxPayloadCodec)
    (writerBound : Bool) :
    (processPacket payload channels codec writerBound).framesDecoded ≤ payload.length := by
  unfold processPacket
  by_cases hshort : payload.length < kIsochHeaderSize + 8
  · rw [if_pos hshort]
    exact Nat.zero_le _
  · rw [if_neg hshort]
    exact processDecoded_framesDecoded_le _ _ _ _ _ _

lemma framesDecoded_lt (packet : IsochReceivePacket) (channels : ℕ) (codec : RxPayloadCodec)
    (writerBound : Bool) :
    (processPacket packet.payload channels codec writerBound).framesDecoded < 2 ^ 16 :=
  (framesDecoded_le _ _ _ _).trans_lt packet.bound

end ASFireWire.AudioRx
