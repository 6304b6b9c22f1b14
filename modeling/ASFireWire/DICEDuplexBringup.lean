import ASFireWire.DICETypes

/-! The duplex bring-up of a DICE device: the controller's state, the programming of its streams,
the stop sequence and the rollback. -/
namespace ASFireWire.DICE

open Programs
open Async (AsyncStatus)
open Duplex (AudioClockConfig DuplexRestartPhase DuplexRestartSession)

/-- The node as the bus reports it in the generation of the route. -/
structure BusInfo where
  generation : ℕ := 0
  localNodeID : ℕ := 0
  localNodeValid : Bool := true
  speed : ℕ := 2
  deriving DecidableEq, Repr

structure DICEBringupPolicy where
  requireSourceLockBeforeStreamEnable : Bool := true
  requireSourceLockAtConfirm : Bool := true
  deriving DecidableEq, Repr

inductive FlowMode | none | prepareDuplex | clockApply
  deriving DecidableEq, Repr

structure AudioStreamRuntimeCaps where
  sampleRateHz : ℕ := 0
  deviceToHostIsoChannel : BitVec 8 := kInvalidIsoChannel
  hostToDeviceIsoChannel : BitVec 8 := kInvalidIsoChannel
  deriving DecidableEq, Repr

structure RestartSession extends DuplexRestartSession where
  channels : AudioDuplexChannels := {}
  runtimeCaps : AudioStreamRuntimeCaps := {}
  deriving DecidableEq, Repr

structure DICEDuplexBringupController where
  busInfo : BusInfo := {}
  bringupPolicy : DICEBringupPolicy := {}
  sections : GeneralSections := {}
  restartSession : RestartSession := {}
  diceClock : DiceClockConfiguration := {}
  flowMode : FlowMode := .none
  runtimeCaps : AudioStreamRuntimeCaps := {}
  confirmNotification : Quadlet := 0
  confirmStatus : Quadlet := 0
  confirmExtStatus : Quadlet := 0
  stopSequenceError : IOReturn := .success
  refreshRuntimeCapsOnPrepare : Bool := true
  preClaimClockSelect : Quadlet := 0
  deriving DecidableEq, Repr

/-- What a callback reports; `stopped` is the status of the stop sequence of a rollback, which the
rollback keeps to itself. -/
structure Report where
  controller : DICEDuplexBringupController
  status : IOReturn
  stopped : Option IOReturn := none
  deriving DecidableEq, Repr

def kDisabledIsoChannel : Quadlet := 0xFFFFFFFF

def kRxSeqStartDefault : Quadlet := 0

def kOwnerNoOwner : BitVec 64 := 0xFFFF000000000000

/-! ### Accesses -/

def readQuadBE (offset : Quadlet) : Prog (IOReturn × Quadlet) := do
  let answer ← (Program.perform (Action.readQuad (makeDICEAddress offset)) :
    Prog (AsyncStatus × Quadlet))
  pure (mapTransportStatus answer.1, answer.2)

def writeQuadBE (offset value : Quadlet) : Prog IOReturn := do
  let status ← Program.perform (Action.writeQuad (makeDICEAddress offset) value)
  pure (mapTransportStatus status)

def compareSwap64BE (offset : Quadlet) (expected desired : BitVec 64) :
    Prog (IOReturn × BitVec 64) := do
  let answer ← (Program.perform (Action.compareSwap64 (makeDICEAddress offset) expected desired) :
    Prog (AsyncStatus × BitVec 64))
  pure (mapTransportStatus answer.1, answer.2)

namespace DICEDuplexBringupController

def ensureRouteCurrent (c : DICEDuplexBringupController) : Prog Bool :=
  if c.restartSession.phase = .idle then pure true else Program.perform Action.isRouteCurrent

def ownerValue (c : DICEDuplexBringupController) : BitVec 64 :=
  ((0xFFC0 ||| BitVec.ofNat 64 (c.busInfo.localNodeID % 64)) <<< 48) ||| 0x000100000000

/-- At most S400. -/
def resolvedTxSpeed (c : DICEDuplexBringupController) : Quadlet :=
  BitVec.ofNat 32 (min c.busInfo.speed 2)

def recordFirstError (c : DICEDuplexBringupController) (status : IOReturn) :
    DICEDuplexBringupController :=
  if c.stopSequenceError = .success then { c with stopSequenceError := status } else c

def setPhase (c : DICEDuplexBringupController) (phase : DuplexRestartPhase) :
    DICEDuplexBringupController :=
  { c with restartSession.phase := phase }

def resetRestartSession (c : DICEDuplexBringupController) : DICEDuplexBringupController :=
  { c with restartSession := {} }

/-! ### The registers of the streams of one direction -/

/-- Where the streams of one direction are programmed and what is written for each: its channel, and
a second register with the same value for all. -/
structure StreamPort where
  sectionOffset : Quadlet
  sizeRegister : Quadlet
  isochronousRegister : Quadlet
  secondRegister : Quadlet
  secondValue : Quadlet
  streamCount : ℕ
  isoChannel : ℕ → BitVec 8

namespace StreamPort

def streamBase (port : StreamPort) (entrySizeBytes : Quadlet) (streamIndex : ℕ) : Quadlet :=
  port.sectionOffset + BitVec.ofNat 32 streamIndex * entrySizeBytes

/-- The count the stop walks: without a usable stride only the first stream is addressable. -/
def stopCount (port : StreamPort) (entrySizeBytes : Quadlet) : ℕ :=
  let streamCount :=
    if port.streamCount = 0 then 1
    else if port.streamCount > kMaxAudioStreamsPerDirection then kMaxAudioStreamsPerDirection
    else port.streamCount
  if entrySizeBytes = 0 then 1 else streamCount

end StreamPort

def rxPort (c : DICEDuplexBringupController) (channels : AudioDuplexChannels) : StreamPort where
  sectionOffset := c.sections.rxStreamFormat.offset
  sizeRegister := RxOffset.kSize
  isochronousRegister := RxOffset.kIsochronous
  secondRegister := RxOffset.kSeqStart
  secondValue := kRxSeqStartDefault
  streamCount := channels.playbackStreamCount
  isoChannel := channels.playbackChannel

def txPort (c : DICEDuplexBringupController) (channels : AudioDuplexChannels) : StreamPort where
  sectionOffset := c.sections.txStreamFormat.offset
  sizeRegister := TxOffset.kSize
  isochronousRegister := TxOffset.kIsochronous
  secondRegister := TxOffset.kSpeed
  secondValue := c.resolvedTxSpeed
  streamCount := channels.captureStreamCount
  isoChannel := channels.captureChannel

/-! ### Stop -/

/-- What the stop sequence reports. -/
abbrev Stopped := DICEDuplexBringupController × IOReturn

def abortStopIfTeardown (c : DICEDuplexBringupController) (rest : Prog Stopped) : Prog Stopped := do
  if ← Program.perform Action.teardownRequested then
    pure ({ c.resetRestartSession with stopSequenceError := .aborted, flowMode := .none }, .aborted)
  else rest

/-- The end of a stop that gives everything up. -/
def stopReset (c : DICEDuplexBringupController) : Prog Stopped :=
  pure ({ c.resetRestartSession with flowMode := .none }, c.stopSequenceError)

def doStopReleaseOwner (c : DICEDuplexBringupController) : Prog Stopped :=
  abortStopIfTeardown c <|
    if c.restartSession.ownerClaimed = false then stopReset c
    else do
      if ← c.ensureRouteCurrent then
        let (status, previous) ← compareSwap64BE
          (c.sections.global.offset + GlobalOffset.kOwnerHi) c.ownerValue kOwnerNoOwner
        abortStopIfTeardown c <|
          let c := c.recordFirstError status
          stopReset <|
            if status = .success ∧ previous ≠ c.ownerValue ∧ previous ≠ kOwnerNoOwner then
              c.recordFirstError .exclusiveAccess
            else c
      else stopReset (c.recordFirstError .offline)

def doStopReleaseRx (releaseOwner : Bool) (c : DICEDuplexBringupController) : Prog Stopped :=
  abortStopIfTeardown c <|
    if releaseOwner then doStopReleaseOwner c
    else pure ({ c with
      restartSession.devicePrepared := false
      restartSession.deviceTxArmed := false
      restartSession.deviceRunning := false
      restartSession.deviceRxProgrammed := false
      restartSession.phase := .idle
      flowMode := .none }, c.stopSequenceError)

/-- `DoStopDisableTxStream` and `DoStopDisableRxStream`. -/
def stopStreams (port : StreamPort) (next : DICEDuplexBringupController → Prog Stopped)
    (streamIndex : ℕ) (entrySizeBytes : Quadlet) (c : DICEDuplexBringupController) :
    Prog Stopped :=
  if port.stopCount entrySizeBytes ≤ streamIndex then next c
  else do
    let streamBase := port.streamBase entrySizeBytes streamIndex
    let isoStatus ← writeQuadBE (streamBase + port.isochronousRegister) kDisabledIsoChannel
    let c := c.recordFirstError isoStatus
    abortStopIfTeardown c do
      let secondStatus ← writeQuadBE (streamBase + port.secondRegister) port.secondValue
      let c := c.recordFirstError secondStatus
      abortStopIfTeardown c (stopStreams port next (streamIndex + 1) entrySizeBytes c)
termination_by port.stopCount entrySizeBytes - streamIndex

/-- `DoStopDisableTx` and `DoStopDisableRx`. -/
def stopPort (port : StreamPort) (next : DICEDuplexBringupController → Prog Stopped)
    (c : DICEDuplexBringupController) : Prog Stopped :=
  abortStopIfTeardown c do
    if ← c.ensureRouteCurrent then
      let (readStatus, size) ← readQuadBE (port.sectionOffset + port.sizeRegister)
      let c := c.recordFirstError readStatus
      abortStopIfTeardown c <|
        stopStreams port next 0 (if readStatus = .success then size * 4 else 0) c
    else
      let c := c.recordFirstError .offline
      pure (c, c.stopSequenceError)

def doStopDisableRx (releaseOwner : Bool) (c : DICEDuplexBringupController) : Prog Stopped :=
  stopPort (c.rxPort c.restartSession.channels) (doStopReleaseRx releaseOwner) c

def doStopReleaseTx (releaseOwner : Bool) (c : DICEDuplexBringupController) : Prog Stopped :=
  abortStopIfTeardown c (doStopDisableRx releaseOwner c)

def doStopDisableTx (releaseOwner : Bool) (c : DICEDuplexBringupController) : Prog Stopped :=
  stopPort (c.txPort c.restartSession.channels) (doStopReleaseTx releaseOwner) c

def doStopDisableGlobal (releaseOwner : Bool) (c : DICEDuplexBringupController) : Prog Stopped :=
  abortStopIfTeardown c do
    if ← c.ensureRouteCurrent then
      let status ← writeQuadBE (c.sections.global.offset + GlobalOffset.kEnable) 0
      let c := c.recordFirstError status
      abortStopIfTeardown c (doStopDisableTx releaseOwner c)
    else
      let c := c.recordFirstError .offline
      pure (c.resetRestartSession, c.stopSequenceError)

def doStopSequence (releaseOwner : Bool) (c : DICEDuplexBringupController) : Prog Stopped :=
  let c := { c.setPhase .stopping with stopSequenceError := .success }
  abortStopIfTeardown c (doStopDisableGlobal releaseOwner c)

def doRollback (status : IOReturn) (c : DICEDuplexBringupController) : Prog Report :=
  let c := c.setPhase .failed
  if c.restartSession.ownerClaimed = false then
    pure { controller := { c.resetRestartSession with flowMode := .none }, status }
  else do
    if ← c.ensureRouteCurrent then
      let (c, stopStatus) ← doStopSequence c.restartSession.ownerClaimed c
      pure { controller := { c with flowMode := .none }, status, stopped := some stopStatus }
    else
      pure { controller := { c.resetRestartSession with flowMode := .none }, status }

/-! ### Programming -/

/-- A chain of accesses that has its fuel out has not reported. -/
def rollback (status : IOReturn) (c : DICEDuplexBringupController) : Prog (Option Report) := do
  let report ← doRollback status c
  pure (some report)

/-- `DoProgramRx` and `DoProgramTx`. -/
def programStreams (port : StreamPort) (phase : DuplexRestartPhase)
    (next : DICEDuplexBringupController → Prog (Option Report)) :
    ℕ → ℕ → Quadlet → DICEDuplexBringupController → Prog (Option Report)
  | 0, _, _, _ => pure none
  | fuel + 1, streamIndex, entrySizeBytes, c => do
    if ← c.ensureRouteCurrent then
      let c := c.setPhase phase
      if streamIndex = 0 ∧ entrySizeBytes = 0 then
        let (status, size) ← readQuadBE (port.sectionOffset + port.sizeRegister)
        if status = .success then
          programStreams port phase next fuel 0 (size * 4) c
        else rollback status c
      else if port.streamCount ≤ streamIndex then next c
      else
        let streamBase := port.streamBase entrySizeBytes streamIndex
        let isoStatus ← writeQuadBE (streamBase + port.isochronousRegister)
          ((port.isoChannel streamIndex).setWidth 32)
        if isoStatus = .success then
          let secondStatus ← writeQuadBE (streamBase + port.secondRegister) port.secondValue
          if secondStatus = .success then
            programStreams port phase next fuel (streamIndex + 1) entrySizeBytes c
          else rollback secondStatus c
        else rollback isoStatus c
    else rollback .offline c

def doProgramRx (fuel : ℕ) (channels : AudioDuplexChannels) (streamIndex : ℕ)
    (entrySizeBytes : Quadlet) (c : DICEDuplexBringupController) : Prog (Option Report) :=
  programStreams (c.rxPort channels) .programmingDeviceRx (fun c =>
    let c := c.setPhase .deviceRxProgrammed
    pure (some {
      controller := { c with restartSession.deviceRxProgrammed := true }
      status := .success })) fuel streamIndex entrySizeBytes c

def doEnableGlobal (c : DICEDuplexBringupController) : Prog (Option Report) := do
  if ← c.ensureRouteCurrent then
    let status ← writeQuadBE (c.sections.global.offset + GlobalOffset.kEnable) 1
    if status = .success then
      let c := c.setPhase .deviceTxArmed
      pure (some {
        controller := { c with restartSession.deviceTxArmed := true }
        status := .success })
    else rollback status c
  else rollback .offline c

def doProgramTx (fuel : ℕ) (channels : AudioDuplexChannels) (streamIndex : ℕ)
    (entrySizeBytes : Quadlet) (c : DICEDuplexBringupController) : Prog (Option Report) :=
  programStreams (c.txPort channels) .programmingDeviceTx doEnableGlobal fuel streamIndex
    entrySizeBytes c

/-- A report without an access. -/
def refuse (status : IOReturn) (c : DICEDuplexBringupController) : Prog (Option Report) :=
  pure (some { controller := c, status })

/-- `ProgramRx`. -/
def programRx (fuel : ℕ) (c : DICEDuplexBringupController) : Prog (Option Report) :=
  if c.restartSession.devicePrepared = false then refuse .notReady c
  else do
    if ← c.ensureRouteCurrent then
      if c.restartSession.channels.deviceToHostIsoChannel > 63 ∨
          c.restartSession.channels.hostToDeviceIsoChannel > 63 then
        refuse .notReady c
      else doProgramRx fuel c.restartSession.channels 0 0 c
    else refuse .offline c

def programTxAndEnableDuplex (fuel : ℕ) (c : DICEDuplexBringupController) :
    Prog (Option Report) :=
  if c.restartSession.devicePrepared = false ∨ c.restartSession.deviceRxProgrammed = false then
    refuse .notReady c
  else do
    if ← c.ensureRouteCurrent then doProgramTx fuel c.restartSession.channels 0 0 c
    else refuse .offline c

end DICEDuplexBringupController

end ASFireWire.DICE
