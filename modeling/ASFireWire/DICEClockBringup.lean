import ASFireWire.DICEDuplexBringup

/-! The clock of a DICE device during the bring-up: how a requested clock is selected and accepted,
applied while idle, prepared for streaming and confirmed after the start. -/
namespace ASFireWire.DICE

open Programs
open Async (AsyncStatus)
open Duplex (AudioClockConfig)

def kClockAcceptedTimeoutMs : ℕ := 150
def kStreamingClockLockTimeoutMs : ℕ := 2000
def kPollIntervalMs : ℕ := 10
def kReadyTimeoutMs : ℕ := 200

def readBlock (offset : Quadlet) (length : ℕ) : Prog (IOReturn × List (BitVec 8)) := do
  let answer ← (Program.perform (Action.readBlock (makeDICEAddress offset) length) :
    Prog (AsyncStatus × List (BitVec 8)))
  pure (mapTransportStatus answer.1, answer.2)

/-- `ReadGlobalState`, which stops before the source names. -/
def readGlobalState (sections : GeneralSections) : Prog (IOReturn × GlobalState) :=
  Program.perform (Action.readGlobalState sections
    (if sections.global.size ≥ 0x68 then 0x68 else sections.global.size))

def readGlobalStateFull (sections : GeneralSections) : Prog (IOReturn × GlobalState) :=
  Program.perform (Action.readGlobalState sections sections.global.size)

def decodeOwnerOctlet (bytes : List (BitVec 8)) : BitVec 64 :=
  (bytes.take 8).foldl (fun value byte => value <<< 8 ||| byte.setWidth 64) 0

namespace DICEDuplexBringupController

def mailboxConsume : Prog Quadlet := Program.perform Action.mailboxConsume

def mailboxReset : Prog Unit := Program.perform Action.mailboxReset

/-- The timer is set; the work runs when it expires, unless it is cancelled before. -/
def scheduleRetry (delayMs : ℕ) : Prog Bool := Program.perform (Action.scheduleRetry delayMs)

/-! ### The ends of a bring-up -/

/-- The capabilities and the clock as the device reports them, where all its sections are read. -/
def refreshRuntimeCaps (c : DICEDuplexBringupController) :
    Prog (DICEDuplexBringupController × IOReturn) := do
  let (globalStatus, global) ← readGlobalState c.sections
  if globalStatus ≠ .success then pure (c, globalStatus)
  else
    let (txStatus, tx) ← (Program.perform (Action.readTxStreamConfig c.sections) :
      Prog (IOReturn × StreamConfig))
    if txStatus ≠ .success then pure (c, txStatus)
    else
      let (rxStatus, rx) ← (Program.perform (Action.readRxStreamConfig c.sections) :
        Prog (IOReturn × StreamConfig))
      if rxStatus ≠ .success then pure (c, rxStatus)
      else
        let runtimeCaps : AudioStreamRuntimeCaps := {
          sampleRateHz := global.sampleRate
          deviceToHostIsoChannel := tx.firstActiveIsoChannel kInvalidIsoChannel
          hostToDeviceIsoChannel := rx.firstActiveIsoChannel kInvalidIsoChannel }
        pure ({ c with
          runtimeCaps
          restartSession.runtimeCaps := runtimeCaps
          restartSession.appliedClock := { sampleRateHz := global.sampleRate } }, .success)

def releaseOwner (c : DICEDuplexBringupController) :
    Prog (DICEDuplexBringupController × IOReturn) :=
  if c.restartSession.ownerClaimed = false then pure (c, .success)
  else do
    if ← Program.perform Action.teardownRequested then pure (c, .aborted)
    else if ← c.ensureRouteCurrent then
      let (status, previous) ← compareSwap64BE
        (c.sections.global.offset + GlobalOffset.kOwnerHi) c.ownerValue kOwnerNoOwner
      if status ≠ .success then pure (c, status)
      else if previous ≠ c.ownerValue ∧ previous ≠ kOwnerNoOwner then pure (c, .exclusiveAccess)
      else pure ({ c with restartSession.ownerClaimed := false }, .success)
    else pure ({ c with restartSession.ownerClaimed := false }, .success)

/-- The clock that is reported is the one that was asked for. -/
def applyDesiredClock (c : DICEDuplexBringupController) : DICEDuplexBringupController :=
  { c with restartSession.appliedClock := c.restartSession.desiredClock }

def doCompleteClockApply (c : DICEDuplexBringupController) : Prog Report := do
  let (c, status) ← c.refreshRuntimeCaps
  if status ≠ .success then doRollback status c
  else
    let (c, releaseStatus) ← c.applyDesiredClock.releaseOwner
    let session := c.restartSession.toDuplexRestartSession
    if releaseStatus ≠ .success then
      pure {
        controller := { c with
          restartSession.toDuplexRestartSession := session.enterFailed.getD session
          flowMode := .none }
        status := releaseStatus }
    else
      pure {
        controller := { c with
          restartSession.toDuplexRestartSession := session.clearRestartProgress
          flowMode := .none }
        status := .success }

def prepared (c : DICEDuplexBringupController) : DICEDuplexBringupController :=
  { c with
    restartSession.devicePrepared := true
    restartSession.deviceTxArmed := false
    restartSession.deviceRunning := false
    restartSession.deviceRxProgrammed := false
    restartSession.phase := .prepared
    restartSession.appliedClock := c.restartSession.desiredClock }

def doFinishPrepare (c : DICEDuplexBringupController) : Prog Report :=
  if c.refreshRuntimeCapsOnPrepare = false then
    pure { controller := c.prepared, status := .success }
  else do
    let (c, status) ← c.refreshRuntimeCaps
    if status ≠ .success then doRollback status c
    else pure { controller := c.prepared, status := .success }

/-! ### Streams -/

inductive DiscoverRead
  | quad (offset : Quadlet)
  | block (offset : Quadlet) (length : ℕ)
  deriving DecidableEq, Repr

/-- The steps of `DoDiscoverStreams`, whose values it does not use. -/
def discoverReads (c : DICEDuplexBringupController) : List DiscoverRead :=
  let txBase := c.sections.txStreamFormat.offset
  let rxBase := c.sections.rxStreamFormat.offset
  [.quad (txBase + TxOffset.kNumber), .quad (rxBase + RxOffset.kNumber),
    .quad (txBase + TxOffset.kSize), .quad (txBase + TxOffset.kIsochronous),
    .quad (txBase + TxOffset.kNumberAudio), .quad (txBase + TxOffset.kNumberMidi),
    .quad (txBase + TxOffset.kSpeed), .block (txBase + TxOffset.kNames) 256,
    .quad (rxBase + RxOffset.kSize), .quad (rxBase + RxOffset.kIsochronous),
    .quad (rxBase + RxOffset.kNumberMidi), .quad (rxBase + RxOffset.kSeqStart),
    .quad (rxBase + RxOffset.kNumberAudio), .block (rxBase + RxOffset.kNames) 256]

def DiscoverRead.run : DiscoverRead → Prog IOReturn
  | .quad offset => do
    let (status, _) ← readQuadBE offset
    pure status
  | .block offset length => do
    let (status, payload) ← readBlock offset length
    pure (if status = .success ∧ payload.length < length then .underrun else status)

def doDiscoverStreams : List DiscoverRead → DICEDuplexBringupController → Prog Report
  | [], c => doFinishPrepare c
  | read :: later, c => do
    if ← c.ensureRouteCurrent then
      let status ← read.run
      if status ≠ .success then doRollback status c else doDiscoverStreams later c
    else doRollback .offline c

/-! ### The clock -/

def sourceLockedAtTarget (c : DICEDuplexBringupController) (state : GlobalState) : Bool :=
  isSourceLocked state.status &&
    nominalRateHz state.status = c.restartSession.desiredClock.sampleRateHz

def sampleRateAtTarget (c : DICEDuplexBringupController) (state : GlobalState) : Bool :=
  state.sampleRate = c.restartSession.desiredClock.sampleRateHz

def isClockAccepted (notify : Quadlet) : Bool := notify &&& Notify.kClockAccepted ≠ 0

/-- The test of `DoActiveClockCheck`. -/
def activeCheckAccepts (c : DICEDuplexBringupController) (combinedNotify : Quadlet)
    (state : GlobalState) : Bool :=
  isClockAccepted combinedNotify || (c.sourceLockedAtTarget state && c.sampleRateAtTarget state)

/-- The test of `DoReadGlobalAfterClockAccepted`. -/
def clockAcceptedReadAccepts (c : DICEDuplexBringupController) (observedNotify : Quadlet)
    (state : GlobalState) : Bool :=
  state.clockSelect = c.diceClock.clockSelect &&
    (isClockAccepted (observedNotify ||| state.notification) ||
      (c.sourceLockedAtTarget state && c.sampleRateAtTarget state))

/-- The target rate is waited for, and the source lock where the policy wants it. -/
def doAwaitStreamingClockLock (attempt : ℕ) (c : DICEDuplexBringupController) : Prog Report := do
  if ← c.ensureRouteCurrent then
    let (status, state) ← readGlobalStateFull c.sections
    if status ≠ .success then doRollback status c
    else
      let rateAtTarget := nominalRateHz state.status = c.restartSession.desiredClock.sampleRateHz ∧
        state.sampleRate = c.restartSession.desiredClock.sampleRateHz
      if rateAtTarget ∧ (isSourceLocked state.status ∨
          c.bringupPolicy.requireSourceLockBeforeStreamEnable = false) then
        doDiscoverStreams c.discoverReads c
      else if h : kStreamingClockLockTimeoutMs ≤ attempt * kPollIntervalMs then
        doRollback .timeout c
      else if ← scheduleRetry kPollIntervalMs then doAwaitStreamingClockLock (attempt + 1) c
      else doRollback .notReady c
  else doRollback .offline c
termination_by kStreamingClockLockTimeoutMs - attempt * kPollIntervalMs
decreasing_by simp only [kPollIntervalMs] at *; omega

/-- An accepted clock is applied, or waited for before the streams. -/
def clockConfirmed (c : DICEDuplexBringupController) : Prog Report :=
  if c.flowMode = .clockApply then doCompleteClockApply c else doAwaitStreamingClockLock 0 c

def doReadGlobalAfterClockAccepted (observedNotify : Quadlet) (failureStatus : IOReturn)
    (c : DICEDuplexBringupController) : Prog Report := do
  if ← c.ensureRouteCurrent then
    let (status, state) ← readGlobalStateFull c.sections
    if status ≠ .success then doRollback status c
    else if c.clockAcceptedReadAccepts observedNotify state then c.clockConfirmed
    else doRollback failureStatus c
  else doRollback .offline c

def doConfirmClockAccepted (observedNotify : Quadlet) (c : DICEDuplexBringupController) :
    Prog Report := do
  if ← c.ensureRouteCurrent then
    let lateMailboxBits ← mailboxConsume
    doReadGlobalAfterClockAccepted (observedNotify ||| lateMailboxBits) .timeout c
  else doRollback .offline c

def doWaitClockAccepted (attempt : ℕ) (c : DICEDuplexBringupController) : Prog Report := do
  if ← c.ensureRouteCurrent then
    let mailboxBits ← mailboxConsume
    if isClockAccepted mailboxBits then
      doReadGlobalAfterClockAccepted mailboxBits .notReady c
    else if h : kClockAcceptedTimeoutMs ≤ attempt * kPollIntervalMs then
      doConfirmClockAccepted mailboxBits c
    else if ← scheduleRetry kPollIntervalMs then doWaitClockAccepted (attempt + 1) c
    else doRollback .notReady c
  else doRollback .offline c
termination_by kClockAcceptedTimeoutMs - attempt * kPollIntervalMs
decreasing_by simp only [kPollIntervalMs] at *; omega

def doActiveClockCheck (accumulatedNotify : Quadlet) (c : DICEDuplexBringupController) :
    Prog Report := do
  if ← c.ensureRouteCurrent then
    let (status, state) ← readGlobalStateFull c.sections
    if status ≠ .success then doWaitClockAccepted 0 c
    else
      let mailboxBits ← mailboxConsume
      if c.activeCheckAccepts (accumulatedNotify ||| mailboxBits) state then c.clockConfirmed
      else doWaitClockAccepted 0 c
  else doRollback .offline c

/-- A device that is at the target already is not written to. -/
def doWriteClockSelect (c : DICEDuplexBringupController) : Prog Report := do
  if ← c.ensureRouteCurrent then
    if c.preClaimClockSelect = c.diceClock.clockSelect then
      let bits ← mailboxConsume
      doActiveClockCheck bits c
    else
      mailboxReset
      let status ← writeQuadBE (c.sections.global.offset + GlobalOffset.kClockSelect)
        c.diceClock.clockSelect
      if status ≠ .success then doRollback status c
      else
        let earlyBits ← mailboxConsume
        if isClockAccepted earlyBits then
          doReadGlobalAfterClockAccepted earlyBits .notReady c
        else doActiveClockCheck earlyBits c
  else doRollback .offline c

/-! ### The claim of the owner -/

def doReadOwnerAfterClaim (c : DICEDuplexBringupController) : Prog Report := do
  if ← c.ensureRouteCurrent then
    let (status, payload) ← readBlock (c.sections.global.offset + GlobalOffset.kOwnerHi) 8
    if status ≠ .success ∨ payload.length < 8 then
      doRollback (if status = .success then .underrun else status) c
    else if decodeOwnerOctlet payload ≠ c.ownerValue then doRollback .exclusiveAccess c
    else c.doWriteClockSelect
  else doRollback .offline c

def doClaimOwner (c : DICEDuplexBringupController) : Prog Report := do
  if ← c.ensureRouteCurrent then
    let (status, previous) ← compareSwap64BE
      (c.sections.global.offset + GlobalOffset.kOwnerHi) kOwnerNoOwner c.ownerValue
    if status ≠ .success then doRollback status c
    else if previous ≠ kOwnerNoOwner ∧ previous ≠ c.ownerValue then doRollback .exclusiveAccess c
    else doReadOwnerAfterClaim { c with restartSession.ownerClaimed := true }
  else doRollback .offline c

def doReadOwnerBeforeClaim (c : DICEDuplexBringupController) : Prog Report := do
  if ← c.ensureRouteCurrent then
    let (status, payload) ← readBlock (c.sections.global.offset + GlobalOffset.kOwnerHi) 8
    if status ≠ .success ∨ payload.length < 8 then
      doRollback (if status = .success then .underrun else status) c
    else c.doClaimOwner
  else doRollback .offline c

def doReadGlobalBeforeClaim (c : DICEDuplexBringupController) : Prog Report := do
  if ← c.ensureRouteCurrent then
    let (status, state) ← readGlobalStateFull c.sections
    if status ≠ .success then doRollback status c
    else doReadOwnerBeforeClaim { c with preClaimClockSelect := state.clockSelect }
  else doRollback .offline c

def doRefreshSectionLayout (c : DICEDuplexBringupController) : Prog Report := do
  if ← c.ensureRouteCurrent then
    let (status, sections) ← (Program.perform Action.readGeneralSections :
      Prog (IOReturn × GeneralSections))
    if status ≠ .success then doRollback status c
    else doReadGlobalBeforeClaim { c with sections }
  else doRollback .offline c

def doReadGlobalStatus (c : DICEDuplexBringupController) : Prog Report := do
  if ← c.ensureRouteCurrent then
    let (status, _) ← readQuadBE (c.sections.global.offset + GlobalOffset.kStatus)
    if status ≠ .success then doRollback status c else c.doRefreshSectionLayout
  else doRollback .offline c

/-! ### The operations -/

/-- The stop is waited for to its end; a wait that times out or that a teardown breaks off is left
to the callers. -/
def stopDuplex (c : DICEDuplexBringupController) : Prog Stopped :=
  if c.restartSession.hasDeviceRestartState = false then pure (c, .success)
  else do
    if ← Program.perform Action.teardownRequested then
      pure ({ c.resetRestartSession with flowMode := .none }, .aborted)
    else doStopSequence true c

/-- A fresh session for the requested clock. -/
def begin (c : DICEDuplexBringupController) (flowMode : FlowMode) (channels : AudioDuplexChannels)
    (reason : Duplex.DuplexRestartReason) (desiredClock : DiceClockConfiguration) :
    DICEDuplexBringupController :=
  { c with
    flowMode
    stopSequenceError := .success
    diceClock := desiredClock
    restartSession := {
      generation := c.busInfo.generation
      channels
      reason
      desiredClock := { sampleRateHz := desiredClock.sampleRateHz }
      phase := .preparingDevice }
    runtimeCaps := {}
    confirmNotification := 0
    confirmStatus := 0
    confirmExtStatus := 0 }

/-- A report without an access. -/
def answer (status : IOReturn) (c : DICEDuplexBringupController) : Prog Report :=
  pure { controller := c, status }

def applyClockConfig (desiredClock : DiceClockConfiguration) (c : DICEDuplexBringupController) :
    Prog Report :=
  if isSupportedDiceClockConfiguration desiredClock = false then answer .unsupported c
  else if c.busInfo.localNodeValid = false then answer .notReady c
  else if c.restartSession.hasAnyRestartState then answer .busy c
  else do
    mailboxReset
    doReadGlobalStatus (c.begin .clockApply {} .manualReconfigure desiredClock)

def startPrepare (channels : AudioDuplexChannels) (desiredClock : DiceClockConfiguration)
    (c : DICEDuplexBringupController) : Prog Report := do
  mailboxReset
  doReadGlobalStatus { c.begin .prepareDuplex channels .initialStart desiredClock with
    refreshRuntimeCapsOnPrepare := true }

def prepareDuplex (channels : AudioDuplexChannels) (desiredClock : DiceClockConfiguration)
    (c : DICEDuplexBringupController) : Prog Report :=
  if channels.deviceToHostIsoChannel > 63 ∨ channels.hostToDeviceIsoChannel > 63 then
    answer .badArgument c
  else if c.busInfo.localNodeValid = false then answer .notReady c
  else if isSupportedDiceClockConfiguration desiredClock = false then answer .unsupported c
  else if c.restartSession.hasAnyRestartState then do
    let (c, stopStatus) ← c.stopDuplex
    if stopStatus ≠ .success then answer stopStatus c else startPrepare channels desiredClock c
  else startPrepare channels desiredClock c

/-- The duplex stop, whose status is dropped, and then the report. -/
def stopAndReport (status : IOReturn) (c : DICEDuplexBringupController) : Prog Report := do
  let (c, _) ← c.stopDuplex
  pure { controller := c, status }

def running (c : DICEDuplexBringupController) : DICEDuplexBringupController :=
  { c with
    restartSession.deviceRunning := true
    restartSession.phase := .running
    restartSession.appliedClock := c.restartSession.desiredClock }

def doCompleteConfirm (notification status extStatus : Quadlet)
    (c : DICEDuplexBringupController) : Prog Report := do
  let (c, refreshStatus) ← refreshRuntimeCaps { c with
    confirmNotification := notification
    confirmStatus := status
    confirmExtStatus := extStatus }
  if refreshStatus ≠ .success then stopAndReport refreshStatus c
  else if c.runtimeCaps.deviceToHostIsoChannel = c.restartSession.channels.deviceToHostIsoChannel ∧
      c.runtimeCaps.hostToDeviceIsoChannel = c.restartSession.channels.hostToDeviceIsoChannel then
    pure { controller := c.running, status := .success }
  else stopAndReport .notReady c

def doPollSourceLock (attempt : ℕ) (accumulatedNotify : Quadlet)
    (c : DICEDuplexBringupController) : Prog Report := do
  if ← c.ensureRouteCurrent then
    let bits ← mailboxConsume
    let notify := accumulatedNotify ||| bits
    let (statusRead, statusValue) ← readQuadBE (c.sections.global.offset + GlobalOffset.kStatus)
    if statusRead ≠ .success then stopAndReport statusRead c
    else if isSourceLocked statusValue ∨ c.bringupPolicy.requireSourceLockAtConfirm = false then
      let (notifyRead, nv) ← readQuadBE (c.sections.global.offset + GlobalOffset.kNotification)
      let (extRead, ev) ← readQuadBE (c.sections.global.offset + GlobalOffset.kExtStatus)
      doCompleteConfirm (if notifyRead = .success then notify ||| nv else notify) statusValue
        (if extRead = .success then ev else 0) c
    else if h : kReadyTimeoutMs ≤ attempt * kPollIntervalMs then stopAndReport .timeout c
    else if ← scheduleRetry kPollIntervalMs then doPollSourceLock (attempt + 1) notify c
    else doRollback .notReady c
  else stopAndReport .offline c
termination_by kReadyTimeoutMs - attempt * kPollIntervalMs
decreasing_by simp only [kPollIntervalMs] at *; omega

def confirmDuplexStart (c : DICEDuplexBringupController) : Prog Report :=
  if c.restartSession.devicePrepared = false ∨ c.restartSession.deviceTxArmed = false then
    answer .notReady c
  else do
    mailboxReset
    doPollSourceLock 0 0 (c.setPhase .confirmingDeviceStart)

end DICEDuplexBringupController

end ASFireWire.DICE
