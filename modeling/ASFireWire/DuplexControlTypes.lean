import ASFireWire.DeviceRegistry
import ASFireWire.IsochService

/-! The session of a duplex stream: its lifecycle and phase, the progress it records, and when a
recovery restarts it. -/
namespace ASFireWire.Duplex

open Isoch (KernReturn)

abbrev IOReturn := KernReturn

/-- Rates in Hz. -/
structure AudioClockConfig where
  sampleRateHz : ℕ := 0
  deriving DecidableEq, Repr

def AudioClockConfig.isSupported (desiredClock : AudioClockConfig) : Bool :=
  desiredClock.sampleRateHz = 32000 || desiredClock.sampleRateHz = 44100 ||
    desiredClock.sampleRateHz = 48000

inductive DuplexRestartReason
  | initialStart | sampleRateChange | clockSourceChange | busResetRebind | recoverAfterTimingLoss
  | recoverAfterCycleInconsistent | recoverAfterLockLoss | recoverAfterTxFault | manualReconfigure
  deriving DecidableEq, Repr

inductive DuplexRestartPhase
  | idle | preparingDevice | prepared | reservingPlaybackResources | programmingDeviceRx
  | deviceRxProgrammed | reservingCaptureResources | startingHostReceive | programmingDeviceTx
  | deviceTxArmed | waitingGlobalClock | startingHostTransmit | confirmingDeviceStart | running
  | stopping | failed
  deriving DecidableEq, Repr

inductive DuplexLifecycleKind
  | idle | applyingIdleClock | starting | running | stopping | recovering | failed | removed
  deriving DecidableEq, Repr

def canTransitionLifecycle : DuplexLifecycleKind → DuplexLifecycleKind → Bool
  | .idle, to' => to' = .starting || to' = .applyingIdleClock || to' = .recovering ||
      to' = .removed || to' = .failed
  | .applyingIdleClock, to' => to' = .idle || to' = .failed
  | .starting, to' => to' = .idle || to' = .running || to' = .stopping || to' = .recovering ||
      to' = .failed || to' = .removed
  | .running, to' => to' = .idle || to' = .stopping || to' = .recovering || to' = .failed ||
      to' = .removed
  | .stopping, to' => to' = .idle || to' = .failed || to' = .removed
  | .recovering, to' => to' = .idle || to' = .running || to' = .stopping || to' = .failed ||
      to' = .removed
  | .failed, to' => to' = .starting || to' = .recovering || to' = .stopping || to' = .removed ||
      to' = .applyingIdleClock || to' = .idle || to' = .failed
  | .removed, to' => to' = .starting || to' = .recovering || to' = .idle

inductive DuplexClockRequestOutcome | applied | superseded | abortedByStop | failed
  deriving DecidableEq, Repr

inductive DuplexRestartErrorClass
  | unsupportedConfig | missingDependency | stageFailure | epochInvalidated | stopIntent
  deriving DecidableEq, Repr

inductive DuplexRestartFailureCause
  | none | prepare | reservePlayback | programRx | reserveCapture | startReceive | programTx
  | globalClockLock | startTransmit | confirmStart | idleClockApply | stop | busResetRebind
  | timingLoss | cycleInconsistent | lockLoss | txFault
  deriving DecidableEq, Repr

structure DuplexClockRequestCompletion where
  token : ℕ := 0
  desiredClock : AudioClockConfig := {}
  reason : DuplexRestartReason := .manualReconfigure
  outcome : DuplexClockRequestOutcome := .failed
  status : IOReturn := .success
  restartId : ℕ := 0
  generation : ℕ := 0
  deriving DecidableEq, Repr

structure DuplexRestartIssueInfo where
  failedPhase : DuplexRestartPhase := .idle
  errorClass : DuplexRestartErrorClass := .stageFailure
  cause : DuplexRestartFailureCause := .none
  status : IOReturn := .success
  retryable : Bool := false
  rollbackAttempted : Bool := false
  rollbackStatus : IOReturn := .success
  hostStateKnown : Bool := true
  deviceStateKnown : Bool := true
  restartId : ℕ := 0
  generation : ℕ := 0
  deriving DecidableEq, Repr

/-- The session of one GUID. -/
structure DuplexRestartSession where
  restartId : ℕ := 0
  route : Option Discovery.DeviceRouteToken := none
  generation : ℕ := 0
  topologyGeneration : ℕ := 0
  reason : DuplexRestartReason := .initialStart
  desiredClock : AudioClockConfig := {}
  appliedClock : AudioClockConfig := {}
  pendingClock : AudioClockConfig := {}
  pendingReason : DuplexRestartReason := .initialStart
  phase : DuplexRestartPhase := .idle
  lifecycle : DuplexLifecycleKind := .idle
  lastFailure : Option DuplexRestartIssueInfo := none
  lastInvalidation : Option DuplexRestartIssueInfo := none
  lastClockCompletion : Option DuplexClockRequestCompletion := none
  ownerClaimed : Bool := false
  devicePrepared : Bool := false
  deviceRxProgrammed : Bool := false
  deviceTxArmed : Bool := false
  deviceRunning : Bool := false
  hasPendingClockRequest : Bool := false
  hostDuplexClaimed : Bool := false
  hostPlaybackReserved : Bool := false
  hostCaptureReserved : Bool := false
  hostReceiveStarted : Bool := false
  hostTransmitStarted : Bool := false
  deriving DecidableEq, Repr

namespace DuplexRestartSession

def hasRestartIntent (session : DuplexRestartSession) : Bool :=
  session.desiredClock.sampleRateHz ≠ 0 || session.hasPendingClockRequest

def hasDeviceRestartState (session : DuplexRestartSession) : Bool :=
  session.ownerClaimed || session.devicePrepared || session.deviceRxProgrammed ||
    session.deviceTxArmed || session.deviceRunning

def hasHostRestartState (session : DuplexRestartSession) : Bool :=
  session.hostDuplexClaimed || session.hostPlaybackReserved || session.hostCaptureReserved ||
    session.hostReceiveStarted || session.hostTransmitStarted

def hasAnyRestartState (session : DuplexRestartSession) : Bool :=
  session.hasDeviceRestartState || session.hasHostRestartState

def clearRestartProgress (session : DuplexRestartSession)
    (terminalPhase : DuplexRestartPhase := .idle) : DuplexRestartSession :=
  { session with
    phase := terminalPhase
    ownerClaimed := false
    devicePrepared := false
    deviceRxProgrammed := false
    deviceTxArmed := false
    deviceRunning := false
    hostDuplexClaimed := false
    hostPlaybackReserved := false
    hostCaptureReserved := false
    hostReceiveStarted := false
    hostTransmitStarted := false }

/-- `previousSession` is never null where this is called. -/
def classifyRestartReason (previousSession : DuplexRestartSession)
    (desiredClock : AudioClockConfig) : DuplexRestartReason :=
  if !previousSession.hasRestartIntent then .initialStart
  else if previousSession.desiredClock.sampleRateHz ≠ 0 ∧
      previousSession.desiredClock.sampleRateHz ≠ desiredClock.sampleRateHz then .sampleRateChange
  else if previousSession.phase = .failed then .recoverAfterTimingLoss
  else .manualReconfigure

/-- The lifecycle a session is put in, where `SetLifecycle` accepts it. -/
def setLifecycle (session : DuplexRestartSession) (next : DuplexLifecycleKind) :
    Option DuplexRestartSession :=
  if session.lifecycle = next ∨ canTransitionLifecycle session.lifecycle next then
    some { session with lifecycle := next }
  else none

def enterIdle (session : DuplexRestartSession) : Option DuplexRestartSession :=
  if session.lifecycle ≠ .idle ∧ !canTransitionLifecycle session.lifecycle .idle then none
  else some { session.clearRestartProgress .idle with lifecycle := .idle }

def enterFailed (session : DuplexRestartSession) : Option DuplexRestartSession :=
  if !canTransitionLifecycle session.lifecycle .failed then none
  else some { session.clearRestartProgress .failed with lifecycle := .failed }

def clearFailureSnapshot (session : DuplexRestartSession) : DuplexRestartSession :=
  { session with lastFailure := none }

/-- What `RecordIssue` puts into its destination. -/
def issue (session : DuplexRestartSession) (failedPhase : DuplexRestartPhase)
    (errorClass : DuplexRestartErrorClass) (cause : DuplexRestartFailureCause) (status : IOReturn)
    (retryable rollbackAttempted : Bool) (rollbackStatus : IOReturn)
    (hostStateKnown deviceStateKnown : Bool) : DuplexRestartIssueInfo where
  failedPhase := failedPhase
  errorClass := errorClass
  cause := cause
  status := status
  retryable := retryable
  rollbackAttempted := rollbackAttempted
  rollbackStatus := rollbackStatus
  hostStateKnown := hostStateKnown
  deviceStateKnown := deviceStateKnown
  restartId := session.restartId
  generation := session.topologyGeneration

end DuplexRestartSession

/-! ### The recovery policy -/

inductive DuplexRecoveryDisposition | ignore | restart | failSession
  deriving DecidableEq, Repr

inductive DuplexRecoveryPolicyReason
  | runningWithFootprint | retryableFailure | idleWithoutFootprint | suppressedByStop
  | idleApplyInvalidated | missingDependency | nonRetryableFailure
  deriving DecidableEq, Repr

structure DuplexRecoveryContext where
  state : DuplexLifecycleKind
  stopRequested : Bool
  hasRestartIntent : Bool
  hasHostFootprint : Bool
  hasDeviceFootprint : Bool
  hasDiceRecord : Bool
  hasProtocol : Bool
  lastFailureRetryable : Bool
  deriving DecidableEq, Repr

def isRetryableStatus (status : IOReturn) : Bool :=
  status = .timeout || status = .aborted || status = .notReady || status = .noDevice

def failureCauseForReason : DuplexRestartReason → DuplexRestartFailureCause
  | .busResetRebind => .busResetRebind
  | .recoverAfterTimingLoss => .timingLoss
  | .recoverAfterCycleInconsistent => .cycleInconsistent
  | .recoverAfterLockLoss => .lockLoss
  | .recoverAfterTxFault => .txFault
  | .initialStart | .sampleRateChange | .clockSourceChange | .manualReconfigure => .none

def isRecoveryReason (reason : DuplexRestartReason) : Bool := failureCauseForReason reason ≠ .none

/-- `RestartStateForStartReason`, as `LifecycleForStart` turns it into a lifecycle. -/
def lifecycleForStart (reason : DuplexRestartReason) : DuplexLifecycleKind :=
  if isRecoveryReason reason then .recovering else .starting

def evaluateRecoveryPolicy (context : DuplexRecoveryContext) :
    DuplexRecoveryDisposition × DuplexRecoveryPolicyReason :=
  let hasRestartFootprint :=
    context.hasRestartIntent || context.hasHostFootprint || context.hasDeviceFootprint
  if context.stopRequested || context.state = .stopping then (.ignore, .suppressedByStop)
  else if context.state = .applyingIdleClock then (.ignore, .idleApplyInvalidated)
  else if !context.hasDiceRecord || !context.hasProtocol then
    if context.state = .starting || context.state = .running || context.state = .recovering ||
        context.state = .failed || hasRestartFootprint then (.failSession, .missingDependency)
    else (.ignore, .idleWithoutFootprint)
  else if context.state = .failed then
    if context.lastFailureRetryable then (.restart, .retryableFailure)
    else (.failSession, .nonRetryableFailure)
  else if context.state = .starting || context.state = .running || context.state = .recovering ||
      hasRestartFootprint then (.restart, .runningWithFootprint)
  else (.ignore, .idleWithoutFootprint)

end ASFireWire.Duplex
