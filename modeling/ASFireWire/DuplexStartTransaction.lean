import ASFireWire.DuplexSharedState

/-! The ordered stages of a duplex start, its rollbacks, the stop and the idle clock change
(`DuplexStartTransaction`). -/
namespace ASFireWire.Duplex

open Programs Op

/-! ### The journal -/

/-- `SetSessionState`; a refused transition is reported. -/
def setSessionState (session : DuplexRestartSession) (next : DuplexLifecycleKind) :
    Op (Option DuplexRestartSession) := do
  match session.setLifecycle next with
  | some session => return some session
  | none =>
    illegalTransition session.lifecycle next
    return none

def enterIdle (session : DuplexRestartSession) : Op (Option DuplexRestartSession) := do
  match session.enterIdle with
  | some session => return some session
  | none =>
    illegalTransition session.lifecycle .idle
    return none

/-- `EnterFailed`, whose answer no caller looks at. -/
def enterFailed (session : DuplexRestartSession) : Op DuplexRestartSession := do
  match session.enterFailed with
  | some session => return session
  | none =>
    illegalTransition session.lifecycle .failed
    return session

/-! ### Stop -/

/-- The two teardown orders, up to the status of the stop; `none` where a teardown took over. -/
def stopContexts (profile : DuplexStreamProfile) : Op (Option IOReturn) := do
  if profile.disconnectsBeforeStopping then
    let _ ← device .disconnectPlayback
    let transmitStopStatus ← host .stopPreparedTransmit
    let _ ← device .disconnectCapture
    let receiveStopStatus ← host .stopPreparedReceive
    let cleanupStatus ← host .stopAll
    if transmitStopStatus ≠ .success then return some transmitStopStatus
    if receiveStopStatus ≠ .success then return some receiveStopStatus
    return some cleanupStatus
  else
    let hostStatus ← host .stopAll
    let deviceAnswer ← device .stopDuplex
    if deviceAnswer.status = .aborted then
      if ← teardownRequested then return none
    if hostStatus ≠ .success then return some hostStatus
    if deviceAnswer.status = .unsupported then return some .success
    return some deviceAnswer.status

/-- `DuplexStartTransaction::Stop`, with the session as it leaves it. -/
def runDuplexStop (session : DuplexRestartSession) : Op (IOReturn × DuplexRestartSession) := do
  if ← teardownRequested then return (.aborted, session)
  let session := { session with phase := .stopping }
  match ← setSessionState session .stopping with
  | none => return (.internalError, session)
  | some session =>
    storeSession session
    let profile ← resolveProfile
    match ← stopContexts profile with
    | none => return (.aborted, session)
    | some result =>
      if result = .success then
        let session := session.clearFailureSnapshot
        let session := (← enterIdle session).getD session
        storeSession session
        return (.success, session)
      else
        let session := { session with lastFailure := some (session.issue .stopping .stageFailure
          .stop result (isRetryableStatus result) false .success true true) }
        let session ← enterFailed session
        storeSession session
        return (result, session)

/-! ### Start -/

/-- What a start works with once it has its route and its restart id. -/
structure StartContext where
  restartId : ℕ
  route : Discovery.DeviceRouteToken
  reason : DuplexRestartReason
  desiredClock : AudioClockConfig

namespace StartContext

variable (t : StartContext)

/-- The session as this start labels it. -/
def label (session : DuplexRestartSession) : DuplexRestartSession :=
  { session with
    restartId := t.restartId
    route := some t.route
    generation := t.route.generation
    topologyGeneration := t.route.generation
    reason := t.reason
    desiredClock := t.desiredClock }

def isRestartEpochCurrent : Op Bool := do
  if t.restartId = 0 then return false
  if !t.route.valid then return false
  if ← isStopRequested then return false
  let session ← loadSession false
  if session.restartId ≠ t.restartId ∨ session.route ≠ some t.route then return false
  isCurrent t.route

def finalizeFailure (session : DuplexRestartSession) (failureStatus : IOReturn)
    (failedPhase : DuplexRestartPhase) (cause : DuplexRestartFailureCause)
    (errorClass : DuplexRestartErrorClass) (rollbackAttempted : Bool) (rollbackStatus : IOReturn)
    (hostStateKnown deviceStateKnown : Bool) : Op IOReturn := do
  let session := t.label session
  let session := { session with lastFailure := some (session.issue failedPhase errorClass cause
    failureStatus (isRetryableStatus failureStatus) rollbackAttempted rollbackStatus hostStateKnown
    deviceStateKnown) }
  let session ← enterFailed session
  storeSession session
  return failureStatus

def rollbackToFailure (session : DuplexRestartSession) (failureStatus : IOReturn)
    (failedPhase : DuplexRestartPhase) (cause : DuplexRestartFailureCause) : Op IOReturn := do
  if failureStatus = .aborted then
    if ← teardownRequested then return failureStatus
  let _ ← device .breakBothConnections
  let (rollbackStatus, session) ← runDuplexStop session
  t.finalizeFailure session failureStatus failedPhase cause .stageFailure true rollbackStatus true
    true

def rollbackToInvalidation (session : DuplexRestartSession) (failedPhase : DuplexRestartPhase)
    (cause : DuplexRestartFailureCause) : Op IOReturn := do
  if ← teardownRequested then return .aborted
  let _ ← device .breakBothConnections
  let (rollbackStatus, session) ← runDuplexStop session
  if rollbackStatus ≠ .success then
    t.finalizeFailure session rollbackStatus .stopping .stop .stageFailure true rollbackStatus true
      true
  else
    let session := t.label session
    let stopped ← isStopRequested
    let session := { session with lastInvalidation := some (session.issue failedPhase
      (if stopped then .stopIntent else .epochInvalidated) cause .aborted true true rollbackStatus
      true true) }
    let session := session.clearFailureSnapshot
    let session := (← enterIdle session).getD session
    storeSession session
    return .aborted

end StartContext

inductive StageCall
  | host (call : HostCall)
  | device (call : DeviceCall)
  deriving DecidableEq, Repr

def StageCall.run : StageCall → Op DeviceAnswer
  | .host call => do
    let status ← Op.host call
    return { status := status }
  | .device call => Op.device call

/-- A stage checks for a teardown, records where it is, or makes a call; what a call that succeeded
records is stored. -/
inductive Stage
  | abortIfTeardown
  | record (commit : DuplexRestartSession → DuplexRestartSession)
  | call (call : StageCall) (failedPhase : DuplexRestartPhase) (cause : DuplexRestartFailureCause)
      (commit : Option (DeviceAnswer → DuplexRestartSession → DuplexRestartSession))

/-- The stages in order, up to the first that ends the start. -/
def runStages (t : StartContext) :
    List Stage → DuplexRestartSession → Op (Except IOReturn DuplexRestartSession)
  | [], session => return .ok session
  | .abortIfTeardown :: stages, session => do
    if ← teardownRequested then return .error .aborted
    runStages t stages session
  | .record commit :: stages, session => do
    let session := commit session
    storeSession session
    runStages t stages session
  | .call call failedPhase cause commit :: stages, session => do
    let answer ← call.run
    if answer.status ≠ .success then
      let status ← t.rollbackToFailure session answer.status failedPhase cause
      return .error status
    if !(← t.isRestartEpochCurrent) then
      let status ← t.rollbackToInvalidation session failedPhase cause
      return .error status
    match commit with
    | none => runStages t stages session
    | some commit =>
      let session := commit answer session
      storeSession session
      runStages t stages session

def prepareStages (desiredClock : AudioClockConfig) : List Stage :=
  [.abortIfTeardown,
   .call (.device (.prepareDuplex desiredClock)) .preparingDevice .prepare
    (some fun answer session => { session with
      ownerClaimed := true
      devicePrepared := true
      generation := answer.generation
      appliedClock := answer.appliedClock
      phase := .prepared })]

def reserveStages (channels : DuplexStreamProfile) : List Stage :=
  .abortIfTeardown ::
  (List.range channels.playbackStreamCount).map (fun stream =>
    .call (.host (.reservePlaybackResources stream)) .reservingPlaybackResources .reservePlayback
      none) ++
  [.record fun session => { session with
      phase := .reservingPlaybackResources
      hostPlaybackReserved := true },
   .abortIfTeardown] ++
  (List.range channels.captureStreamCount).map (fun stream =>
    .call (.host (.reserveCaptureResources stream)) .reservingCaptureResources .reserveCapture
      none) ++
  [.record fun session => { session with
      phase := .reservingCaptureResources
      hostCaptureReserved := true }]

def prepareHostStages (channels : DuplexStreamProfile) : DuplexHostDirection → List Stage
  | .receive =>
    [.abortIfTeardown, .call (.host .prepareReceive) .startingHostReceive .startReceive none] ++
    (List.range' 1 (channels.captureStreamCount - 1)).flatMap fun stream =>
      [.abortIfTeardown,
       .call (.host (.prepareReceiveStream stream)) .startingHostReceive .startReceive none]
  | .transmit =>
    [.abortIfTeardown, .call (.host .prepareTransmit) .startingHostTransmit .startTransmit none] ++
    (List.range' 1 (channels.playbackStreamCount - 1)).flatMap fun stream =>
      [.abortIfTeardown,
       .call (.host (.prepareTransmitStream stream)) .startingHostTransmit .startTransmit none]

def clockLockStages (profile : DuplexStreamProfile) : List Stage :=
  if profile.requiresPreStreamClockLock then
    [.record fun session => { session with phase := .waitingGlobalClock }, .abortIfTeardown,
     .call (.device .waitForStableGlobalClock) .waitingGlobalClock .globalClockLock none]
  else []

def startHostStages : DuplexHostDirection → List Stage
  | .receive =>
    [.abortIfTeardown,
     .call (.host .startPreparedReceive) .startingHostReceive .startReceive
      (some fun _ session => { session with
        phase := .startingHostReceive
        hostReceiveStarted := true })]
  | .transmit =>
    [.abortIfTeardown,
     .call (.host .startPreparedTransmit) .startingHostTransmit .startTransmit
      (some fun _ session => { session with
        phase := .startingHostTransmit
        hostTransmitStarted := true })]

/-- Whether the direction's host context runs before the matching device stage. -/
def DuplexStreamProfile.startsEarly (profile : DuplexStreamProfile) : DuplexHostDirection → Bool
  | .receive => profile.startReceiveBeforeDeviceRx
  | .transmit => profile.startTransmitBeforeDeviceTx

def programStages (profile : DuplexStreamProfile) : List Stage :=
  (if profile.startsEarly .receive then startHostStages .receive else []) ++
  [.abortIfTeardown,
   .call (.device .programRx) .programmingDeviceRx .programRx
    (some fun answer session => { session with
      generation := answer.generation
      deviceRxProgrammed := true
      phase := .deviceRxProgrammed })] ++
  (if profile.startsEarly .transmit then startHostStages .transmit else []) ++
  [.abortIfTeardown,
   .call (.device .programTxAndEnableDuplex) .programmingDeviceTx .programTx
    (some fun answer session => { session with
      generation := answer.generation
      deviceTxArmed := true
      phase := .deviceTxArmed }),
   .abortIfTeardown] ++
  profile.startOrder.flatMap fun direction =>
    if profile.startsEarly direction then [] else startHostStages direction

/-- What is left of the start once every stage before the confirmation succeeded. -/
def confirmStart (t : StartContext) (session : DuplexRestartSession) : Op IOReturn := do
  if ← teardownRequested then return .aborted
  let confirm ← device .confirmDuplexStart
  if confirm.status ≠ .success then
    return ← t.rollbackToFailure session confirm.status .confirmingDeviceStart .confirmStart
  if !(← t.isRestartEpochCurrent) then
    return ← t.rollbackToInvalidation session .confirmingDeviceStart .confirmStart
  let session := { session with phase := .confirmingDeviceStart }
  match ← setSessionState session .running with
  | none => t.rollbackToFailure session .internalError .confirmingDeviceStart .confirmStart
  | some session =>
    let session := { session with
      phase := .running
      generation := confirm.generation
      deviceRunning := true
      appliedClock := confirm.appliedClock }
    storeSession session.clearFailureSnapshot
    return .success

/-- The start from its claim on the host transport on. -/
def startDuplex (t : StartContext) (channels : DuplexStreamProfile)
    (session : DuplexRestartSession) : Op IOReturn := do
  if ← teardownRequested then return .aborted
  let claimStatus ← host .beginSplitDuplex
  if claimStatus ≠ .success then
    return ← t.finalizeFailure session claimStatus .preparingDevice .prepare .stageFailure false
      .success true true
  let session := { session with hostDuplexClaimed := true }
  storeSession session
  match ← runStages t (prepareStages t.desiredClock) session with
  | .error status => return status
  | .ok session =>
    match ← runStages t (reserveStages channels) session with
    | .error status => return status
    | .ok session =>
      let profile ← resolveProfile
      let stages := profile.prepareOrder.flatMap (prepareHostStages channels) ++
        clockLockStages profile ++ programStages profile
      match ← runStages t stages session with
      | .error status => return status
      | .ok session => confirmStart t session

/-- `DuplexStartTransaction::Run`. -/
def runTransaction (record : DuplexRecord) (session : DuplexRestartSession)
    (desiredClock : AudioClockConfig) (reason : DuplexRestartReason) : Op IOReturn := do
  let desiredClock : AudioClockConfig :=
    if record.startRatePinHz ≠ 0 then ⟨record.startRatePinHz⟩ else desiredClock
  if ← teardownRequested then return .aborted
  match ← currentRoute with
  | none => return .notReady
  | some route =>
    if !(← isCurrent route) then return .notReady
    let _ ← device .ensureRuntimeStreamGeometry
    let channels ← resolveProfile
    let restartId ← allocateRestartId
    let t : StartContext := ⟨restartId, route, reason, desiredClock⟩
    if !(← irmClient) then
      return ← t.finalizeFailure session .notReady .preparingDevice .prepare .missingDependency
        false .success false false
    if !(← bindingSource) then
      return ← t.finalizeFailure session .notReady .preparingDevice .prepare .missingDependency
        false .success false true
    let session := t.label session
    match ← enterIdle session with
    | none => t.rollbackToFailure session .internalError .preparingDevice .prepare
    | some session =>
      match ← setSessionState session (lifecycleForStart reason) with
      | none => t.rollbackToFailure session .internalError .preparingDevice .prepare
      | some session =>
        let session := { session with phase := .preparingDevice }
        storeSession session
        startDuplex t channels session

def runDuplexStart (record : DuplexRecord) (session : DuplexRestartSession)
    (desiredClock : AudioClockConfig) (reason : DuplexRestartReason) : Op IOReturn := do
  if !(← endpointStartGuard) then return .notReady
  runTransaction record session desiredClock reason

/-! ### The idle clock change -/

/-- `ApplyIdleClock`. -/
def runIdleClockApply (session : DuplexRestartSession) (topologyGeneration : ℕ)
    (desiredClock : AudioClockConfig) (reason : DuplexRestartReason) : Op IOReturn := do
  if ← teardownRequested then return .aborted
  match ← currentRoute with
  | none => return .notReady
  | some route =>
    if !(← isCurrent route) then return .notReady
    let restartId ← allocateRestartId
    let t : StartContext := ⟨restartId, route, reason, desiredClock⟩
    let session := { session with
      restartId := restartId
      route := some route
      generation := topologyGeneration
      topologyGeneration := topologyGeneration
      reason := reason }
    match ← enterIdle session with
    | none => return .internalError
    | some session =>
      match ← setSessionState session .applyingIdleClock with
      | none => return .internalError
      | some session =>
        let session := { session with phase := .preparingDevice }
        storeSession session
        let apply ← device (.applyClockConfig desiredClock)
        if apply.status ≠ .success then
          let session := { session with lastFailure := some (session.issue .preparingDevice
            .stageFailure .idleClockApply apply.status (isRetryableStatus apply.status) false
            .success true true) }
          let session ← enterFailed session
          storeSession session
          return apply.status
        if !(← t.isRestartEpochCurrent) then
          let stopped ← isStopRequested
          let session := { session with lastInvalidation := some (session.issue .preparingDevice
            (if stopped then .stopIntent else .epochInvalidated) .idleClockApply .aborted true false
            .success true true) }
          let session := session.clearFailureSnapshot
          let session := (← enterIdle session).getD session
          storeSession session
          return .aborted
        let session := { session with
          generation := apply.generation
          appliedClock := apply.appliedClock }
        let session := session.clearFailureSnapshot
        let session := (← enterIdle session).getD session
        storeSession session
        return .success

end ASFireWire.Duplex
