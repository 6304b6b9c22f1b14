import ASFireWire.DuplexStartTransaction

/-! The coordinator's operations on one GUID. An operation that loops without a bound goes on as
another program. -/
namespace ASFireWire.Duplex

open Programs Op

/-- `kSyncBridgeTimeoutMs / kSyncBridgePollMs`. -/
def claimPolls : ℕ := 1200

/-- `kClockRequestWaitTimeoutMs / kSyncBridgePollMs`. -/
def clockRequestPolls : ℕ := 1500

/-- How a program ends: the call returns, or it goes round one of its loops. -/
inductive Next
  | returned (status : IOReturn)
  | drainPending
  | clockRequestLoop (current : PendingClockRequest) (awaited : ℕ)
  deriving DecidableEq, Repr

inductive Claim | acquired | timedOut | tornDown
  deriving DecidableEq, Repr

/-- Polls for the GUID. -/
def claimGuid : ℕ → Op Claim
  | 0 => return .timedOut
  | polls + 1 => do
    if ← tryAcquireGuid then return .acquired
    if ← teardownRequested then return .tornDown
    claimGuid polls

/-! ### Clock requests -/

/-- What becomes of a request, labelled with the session as it is then. -/
def completeClockRequest (request : PendingClockRequest) (outcome : DuplexClockRequestOutcome)
    (status : IOReturn) : Op Unit := do
  let session ← loadSession false
  complete {
    token := request.token
    desiredClock := request.desiredClock
    reason := request.reason
    outcome := outcome
    status := status
    restartId := session.restartId
    generation := session.topologyGeneration }

def failPendingClockRequest (outcome : DuplexClockRequestOutcome) (status : IOReturn) :
    Op Unit := do
  match ← tryConsumePending with
  | none => return ()
  | some request => completeClockRequest request outcome status

/-- `ApplyClockRequest`. -/
def applyClockRequest (request : PendingClockRequest) : Op IOReturn := do
  if !(← endpointStartGuard) then return .notReady
  if ← isStopRequested then return .aborted
  if ← teardownRequested then return .aborted
  match ← requireDuplexRecord with
  | none => return .notReady
  | some record =>
    if !request.desiredClock.isSupported then return .unsupported
    let session ← loadSession true
    if session.hasAnyRestartState ∨ session.phase = .running ∨ session.lifecycle = .running ∨
        session.lifecycle = .recovering ∨ session.lifecycle = .failed then
      if ← teardownRequested then return .aborted
      let (stopStatus, session) ← runDuplexStop session
      if stopStatus ≠ .success then return stopStatus
      if ← teardownRequested then return .aborted
      runDuplexStart record session request.desiredClock request.reason
    else
      if ← teardownRequested then return .aborted
      runIdleClockApply session record.gen request.desiredClock request.reason

/-- Completes `request` as aborted, and one queued behind it. -/
def abortClockRequests (request : PendingClockRequest) : Op Unit := do
  completeClockRequest request .abortedByStop .aborted
  failPendingClockRequest .abortedByStop .aborted

def appliedOutcome (status : IOReturn) : DuplexClockRequestOutcome :=
  if status = .success then .applied else .failed

/-- Waits for the completion of a request. -/
def awaitCompletion (token : ℕ) : ℕ → Op Next
  | 0 => return .returned .timeout
  | polls + 1 => do
    match ← tryTakeCompleted token with
    | some completion => return .returned completion.status
    | none =>
      if ← teardownRequested then return .returned .aborted
      awaitCompletion token polls

/-- `RunClockRequestLoop` is over. -/
def endClockRequestLoop (awaited : ℕ) : Op Next := do
  releaseGuid
  awaitCompletion awaited clockRequestPolls

/-- Whether the loops of clock requests end here. -/
def stopOrTeardown : Op Bool := do
  if ← isStopRequested then return true
  teardownRequested

/-- One round of `RunClockRequestLoop`. -/
def clockRequestRound (current : PendingClockRequest) (awaited : ℕ) : Op Next := do
  if ← stopOrTeardown then
    abortClockRequests current
    endClockRequestLoop awaited
  else
    let status ← applyClockRequest current
    if ← stopOrTeardown then
      abortClockRequests current
      endClockRequestLoop awaited
    else
      completeClockRequest current (appliedOutcome status) status
      match ← tryConsumePending with
      | none => endClockRequestLoop awaited
      | some next => return .clockRequestLoop next awaited

def requestClockConfig (desiredClock : AudioClockConfig) (reason : DuplexRestartReason) :
    Op Next := do
  if !(← endpointStartGuard) then return .returned .notReady
  if ← teardownRequested then return .returned .aborted
  if !desiredClock.isSupported then return .returned .unsupported
  let session ← loadSession false
  match ← submitClockRequest desiredClock reason with
  | .refused => return .returned .aborted
  | .queued token none => awaitCompletion token clockRequestPolls
  | .queued token (some superseded) =>
    complete {
      token := superseded.token
      desiredClock := superseded.desiredClock
      reason := superseded.reason
      outcome := .superseded
      status := .aborted
      restartId := session.restartId
      generation := session.topologyGeneration }
    awaitCompletion token clockRequestPolls
  | .launched token => return .clockRequestLoop ⟨desiredClock, reason, token⟩ token

/-! ### Start -/

/-- The clock a start asks for, newest choice first. -/
def startClock (record : DuplexRecord) (session : DuplexRestartSession) : AudioClockConfig :=
  if session.pendingClock.isSupported then session.pendingClock
  else if session.desiredClock.isSupported then session.desiredClock
  else if session.appliedClock.isSupported then session.appliedClock
  else ⟨if record.startRatePinHz ≠ 0 then record.startRatePinHz else 48000⟩

def endStart (status : IOReturn) : Op Next := do
  releaseGuid
  return .returned status

/-- `RunStartStreaming` up to its loop, which it enters once the stream runs. -/
def runStartStreaming : Op Next := do
  if ← teardownRequested then endStart .aborted
  else
    match ← requireDuplexRecord with
    | none =>
      failPendingClockRequest .failed .notReady
      endStart .notReady
    | some record =>
      let session ← loadSession true
      let desiredClock := startClock record session
      let reason := if session.hasRestartIntent then session.classifyRestartReason desiredClock
        else .initialStart
      let status ← runDuplexStart record session desiredClock reason
      if status ≠ .success then
        failPendingClockRequest .failed status
        endStart status
      else if ← isStopRequested then
        failPendingClockRequest .abortedByStop .aborted
        endStart .success
      else return .drainPending

/-- One round of the loop of `RunStartStreaming`. -/
def drainRound : Op Next := do
  match ← tryConsumePending with
  | none => endStart .success
  | some pending =>
    if ← isStopRequested then
      abortClockRequests pending
      endStart .success
    else
      let status ← applyClockRequest pending
      if ← isStopRequested then
        abortClockRequests pending
        endStart .success
      else
        completeClockRequest pending (appliedOutcome status) status
        return .drainPending

def startStreaming : Op Next := do
  if !(← endpointStartGuard) then return .returned .notReady
  if ← teardownRequested then return .returned .aborted
  if ← isStopRequested then return .returned .noDevice
  let _ ← loadSession false
  match ← claimGuid claimPolls with
  | .timedOut => return .returned .timeout
  | .tornDown => return .returned .aborted
  | .acquired => runStartStreaming

/-! ### Stop and recovery -/

def runStopStreaming : Op IOReturn := do
  if ← teardownRequested then return .aborted
  let existingSession ← getSession true
  if existingSession.any fun session =>
      !session.hasAnyRestartState && session.phase = .idle && session.lifecycle = .idle then
    return .success
  match ← requireDuplexRecord with
  | none =>
    let session ← loadSession true
    storeSession session.clearFailureSnapshot.clearRestartProgress
    return .noDevice
  | some _ =>
    -- the argument of `value_or` is evaluated whether it is used or not
    let loaded ← loadSession existingSession.isNone
    let (status, _) ← runDuplexStop (existingSession.getD loaded)
    return status

def stopStreaming : Op Next := do
  if ← teardownRequested then return .returned .aborted
  let _ ← loadSession false
  requestStopIntent
  failPendingClockRequest .abortedByStop .aborted
  match ← claimGuid claimPolls with
  | .timedOut =>
    clearStopIntent
    return .returned .timeout
  | .tornDown =>
    clearStopIntent
    return .returned .aborted
  | .acquired =>
    let status ← runStopStreaming
    failPendingClockRequest .abortedByStop .aborted
    clearStopIntent
    endStart status

/-- The session a recovery goes by: where the reason is a fault it is recorded first. -/
def recordRecovery (session : DuplexRestartSession) (reason : DuplexRestartReason) :
    Op DuplexRestartSession := do
  if isRecoveryReason reason then
    let session := { session with lastInvalidation := some (session.issue session.phase
      .epochInvalidated (failureCauseForReason reason) .aborted true false .success true true) }
    storeSession session
    return session
  else return session

/-- The clock a recovery restarts with. -/
def recoveryClock (record : DuplexRecord) (session : DuplexRestartSession) : AudioClockConfig :=
  if session.desiredClock.sampleRateHz ≠ 0 then session.desiredClock
  else if session.appliedClock.sampleRateHz ≠ 0 then session.appliedClock
  else ⟨if record.startRatePinHz ≠ 0 then record.startRatePinHz else 48000⟩

/-- The recovery policy gave the session up. -/
def failSession (record : Option DuplexRecord) (session : DuplexRestartSession)
    (reason : DuplexRestartReason) : Op IOReturn := do
  let terminalStatus : IOReturn := if record.isNone then .notReady
    else (session.lastFailure.map (·.status)).getD .unsupported
  let session := if record.isNone then { session with lastFailure := some (session.issue
      session.phase .missingDependency (failureCauseForReason reason) terminalStatus false false
      .success false false) }
    else session
  let session ← enterFailed session
  storeSession session
  return terminalStatus

/-- The recovery policy restarts the session. -/
def restartSession (record : DuplexRecord) (session : DuplexRestartSession)
    (reason : DuplexRestartReason) : Op IOReturn := do
  let desiredClock := recoveryClock record session
  if session.hasAnyRestartState ∨ session.phase = .running then
    if ← teardownRequested then return .aborted
    let (stopStatus, session) ← runDuplexStop session
    if stopStatus ≠ .success then return stopStatus
    if ← stopOrTeardown then return .aborted
    runDuplexStart record session desiredClock reason
  else
    if ← stopOrTeardown then return .aborted
    runDuplexStart record session desiredClock reason

def runRecoveryStreaming (reason : DuplexRestartReason) : Op IOReturn := do
  if ← teardownRequested then return .aborted
  let record ← requireDuplexRecord
  let session ← recordRecovery (← loadSession true) reason
  let stopRequested ← isStopRequested
  let decision := evaluateRecoveryPolicy {
    state := session.lifecycle
    stopRequested := stopRequested
    hasRestartIntent := session.hasRestartIntent
    hasHostFootprint := session.hasHostRestartState
    hasDeviceFootprint := session.hasDeviceRestartState
    hasDiceRecord := record.isSome
    hasProtocol := record.isSome
    lastFailureRetryable := session.lastFailure.any (·.retryable) }
  match decision.1, record with
  | .ignore, _ =>
    return if decision.2 = .suppressedByStop ∨ decision.2 = .idleApplyInvalidated then .aborted
      else .unsupported
  | .failSession, record => failSession record session reason
  | .restart, none => return .notReady
  | .restart, some record => restartSession record session reason

/-- Whether the recovery still concerns the session, once it has the GUID. -/
def recoveryCurrent (expectedRestartId : ℕ) : Op Bool := do
  let current ← getSession false
  if ← isStopRequested then return false
  if expectedRestartId = 0 then return true
  if current.all (·.restartId ≠ expectedRestartId) then return false
  let session ← getSession false
  return session.any (·.deviceRunning)

def recoverStreaming (reason : DuplexRestartReason) (expectedRestartId : ℕ) : Op Next := do
  if !(← endpointStartGuard) then return .returned .notReady
  if ← teardownRequested then return .returned .aborted
  if ← isStopRequested then return .returned .aborted
  let _ ← loadSession false
  match ← claimGuid claimPolls with
  | .timedOut => return .returned .timeout
  | .tornDown => return .returned .aborted
  | .acquired =>
    if !(← recoveryCurrent expectedRestartId) then endStart .aborted
    else
      failPendingClockRequest .abortedByStop .aborted
      let status ← runRecoveryStreaming reason
      endStart status

/-! ### The calls -/

def cancelRemoteDevice : Op Next := do
  markRemoteDeviceLost
  failPendingClockRequest .abortedByStop .aborted
  return .returned .success

inductive Call
  | startStreaming
  | stopStreaming
  | requestClockConfig (desiredClock : AudioClockConfig) (reason : DuplexRestartReason)
  | recoverStreaming (reason : DuplexRestartReason) (expectedRestartId : ℕ)
  | cancelRemoteDevice
  | acknowledgeDevicePresent
  deriving DecidableEq, Repr

def Call.program : Call → Op Next
  | .startStreaming => Duplex.startStreaming
  | .stopStreaming => Duplex.stopStreaming
  | .requestClockConfig desiredClock reason => Duplex.requestClockConfig desiredClock reason
  | .recoverStreaming reason expectedRestartId => Duplex.recoverStreaming reason expectedRestartId
  | .cancelRemoteDevice => Duplex.cancelRemoteDevice
  | .acknowledgeDevicePresent => do
    Op.acknowledgeDevicePresent
    return .returned .success

/-- The program a call goes on with. -/
def Next.program : Next → Option (Op Next)
  | .returned _ => none
  | .drainPending => some drainRound
  | .clockRequestLoop current awaited => some (clockRequestRound current awaited)

end ASFireWire.Duplex
