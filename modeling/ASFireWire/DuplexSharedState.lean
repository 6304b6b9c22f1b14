import ASFireWire.DuplexControlTypes
import ASFireWire.Programs

/-! What the operations on one GUID share under the coordinator's lock: the operation gate, the
stored session and the clock request broker. Each critical section, and each call out of the
coordinator, is one action. -/
namespace ASFireWire.Duplex

open Programs

structure DuplexOperationGate where
  active : Bool := false
  stopRequested : Bool := false
  remoteLost : Bool := false
  deriving DecidableEq, Repr

structure PendingClockRequest where
  desiredClock : AudioClockConfig
  reason : DuplexRestartReason
  token : ℕ
  deriving DecidableEq, Repr

def kMaxCompletedClockRequestsPerGuid : ℕ := 32

/-- `completed` is in insertion order; `cancel` is the teardown token. -/
structure SharedState where
  gate : DuplexOperationGate := {}
  session : Option DuplexRestartSession := none
  nextRestartId : ℕ := 1
  pending : Option PendingClockRequest := none
  completed : List DuplexClockRequestCompletion := []
  nextClockToken : ℕ := 1
  cancel : Bool := false
  deriving DecidableEq, Repr

/-! ### Actions -/

inductive DuplexHostDirection | receive | transmit
  deriving DecidableEq, Repr

inductive HostCall
  | beginSplitDuplex | reservePlaybackResources (stream : ℕ) | reserveCaptureResources (stream : ℕ)
  | prepareReceive | prepareReceiveStream (stream : ℕ) | prepareTransmit
  | prepareTransmitStream (stream : ℕ) | startPreparedReceive | startPreparedTransmit
  | stopPreparedReceive | stopPreparedTransmit | stopAll
  deriving DecidableEq, Repr

inductive DeviceCall
  | ensureRuntimeStreamGeometry | prepareDuplex (desiredClock : AudioClockConfig) | programRx
  | programTxAndEnableDuplex | confirmDuplexStart | waitForStableGlobalClock
  | breakBothConnections | disconnectPlayback | disconnectCapture | stopDuplex
  | applyClockConfig (desiredClock : AudioClockConfig)
  deriving DecidableEq, Repr

/-- The status the caller sees, a timeout included, and the values a success comes with. -/
structure DeviceAnswer where
  status : IOReturn := .success
  generation : ℕ := 0
  appliedClock : AudioClockConfig := {}
  deriving DecidableEq, Repr

/-- What `RequireDuplexRecord` finds of the device. -/
structure DuplexRecord where
  startRatePinHz : ℕ := 0
  gen : ℕ := 0
  deriving DecidableEq, Repr

structure DuplexStreamProfile where
  playbackStreamCount : ℕ := 1
  captureStreamCount : ℕ := 1
  startReceiveBeforeDeviceRx : Bool := false
  startTransmitBeforeDeviceTx : Bool := false
  requiresPreStreamClockLock : Bool := true
  prepareOrder : List DuplexHostDirection := [.receive, .transmit]
  startOrder : List DuplexHostDirection := [.receive, .transmit]
  disconnectsBeforeStopping : Bool := false
  deriving DecidableEq, Repr

/-- What the critical section of `RequestClockConfig` decides. -/
inductive ClockSubmission
  | refused
  | queued (token : ℕ) (superseded : Option PendingClockRequest)
  | launched (token : ℕ)
  deriving DecidableEq, Repr

/-- `forUpdate` tells a copy of the session that is stored back from one that is only read. -/
inductive CoordinatorAction
  | teardownRequested
  | acquire | release | requestStop | clearStop | markRemoteDeviceLost
  | acknowledgeDevicePresent | isStopRequested
  | loadSession (forUpdate : Bool) | getSession (forUpdate : Bool)
  | storeSession (session : DuplexRestartSession) | allocateRestartId
  | submitClockRequest (desiredClock : AudioClockConfig) (reason : DuplexRestartReason)
  | tryConsumePending | complete (completion : DuplexClockRequestCompletion)
  | tryTakeCompleted (token : ℕ)
  | endpointStartGuard | requireDuplexRecord | currentRoute
  | isCurrent (route : Discovery.DeviceRouteToken) | irmClient | bindingSource | resolveProfile
  | host (call : HostCall) | device (call : DeviceCall)
  | illegalTransition (source target : DuplexLifecycleKind)
  deriving DecidableEq, Repr

abbrev Answer : CoordinatorAction → Type
  | .teardownRequested | .acquire | .isStopRequested | .endpointStartGuard | .isCurrent _
  | .irmClient | .bindingSource => Bool
  | .release | .requestStop | .clearStop | .markRemoteDeviceLost | .acknowledgeDevicePresent
  | .storeSession _ | .complete _ | .illegalTransition _ _ => Unit
  | .loadSession _ => DuplexRestartSession
  | .getSession _ => Option DuplexRestartSession
  | .allocateRestartId => ℕ
  | .submitClockRequest _ _ => ClockSubmission
  | .tryConsumePending => Option PendingClockRequest
  | .tryTakeCompleted _ => Option DuplexClockRequestCompletion
  | .requireDuplexRecord => Option DuplexRecord
  | .currentRoute => Option Discovery.DeviceRouteToken
  | .resolveProfile => DuplexStreamProfile
  | .host _ => IOReturn
  | .device _ => DeviceAnswer

namespace SharedState

/-- The fields of a session that the broker writes under the lock. -/
def queuePending (s : SharedState) (request : PendingClockRequest) :
    SharedState × Option PendingClockRequest :=
  ({ s with
    pending := some request
    session := s.session.map fun session => { session with
      pendingClock := request.desiredClock
      pendingReason := request.reason
      hasPendingClockRequest := true } }, s.pending)

def submitClockRequest (s : SharedState) (desiredClock : AudioClockConfig)
    (reason : DuplexRestartReason) : SharedState × ClockSubmission :=
  if s.gate.stopRequested then (s, .refused)
  else
    let token := s.nextClockToken
    let s := { s with nextClockToken := token + 1 }
    if s.gate.active then
      let (s, superseded) := s.queuePending ⟨desiredClock, reason, token⟩
      (s, .queued token superseded)
    else ({ s with gate.active := true }, .launched token)

def tryConsumePending (s : SharedState) : SharedState × Option PendingClockRequest :=
  match s.pending with
  | none => (s, none)
  | some request =>
    ({ s with
      pending := none
      session := s.session.map fun session => { session with
        pendingClock := {}
        pendingReason := .initialStart
        hasPendingClockRequest := false } }, some request)

def complete (s : SharedState) (completion : DuplexClockRequestCompletion) : SharedState :=
  let completed :=
    if s.completed.any (·.token = completion.token) then
      s.completed.map fun c => if c.token = completion.token then completion else c
    else s.completed ++ [completion]
  { s with
    completed := completed.drop (completed.length - kMaxCompletedClockRequestsPerGuid)
    session := s.session.map fun session => { session with
      lastClockCompletion := some completion } }

def tryTakeCompleted (s : SharedState) (token : ℕ) :
    SharedState × Option DuplexClockRequestCompletion :=
  match s.completed.find? (·.token = token) with
  | none => (s, none)
  | some completion =>
    ({ s with completed := s.completed.filter (·.token ≠ token) }, some completion)

/-- `ClearSession`, one critical section. -/
def clearSession (s : SharedState) : SharedState :=
  { s with
    session := none
    pending := none
    completed := []
    gate := { s.gate with active := false, stopRequested := false } }

/-- One action; what the shared state does not decide is answered from outside. -/
def perform (s : SharedState) (answers : ∀ a, Answer a) :
    (a : CoordinatorAction) → SharedState × Answer a
  | .teardownRequested => (s, s.cancel)
  | .acquire => ({ s with gate.active := true }, !s.gate.active)
  | .release => ({ s with gate.active := false }, ())
  | .requestStop => ({ s with gate.stopRequested := true }, ())
  | .clearStop => ({ s with gate.stopRequested := false }, ())
  | .markRemoteDeviceLost => ({ s with gate.remoteLost := true }, ())
  | .acknowledgeDevicePresent => ({ s with gate.remoteLost := false }, ())
  | .isStopRequested => (s, s.gate.stopRequested || s.gate.remoteLost)
  | .loadSession _ => (s, s.session.getD {})
  | .getSession _ => (s, s.session)
  | .storeSession session => ({ s with session := some session }, ())
  | .allocateRestartId => ({ s with nextRestartId := s.nextRestartId + 1 }, s.nextRestartId)
  | .submitClockRequest desiredClock reason => s.submitClockRequest desiredClock reason
  | .tryConsumePending => s.tryConsumePending
  | .complete completion => (s.complete completion, ())
  | .tryTakeCompleted token => s.tryTakeCompleted token
  | .endpointStartGuard => (s, answers .endpointStartGuard)
  | .requireDuplexRecord => (s, answers .requireDuplexRecord)
  | .currentRoute => (s, answers .currentRoute)
  | .isCurrent route => (s, answers (.isCurrent route))
  | .irmClient => (s, answers .irmClient)
  | .bindingSource => (s, answers .bindingSource)
  | .resolveProfile => (s, answers .resolveProfile)
  | .host call => (s, answers (.host call))
  | .device call => (s, answers (.device call))
  | .illegalTransition _ _ => (s, ())

end SharedState

/-! ### The actions as programs -/

abbrev Op : Type → Type := Program CoordinatorAction Answer

namespace Op

abbrev teardownRequested : Op Bool := Program.perform CoordinatorAction.teardownRequested

abbrev tryAcquireGuid : Op Bool := Program.perform CoordinatorAction.acquire

abbrev releaseGuid : Op Unit := Program.perform CoordinatorAction.release

abbrev requestStopIntent : Op Unit := Program.perform CoordinatorAction.requestStop

abbrev clearStopIntent : Op Unit := Program.perform CoordinatorAction.clearStop

abbrev markRemoteDeviceLost : Op Unit := Program.perform CoordinatorAction.markRemoteDeviceLost

abbrev acknowledgeDevicePresent : Op Unit :=
  Program.perform CoordinatorAction.acknowledgeDevicePresent

abbrev isStopRequested : Op Bool := Program.perform CoordinatorAction.isStopRequested

abbrev loadSession (forUpdate : Bool) : Op DuplexRestartSession :=
  Program.perform (CoordinatorAction.loadSession forUpdate)

abbrev getSession (forUpdate : Bool) : Op (Option DuplexRestartSession) :=
  Program.perform (CoordinatorAction.getSession forUpdate)

abbrev storeSession (session : DuplexRestartSession) : Op Unit :=
  Program.perform (CoordinatorAction.storeSession session)

abbrev allocateRestartId : Op ℕ := Program.perform CoordinatorAction.allocateRestartId

abbrev submitClockRequest (desiredClock : AudioClockConfig) (reason : DuplexRestartReason) :
    Op ClockSubmission :=
  Program.perform (CoordinatorAction.submitClockRequest desiredClock reason)

abbrev tryConsumePending : Op (Option PendingClockRequest) :=
  Program.perform CoordinatorAction.tryConsumePending

abbrev complete (completion : DuplexClockRequestCompletion) : Op Unit :=
  Program.perform (CoordinatorAction.complete completion)

abbrev tryTakeCompleted (token : ℕ) : Op (Option DuplexClockRequestCompletion) :=
  Program.perform (CoordinatorAction.tryTakeCompleted token)

abbrev endpointStartGuard : Op Bool := Program.perform CoordinatorAction.endpointStartGuard

abbrev requireDuplexRecord : Op (Option DuplexRecord) :=
  Program.perform CoordinatorAction.requireDuplexRecord

abbrev currentRoute : Op (Option Discovery.DeviceRouteToken) :=
  Program.perform CoordinatorAction.currentRoute

abbrev isCurrent (route : Discovery.DeviceRouteToken) : Op Bool :=
  Program.perform (CoordinatorAction.isCurrent route)

abbrev irmClient : Op Bool := Program.perform CoordinatorAction.irmClient

abbrev bindingSource : Op Bool := Program.perform CoordinatorAction.bindingSource

abbrev resolveProfile : Op DuplexStreamProfile := Program.perform CoordinatorAction.resolveProfile

abbrev host (call : HostCall) : Op IOReturn := Program.perform (CoordinatorAction.host call)

abbrev device (call : DeviceCall) : Op DeviceAnswer := Program.perform (CoordinatorAction.device call)

abbrev illegalTransition (source target : DuplexLifecycleKind) : Op Unit :=
  Program.perform (CoordinatorAction.illegalTransition source target)

end Op

end ASFireWire.Duplex
