import ASFireWire.PostResetTiming
import ASFireWire.TopologySpeed

/-! `BusResetCoordinator` (`Bus/BusResetCoordinator*.cpp`): the state machine that takes the
controller from a bus-reset edge through Self-ID decoding, the quiescing of the transmit
contexts and their rearming back to idle, and that issues every software bus reset. What the
coordinator calls on other parts is kept in `calls`, newest first; what it puts on its work
queue in `workQueue`. -/
namespace ASFireWire.BusReset

open ASFireWire.Topology

inductive State
  | idle | detecting | waitingSelfID | quiescingAT | restoringConfigROM | clearingBusReset
  | rearming | complete
  deriving DecidableEq, Repr

inductive StepResult | continue | yield | finish
  deriving DecidableEq, Repr

inductive ResetRequestKind
  | recovery | gapCorrection | delegation | manualBusManager | rolePolicyRestage
  deriving DecidableEq, Repr

inductive ResetFlavor | short | long
  deriving DecidableEq, Repr

inductive RecoveryReasonCode
  | none | selfIDDecodeFailed | selfIDTimeout | topologyBuildFailed | softwareResetDispatchFailed
  | readyForDiscoveryFailed | manualResetWatchdog
  deriving DecidableEq, Repr

inductive DecodeErrorCode
  | bufferUnavailable | controllerErrorBit | emptyCapture | countOverflow | nullMapAddress
  | generationMismatch | invalidInversePair | malformedSequence
  deriving DecidableEq, Repr

def decodeErrorCodeString : DecodeErrorCode → String
  | .bufferUnavailable => "BufferUnavailable"
  | .controllerErrorBit => "ControllerErrorBit"
  | .emptyCapture => "EmptyCapture"
  | .countOverflow => "CountOverflow"
  | .nullMapAddress => "NullMapAddress"
  | .generationMismatch => "GenerationMismatch"
  | .invalidInversePair => "InvalidInversePair"
  | .malformedSequence => "MalformedSequence"

def topologyBuildErrorCodeString : TopologyBuildErrorCode → String
  | .none => "None"
  | .invalidSelfID => "InvalidSelfID"
  | .emptySequenceSet => "EmptySequenceSet"
  | .nonContiguousPhysicalIds => "NonContiguousPhysicalIds"
  | .duplicatePhysicalId => "DuplicatePhysicalId"
  | .missingBasePacket => "MissingBasePacket"
  | .invalidExtendedPacketOrder => "InvalidExtendedPacketOrder"
  | .nonRootWithoutParentPort => "NonRootWithoutParentPort"
  | .rootHasParentPort => "RootHasParentPort"
  | .childPortWithEmptyStack => "ChildPortWithEmptyStack"
  | .poppedNodeHasNoUnresolvedParent => "PoppedNodeHasNoUnresolvedParent"
  | .unresolvedStackAfterRoot => "UnresolvedStackAfterRoot"
  | .reciprocalLinkMissing => "ReciprocalLinkMissing"
  | .edgeCountMismatch => "EdgeCountMismatch"
  | .localNodeUnavailable => "LocalNodeUnavailable"

inductive GapDecisionReason | mismatchForce63 | forcedGap | targetGap | zeroObservedGap
  deriving DecidableEq, Repr

def gapDecisionReasonString : GapDecisionReason → String
  | .mismatchForce63 => "MismatchForce63"
  | .forcedGap => "ForcedGap"
  | .targetGap => "TargetGap"
  | .zeroObservedGap => "ZeroObservedGap"

structure GapDecision where
  gapCount : ℕ := 0x3F
  reason : GapDecisionReason := .mismatchForce63
  deriving DecidableEq, Repr

structure PhyConfigCommand where
  gapCount : Option ℕ := none
  forceRootNodeID : Option ℕ := none
  setContender : Option Bool := none
  deriving DecidableEq, Repr

structure ResetRequest where
  kind : ResetRequestKind := .recovery
  flavor : ResetFlavor := .short
  phyConfig : Option PhyConfigCommand := none
  reason : String := ""
  gapDecisionReason : Option GapDecisionReason := none
  deriving DecidableEq, Repr

structure SelfIDLatchState where
  complete : Bool := false
  stickyComplete : Bool := false
  completeTimeNs : ℕ := 0
  stickyCompleteTimeNs : ℕ := 0
  deriving DecidableEq, Repr

/-- The time a consumed completion is dated to: the plain bit's where both are latched. -/
def SelfIDLatchState.completionTime (latch : SelfIDLatchState) : ℕ :=
  if latch.complete then latch.completeTimeNs else latch.stickyCompleteTimeNs

structure ResetTimingState where
  lastBusResetEdgeNs : ℕ := 0
  lastSelfIdCompletionNs : ℕ := 0
  softwareResetBlockedUntilNs : ℕ := 0
  deriving DecidableEq, Repr

/-- `SelfIDCapture::Result` as far as the coordinator reads it. -/
structure SelfIDResult where
  generation : ℕ := 0
  quads : List ℕ := []
  deriving DecidableEq, Repr

/-- A topology snapshot with the gap counts the reset policy reads. -/
structure AcceptedTopology extends TopologySnapshot where
  gapCount : ℕ := 0x3F
  gapCountConsistent : Bool := true

structure ResetCycleState where
  timing : ResetTimingState := {}
  acceptedSelfId : Option SelfIDResult := none
  acceptedTopology : Option AcceptedTopology := none
  pendingReset : Option ResetRequest := none
  recoveryReason : Option String := none

/-- The holdoff survives a new edge; only what the cycle collected is dropped. -/
def ResetCycleState.resetForNewEdge (cycle : ResetCycleState) : ResetCycleState :=
  { timing := cycle.timing }

structure BusResetMetrics where
  lastResetStart : ℕ := 0
  lastResetCompletion : ℕ := 0
  resetCount : UInt32 := 0
  abortCount : UInt32 := 0
  lastFailureReason : Option String := none

/-- Calls on the controller's other parts. `selfIDAccepted` marks a `DecodeSelfID` that returned
true, with the decoded generation and the time its completion is dated to; `readATContexts`
what `G_ATInactive` concluded from the two context registers. -/
inductive Call
  | abortScan (generation : ℕ)
  | invalidateTopology
  | invalidateTopologyMap
  | maskBusReset
  | unmaskBusReset
  | clearSelfIDInterrupts (complete sticky : Bool)
  | armSelfIDBuffer
  | selfIDAccepted (generation completionTime : ℕ)
  | confirmBusGeneration (generation : ℕ)
  | onBusResetBegin (nextGeneration : ℕ)
  | stopATContextsOnly
  | flushATContexts
  | readATContexts (inactive : Bool)
  | restoreConfigROM
  | noteStableGapObserved (gap : ℕ)
  | clearBusReset
  | enableFilters
  | rearmATContexts
  | onBusResetComplete (generation : ℕ)
  | setContender (contender : Bool)
  | sendPhyConfig (gapCount forceRootNodeID : Option ℕ) (reason : String)
  | initiateBusReset (shortReset : Bool) (timeNs : ℕ)
  | noteGapResetIssued (gap : ℕ) (reason : GapDecisionReason)
  | clearInFlightGapReset
  deriving DecidableEq, Repr

/-- Blocks the coordinator dispatches on its work queue. -/
inductive Work
  | runStateMachine
  | deferredRun (delayMs : ℕ)
  | manualResetWatchdog (manualEpoch resetEpoch : UInt32)
  | discovery (generation delayMs : ℕ)

/-- The parts `Initialize` may be given as null; the others are checked by its caller. -/
structure Dependencies where
  busManager : Bool := true
  romScanner : Bool := true
  topologyMapService : Bool := true
  topologyCallback : Bool := true

structure Coordinator where
  deps : Dependencies := {}
  state : State := .idle
  stateEntryTime : ℕ := 0
  /-- `workInProgress_` with the number of finished passes of the run under way. -/
  running : Option ℕ := none
  pendingBusResetEdge : Bool := false
  stopFlushIssued : Bool := false
  wasRoot : Bool := false
  metrics : BusResetMetrics := {}
  firstIrqTime : ℕ := 0
  busResetClearTime : ℕ := 0
  deferredRunScheduled : Bool := false
  selfIdLatch : SelfIDLatchState := {}
  cycle : ResetCycleState := {}
  postResetTiming : PostResetTimingState := {}
  busResetMasked : Bool := false
  lastGeneration : ℕ := 0
  filtersEnabled : Bool := false
  atArmed : Bool := false
  delegateAttemptActive : Bool := false
  delegateTarget : ℕ := 0xFF
  delegateRetryCount : ℕ := 0
  delegateSuppressed : Bool := false
  currentDiscoveryDelayMs : ℕ := 0
  previousScanHadBusyNodes : Bool := false
  resetEpoch : UInt32 := 0
  manualResetEpoch : UInt32 := 0
  softwareResetIssuedCount : UInt32 := 0
  busResetIrqCount : UInt32 := 0
  lastAcceptedGeneration : ℕ := 0
  lastTopologyNodeCount : ℕ := 0
  readyForDiscoveryFailureBits : UInt8 := 0
  lastRecoveryReasonCode : RecoveryReasonCode := .none
  lastResetKind : ResetRequestKind := .recovery
  manualRecoveryResetAttempts : UInt8 := 0
  discoveryCallbackCount : ℕ := 0
  /-- The monotonic clock and the stamp of the last interrupt. -/
  now : ℕ := 0
  lastIrqNs : ℕ := 0
  workQueue : List Work := []
  calls : List Call := []

/-- What the hardware and the other parts answer during one pass of the state machine; `none`
is a refused hardware access. -/
structure Answers where
  nodeID : Option UInt32 := none
  nodeIDRoot : Option UInt32 := none
  atContexts : Option (UInt32 × UInt32) := none
  decode : Option (Except DecodeErrorCode SelfIDResult) := none
  topology : Option (Except TopologyBuildErrorCode AcceptedTopology) := none
  gapPolicy : Option GapDecision := none
  writeAccess : Bool := true
  phyConfigSent : Bool := true
  resetInitiated : Bool := true

def kDeferredPollMs : ℕ := 1

def kSelfIDTimeoutMs : ℕ := 1000

def kAppleScanBusDelayMs : ℕ := 100

def kRepeatedResetHoldoffNs : ℕ := 2000000000

def kConservativeMismatchGapCount : ℕ := 0x3F

def kMaxManualRecoveryResetAttempts : UInt8 := 1

def kMaxDelegateRetries : ℕ := 5

def kDiscoveryDelayStepMs : ℕ := 2000

def kMaxDiscoveryDelayMs : ℕ := 10000

def kMaxIterations : ℕ := 12

def kContextControlActiveBit : UInt32 := 0x400

/-! ### Gates -/

def Answers.nodeIDValid (a : Answers) : Bool :=
  match a.nodeID with
  | none => false
  | some nodeId => nodeId &&& 0x80000000 != 0 && nodeId &&& 0x3F != 63

def Answers.isRoot (a : Answers) : Bool :=
  match a.nodeIDRoot with
  | none => false
  | some nodeId => nodeId &&& 0x40000000 != 0

def Answers.atInactive (a : Answers) : Bool :=
  match a.atContexts with
  | none => false
  | some (atReqControl, atRspControl) =>
    !(atReqControl &&& kContextControlActiveBit != 0) &&
      !(atRspControl &&& kContextControlActiveBit != 0)

namespace Coordinator

def hasSelfIDCompletion (c : Coordinator) : Bool :=
  c.selfIdLatch.complete || c.selfIdLatch.stickyComplete

def canAttemptSelfIDDecode (c : Coordinator) (a : Answers) : Bool :=
  a.nodeIDValid && c.hasSelfIDCompletion

/-! ### Bookkeeping -/

def call (c : Coordinator) (x : Call) : Coordinator := { c with calls := x :: c.calls }

def callWhen (c : Coordinator) (p : Bool) (x : Call) : Coordinator :=
  if p then c.call x else c

def dispatchAsync (c : Coordinator) (w : Work) : Coordinator :=
  { c with workQueue := c.workQueue ++ [w] }

def transitionTo (c : Coordinator) (newState : State) : Coordinator :=
  if c.state = newState then c
  else
    { c with
      metrics := if newState = .detecting then
          { c.metrics with resetCount := c.metrics.resetCount + 1 } else c.metrics
      firstIrqTime := if newState = .detecting then c.now else c.firstIrqTime
      busResetClearTime := if newState = .restoringConfigROM then c.now else c.busResetClearTime
      state := newState
      stateEntryTime := c.now }

def completeCurrentRun (c : Coordinator) : Coordinator := { c with running := none }

def yieldAndReschedule (c : Coordinator) (delayMs : ℕ) : Coordinator :=
  if c.deferredRunScheduled then c
  else { c with deferredRunScheduled := true }.dispatchAsync (.deferredRun delayMs)

def recordRecoveryReason (c : Coordinator) (reason : String) : Coordinator :=
  { c with
    cycle := { c.cycle with recoveryReason := some reason }
    metrics := { c.metrics with lastFailureReason := some reason } }

def recordRecoveryReasonCode (c : Coordinator) (code : RecoveryReasonCode) : Coordinator :=
  { c with lastRecoveryReasonCode := code }

/-! ### Software reset requests -/

def mergePhyConfig (base addition : PhyConfigCommand) : PhyConfigCommand where
  gapCount := addition.gapCount.or base.gapCount
  forceRootNodeID := addition.forceRootNodeID.or base.forceRootNodeID
  setContender := addition.setContender.or base.setContender

def strongerFlavor (lhs rhs : ResetFlavor) : ResetFlavor :=
  if lhs = .long ∨ rhs = .long then .long else .short

def mergedKind (lhs rhs : ResetRequestKind) : ResetRequestKind :=
  if lhs = .gapCorrection ∨ rhs = .gapCorrection then .gapCorrection
  else if lhs = .delegation ∨ rhs = .delegation then .delegation
  else if lhs = .manualBusManager ∨ rhs = .manualBusManager then .manualBusManager
  else if lhs = .rolePolicyRestage ∨ rhs = .rolePolicyRestage then .rolePolicyRestage
  else .recovery

def mergeResetRequests (current incoming : ResetRequest) : ResetRequest :=
  let phyConfig :=
    match current.phyConfig, incoming.phyConfig with
    | some base, some addition => some (mergePhyConfig base addition)
    | some base, none => some base
    | none, addition => addition
  let forceConservativeGap := current.gapDecisionReason = some .mismatchForce63 ∨
    incoming.gapDecisionReason = some .mismatchForce63
  { kind := mergedKind current.kind incoming.kind
    flavor := strongerFlavor current.flavor incoming.flavor
    phyConfig := if forceConservativeGap then
        some { phyConfig.getD {} with gapCount := some kConservativeMismatchGapCount }
      else phyConfig
    reason := if incoming.reason = "" then current.reason else incoming.reason
    gapDecisionReason := if forceConservativeGap then some .mismatchForce63
      else current.gapDecisionReason.or incoming.gapDecisionReason }

/-- The retry count of a delegation to `newTarget`, this attempt included. -/
def delegationAttempts (c : Coordinator) (newTarget : ℕ) : ℕ :=
  if newTarget ≠ c.delegateTarget then 1 else c.delegateRetryCount + 1

def queueReset (c : Coordinator) (request : ResetRequest) : Coordinator :=
  let c := { c with
    cycle := { c.cycle with
      pendingReset := match c.cycle.pendingReset with
        | some pending => some (mergeResetRequests pending request)
        | none => some request } }
  if c.state = .idle then c.dispatchAsync .runStateMachine else c

def requestSoftwareReset (c : Coordinator) (request : ResetRequest) : Coordinator :=
  if request.kind = .delegation ∧ c.delegateSuppressed = true then c
  else
    match request.phyConfig.bind (·.forceRootNodeID) with
    | some newTarget =>
      if request.kind = .delegation then
        let attempts := c.delegationAttempts newTarget
        let c := { c with delegateTarget := newTarget, delegateRetryCount := attempts }
        if kMaxDelegateRetries < attempts then { c with delegateSuppressed := true }
        else { c with delegateAttemptActive := true }.queueReset request
      else c.queueReset request
    | none => c.queueReset request

def requestUserReset (c : Coordinator) (shortReset : Bool) (reason : String) : Coordinator :=
  { c with
    manualResetEpoch := c.manualResetEpoch + 1
    manualRecoveryResetAttempts := 0 }.requestSoftwareReset {
      kind := .manualBusManager
      flavor := if shortReset then .short else .long
      reason := reason }

def requestConfigRomRestageReset (c : Coordinator) (reason : Option String) : Coordinator :=
  c.requestSoftwareReset {
    kind := .rolePolicyRestage
    flavor := .long
    reason := reason.getD "Config ROM re-stage" }

def requestRolePolicyReset (c : Coordinator) (targetRoot : ℕ) (longReset : Bool)
    (gapCount : Option ℕ) (setContender : Option Bool) (reason : String) : Coordinator :=
  c.requestSoftwareReset {
    kind := .delegation
    flavor := if longReset then .long else .short
    phyConfig := some {
      gapCount := gapCount, forceRootNodeID := some targetRoot, setContender := setContender }
    reason := if reason = "" then "RoleCoordinator" else reason }

def resetDelegationRetryCounter (c : Coordinator) : Coordinator :=
  { c with delegateRetryCount := 0, delegateSuppressed := false }

def clearDelegationAttempt (c : Coordinator) : Coordinator :=
  { c with
    delegateAttemptActive := false
    delegateTarget := 0xFF
    delegateRetryCount := 0
    delegateSuppressed := false }

def maybeRecoverMissingManualResetIrq (c : Coordinator) (manualEpoch resetEpoch : UInt32) :
    Coordinator :=
  if manualEpoch ≠ c.manualResetEpoch ∨ resetEpoch ≠ c.resetEpoch then c
  else if kMaxManualRecoveryResetAttempts ≤ c.manualRecoveryResetAttempts then
    (c.recordRecoveryReason "Manual reset watchdog reached bounded recovery limit")
      |>.recordRecoveryReasonCode .manualResetWatchdog
  else
    ({ c with manualRecoveryResetAttempts := c.manualRecoveryResetAttempts + 1 }
      |>.recordRecoveryReason "Manual reset watchdog did not observe busReset IRQ/topology"
      |>.recordRecoveryReasonCode .manualResetWatchdog).requestSoftwareReset {
        reason := "Manual reset watchdog recovery" }

/-! ### Issuing a software reset -/

def clearSoftwareResetTracking (c : Coordinator) (request : ResetRequest)
    (carriesDelegation : Bool) : Coordinator :=
  let c := c.callWhen (request.gapDecisionReason.isSome && c.deps.busManager)
    .clearInFlightGapReset
  if carriesDelegation then c.clearDelegationAttempt else c

def currentGapCountForBareReset (c : Coordinator) : Option ℕ :=
  match c.cycle.acceptedTopology with
  | none => none
  | some topology =>
    if !topology.gapCountConsistent then none
    else if topology.gapCount = kConservativeMismatchGapCount then none
    else some topology.gapCount

/-- Sends the PHY configuration packet that precedes the reset; false aborts the reset. -/
def applySoftwareResetPhyConfig (c : Coordinator) (a : Answers) (request : ResetRequest)
    (carriesDelegation : Bool) : Coordinator × Bool :=
  match request.phyConfig with
  | none =>
    match c.currentGapCountForBareReset with
    | none => (c, true)
    | some preservedGap =>
      let c := c.call (.sendPhyConfig (some preservedGap) none request.reason)
      if a.phyConfigSent then (c, true)
      else
        let c := c.recordRecoveryReason
          ("Gap-preserving PHY config dispatch failed: " ++ request.reason)
        (c.clearSoftwareResetTracking request carriesDelegation, false)
  | some command =>
    let c := match command.setContender with
      | some contender => c.call (.setContender contender)
      | none => c
    let c := c.call (.sendPhyConfig command.gapCount command.forceRootNodeID request.reason)
    if a.phyConfigSent then (c, true)
    else
      let c := c.recordRecoveryReason ("PHY config dispatch failed: " ++ request.reason)
      (c.clearSoftwareResetTracking request carriesDelegation, false)

def noteIssuedGapReset (c : Coordinator) (request : ResetRequest) : Coordinator :=
  match request.gapDecisionReason, request.phyConfig.bind (·.gapCount) with
  | some reason, some gap => c.callWhen c.deps.busManager (.noteGapResetIssued gap reason)
  | _, _ => c

def carriesDelegation (request : ResetRequest) : Bool :=
  match request.phyConfig with
  | some command => command.forceRootNodeID.isSome || command.setContender.isSome
  | none => false

def finishSoftwareReset (c : Coordinator) (a : Answers) (request : ResetRequest) : Coordinator :=
  let c := c.call (.initiateBusReset (request.flavor = .short) c.now)
  if !a.resetInitiated then
    ((c.recordRecoveryReason ("Software reset dispatch failed: " ++ request.reason))
      |>.recordRecoveryReasonCode .softwareResetDispatchFailed)
      |>.clearSoftwareResetTracking request (carriesDelegation request)
  else
    let c := c.noteIssuedGapReset request
    let c := { c with softwareResetIssuedCount := c.softwareResetIssuedCount + 1 }
    if request.kind = .manualBusManager then
      c.dispatchAsync (.manualResetWatchdog c.manualResetEpoch c.resetEpoch)
    else c

def dispatchSoftwareReset (c : Coordinator) (a : Answers) (request : ResetRequest) : Coordinator :=
  let c := { c with lastResetKind := request.kind }
  match c.applySoftwareResetPhyConfig a request (carriesDelegation request) with
  | (c, false) => c
  | (c, true) => c.finishSoftwareReset a request

def maybeDispatchPendingSoftwareReset (c : Coordinator) (a : Answers) : Coordinator :=
  match c.cycle.pendingReset with
  | none => c
  | some request =>
    let blockedUntil := c.cycle.timing.softwareResetBlockedUntilNs
    if blockedUntil ≠ 0 ∧ c.now < blockedUntil then
      c.yieldAndReschedule ((blockedUntil - c.now + 999999) / 1000000)
    else
      { c with cycle := { c.cycle with pendingReset := none } }.dispatchSoftwareReset a request

/-! ### Actions of the cycle -/

def maskBusReset (c : Coordinator) : Coordinator :=
  { c with busResetMasked := true }.call .maskBusReset

def unmaskBusReset (c : Coordinator) : Coordinator :=
  { c with busResetMasked := false }.call .unmaskBusReset

def forceUnmaskBusResetIfNeeded (c : Coordinator) : Coordinator :=
  if c.busResetMasked then c.unmaskBusReset else c

def clearStaleSelfIDComplete2 (c : Coordinator) (a : Answers) : Coordinator :=
  let c := c.callWhen a.writeAccess (.clearSelfIDInterrupts false true)
  { c with
    selfIdLatch := { c.selfIdLatch with stickyComplete := false, stickyCompleteTimeNs := 0 } }

def clearConsumedSelfIDInterrupts (c : Coordinator) (a : Answers) : Coordinator :=
  let c := c.callWhen (c.hasSelfIDCompletion && a.writeAccess)
    (.clearSelfIDInterrupts c.selfIdLatch.complete c.selfIdLatch.stickyComplete)
  { c with selfIdLatch := {} }

def stopFlushAT (c : Coordinator) : Coordinator :=
  let c := c.callWhen c.deps.topologyMapService .invalidateTopologyMap
  ((c.call (.onBusResetBegin ((c.lastGeneration + 1) % 256))).call .stopATContextsOnly).call
    .flushATContexts

def acceptSelfID (c : Coordinator) (decoded : SelfIDResult) : Coordinator :=
  ({ c with
      cycle := { c.cycle with acceptedSelfId := some decoded }
      lastGeneration := decoded.generation }.call
    (.selfIDAccepted decoded.generation c.selfIdLatch.completionTime)).call
    (.confirmBusGeneration (decoded.generation % 256))

def decodeSelfID (c : Coordinator) (a : Answers) : Coordinator × Bool :=
  match a.decode with
  | none => (c, false)
  | some (.error code) =>
    let c := c.recordRecoveryReason ("Self-ID decode failed: " ++ decodeErrorCodeString code)
    ({ c with cycle := { c.cycle with acceptedSelfId := none } }, false)
  | some (.ok decoded) => (c.acceptSelfID decoded, true)

/-- `TopologyManager::UpdateFromSelfID` is asked only with an accepted Self-ID capture. -/
def buildTopology (c : Coordinator) (a : Answers) : Coordinator :=
  match c.cycle.acceptedSelfId, a.topology with
  | some _, some (.error code) =>
    let c := c.recordRecoveryReason
      ("Topology build failed: " ++ topologyBuildErrorCodeString code)
    let c := c.recordRecoveryReasonCode .topologyBuildFailed
    { c with cycle := { c.cycle with acceptedTopology := none } }.callWhen
      c.deps.topologyMapService .invalidateTopologyMap
  | some _, some (.ok snapshot) =>
    { c with
      cycle := { c.cycle with acceptedTopology := some snapshot }
      lastAcceptedGeneration := snapshot.generation
      lastTopologyNodeCount := min snapshot.physical.nodes.length 0xFF }.callWhen
        (c.deps.busManager && snapshot.gapCountConsistent)
        (.noteStableGapObserved snapshot.gapCount)
  | _, _ => c

def maybeRequestTopologyDrivenReset (c : Coordinator) (a : Answers) : Coordinator :=
  if c.cycle.acceptedTopology.isNone || !c.deps.busManager then c
  else if c.cycle.acceptedSelfId.isNone then c
  else
    match a.gapPolicy with
    | none => c
    | some gapDecision =>
      if gapDecision.reason ≠ .mismatchForce63 then c
      else
        c.requestSoftwareReset {
          kind := .gapCorrection
          flavor := .long
          phyConfig := some { gapCount := some gapDecision.gapCount }
          reason := gapDecisionReasonString gapDecision.reason
          gapDecisionReason := some gapDecision.reason }

def armSoftwareResetHoldoffAfterSelfIDCompletion (c : Coordinator) (timestampNs : ℕ) :
    Coordinator :=
  { c with
    cycle := { c.cycle with
      timing := { c.cycle.timing with
        lastSelfIdCompletionNs := timestampNs
        softwareResetBlockedUntilNs := timestampNs + kRepeatedResetHoldoffNs } } }

def logMetrics (c : Coordinator) : Coordinator :=
  { c with
    metrics := { c.metrics with
      lastResetStart := c.firstIrqTime
      lastResetCompletion := c.now
      lastFailureReason := c.cycle.recoveryReason.or c.metrics.lastFailureReason } }

/-- A completion that arrives outside a reset cycle. -/
def handleStraySelfID (c : Coordinator) (a : Answers) : Coordinator :=
  if !c.hasSelfIDCompletion then c
  else if !c.canAttemptSelfIDDecode a then c.clearConsumedSelfIDInterrupts a
  else
    match c.decodeSelfID a with
    | (c, decoded) =>
      let c := c.clearConsumedSelfIDInterrupts a
      if decoded then c.transitionTo .quiescingAT else c

/-! ### The state machine -/

def beginNewResetCycle (c : Coordinator) (a : Answers) : Coordinator :=
  let c := { c with
    pendingBusResetEdge := false
    selfIdLatch := {}
    stopFlushIssued := false
    filtersEnabled := false
    atArmed := false
    cycle := c.cycle.resetForNewEdge
    postResetTiming := .onBusResetStarted c.lastGeneration c.now
    resetEpoch := c.resetEpoch + 1
    readyForDiscoveryFailureBits := 0 }
  let c := if c.deps.romScanner && 0 < c.lastGeneration then
      { c with metrics := { c.metrics with abortCount := c.metrics.abortCount + 1 } }.call
        (.abortScan c.lastGeneration)
    else c
  let c := c.call .invalidateTopology
  let c := c.callWhen c.deps.topologyMapService .invalidateTopologyMap
  ((c.transitionTo .detecting).maskBusReset).clearStaleSelfIDComplete2 a

def stepIdle (c : Coordinator) (a : Answers) : Coordinator × StepResult :=
  let c := if c.hasSelfIDCompletion then c.handleStraySelfID a else c
  if c.state ≠ .idle then (c, .continue)
  else (c.forceUnmaskBusResetIfNeeded.maybeDispatchPendingSoftwareReset a, .finish)

def stepDetecting (c : Coordinator) : Coordinator × StepResult :=
  ((c.call .armSelfIDBuffer).transitionTo .waitingSelfID, .continue)

/-- The holdoff is armed before the capture is decoded, so it also follows a failed decode. -/
def consumeSelfID (c : Coordinator) (a : Answers) : Coordinator :=
  let completionTime := c.selfIdLatch.completionTime
  match (c.armSoftwareResetHoldoffAfterSelfIDCompletion completionTime).decodeSelfID a with
  | (c, decoded) =>
    let c := c.clearConsumedSelfIDInterrupts a
    let c := if decoded then
        { c with postResetTiming := .onSelfIDComplete c.lastGeneration completionTime }
      else
        (c.recordRecoveryReasonCode .selfIDDecodeFailed).requestSoftwareReset {
          reason := "Self-ID decode failed" }
    c.transitionTo .quiescingAT

def abandonSelfID (c : Coordinator) (a : Answers) : Coordinator :=
  let c := c.recordRecoveryReason "Self-ID timeout"
  let c := c.recordRecoveryReasonCode .selfIDTimeout
  let c := c.clearConsumedSelfIDInterrupts a
  (c.requestSoftwareReset { reason := "Self-ID timeout" }).transitionTo .quiescingAT

def stepWaitingSelfID (c : Coordinator) (a : Answers) : Coordinator × StepResult :=
  if c.canAttemptSelfIDDecode a then (c.consumeSelfID a, .continue)
  else if kSelfIDTimeoutMs * kNanosecondsPerMillisecond ≤ c.now - c.stateEntryTime then
    (c.abandonSelfID a, .continue)
  else (c.yieldAndReschedule kDeferredPollMs, .yield)

def stopFlushOnce (c : Coordinator) : Coordinator :=
  if c.stopFlushIssued then c else { c with stopFlushIssued := true }.stopFlushAT

def stepQuiescingAT (c : Coordinator) (a : Answers) : Coordinator × StepResult :=
  let c := c.stopFlushOnce.call (.readATContexts a.atInactive)
  if a.atInactive then (c.transitionTo .restoringConfigROM, .continue)
  else (c.yieldAndReschedule kDeferredPollMs, .yield)

def stepRestoringConfigROM (c : Coordinator) (a : Answers) : Coordinator × StepResult :=
  let c := (c.call .restoreConfigROM).buildTopology a
  let c := if c.cycle.acceptedTopology.isSome then c.maybeRequestTopologyDrivenReset a else c
  (c.transitionTo .clearingBusReset, .continue)

def stepClearingBusReset (c : Coordinator) (a : Answers) : Coordinator × StepResult :=
  let c := c.call (.readATContexts a.atInactive)
  if a.atInactive then
    let c := { c with busResetClearTime := c.now }.callWhen a.writeAccess .clearBusReset
    (c.unmaskBusReset.transitionTo .rearming, .continue)
  else (c.yieldAndReschedule kDeferredPollMs, .yield)

def stepRearming (c : Coordinator) (a : Answers) : Coordinator × StepResult :=
  if !a.nodeIDValid then (c.yieldAndReschedule kDeferredPollMs, .yield)
  else
    let c := { c with wasRoot := a.isRoot, filtersEnabled := true, atArmed := true }
    let c := (c.callWhen a.writeAccess .enableFilters).call .rearmATContexts
    let c := c.callWhen (c.lastGeneration ≤ 0xFF) (.onBusResetComplete c.lastGeneration)
    (c.transitionTo .complete, .continue)

def discoveryDelayMs (c : Coordinator) : ℕ :=
  if c.previousScanHadBusyNodes ∧ 0 < c.currentDiscoveryDelayMs then
    max kAppleScanBusDelayMs c.currentDiscoveryDelayMs
  else kAppleScanBusDelayMs

def stepComplete (c : Coordinator) (a : Answers) : Coordinator × StepResult :=
  let c := c.logMetrics.transitionTo .idle
  if c.cycle.pendingReset.isSome then (c.maybeDispatchPendingSoftwareReset a, .finish)
  else
    match c.deps.topologyCallback, c.cycle.acceptedTopology with
    | true, some topology =>
      (c.dispatchAsync (.discovery topology.generation c.discoveryDelayMs), .finish)
    | _, _ => (c, .finish)

def stepState (c : Coordinator) (a : Answers) : Coordinator × StepResult :=
  match c.state with
  | .idle => c.stepIdle a
  | .detecting => c.stepDetecting
  | .waitingSelfID => c.stepWaitingSelfID a
  | .quiescingAT => c.stepQuiescingAT a
  | .restoringConfigROM => c.stepRestoringConfigROM a
  | .clearingBusReset => c.stepClearingBusReset a
  | .rearming => c.stepRearming a
  | .complete => c.stepComplete a

/-- One pass of the loop of `RunStateMachine`, the `finished`-th of its run plus one. -/
def pass (c : Coordinator) (finished : ℕ) (a : Answers) : Coordinator :=
  let c := if c.pendingBusResetEdge then c.beginNewResetCycle a else c
  match c.stepState a with
  | (c, .continue) =>
    if finished + 1 < kMaxIterations then { c with running := some (finished + 1) }
    else (c.yieldAndReschedule kDeferredPollMs).completeCurrentRun
  | (c, _) => c.completeCurrentRun

/-- `RunStateMachine` is entered; a run under way coalesces the request. -/
def runStateMachine (c : Coordinator) : Coordinator :=
  if c.running.isSome then c else { c with running := some 0 }

def onIrq (c : Coordinator) (busReset selfIDComplete selfIDComplete2 : Bool) (timestamp : ℕ) :
    Coordinator :=
  let c := { c with lastIrqNs := timestamp }
  let c := if busReset then
      { c with
        cycle := { c.cycle with
          timing := { c.cycle.timing with lastBusResetEdgeNs := timestamp } }
        pendingBusResetEdge := true
        busResetIrqCount := c.busResetIrqCount + 1 }
    else c
  let c := if selfIDComplete then
      { c with
        selfIdLatch := { c.selfIdLatch with complete := true, completeTimeNs := timestamp } }
    else c
  let c := if selfIDComplete2 then
      { c with
        selfIdLatch := { c.selfIdLatch with
          stickyComplete := true, stickyCompleteTimeNs := timestamp } }
    else c
  if busReset || selfIDComplete || selfIDComplete2 then c.dispatchAsync .runStateMachine else c

/-- The check a discovery block makes after its delay, before the topology callback. -/
def readyForDiscovery (c : Coordinator) (nodeIDValid : Bool) (generation : ℕ) :
    Coordinator × Bool :=
  let hasTopo := c.cycle.acceptedTopology.isSome
  let genMatch := decide (generation = c.lastGeneration)
  let ready := nodeIDValid && c.filtersEnabled && c.atArmed && hasTopo && genMatch
  let failureBits : UInt8 := (if nodeIDValid then 0 else 1) + (if c.filtersEnabled then 0 else 2) +
    (if c.atArmed then 0 else 4) + (if hasTopo then 0 else 8) + (if genMatch then 0 else 16)
  let c := { c with readyForDiscoveryFailureBits := failureBits }
  if ready then (c, true) else (c.recordRecoveryReasonCode .readyForDiscoveryFailed, false)

def runDiscovery (c : Coordinator) (nodeIDValid : Bool) (generation : ℕ) : Coordinator :=
  match c.readyForDiscovery nodeIDValid generation with
  | (c, true) => { c with discoveryCallbackCount := min (c.discoveryCallbackCount + 1) 0xFF }
  | (c, false) => c

def setPreviousScanHadBusyNodes (c : Coordinator) (busy : Bool) : Coordinator :=
  { c with
    currentDiscoveryDelayMs := if busy then
        (if c.currentDiscoveryDelayMs < kMaxDiscoveryDelayMs then
          min (c.currentDiscoveryDelayMs + kDiscoveryDelayStepMs) kMaxDiscoveryDelayMs
        else c.currentDiscoveryDelayMs)
      else 0
    previousScanHadBusyNodes := busy }

def escalateDiscoveryDelay (c : Coordinator) : Coordinator :=
  if c.previousScanHadBusyNodes ∧ c.currentDiscoveryDelayMs < kMaxDiscoveryDelayMs then
    { c with
      currentDiscoveryDelayMs :=
        min (c.currentDiscoveryDelayMs + kDiscoveryDelayStepMs) kMaxDiscoveryDelayMs }
  else c

end Coordinator

/-! ### Runs of the coordinator -/

/-- What can happen between two passes of the state machine. Time passes only in `elapse`. -/
inductive Action
  | elapse (ns : ℕ)
  | irq (busReset selfIDComplete selfIDComplete2 : Bool) (timestamp : ℕ)
  | requestUserReset (shortReset : Bool) (reason : String)
  | requestConfigRomRestageReset (reason : Option String)
  | requestRolePolicyReset (targetRoot : ℕ) (longReset : Bool) (gapCount : Option ℕ)
      (setContender : Option Bool) (reason : String)
  | resetDelegationRetryCounter
  | setPreviousScanHadBusyNodes (busy : Bool)
  | escalateDiscoveryDelay
  | runStateMachine
  | deferredRun
  | manualResetWatchdog (manualEpoch resetEpoch : UInt32)
  | discovery (nodeIDValid : Bool) (generation : ℕ)
  | pass (answers : Answers)

def step (c : Coordinator) : Action → Coordinator
  | .elapse ns => { c with now := c.now + ns }
  | .irq busReset selfIDComplete selfIDComplete2 timestamp =>
    c.onIrq busReset selfIDComplete selfIDComplete2 timestamp
  | .requestUserReset shortReset reason => c.requestUserReset shortReset reason
  | .requestConfigRomRestageReset reason => c.requestConfigRomRestageReset reason
  | .requestRolePolicyReset targetRoot longReset gapCount setContender reason =>
    c.requestRolePolicyReset targetRoot longReset gapCount setContender reason
  | .resetDelegationRetryCounter => c.resetDelegationRetryCounter
  | .setPreviousScanHadBusyNodes busy => c.setPreviousScanHadBusyNodes busy
  | .escalateDiscoveryDelay => c.escalateDiscoveryDelay
  | .runStateMachine => c.runStateMachine
  | .deferredRun => { c with deferredRunScheduled := false }.runStateMachine
  | .manualResetWatchdog manualEpoch resetEpoch =>
    c.maybeRecoverMissingManualResetIrq manualEpoch resetEpoch
  | .discovery nodeIDValid generation => c.runDiscovery nodeIDValid generation
  | .pass answers =>
    match c.running with
    | none => c
    | some finished => c.pass finished answers

/-- The coordinator after `Initialize`. -/
def initial (deps : Dependencies) : Coordinator :=
  ({ deps := deps } : Coordinator).callWhen deps.topologyMapService .invalidateTopologyMap

end ASFireWire.BusReset
