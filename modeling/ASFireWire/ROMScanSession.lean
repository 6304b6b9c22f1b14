import ASFireWire.DetailsDiscovery
import ASFireWire.ROMReader
import ASFireWire.TopologyTypes

/-! A scan session (`ConfigROM/Remote/ROMScanSession.cpp`, `ROMScanSessionIRM.cpp`): the per-node
state machines, the retry policy, the continuation of every read, and the one completion. A task
of the session's queue is one step; the reads, locks and timers it still waits for are the pending
work. -/
namespace ASFireWire.Discovery

open ASFireWire.ConfigROM ASFireWire.Async Resumptions Resumption

/-! ### Link speeds -/

inductive FwSpeed | s100 | s200 | s400 | s800
  deriving DecidableEq, Repr

def FwSpeed.code : FwSpeed → ℕ
  | .s100 => 0
  | .s200 => 1
  | .s400 => 2
  | .s800 => 3

structure NodeSpeedState where
  currentSpeed : FwSpeed := .s400
  timeoutCount : ℕ := 0
  successCount : ℕ := 0
  deriving DecidableEq, Repr

/-- What discovery learned of every node it has exercised. -/
structure SpeedPolicy where
  nodeStates : ℕ → Option NodeSpeedState := fun _ => none

def downgradeSpeed : FwSpeed → FwSpeed
  | .s800 => .s400
  | .s400 => .s200
  | .s200 => .s100
  | .s100 => .s100

namespace SpeedPolicy

/-- The `localToNode` speed of `ForNode`. -/
def forNode (p : SpeedPolicy) (nodeId : ℕ) : FwSpeed :=
  match p.nodeStates nodeId with
  | some state => state.currentSpeed
  | none => .s400

def set (p : SpeedPolicy) (nodeId : ℕ) (state : NodeSpeedState) : SpeedPolicy :=
  { nodeStates := fun id => if id = nodeId then some state else p.nodeStates id }

def recordSuccess (p : SpeedPolicy) (nodeId : ℕ) (speed : FwSpeed) : SpeedPolicy :=
  let state := (p.nodeStates nodeId).getD {}
  p.set nodeId
    { currentSpeed := speed, timeoutCount := 0, successCount := (state.successCount + 1) % 2 ^ 8 }

def recordTimeout (p : SpeedPolicy) (nodeId : ℕ) (speed : FwSpeed) : SpeedPolicy :=
  let state := (p.nodeStates nodeId).getD {}
  p.set nodeId
    (if downgradeSpeed speed ≠ speed then
      { state with currentSpeed := downgradeSpeed speed, timeoutCount := 0 }
    else { state with currentSpeed := speed, timeoutCount := (state.timeoutCount + 1) % 2 ^ 8 })

@[simp] lemma forNode_recordTimeout (p : SpeedPolicy) (nodeId : ℕ) (speed : FwSpeed) :
    (p.recordTimeout nodeId speed).forNode nodeId = downgradeSpeed speed := by
  cases speed <;> simp [recordTimeout, forNode, set, downgradeSpeed]

end SpeedPolicy

/-! ### One node -/

inductive ScanState
  | idle | readingBIB | waitingConfigROMReady | verifyingIRMRead | verifyingIRMLock
  | readingRootDir | readingDetails | complete | failed
  deriving DecidableEq, Repr

structure ROMScanNode where
  nodeId : ℕ
  state : ScanState := .idle
  currentSpeed : FwSpeed
  retriesLeft : ℕ
  partialROM : ConfigROM
  needsIRMCheck : Bool := false
  irmCheckReadDone : Bool := false
  irmCheckLockDone : Bool := false
  irmIsBad : Bool := false
  irmBitBucket : ℕ := 0xFFFFFFFF
  bibInProgress : Bool := false
  configROMReadyRetriesLeft : ℕ
  deriving DecidableEq, Repr

namespace ROMScanNode

def isTerminal (node : ROMScanNode) : Bool := node.state = .complete || node.state = .failed

def canTransitionTo (node : ROMScanNode) (next : ScanState) : Bool :=
  match node.state with
  | .idle => next = .readingBIB || next = .failed
  | .readingBIB =>
    next = .waitingConfigROMReady || next = .verifyingIRMRead || next = .readingRootDir ||
      next = .complete || next = .idle || next = .failed
  | .waitingConfigROMReady => next = .idle || next = .readingRootDir || next = .failed
  | .verifyingIRMRead =>
    next = .verifyingIRMLock || next = .readingRootDir || next = .complete || next = .failed
  | .verifyingIRMLock => next = .readingRootDir || next = .complete || next = .failed
  | .readingRootDir =>
    next = .waitingConfigROMReady || next = .readingDetails || next = .complete ||
      next = .failed || next = .idle
  | .readingDetails => next = .complete || next = .failed
  | .complete => next = .idle
  | .failed => next = .idle

end ROMScanNode

/-- `TransitionNodeState`: an illegal transition fails the node. -/
def transitionNodeState (node : ROMScanNode) (next : ScanState) : Bool × ROMScanNode :=
  if node.canTransitionTo next then (true, { node with state := next })
  else (false, { node with state := .failed })

/-! ### The session -/

structure ROMScannerParams where
  startSpeed : FwSpeed := .s400
  maxInflight : ℕ := 2
  perStepRetries : ℕ := 2
  configROMReadyRetries : ℕ := 4
  configROMReadyRetryDelayNs : ℕ := 500 * 1000000
  doIRMCheck : Bool := false
  deriving DecidableEq, Repr

/-- What a scan reads of a topology snapshot. -/
structure TopologySnapshot where
  rootNodeId : ℕ := Topology.kInvalidPhysicalId
  irmNodeId : ℕ := Topology.kInvalidPhysicalId
  nodes : List Topology.TopologyNodeRecord := []

structure ROMScanRequest where
  gen : ℕ := 0
  topology : TopologySnapshot := {}
  localNodeId : ℕ := 0xFF
  targetNodes : List ℕ := []
  rootCapabilityCallback : Bool := false

inductive RootBibReadStatus
  | notStarted | pending | success | timeout | failed | abortedByReset
  deriving DecidableEq, Repr

inductive RootCapability | unknown | capableByBIB | incapableByBIB
  deriving DecidableEq, Repr

structure RootCapabilityEvidence where
  generation : ℕ
  rootNodeId : ℕ
  bibReadStatus : RootBibReadStatus
  cmcKnown : Bool := false
  cmc : Bool := false
  configRomHeaderValid : Bool := false
  verdict : RootCapability := .unknown
  deriving DecidableEq, Repr

/-- What a session waits for: its own posted tasks, the callbacks of the reader and of the bus,
and the readiness timer of a node. -/
inductive PendingWork
  | startScan (request : ROMScanRequest)
  | abortScan
  | bibRead (nodeId generation : ℕ) (speed : FwSpeed)
  | irmRead (nodeId : ℕ)
  | irmLock (nodeId : ℕ)
  | rootDirRead (nodeId generation : ℕ) (speed : FwSpeed) (offsetBytes : ℕ)
  | prefixRead (nodeId generation : ℕ) (speed : FwSpeed) (offsetBytes count required : ℕ)
      (next : Bool → ConfigROM → DetailsDiscovery)
  | readyRetry (nodeId : ℕ)

/-- The arguments of one call of the completion handler, and the nodes as they stood then. -/
structure ScanCompletion where
  gen : ℕ
  roms : List ConfigROM
  hadBusyNodes : Bool
  nodes : List ROMScanNode
  deriving DecidableEq, Repr

structure ROMScanSession where
  params : ROMScannerParams
  speedPolicy : SpeedPolicy := {}
  topologyManager : Bool := true
  aborted : Bool := false
  gen : ℕ := 0
  topology : TopologySnapshot := {}
  localNodeId : ℕ := 0xFF
  nodeScans : List ROMScanNode := []
  completedROMs : List ConfigROM := []
  inflight : ℕ := 0
  hadBusyNodes : Bool := false
  completionNotified : Bool := false
  completion : Bool := false
  rootCapabilityCallback : Bool := false
  rootProbeStarted : Bool := false
  rootProbeTerminal : Bool := false
  pending : List PendingWork := []
  completions : List ScanCompletion := []
  badIRMs : List ℕ := []
  rootEvidence : List RootCapabilityEvidence := []

/-- `FindNode` and the write through the pointer it returns: the first node with the ID. -/
def replaceNode (node : ROMScanNode) : List ROMScanNode → List ROMScanNode
  | [] => []
  | old :: rest => if old.nodeId = node.nodeId then node :: rest else old :: replaceNode node rest

namespace ROMScanSession

def findNode (s : ROMScanSession) (nodeId : ℕ) : Option ROMScanNode :=
  s.nodeScans.find? fun node => node.nodeId = nodeId

def put (s : ROMScanSession) (node : ROMScanNode) : ROMScanSession :=
  { s with nodeScans := replaceNode node s.nodeScans }

def await (s : ROMScanSession) (work : PendingWork) : ROMScanSession :=
  { s with pending := s.pending ++ [work] }

/-- A read goes out. -/
def issue (s : ROMScanSession) (work : PendingWork) : ROMScanSession :=
  { s with inflight := s.inflight + 1, pending := s.pending ++ [work] }

def retire (s : ROMScanSession) : ROMScanSession := { s with inflight := s.inflight - 1 }

/-! ### The root capability callback -/

def isRootNode (s : ROMScanSession) (nodeId : ℕ) : Bool :=
  s.topology.rootNodeId ≠ Topology.kInvalidPhysicalId && s.topology.rootNodeId = nodeId

/-- One call of the root capability callback. -/
def report (s : ROMScanSession) (terminal : Bool) (evidence : RootCapabilityEvidence) :
    ROMScanSession :=
  { s with
    rootProbeStarted := true
    rootProbeTerminal := terminal
    rootEvidence := s.rootEvidence ++ [evidence] }

def notifyRootBIBPending (s : ROMScanSession) (nodeId : ℕ) : ROMScanSession :=
  if !s.isRootNode nodeId || !s.rootCapabilityCallback || s.rootProbeStarted then s
  else s.report s.rootProbeTerminal
    { generation := s.gen, rootNodeId := nodeId, bibReadStatus := .pending }

/-- A report that ends the probe of the root. -/
def notifyRootBIBEnd (s : ROMScanSession) (nodeId : ℕ) (evidence : RootCapabilityEvidence) :
    ROMScanSession :=
  if !s.isRootNode nodeId || !s.rootCapabilityCallback || s.rootProbeTerminal then s
  else s.report true evidence

def notifyRootBIBSuccess (s : ROMScanSession) (nodeId : ℕ) (bib : BusInfoBlock) :
    ROMScanSession :=
  s.notifyRootBIBEnd nodeId
    { generation := s.gen
      rootNodeId := nodeId
      bibReadStatus := .success
      cmcKnown := true
      cmc := bib.cmc
      configRomHeaderValid := true
      verdict := if bib.cmc then .capableByBIB else .incapableByBIB }

def notifyRootBIBFailure (s : ROMScanSession) (nodeId : ℕ) (status : RootBibReadStatus) :
    ROMScanSession :=
  s.notifyRootBIBEnd nodeId { generation := s.gen, rootNodeId := nodeId, bibReadStatus := status }

def mapBIBFailureStatus : AsyncStatus → RootBibReadStatus
  | .timeout | .busyRetryExhausted => .timeout
  | .aborted | .staleGeneration => .abortedByReset
  | .success | .shortRead | .hardwareError | .lockCompareFail => .failed

/-! ### Completion and pump -/

/-- The session is made inert before the handler is called. -/
def maybeFinish (s : ROMScanSession) : ROMScanSession :=
  if s.aborted then s
  else if s.completionNotified || !s.completion then s
  else if s.gen = 0 then s
  else if s.nodeScans ≠ [] ∧ 0 < s.inflight then s
  else if s.nodeScans ≠ [] ∧ ¬ s.nodeScans.all ROMScanNode.isTerminal then s
  else
    { s with
      completionNotified := true
      completion := false
      nodeScans := []
      completedROMs := []
      inflight := 0
      gen := 0
      hadBusyNodes := false
      completions := s.completions ++ [⟨s.gen, s.completedROMs, s.hadBusyNodes, s.nodeScans⟩] }

def startBIBRead (s : ROMScanSession) (node : ROMScanNode) : ROMScanSession × ROMScanNode :=
  let r := transitionNodeState node .readingBIB
  if !r.1 then (s, r.2)
  else
    ((s.notifyRootBIBPending node.nodeId).issue
        (.bibRead node.nodeId s.gen node.currentSpeed),
      { r.2 with bibInProgress := true })

/-- The loop of `Pump`: idle nodes start while there is room. -/
def pumpNodes : ROMScanSession → List ROMScanNode → ROMScanSession × List ROMScanNode
  | s, [] => (s, [])
  | s, node :: rest =>
    if s.params.maxInflight ≤ s.inflight then (s, node :: rest)
    else if node.state ≠ .idle || node.bibInProgress then
      ((pumpNodes s rest).1, node :: (pumpNodes s rest).2)
    else
      let started := s.startBIBRead node
      ((pumpNodes started.1 rest).1, started.2 :: (pumpNodes started.1 rest).2)

def pump (s : ROMScanSession) : ROMScanSession :=
  if s.aborted then s
  else
    let pumped := s.pumpNodes s.nodeScans
    { pumped.1 with nodeScans := pumped.2 }.maybeFinish

/-! ### Retries -/

/-- `RetryBackoffPolicy::Apply` on the node: the same speed while retries are left, then the next
lower speed, then failure. -/
def retryWithFallback (s : ROMScanSession) (node : ROMScanNode) : ROMScanSession × ROMScanNode :=
  if 0 < node.retriesLeft then
    (s, (transitionNodeState { node with retriesLeft := node.retriesLeft - 1 } .idle).2)
  else
    let policy := s.speedPolicy.recordTimeout node.nodeId node.currentSpeed
    let newSpeed := policy.forNode node.nodeId
    if newSpeed = node.currentSpeed then
      ({ s with speedPolicy := policy }, (transitionNodeState node .failed).2)
    else
      ({ s with speedPolicy := policy },
        (transitionNodeState
          { node with currentSpeed := newSpeed, retriesLeft := s.params.perStepRetries } .idle).2)

def shouldDelayConfigROMReadyRetry (s : ROMScanSession) (node : ROMScanNode) : Bool :=
  0 < s.params.configROMReadyRetryDelayNs && 0 < node.configROMReadyRetriesLeft

/-- The node waits for its timer; nothing is pumped. -/
def scheduleConfigROMReadyRetry (s : ROMScanSession) (node : ROMScanNode) : ROMScanSession :=
  let r := transitionNodeState node .waitingConfigROMReady
  if !r.1 then (s.put r.2).pump
  else
    ({ s with hadBusyNodes := true }.put
      { r.2 with configROMReadyRetriesLeft := r.2.configROMReadyRetriesLeft - 1 }).await
        (.readyRetry node.nodeId)

/-- The task the timer posts. -/
def handleReadyRetry (s : ROMScanSession) (nodeId : ℕ) : ROMScanSession :=
  if s.aborted then s
  else
    match s.findNode nodeId with
    | none => s
    | some node =>
      if node.state ≠ .waitingConfigROMReady then s
      else (s.put (transitionNodeState node .idle).2).pump

/-! ### Details -/

def finalizeNodeDiscovery (s : ROMScanSession) (node : ROMScanNode) : ROMScanSession :=
  let s := { s with speedPolicy := s.speedPolicy.recordSuccess node.nodeId node.currentSpeed }
  let r := transitionNodeState node .complete
  if !r.1 then (s.put r.2).maybeFinish.pump
  else
    ({ s with completedROMs := s.completedROMs ++ [r.2.partialROM] }.put r.2).maybeFinish.pump

def kMaxROMPrefixQuadlets : ℕ := 256

/-- The discovery runs on until `EnsurePrefix` has to read. -/
def continueDetails (s : ROMScanSession) (node : ROMScanNode) : DetailsDiscovery → ROMScanSession
  | .done rom => s.finalizeNodeDiscovery { node with partialROM := rom }
  | .ask rom required next =>
    if kMaxROMPrefixQuadlets < required then s.continueDetails node (next false rom)
    else if required ≤ rom.rawQuadlets.length then s.continueDetails node (next true rom)
    else
      (s.put { node with partialROM := rom }).issue
        (.prefixRead node.nodeId s.gen node.currentSpeed (rom.rawQuadlets.length * kQuadletBytes)
          (required - rom.rawQuadlets.length) required next)

/-- The callback of `EnsurePrefix`. -/
def handlePrefixComplete (s : ROMScanSession) (nodeId required : ℕ)
    (next : Bool → ConfigROM → DetailsDiscovery) (result : ReadResult) : ROMScanSession :=
  if s.aborted || result.generation ≠ s.gen then s
  else
    let s := s.retire
    match s.findNode nodeId with
    | none => s.maybeFinish.pump.pump
    | some node =>
      if !result.success || result.quadletsBE = [] then
        (s.continueDetails node (next false node.partialROM)).pump
      else
        let rom := { node.partialROM with
          rawQuadlets := node.partialROM.rawQuadlets ++ result.quadletsBE }
        (s.continueDetails node (next (required ≤ rom.rawQuadlets.length) rom)).pump

/-! ### Root directory -/

def rootDirStartQuadlet (bib : BusInfoBlock) : ℕ := 1 + bib.busInfoLength

def rootDirStartBytes (bib : BusInfoBlock) : ℕ := rootDirStartQuadlet bib * kQuadletBytes

def startRootDirRead (s : ROMScanSession) (node : ROMScanNode) : ROMScanSession :=
  let r := transitionNodeState node .readingRootDir
  if !r.1 then (s.put r.2).pump
  else
    (s.put { r.2 with retriesLeft := s.params.perStepRetries }).issue
      (.rootDirRead node.nodeId s.gen node.currentSpeed (rootDirStartBytes node.partialROM.bib))

/-- The recognized entries of a root directory, or none when it does not parse. -/
def rootEntriesOf (quadletsBE : List ℕ) : List RomEntry :=
  match parseRootDirectory quadletsBE quadletsBE.length with
  | .ok entries => entries
  | .error _ => []

def handleRootDirComplete (s : ROMScanSession) (nodeId : ℕ) (result : ReadResult) :
    ROMScanSession :=
  if s.aborted then s
  else if result.generation ≠ s.gen then s
  else
    let s := s.retire
    match s.findNode nodeId with
    | none => s.pump
    | some node =>
      if !result.success || result.quadletsBE = [] then
        let s := { s with hadBusyNodes := true }
        if s.shouldDelayConfigROMReadyRetry node then s.scheduleConfigROMReadyRetry node
        else
          let r := s.retryWithFallback node
          (r.1.put r.2).pump
      else
        let node := { node with
          partialROM := { node.partialROM with rootDirMinimal := rootEntriesOf result.quadletsBE } }
        let r := transitionNodeState node .readingDetails
        if !r.1 then (s.put r.2).maybeFinish.pump
        else
          s.continueDetails r.2
            (startDetailsDiscovery (rootDirStartQuadlet node.partialROM.bib) result.quadletsBE
              node.partialROM)

/-! ### The IRM check -/

def continueAfterIRMCheck (s : ROMScanSession) (node : ROMScanNode) : ROMScanSession :=
  s.startRootDirRead node

/-- `MarkNodeAsBadIRM`, when there is a topology manager to tell. -/
def markBadIRM (s : ROMScanSession) (nodeId : ℕ) : ROMScanSession :=
  if s.topologyManager && s.topology.irmNodeId ≠ Topology.kInvalidPhysicalId &&
      s.topology.irmNodeId = nodeId then { s with badIRMs := s.badIRMs ++ [nodeId] }
  else s

def handleIRMLockComplete (s : ROMScanSession) (nodeId : ℕ) (success : Bool) : ROMScanSession :=
  if s.aborted then s
  else if s.gen = 0 then s
  else
    let s := s.retire
    match s.findNode nodeId with
    | none => s.pump
    | some node =>
      if !success then
        (s.markBadIRM nodeId).continueAfterIRMCheck
          { node with irmIsBad := true, needsIRMCheck := false }
      else
        s.continueAfterIRMCheck { node with irmCheckLockDone := true, needsIRMCheck := false }

/-- In the middle of a submission that comes back with a null handle. -/
def submitted (s : ROMScanSession) : ROMScanSession := { s with inflight := s.inflight + 1 }

/-- A bus operation of the IRM check, with what its submission comes to: a null handle is handled
at once as a failure. -/
def submitIRM (s : ROMScanSession) (work : PendingWork) (submit : SubmitOutcome)
    (failed : ROMScanSession → ROMScanSession) : ROMScanSession :=
  match submit with
  | .accepted => s.issue work
  | .failed => failed s.submitted
  | .failedRegistered => failed (s.issue work)

def startIRMLock (s : ROMScanSession) (node : ROMScanNode) (submit : SubmitOutcome) :
    ROMScanSession :=
  let r := transitionNodeState node .verifyingIRMLock
  if !r.1 then (s.put r.2).pump
  else
    (s.put r.2).submitIRM (.irmLock node.nodeId) submit fun s =>
      s.handleIRMLockComplete node.nodeId false

def handleIRMReadComplete (s : ROMScanSession) (nodeId : ℕ) (success : Bool)
    (valueHostOrder : ℕ) (submit : SubmitOutcome) : ROMScanSession :=
  if s.aborted then s
  else if s.gen = 0 then s
  else
    let s := s.retire
    match s.findNode nodeId with
    | none => s.pump
    | some node =>
      if !success then
        (s.markBadIRM nodeId).continueAfterIRMCheck
          { node with irmIsBad := true, needsIRMCheck := false }
      else
        s.startIRMLock { node with irmBitBucket := valueHostOrder, irmCheckReadDone := true } submit

def startIRMRead (s : ROMScanSession) (node : ROMScanNode) (submit : SubmitOutcome) :
    ROMScanSession :=
  let r := transitionNodeState { node with needsIRMCheck := true } .verifyingIRMRead
  if !r.1 then (s.put r.2).pump
  else
    (s.put r.2).submitIRM (.irmRead node.nodeId) submit fun s =>
      s.handleIRMReadComplete node.nodeId false 0 submit

/-! ### Bus information block -/

def continueAfterBIBSuccess (s : ROMScanSession) (node : ROMScanNode) (submit : SubmitOutcome) :
    ROMScanSession :=
  if s.params.doIRMCheck && s.topology.irmNodeId ≠ Topology.kInvalidPhysicalId &&
      s.topology.irmNodeId = node.nodeId && node.partialROM.bib.irmc then
    s.startIRMRead node submit
  else s.startRootDirRead node

def completeUnsupportedMinimalROM (s : ROMScanSession) (node : ROMScanNode) : ROMScanSession :=
  (s.put (transitionNodeState node .complete).2).pump

/-- The two branches of a node that is not ready: a failed read, and a zero header while the
device boots. -/
def retryBIB (s : ROMScanSession) (node : ROMScanNode) (status : RootBibReadStatus) :
    ROMScanSession :=
  let s := { s with hadBusyNodes := true }
  if s.shouldDelayConfigROMReadyRetry node then s.scheduleConfigROMReadyRetry node
  else
    let r := s.retryWithFallback node
    let s := r.1.put r.2
    (if r.2.state = .failed then s.notifyRootBIBFailure node.nodeId status else s).pump

def handleBIBComplete (s : ROMScanSession) (nodeId : ℕ) (result : ReadResult)
    (submit : SubmitOutcome) : ROMScanSession :=
  if s.aborted || result.generation ≠ s.gen then s
  else
    let s := s.retire
    match s.findNode nodeId with
    | none => s.pump
    | some node =>
      let node := { node with bibInProgress := false }
      if !result.success then s.retryBIB node (mapBIBFailureStatus result.status)
      else if result.quadletsBE ≠ [] ∧ result.quadletsBE.getD 0 0 = 0 then
        s.retryBIB node .timeout
      else
        match parseBIB result.quadletsBE with
        | .error _ =>
          ((s.put (transitionNodeState node .failed).2).notifyRootBIBFailure nodeId .failed).pump
        | .ok parsed =>
          let node := { node with
            partialROM := { node.partialROM with
              rawQuadlets := result.quadletsBE, bib := parsed.bib } }
          let s := { s with speedPolicy := s.speedPolicy.recordSuccess nodeId node.currentSpeed }
          if parsed.bib.format = .minimal1212 then
            (s.notifyRootBIBFailure nodeId .failed).completeUnsupportedMinimalROM node
          else (s.notifyRootBIBSuccess nodeId parsed.bib).continueAfterBIBSuccess node submit

/-! ### Start and abort -/

def newNode (params : ROMScannerParams) (gen nodeId : ℕ) : ROMScanNode where
  nodeId := nodeId
  currentSpeed := params.startSpeed
  retriesLeft := params.perStepRetries
  partialROM := { gen := gen, nodeId := nodeId }
  configROMReadyRetriesLeft := params.configROMReadyRetries

/-- The nodes a request asks for: the remote nodes with an active link, or the targets sorted and
without repetitions. -/
def scannedNodeIds (request : ROMScanRequest) : List ℕ :=
  if request.targetNodes = [] then
    (request.topology.nodes.filter fun node =>
      node.physicalId ≠ request.localNodeId && node.linkActive).map fun node => node.physicalId
  else
    (request.targetNodes.insertionSort (· ≤ ·)).dedup.filter fun nodeId =>
      nodeId ≠ request.localNodeId

/-- The task `Start` posts. -/
def startScan (s : ROMScanSession) (request : ROMScanRequest) : ROMScanSession :=
  let s := { s with
    gen := request.gen
    topology := request.topology
    localNodeId := request.localNodeId
    completion := true
    rootCapabilityCallback := request.rootCapabilityCallback
    completionNotified := false
    hadBusyNodes := false
    inflight := 0
    completedROMs := []
    nodeScans := (scannedNodeIds request).map (newNode s.params request.gen)
    rootProbeStarted := false
    rootProbeTerminal := false }
  if s.nodeScans = [] then s.maybeFinish else s.pump

/-- The task `Abort` posts. -/
def abortScan (s : ROMScanSession) : ROMScanSession :=
  let s := if s.rootProbeStarted && !s.rootProbeTerminal &&
      s.topology.rootNodeId ≠ Topology.kInvalidPhysicalId then
    s.notifyRootBIBFailure s.topology.rootNodeId .abortedByReset else s
  { s with
    completion := false
    rootCapabilityCallback := false
    completionNotified := true
    nodeScans := []
    completedROMs := []
    inflight := 0
    gen := 0
    hadBusyNodes := false }

/-- What a callback brings: the reader's result or the value of the IRM register, and how the bus
takes the next operation of the IRM check. -/
structure WorkAnswer where
  success : Bool := false
  status : AsyncStatus := .hardwareError
  quadletsBE : List ℕ := []
  valueHostOrder : ℕ := 0
  submit : SubmitOutcome := .accepted

/-- The result of a ROM read names the node and generation of the read. -/
def readResult (answer : WorkAnswer) (nodeId generation address : ℕ) : ReadResult where
  success := answer.success
  nodeId := nodeId
  generation := generation
  address := address
  status := answer.status
  quadletsBE := answer.quadletsBE

def perform (s : ROMScanSession) (answer : WorkAnswer) : PendingWork → ROMScanSession
  | .startScan request => s.startScan request
  | .abortScan => s.abortScan
  | .bibRead nodeId generation _ =>
    s.handleBIBComplete nodeId (readResult answer nodeId generation kConfigROMAddressLo)
      answer.submit
  | .irmRead nodeId =>
    s.handleIRMReadComplete nodeId answer.success answer.valueHostOrder answer.submit
  | .irmLock nodeId => s.handleIRMLockComplete nodeId answer.success
  | .rootDirRead nodeId generation _ offsetBytes =>
    s.handleRootDirComplete nodeId (readResult answer nodeId generation (romAddress offsetBytes))
  | .prefixRead nodeId generation _ offsetBytes _ required next =>
    s.handlePrefixComplete nodeId required next
      (readResult answer nodeId generation (romAddress offsetBytes))
  | .readyRetry nodeId => s.handleReadyRetry nodeId

/-- One pending work is done, and stays pending when its callback comes `again`; or the session is
aborted. -/
inductive ScanEvent
  | answer (index : ℕ) (answer : WorkAnswer) (again : Bool)
  | abort

def step (s : ROMScanSession) : ScanEvent → ROMScanSession
  | .answer index answer again =>
    match s.pending[index]? with
    | none => s
    | some work =>
      ({ s with pending := if again then s.pending else s.pending.eraseIdx index }).perform
        answer work
  | .abort => { s with aborted := true }.await .abortScan

/-- A new session on which `Start` was called. -/
def started (params : ROMScannerParams) (topologyManager : Bool) (policy : SpeedPolicy)
    (request : ROMScanRequest) : ROMScanSession where
  params := params
  speedPolicy := policy
  topologyManager := topologyManager
  pending := [.startScan request]

end ROMScanSession

end ASFireWire.Discovery
