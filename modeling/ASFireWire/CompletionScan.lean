import ASFireWire.ATManager
import ASFireWire.Quadlets
import ASFireWire.Tracking

/-! The completion scan of an AT context (`Async/Contexts/ATContextBase.hpp`). The head walks
descriptor blocks: a block with status is consumed, a block without status is pending or, when
`CommandPtr` is elsewhere, skipped as orphaned, and the skip ends the scan. -/
namespace ASFireWire.Async

def kEvtNoStatus : ℕ := 0x00

def kEvtDescriptorRead : ℕ := 0x06

def kAckComplete : ℕ := 0x11

/-- A status the controller completes a chain with: the event code is neither `evt_no_status`
nor `evt_descriptor_read`. -/
structure XferStatus where
  word : ℕ
  event : word % 32 ≠ kEvtNoStatus ∧ word % 32 ≠ kEvtDescriptorRead
  deriving DecidableEq

/-- What the scan returns: the completion the tracker is given, with the remaining fields. -/
structure ScannedCompletion extends TxCompletion where
  timeStamp : ℕ
  ackCount : ℕ
  descriptor : ℕ
  deriving DecidableEq, Repr

/-- Event code of a status word, with the Agere quirk applied. -/
def eventCodeOf (agereQuirk : Bool) (xferStatus : ℕ) : ℕ :=
  if xferStatus % 32 = 0x10 ∧ agereQuirk = true then kAckComplete else xferStatus % 32

/-- `ExtractTLabel`: bits 15..10 of the first header quadlet. -/
def OHCIDescriptor.extractTLabel (d : OHCIDescriptor) : ℕ :=
  Quadlets.le32At d.immediateData 0 / 2 ^ 10 % 2 ^ 6

namespace DescriptorRing

def clearDescriptorStatus (d : OHCIDescriptor) : OHCIDescriptor :=
  { d with branchWord := 0, timeStamp := 0, xferStatus := 0 }

def clearDescriptorBlocks (ring : DescriptorRing) (headIndex : ℕ) : ℕ → DescriptorRing
  | 0 => ring
  | i + 1 =>
    let ring := ring.clearDescriptorBlocks headIndex i
    let clearIndex := (headIndex + i) % ring.capacity
    ring.write clearIndex (clearDescriptorStatus (ring.storage clearIndex))

/-- `ExtractCompletionTLabel` for the descriptor at the head: its own header, or that of the
immediate descriptor two blocks before it. -/
def extractCompletionTLabel (ring : DescriptorRing) : ℕ :=
  let headerIndex := (ring.head + ring.capacity - 2) % ring.capacity
  if (ring.storage ring.head).key = .immediate then
    (ring.storage ring.head).extractTLabel
  else if (ring.storage headerIndex).key = .immediate then
    (ring.storage headerIndex).extractTLabel
  else 0xFF

end DescriptorRing

/-- An AT context under the completion scan. `onPayload` tells that the controller executes the
payload block of its chain, `linked` lists the chains it will still execute in link order,
`submitted` every chain submitted, `finished` those it has completed with their status, and
`reported` what the scan has returned. `inRing` keeps the chains whose OUTPUT_LAST the head has
not passed. -/
structure TxContext extends ATContext where
  agereQuirk : Bool := false
  isResponseContext : Bool := false
  onPayload : Bool := false
  linked : List SubmittedChain := []
  submitted : List SubmittedChain := []
  finished : List (SubmittedChain × ℕ) := []
  reported : List ScannedCompletion := []

namespace TxContext

/-! ### The scan -/

/-- `CommandPtr` as read back: the block being executed or executed last. -/
def commandPtrAddr (s : TxContext) : ℕ :=
  match s.hw.cursor with
  | none => 0
  | some index => s.ring.iovaOf
      (if s.hw.done || s.onPayload then ATContext.lastOf s.ring index else index)

def isActive (s : TxContext) : Bool := s.hw.cursor.isSome && !s.hw.done

def isOrphanedDescriptor (s : TxContext) : Bool :=
  (!s.hw.run && !s.isActive) ||
    (s.commandPtrAddr ≠ s.ring.iovaOf s.ring.head && s.commandPtrAddr ≠ 0)

/-- Clear the blocks at the head and move it past them. -/
def consume (s : TxContext) (blocks : ℕ) : TxContext :=
  { s with
    ring := { s.ring.clearDescriptorBlocks s.ring.head blocks with
      head := (s.ring.head + blocks) % s.ring.capacity }
    inRing := s.inRing.filter (·.last ≠ s.ring.head) }

def headBlocks (s : TxContext) : ℕ :=
  if (s.ring.storage s.ring.head).key = .immediate then 2 else 1

def handlePendingDescriptor (s : TxContext) : TxContext :=
  if s.isOrphanedDescriptor then s.consume s.headBlocks else s

def stopIfRingDrained (s : TxContext) : TxContext :=
  if s.ring.isEmpty then
    { s with
      ring := { s.ring with prevLastBlocks := 0 }
      hw := { s.hw with run := false } }
  else s

def makeCompletion (s : TxContext) : ScannedCompletion where
  eventCode := eventCodeOf s.agereQuirk (s.ring.storage s.ring.head).xferStatus
  timeStamp := (s.ring.storage s.ring.head).timeStamp
  ackCount := (s.ring.storage s.ring.head).xferStatus / 2 ^ 5 % 2 ^ 3
  ackCode := (s.ring.storage s.ring.head).xferStatus / 2 ^ 12 % 2 ^ 4
  tLabel := s.ring.extractCompletionTLabel
  isResponseContext := s.isResponseContext
  descriptor := s.ring.head

/-- `DecodeCompletionState` succeeds on this status. -/
def decodes (agereQuirk : Bool) (xferStatus : ℕ) : Bool :=
  eventCodeOf agereQuirk xferStatus ≠ kEvtNoStatus &&
    eventCodeOf agereQuirk xferStatus ≠ kEvtDescriptorRead

/-- The loop of `ScanCompletion`; an iteration that goes on has cleared the block at the head. -/
def scanLoop : ℕ → TxContext → TxContext × Option ScannedCompletion
  | 0, s => (s, none)
  | fuel + 1, s =>
    if s.ring.isEmpty then (s, none)
    else if (s.ring.storage s.ring.head).xferStatus = 0 then (s.handlePendingDescriptor, none)
    else if !decodes s.agereQuirk (s.ring.storage s.ring.head).xferStatus then (s, none)
    else
      let next := (s.consume s.headBlocks).stopIfRingDrained
      match (s.ring.storage s.ring.head).command with
      | .outputMore => scanLoop fuel next
      | .outputLast => (next, some s.makeCompletion)

def scanCompletion (s : TxContext) : TxContext × Option ScannedCompletion :=
  let r := scanLoop (s.ring.capacity + 1) s
  ({ r.1 with reported := r.1.reported ++ r.2.toList }, r.2)

/-- The `while` of `DrainTxCompletions` over one context. -/
def drainLoop : ℕ → TxContext → TxContext × List ScannedCompletion
  | 0, s => (s, [])
  | fuel + 1, s =>
    match s.scanCompletion with
    | (next, none) => (next, [])
    | (next, some completion) =>
      let r := drainLoop fuel next
      (r.1, completion :: r.2)

def drainTxCompletions (s : TxContext) : TxContext × List ScannedCompletion :=
  drainLoop (s.ring.capacity + 1) s

/-! ### Controller and submissions -/

/-- The controller completes the chain it executes. -/
def complete (s : TxContext) (status : XferStatus) : TxContext :=
  if s.hw.cursor.isNone || s.hw.done then s
  else { s with
    toATContext := s.toATContext.completeCursor status.word
    onPayload := false
    linked := s.linked.tail
    finished := s.finished ++ (s.linked.head?.map (·, status.word)).toList }

def hwStep (s : TxContext) (status : XferStatus) : TxContext :=
  if !s.hw.run || s.hw.dead then s
  else if !s.hw.done then s.complete status
  else { s with toATContext := s.toATContext.hwStep status.word }

/-- The controller goes on from the header to the payload block of its chain. -/
def startPayload (s : TxContext) : TxContext :=
  if s.hw.run && s.isActive then { s with onPayload := true } else s

/-- PATH 1 polls a running controller to a stop. -/
def stopped (s : TxContext) (polled : Option XferStatus) : TxContext :=
  match polled with
  | some status => if s.hw.run then s.complete status else s
  | none => s

/-- `Submit` takes PATH 2 with success. -/
def appends (s : ATContext) (chain : DescriptorChain) : Bool :=
  s.state = .running && 0 < s.ring.prevLastBlocks && !s.ring.isEmpty &&
    (s.submitPath2 chain).2 = .success

/-- PATH 2 adds the chain to those the controller will execute; PATH 1 makes it the only one. -/
def submit (s : TxContext) (req : ChainRequest) (polled : Option XferStatus) : TxContext :=
  let next := (s.toATContext.submit req (polled.map (·.word))).1
  match buildTransactionChain s.ring req with
  | (_, none) => { s with toATContext := next }
  | (ring, some chain) =>
    let built : TxContext := { s with ring := ring }
    let submitted := s.submitted ++ [⟨chain, req⟩]
    if appends built.toATContext chain then
      { built with
        toATContext := next, linked := s.linked ++ [⟨chain, req⟩], submitted := submitted }
    else
      { built.stopped polled with
        toATContext := next, onPayload := false, linked := [⟨chain, req⟩]
        submitted := submitted }

end TxContext

inductive TxEvent
  | submit (req : ChainRequest) (polled : Option XferStatus)
  | hwStep (status : XferStatus)
  | startPayload
  | scan
  deriving DecidableEq

namespace TxContext

def step (s : TxContext) : TxEvent → TxContext
  | .submit req polled => s.submit req polled
  | .hwStep status => s.hwStep status
  | .startPayload => s.startPayload
  | .scan => s.scanCompletion.1

end TxContext

end ASFireWire.Async
