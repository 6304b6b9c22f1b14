import ASFireWire.LabelAllocator
import ASFireWire.Runs
import ASFireWire.Transaction

/-! The transaction tracker (`Async/Track/Tracking.hpp`, `TransactionCompletionHandler.hpp` and
`Async/Core/TransactionManager`): registration, the AT, AR and timeout completion paths, and the
cancellations. Callbacks run inside the operation that invokes them and may submit again. -/
namespace ASFireWire.Async

structure TxMetadata where
  generation : ℕ := 0
  destinationNodeID : ℕ := 0
  tCode : ℕ := 0
  completionStrategy : CompletionStrategy := .completeOnAT
  deriving DecidableEq, Repr

structure RxResponse where
  generation : ℕ
  sourceNodeID : ℕ
  tLabel : ℕ
  rCode : ℕ
  payload : List UInt8 := []
  deriving DecidableEq, Repr

/-- `eventCode` is the OHCI event code, `ackCode` the raw ack nibble. -/
structure TxCompletion where
  eventCode : ℕ
  ackCode : ℕ := 0
  tLabel : ℕ := 0xFF
  isResponseContext : Bool := false
  deriving DecidableEq, Repr

/-- One call of a registered callback. -/
structure Invocation where
  responseHandler : ℕ
  handle : ℕ
  status : AsyncStatus
  responseCode : ℕ
  payload : List UInt8 := []
  deriving DecidableEq, Repr

/-- What a callback does with the tracker: a new submission registers and posts. -/
inductive CallbackCall
  | registerTx (txMeta : TxMetadata)
  | onTxPosted (handle nowUsec timeoutUsec : ℕ)
  deriving DecidableEq, Repr

/-- The calls the callback of each registration makes. -/
abbrev Callbacks := ℕ → List CallbackCall

/-- `registered` counts registrations, `invocations` lists the callback calls made and `posted`
the cancelled transactions whose callback waits on the workloop. -/
structure Tracking where
  labelAllocator : LabelAllocator := {}
  transactions : Label → Option Transaction := fun _ => none
  registered : ℕ := 0
  invocations : List Invocation := []
  posted : List Transaction := []
  deriving DecidableEq

/-- Table slot of a byte label; labels from 64 on have none. -/
def slot (label : ℕ) : Option Label :=
  if h : label < kMaxLabels then some ⟨label, h⟩ else none

def kNodeNumberMask : ℕ := 64

/-- Equal up to the bus number. -/
def nodeIDsEquivalent (lhs rhs : ℕ) : Bool :=
  lhs = rhs || lhs % kNodeNumberMask = rhs % kNodeNumberMask

namespace Tracking

def count (s : Tracking) : ℕ := (List.finRange kMaxLabels).countP fun l => (s.transactions l).isSome

def setTransaction (s : Tracking) (label : Label) (txn : Option Transaction) : Tracking :=
  { s with transactions := Function.update s.transactions label txn }

/-- `Extract`, once the slot is known to be occupied. -/
def extract (s : Tracking) (label : Label) : Tracking := s.setTransaction label none

def freeLabel (s : Tracking) (label : Label) : Tracking :=
  { s with labelAllocator := s.labelAllocator.free label }

/-- Labels of the transactions that meet a condition, in the order of `ForEachTransaction`. -/
def collect (s : Tracking) (p : Transaction → Bool) : List Label :=
  (List.finRange kMaxLabels).filter fun l => (s.transactions l).any p

/-- The transaction `RegisterTx` stores, numbered by its registration. -/
def newTransaction (label : Label) (txMeta : TxMetadata) (number : ℕ) : Transaction :=
  let txn : Transaction := {
    label := label.val, generation := txMeta.generation, nodeID := txMeta.destinationNodeID
    timeoutMs := 200, tCode := txMeta.tCode, completionStrategy := txMeta.completionStrategy
    skipATCompletion := txMeta.completionStrategy = .completeOnAR, responseHandler := number }
  txn.transitionTo .submitted

/-- Labels left over without any transaction are dropped before a label is allocated. -/
def dropStaleLabels (s : Tracking) : Tracking :=
  if s.count = 0 && s.labelAllocator.hasAnyLabelsInUse then
    { s with labelAllocator := s.labelAllocator.clearBitmap }
  else s

/-- `RegisterTx`; handle 0 tells that nothing was registered. -/
def registerTx (s : Tracking) (txMeta : TxMetadata) : Tracking × ℕ :=
  let s := s.dropStaleLabels
  match s.labelAllocator.allocate with
  | (_, none) => (s, 0)
  | (allocator, some label) =>
    let s := { s with labelAllocator := allocator }
    match s.transactions label with
    | some _ => (s.freeLabel label, 0)
    | none =>
      ({ s.setTransaction label (some (newTransaction label txMeta s.registered)) with
          registered := s.registered + 1 }, label.val + 1)

/-- Labels 0 to 63 have the handles 1 to 64. -/
def labelOfHandle (handle : ℕ) : Option Label := if handle = 0 then none else slot (handle - 1)

/-- `GetLabelFromHandle`. -/
def getLabelFromHandle (s : Tracking) (handle : ℕ) : Option ℕ :=
  (labelOfHandle handle).bind fun label => (s.transactions label).map (·.label)

/-- A posted request; one that completes on its response skips the ack states. -/
def postedTransaction (txn : Transaction) (deadline : ℕ) : Transaction :=
  let txn := txn.transitionTo .atPosted
  let txn := if txn.completionStrategy = .completeOnAR then
    (txn.transitionTo .atCompleted).transitionTo .awaitingAR else txn
  { txn with deadlineUs := deadline }

/-- `OnTxPosted`. -/
def onTxPosted (s : Tracking) (handle nowUsec timeoutUsec : ℕ) : Tracking :=
  match labelOfHandle handle with
  | none => s
  | some label =>
    match s.transactions label with
    | none => s
    | some txn => s.setTransaction label (some (postedTransaction txn (nowUsec + timeoutUsec)))

def call (s : Tracking) : CallbackCall → Tracking
  | .registerTx txMeta => (s.registerTx txMeta).1
  | .onTxPosted handle nowUsec timeoutUsec => s.onTxPosted handle nowUsec timeoutUsec

/-- `InvokeResponseHandler`: the wrapped callback is recorded and makes its calls. -/
def invokeResponseHandler (cb : Callbacks) (s : Tracking) (txn : Transaction) (kr : IOReturn)
    (responseCode : ℕ) (data : List UInt8) : Tracking :=
  let s := { s with invocations := s.invocations ++ [{
    responseHandler := txn.responseHandler, handle := txn.label + 1, status := kr.asyncStatus
    responseCode := responseCode, payload := data }] }
  Runs.run call s (cb txn.responseHandler)

end Tracking

/-! ### AT completions -/

inductive ATPostAction
  | none | completeSuccess | completeError | completeTimeout | completeCancelled
  | completePhySuccess
  deriving DecidableEq, Repr

/-- The acknowledge is carried by the event code; other events keep the raw nibble. -/
def normalizeAckFromEvent (eventCode rawAckCode : ℕ) : ℕ :=
  match eventCode with
  | 0x11 => 0x0
  | 0x12 => 0x1
  | 0x14 => 0x4
  | 0x15 => 0x5
  | 0x16 => 0x6
  | 0x1B => 0xC
  | 0x1D => 0xD
  | 0x1E => 0xE
  | _ => rawAckCode

/-- ATCompleted, then AwaitingAR. -/
def awaitAR (txn : Transaction) : Transaction :=
  (txn.transitionTo .atCompleted).transitionTo .awaitingAR

/-- `HandleHardwareEventCompletion`; `none` leaves the completion to the ack code. -/
def handleHardwareEventCompletion (txn : Transaction) (comp : TxCompletion) :
    Option (Transaction × ATPostAction) :=
  if comp.eventCode = 0x0A ∨ comp.eventCode = 0x03 then
    if comp.ackCode = 0x1 then some (awaitAR txn, .none) else some (txn, .completeTimeout)
  else if comp.eventCode = 0x0F then some (txn, .completeCancelled)
  else none

/-- `HandleAckCompletion`. -/
def handleAckCompletion (txn : Transaction) (comp : TxCompletion) (clock : ℕ) :
    Transaction × ATPostAction :=
  let needsARData := txn.isReadOperation || txn.completionStrategy = .completeOnAR
  match comp.ackCode with
  | 0x1 => (awaitAR txn, .none)
  | 0x0 =>
    if needsARData then (awaitAR txn, .none)
    else
      match txn.tryMarkCompleted with
      | (txn, true) => (txn, .completeSuccess)
      | (txn, false) => (txn, .none)
  | 0x4 | 0x5 | 0x6 => ({ txn.transitionTo .atCompleted with deadlineUs := clock + 200000 }, .none)
  | 0xC | 0x11 | 0x1B => (awaitAR txn, .none)
  | 0xD | 0xE => (txn, .completeError)
  | _ => (awaitAR txn, .none)

/-- What `OnATCompletion` does to the transaction under the lock. -/
def atCompletion (txn : Transaction) (comp : TxCompletion) (clock : ℕ) :
    Transaction × ATPostAction :=
  if isTerminalState txn.state then (txn, .none)
  else
    let txn := { txn with ackCode := comp.ackCode }
    if txn.completionStrategy = .completeOnPHY then (txn, .completePhySuccess)
    else if txn.skipATCompletion then (txn, .none)
    else if txn.isReadOperation && txn.state ≠ .awaitingAR then (awaitAR txn, .none)
    else (handleHardwareEventCompletion txn comp).getD (handleAckCompletion txn comp clock)

/-- The transitions of `FinalizeATPostAction`. -/
def finalTransitions (txn : Transaction) : ATPostAction → Transaction
  | .completeSuccess | .completePhySuccess =>
    (txn.transitionTo .atCompleted).transitionTo .completed
  | .completeError | .completeTimeout => (txn.transitionTo .atCompleted).transitionTo .failed
  | .completeCancelled => txn.transitionTo .cancelled
  | .none => txn

def ATPostAction.postKr : ATPostAction → IOReturn
  | .completeError => .error
  | .completeTimeout => .timeout
  | .completeCancelled => .aborted
  | _ => .success

namespace Tracking

/-- The AT, AR and timeout paths: the slot is emptied and the label freed before the callback. -/
def complete (cb : Callbacks) (s : Tracking) (label : Label) (txn : Transaction) (kr : IOReturn)
    (responseCode : ℕ) (data : List UInt8) : Tracking :=
  invokeResponseHandler cb ((s.extract label).freeLabel label) txn kr responseCode data

/-- `FinalizeATPostAction`. -/
def finalizeATPostAction (cb : Callbacks) (s : Tracking) (label : Label) (action : ATPostAction) :
    Tracking :=
  if action = .none then s
  else
    match s.transactions label with
    | none => s
    | some txn => complete cb s label (finalTransitions txn action) action.postKr 0xFF []

/-- `OnATCompletion`; completions of the response context are not tracked. -/
def onTxCompletion (cb : Callbacks) (s : Tracking) (rawComp : TxCompletion) (clock : ℕ) :
    Tracking :=
  let comp := { rawComp with ackCode := normalizeAckFromEvent rawComp.eventCode rawComp.ackCode }
  if comp.isResponseContext then s
  else
    match slot comp.tLabel with
    | none => s
    | some label =>
      match s.transactions label with
      | none => s
      | some txn =>
        let r := atCompletion txn comp clock
        finalizeATPostAction cb (s.setTransaction label (some r.1)) label r.2

/-! ### AR responses -/

/-- `FindByMatchKey`. -/
def findByMatchKey (s : Tracking) (response : RxResponse) : Option (Label × Transaction) :=
  match slot response.tLabel with
  | none => none
  | some label =>
    match s.transactions label with
    | none => none
    | some txn =>
      if txn.generation ≠ response.generation then none
      else if !nodeIDsEquivalent txn.nodeID response.sourceNodeID then none
      else some (label, txn)

/-- The transitions of a matched response. -/
def receivedTransitions (txn : Transaction) : Transaction :=
  let txn := txn.transitionTo .arReceived
  if isTerminalState txn.state then txn else txn.transitionTo .completed

/-- `OnRxResponse`. -/
def onRxResponse (cb : Callbacks) (s : Tracking) (response : RxResponse) : Tracking :=
  match s.findByMatchKey response with
  | none => s
  | some (label, txn) =>
    if isTerminalState txn.state then s
    else
      match txn.tryMarkCompleted with
      | (txn, false) => s.setTransaction label (some txn)
      | (txn, true) =>
        let kr := if response.rCode = 0 then .success else .error
        complete cb s label (receivedTransitions txn) kr response.rCode response.payload

/-! ### Timeouts -/

def kMaxBusyRetries : ℕ := 3

def kMaxATRetries : ℕ := 2

def kMaxPendingRetries : ℕ := 3

/-- One more try before a deadline `extension` from now. -/
def extendDeadline (txn : Transaction) (clock extension : ℕ) : Transaction :=
  { txn.incrementRetry with deadlineUs := clock + extension }

def handleBusyTimeout (txn : Transaction) (clock : ℕ) : Option Transaction :=
  if txn.ackCode ≠ 0x4 ∧ txn.ackCode ≠ 0x5 ∧ txn.ackCode ≠ 0x6 then none
  else if txn.retryCount ≥ kMaxBusyRetries then none
  else some (extendDeadline txn clock 200000)

def handleATPostedTimeout (txn : Transaction) (clock : ℕ) : Option Transaction :=
  if txn.state ≠ .atPosted ∨ txn.ackCode ≠ 0x0 then none
  else if txn.retryCount < kMaxATRetries then some (extendDeadline txn clock 250000)
  else none

def handleAwaitingARTimeout (txn : Transaction) (clock : ℕ) : Option Transaction :=
  if txn.state ≠ .awaitingAR then none
  else if txn.ackCode ≠ 0x0 ∧ txn.ackCode ≠ 0x1 ∧ txn.ackCode ≠ 0xC then none
  else if txn.retryCount < kMaxPendingRetries then some (extendDeadline txn clock 250000)
  else none

/-- `OnTimeout`: the first recovery that applies, or completion with a timeout. -/
def onTimeout (cb : Callbacks) (clock : Label → ℕ) (s : Tracking) (label : Label) : Tracking :=
  match s.transactions label with
  | none => s
  | some txn =>
    match ((handleBusyTimeout txn (clock label)).or (handleATPostedTimeout txn (clock label))).or
        (handleAwaitingARTimeout txn (clock label)) with
    | some txn => s.setTransaction label (some txn)
    | none => complete cb s label (txn.transitionTo .timedOut) .timeout 0xFF []

def hasTimedOut (nowUsec : ℕ) (txn : Transaction) : Bool :=
  !isTerminalState txn.state && 0 < txn.deadlineUs && txn.deadlineUs ≤ nowUsec

/-- `OnTimeoutTick`; `clock` is the time each expired transaction reads for its new deadline. -/
def onTimeoutTick (cb : Callbacks) (s : Tracking) (nowUsec : ℕ) (clock : Label → ℕ) : Tracking :=
  Runs.run (onTimeout cb clock) s (s.collect (hasTimedOut nowUsec))

/-! ### Cancellations -/

/-- One victim of a cancellation. Here the label is freed after the callback. -/
def cancelVictim (cb : Callbacks) (s : Tracking) (label : Label) : Tracking :=
  match s.transactions label with
  | none => s
  | some txn =>
    let s := s.extract label
    let s := if isTerminalState txn.state then s
      else invokeResponseHandler cb s (txn.transitionTo .cancelled) .aborted 0xFF []
    s.freeLabel label

/-- `CancelByGeneration`. -/
def cancelByGeneration (cb : Callbacks) (s : Tracking) (oldGeneration : ℕ) : Tracking :=
  Runs.run (cancelVictim cb) s (s.collect fun txn => txn.generation = oldGeneration)

/-- `CancelAllAndFreeLabels`. -/
def cancelAllAndFreeLabels (cb : Callbacks) (s : Tracking) : Tracking :=
  Runs.run (cancelVictim cb) s (s.collect fun _ => true)

/-- `CancelTransactionHandle`: the callback is posted to the workloop. -/
def cancelTransactionHandle (s : Tracking) (handle : ℕ) : Tracking :=
  match labelOfHandle handle with
  | none => s
  | some label =>
    match s.transactions label with
    | none => s
    | some txn => { (s.extract label).freeLabel label with posted := s.posted ++ [txn] }

/-- The workloop runs the first posted cancellation. -/
def runPosted (cb : Callbacks) (s : Tracking) : Tracking :=
  match s.posted with
  | [] => s
  | txn :: posted =>
    let s := { s with posted := posted }
    if isTerminalState txn.state then s
    else invokeResponseHandler cb s (txn.transitionTo .cancelled) .aborted 0xFF []

end Tracking

inductive TrackingEvent
  | registerTx (txMeta : TxMetadata)
  | onTxPosted (handle nowUsec timeoutUsec : ℕ)
  | onTxCompletion (comp : TxCompletion) (clock : ℕ)
  | onRxResponse (response : RxResponse)
  | onTimeoutTick (nowUsec : ℕ) (clock : Label → ℕ)
  | cancelByGeneration (oldGeneration : ℕ)
  | cancelAllAndFreeLabels
  | cancelTransactionHandle (handle : ℕ)
  | runPosted

namespace Tracking

def step (cb : Callbacks) (s : Tracking) : TrackingEvent → Tracking
  | .registerTx txMeta => (s.registerTx txMeta).1
  | .onTxPosted handle nowUsec timeoutUsec => s.onTxPosted handle nowUsec timeoutUsec
  | .onTxCompletion comp clock => onTxCompletion cb s comp clock
  | .onRxResponse response => onRxResponse cb s response
  | .onTimeoutTick nowUsec clock => onTimeoutTick cb s nowUsec clock
  | .cancelByGeneration oldGeneration => cancelByGeneration cb s oldGeneration
  | .cancelAllAndFreeLabels => cancelAllAndFreeLabels cb s
  | .cancelTransactionHandle handle => s.cancelTransactionHandle handle
  | .runPosted => runPosted cb s

end Tracking

end ASFireWire.Async
