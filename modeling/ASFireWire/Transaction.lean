import ASFireWire.AsyncTypes

/-! A tracked transaction (`Async/Core/Transaction`): its state machine, the two-path completion
latch and the retry bookkeeping. The response handler is named by the number of the registration
whose callback it wraps. -/
namespace ASFireWire.Async

/-- The `kern_return_t` values the completion paths produce. -/
inductive IOReturn | success | error | timeout | aborted
  deriving DecidableEq, Repr

/-- Status the registered callback sees. -/
def IOReturn.asyncStatus : IOReturn → AsyncStatus
  | .success => .success
  | .timeout => .timeout
  | .aborted => .aborted
  | .error => .hardwareError

inductive TransactionState
  | created | submitted | atPosted | atCompleted | awaitingAR | arReceived
  | completed | timedOut | failed | cancelled
  deriving DecidableEq, Repr

/-- `IsValidTransition`; no state leads out of a terminal one. -/
def isValidTransition : TransactionState → TransactionState → Bool
  | .created, new => new = .submitted || new = .cancelled
  | .submitted, new => new = .atPosted || new = .cancelled
  | .atPosted, new =>
    new = .atCompleted || new = .arReceived || new = .failed || new = .timedOut || new = .cancelled
  | .atCompleted, new =>
    new = .awaitingAR || new = .arReceived || new = .completed || new = .failed || new = .timedOut ||
      new = .cancelled
  | .awaitingAR, new => new = .arReceived || new = .timedOut || new = .cancelled
  | .arReceived, new => new = .completed || new = .cancelled
  | .completed, _ | .timedOut, _ | .failed, _ | .cancelled, _ => false

def isTerminalState : TransactionState → Bool
  | .completed | .timedOut | .failed | .cancelled => true
  | _ => false

inductive CompletionStrategy | completeOnAT | completeOnPHY | completeOnAR | requireBoth
  deriving DecidableEq, Repr

structure Transaction where
  label : ℕ
  generation : ℕ
  nodeID : ℕ
  state : TransactionState := .created
  ackCode : ℕ := 0
  tCode : ℕ := 0
  retryCount : ℕ := 0
  completionStrategy : CompletionStrategy := .completeOnAT
  skipATCompletion : Bool := false
  completedByPath : Bool := false
  responseHandler : ℕ := 0
  timeoutMs : ℕ := 0
  deadlineUs : ℕ := 0
  deriving DecidableEq, Repr

namespace Transaction

/-- An illegal transition is logged and ignored. -/
def transitionTo (txn : Transaction) (newState : TransactionState) : Transaction :=
  if isValidTransition txn.state newState then { txn with state := newState } else txn

def isReadOperation (txn : Transaction) : Bool := txn.tCode = 0x4 || txn.tCode = 0x5

/-- `TryMarkCompleted`: whether this is the first completion. -/
def tryMarkCompleted (txn : Transaction) : Transaction × Bool :=
  ({ txn with completedByPath := true }, !txn.completedByPath)

/-- `retryCount_` is an unsigned byte. -/
def incrementRetry (txn : Transaction) : Transaction :=
  { txn with retryCount := (txn.retryCount + 1) % 256 }

/-- What registration fixes for the life of a transaction. -/
def identity (txn : Transaction) : ℕ × ℕ × ℕ × ℕ :=
  (txn.label, txn.generation, txn.nodeID, txn.responseHandler)

@[simp] lemma transitionTo_identity (txn : Transaction) (newState : TransactionState) :
    (txn.transitionTo newState).identity = txn.identity := by
  unfold transitionTo
  split <;> rfl

/-- A transaction that no completion path has claimed. -/
def Open (txn : Transaction) : Prop :=
  isTerminalState txn.state = false ∧ txn.completedByPath = false

lemma Open.transitionTo {txn : Transaction} (h : txn.Open) {newState : TransactionState}
    (hnew : isTerminalState newState = false) : (txn.transitionTo newState).Open := by
  unfold Transaction.transitionTo
  split
  · exact ⟨hnew, h.2⟩
  · exact h

end Transaction

end ASFireWire.Async
