import ASFireWire.AsyncTypes
import ASFireWire.Runs

/-! The retrying read queue (`Async/AsyncSubsystemCommandQueue.cpp`). Commands are shared
objects, so they live in a heap indexed by the order of the `ReadWithRetry` calls; the queue, the
in-flight slot, the callbacks of outstanding transactions and the work posted to the workloop
refer to them by that index. -/
namespace ASFireWire.Async

structure PendingCommandState where
  params : ReadParams
  retryPolicy : RetryPolicy
  retriesRemaining : ℕ
  publicHandle : ℕ
  currentHandle : ℕ := 0
  cancelRequested : Bool := false
  deriving DecidableEq, Repr, Inhabited

def kQueuedHandleBase : ℕ := 0x80000000

def kMaxTransactionHandle : ℕ := 64

/-- One invocation of a user callback. -/
structure Completion where
  command : ℕ
  status : AsyncStatus
  responseCode : ℕ
  payload : List UInt8
  deriving DecidableEq, Repr

/-- Blocks posted to the workloop: the abort callback of a command that never ran, or the abort
of an extracted transaction. -/
inductive PostedWork
  | queuedCancellation (command : ℕ)
  | transactionAborted (command : ℕ)
  deriving DecidableEq, Repr

def PostedWork.command : PostedWork → ℕ
  | .queuedCancellation command => command
  | .transactionAborted command => command

def PostedWork.aborting? : PostedWork → Option ℕ
  | .queuedCancellation _ => none
  | .transactionAborted command => some command

/-- Calls a client makes, from outside or from inside its callback. -/
inductive QueueCall
  | readWithRetry (params : ReadParams) (retryPolicy : RetryPolicy)
  | cancel (handle : ℕ)
  deriving DecidableEq, Repr

/-- What the queue does not decide: whether the n-th `Read` is accepted and under which label,
whether another thread cancels the n-th dequeued command before it is submitted, and which
calls a command's callback makes. -/
structure QueueEnv where
  read : ℕ → Option (Fin 64)
  cancelInWindow : ℕ → Bool
  callback : ℕ → List QueueCall

/-- The queue with the transactions and posted blocks that belong to it. `started` and
`completions` record the first submissions and the callback invocations in order. -/
structure CommandQueue where
  commands : ℕ → PendingCommandState := fun _ => default
  nextCommand : ℕ := 0
  commandQueue : List ℕ := []
  commandInFlight : Bool := false
  inFlightCommand : Option ℕ := none
  outstanding : List (ℕ × ℕ) := []
  posted : List PostedWork := []
  reads : ℕ := 0
  dequeues : ℕ := 0
  started : List ℕ := []
  completions : List Completion := []

namespace CommandQueue

def modifyCommand (s : CommandQueue) (id : ℕ) (f : PendingCommandState → PendingCommandState) :
    CommandQueue :=
  { s with commands := Function.update s.commands id (f (s.commands id)) }

def post (s : CommandQueue) (work : PostedWork) : CommandQueue :=
  { s with posted := s.posted ++ [work] }

/-- `Read`: an accepted request returns label + 1 and leaves a transaction whose completion runs
`HandleCompletion`; a refused one returns handle 0 and leaves nothing. -/
def read (env : QueueEnv) (s : CommandQueue) (id : ℕ) : CommandQueue :=
  match env.read s.reads with
  | none => { s with reads := s.reads + 1 }.modifyCommand id ({ · with currentHandle := 0 })
  | some label =>
      { s with
        reads := s.reads + 1
        outstanding := s.outstanding ++ [(label.val + 1, id)] }.modifyCommand id
          ({ · with currentHandle := label.val + 1 })

/-- `ExecuteNextCommand`, by recursion on the queue it drains of cancelled commands. -/
def executeFrom (env : QueueEnv) : List ℕ → CommandQueue → CommandQueue
  | [], s => { s with commandQueue := [], commandInFlight := false, inFlightCommand := none }
  | id :: rest, s =>
    let s := { s with
      commandQueue := rest
      commandInFlight := true
      inFlightCommand := some id
      dequeues := s.dequeues + 1 }
    let s := if env.cancelInWindow s.dequeues then
      s.modifyCommand id ({ · with cancelRequested := true }) else s
    if (s.commands id).cancelRequested then
      executeFrom env rest { s.post (.queuedCancellation id) with inFlightCommand := none }
    else { s with started := s.started ++ [id] }.read env id

def executeNextCommand (env : QueueEnv) (s : CommandQueue) : CommandQueue :=
  executeFrom env s.commandQueue s

def readWithRetry (env : QueueEnv) (s : CommandQueue) (params : ReadParams)
    (retryPolicy : RetryPolicy) : CommandQueue :=
  let id := s.nextCommand
  let command : PendingCommandState :=
    { params := params, retryPolicy := retryPolicy, retriesRemaining := retryPolicy.maxRetries
      publicHandle := (kQueuedHandleBase + id) % 2 ^ 32 }
  let queued := { s with
    commands := Function.update s.commands id command
    nextCommand := id + 1
    commandQueue := s.commandQueue ++ [id] }
  if s.commandInFlight then queued else queued.executeNextCommand env

/-- `CancelTransactionHandle`: the extracted transaction is aborted on the workloop. -/
def cancelTransactionHandle (s : CommandQueue) (handle : ℕ) : CommandQueue :=
  match s.outstanding.find? (·.1 = handle) with
  | none => s
  | some txn =>
      { s with outstanding := s.outstanding.erase txn }.post (.transactionAborted txn.2)

def cancelQueuedCommandInFlight (s : CommandQueue) (handle : ℕ) : CommandQueue :=
  match s.inFlightCommand with
  | none => s
  | some id =>
    if (s.commands id).publicHandle ≠ handle then s
    else
      let requested := s.modifyCommand id ({ · with cancelRequested := true })
      let underlying := (requested.commands id).currentHandle
      if 1 ≤ underlying ∧ underlying ≤ kMaxTransactionHandle then
        requested.cancelTransactionHandle underlying
      else requested

def cancelQueuedCommand (s : CommandQueue) (handle : ℕ) : CommandQueue :=
  match s.commandQueue.find? fun id => (s.commands id).publicHandle = handle with
  | some id =>
      { s with commandQueue := s.commandQueue.erase id }.post (.queuedCancellation id)
  | none => s.cancelQueuedCommandInFlight handle

def cancel (s : CommandQueue) (handle : ℕ) : CommandQueue :=
  if handle = 0 then s
  else if handle ≥ kQueuedHandleBase then s.cancelQueuedCommand handle
  else if handle ≤ kMaxTransactionHandle then s.cancelTransactionHandle handle
  else s

def call (env : QueueEnv) (s : CommandQueue) : QueueCall → CommandQueue
  | .readWithRetry params retryPolicy => s.readWithRetry env params retryPolicy
  | .cancel handle => s.cancel handle

/-- The user callback runs and makes its calls before the queue goes on. -/
def invokeCallback (env : QueueEnv) (s : CommandQueue) (c : Completion) : CommandQueue :=
  Runs.run (call env) { s with completions := s.completions ++ [c] } (env.callback c.command)

def finishAndAdvance (env : QueueEnv) (s : CommandQueue) (id : ℕ) : CommandQueue :=
  executeNextCommand env
    (if s.inFlightCommand = some id then { s with inFlightCommand := none } else s)

def shouldRetry (command : PendingCommandState) (status : AsyncStatus) : Bool :=
  (status = .timeout && command.retryPolicy.retryOnTimeout) ||
    (status = .busyRetryExhausted && command.retryPolicy.retryOnBusy)

/-- `HandleCompletion`: report, or spend a retry and submit again. -/
def handleCompletion (env : QueueEnv) (s : CommandQueue) (id : ℕ) (status : AsyncStatus)
    (responseCode : ℕ) (payload : List UInt8) : CommandQueue :=
  let command := s.commands id
  if command.cancelRequested || status = .aborted then
    (s.invokeCallback env ⟨id, .aborted, 0xFF, []⟩).finishAndAdvance env id
  else if status ≠ .success && 0 < command.retriesRemaining && shouldRetry command status then
    (s.modifyCommand id fun c => { c with retriesRemaining := c.retriesRemaining - 1 }).read env id
  else
    (s.invokeCallback env ⟨id, status, responseCode, payload⟩).finishAndAdvance env id

end CommandQueue

/-- Client calls, completions of underlying transactions, and turns of the workloop. -/
inductive QueueEvent
  | call (c : QueueCall)
  | complete (handle : ℕ) (status : AsyncStatus) (responseCode : ℕ) (payload : List UInt8)
  | runPosted
  deriving DecidableEq, Repr

namespace CommandQueue

def step (env : QueueEnv) (s : CommandQueue) : QueueEvent → CommandQueue
  | .call c => s.call env c
  | .complete handle status responseCode payload =>
    match s.outstanding.find? (·.1 = handle) with
    | none => s
    | some txn =>
        { s with outstanding := s.outstanding.erase txn }.handleCompletion env txn.2 status
          responseCode payload
  | .runPosted =>
    match s.posted with
    | [] => s
    | .queuedCancellation id :: rest =>
        { s with posted := rest }.invokeCallback env ⟨id, .aborted, 0xFF, []⟩
    | .transactionAborted id :: rest =>
        { s with posted := rest }.handleCompletion env id .aborted 0xFF []

end CommandQueue

end ASFireWire.Async
