import ASFireWire.AsyncTypes
import ASFireWire.DeviceRegistry

/-! The transport of AV/C commands (`Protocols/AVC/FCPTransport.cpp`): one command at a time, its
write attempts, its responses and its response timer. -/
namespace ASFireWire.AVC

open Async Discovery

inductive FCPStatus
  | ok | timeout | busReset | transportError | invalidPayload | responseMismatch | busy
  | refusedByFilter
  deriving DecidableEq, Repr

def kAVCFrameMinSize : ℕ := 3

def kAVCFrameMaxSize : ℕ := 512

/-- `AVCResponseType::kInterim`. -/
def kInterim : UInt8 := 0x0F

structure FCPWriteAttempt where
  id : ℕ
  route : DeviceRouteToken
  deriving DecidableEq, Repr

/-- A one-shot timer of the scheduler, in nanoseconds. -/
structure Timer where
  epoch : ℕ
  scheduledAt : ℕ
  delayNs : ℕ
  deriving DecidableEq, Repr

def Timer.deadline (timer : Timer) : ℕ := timer.scheduledAt + timer.delayNs

structure OutstandingCommand where
  command : List UInt8
  responseMatcher : Option (List UInt8 → List UInt8 → Bool) := none
  transactionID : ℕ
  retriesLeft : ℕ
  activeWriteAttempt : Option FCPWriteAttempt := none
  successfulWriteAttempt : Option FCPWriteAttempt := none
  gotInterim : Bool := false
  asyncHandle : ℕ := 0
  timeoutToken : Option Timer := none
  timeoutEpoch : ℕ := 0

/-- `writes` and `cancelled` are what the bus was asked for, `completions` what the callers of the
commands were told, each with the transaction. -/
structure FCPTransport where
  guid : ℕ
  routeRegistry : DeviceRegistry
  timeoutMs : ℕ := 2000
  interimTimeoutMs : ℕ := 10000
  nextTimeoutEpoch : ℕ := 0
  nextWriteAttempt : ℕ := 0
  shuttingDown : Bool := false
  pending : Option OutstandingCommand := none
  queued : List OutstandingCommand := []
  writes : List (ℕ × FCPWriteAttempt) := []
  cancelled : List ℕ := []
  completions : List (ℕ × FCPStatus × List UInt8) := []

/-- A response as it comes from the bus. -/
structure Response where
  srcNodeID : ℕ
  generation : ℕ
  payload : List UInt8
  deriving DecidableEq, Repr

namespace OutstandingCommand

def opcodeMatches (cmdAddress cmdOpcode rspOpcode : UInt8) : Bool :=
  if cmdAddress &&& 0xF8 = 0x20 ∧ cmdOpcode = 0xD0 then
    rspOpcode = 0xD0 || rspOpcode = 0xC1 || rspOpcode = 0xC2 || rspOpcode = 0xC3 || rspOpcode = 0xC4
  else rspOpcode &&& 0x7F = cmdOpcode &&& 0x7F

def validateResponse (cmd : OutstandingCommand) (response : List UInt8) : Bool :=
  kAVCFrameMinSize ≤ response.length && response.length ≤ kAVCFrameMaxSize &&
    cmd.command.getD 1 0 = response.getD 1 0 &&
    opcodeMatches (cmd.command.getD 1 0) (cmd.command.getD 2 0) (response.getD 2 0) &&
    (cmd.responseMatcher.all fun responseMatcher => responseMatcher cmd.command response)

/-- The checks of a response against the attempt it answers. -/
def accepts (cmd : OutstandingCommand) (attempt : FCPWriteAttempt) (r : Response) : Bool :=
  (r.srcNodeID = attempt.route.nodeId || r.srcNodeID % 2 ^ 6 = attempt.route.nodeId % 2 ^ 6) &&
    r.generation = attempt.route.generation && cmd.validateResponse r.payload

end OutstandingCommand

def Response.interim (r : Response) : Bool := r.payload.getD 0 0 = kInterim

namespace FCPTransport

/-- `ScheduleTimeout`; the timer that was armed is cancelled. -/
def scheduleTimeout (t : FCPTransport) (now timeoutMs : ℕ) : FCPTransport :=
  match t.pending with
  | none => t
  | some cmd =>
    if t.shuttingDown then t
    else
      let epoch := t.nextTimeoutEpoch + 1
      { t with
        nextTimeoutEpoch := epoch
        pending := some { cmd with
          timeoutEpoch := epoch
          timeoutToken := some
            { epoch := epoch, scheduledAt := now, delayNs := timeoutMs * 1000000 } } }

/-- `StartPendingWrite` of a command, with the status it is to be completed with if nothing was
written. `bus` is what `WriteBlock` returns for an attempt: zero if it refuses. -/
def issueWrite (bus : FCPWriteAttempt → ℕ) (t : FCPTransport) (cmd : OutstandingCommand) :
    FCPTransport × Option FCPStatus :=
  if t.shuttingDown then ({ t with pending := some cmd }, some .transportError)
  else
    match t.routeRegistry.currentRoute t.guid with
    | none => ({ t with pending := some cmd }, some .busReset)
    | some route =>
      let writeAttempt : FCPWriteAttempt := { id := t.nextWriteAttempt + 1, route := route }
      let cmd := { cmd with
        asyncHandle := 0
        activeWriteAttempt := some writeAttempt
        successfulWriteAttempt := none }
      if !t.routeRegistry.isCurrent route || bus writeAttempt = 0 then
        ({ t with nextWriteAttempt := writeAttempt.id, pending := some cmd }, some .transportError)
      else
        ({ t with
            nextWriteAttempt := writeAttempt.id
            pending := some { cmd with asyncHandle := bus writeAttempt }
            writes := t.writes ++ [(cmd.transactionID, writeAttempt)] }, none)

/-- A command leaves its slot. -/
def finish (t : FCPTransport) (cmd : OutstandingCommand) (status : FCPStatus)
    (response : List UInt8) : FCPTransport :=
  { t with pending := none, completions := t.completions ++ [(cmd.transactionID, status, response)] }

/-- `StartNextQueuedCommand`, until a write is taken. -/
def startQueued (bus : FCPWriteAttempt → ℕ) : List OutstandingCommand → FCPTransport → FCPTransport
  | [], t => { t with queued := [] }
  | cmd :: queued, t =>
    if t.shuttingDown then { t with queued := cmd :: queued }
    else
      match ({ t with queued := queued }).issueWrite bus cmd with
      | (t, none) => t
      | (t, some status) => startQueued bus queued (t.finish cmd status [])

def completeCommand (bus : FCPWriteAttempt → ℕ) (t : FCPTransport) (status : FCPStatus)
    (response : List UInt8) : FCPTransport :=
  match t.pending with
  | none => t
  | some cmd => startQueued bus t.queued (t.finish cmd status response)

def startPendingWrite (bus : FCPWriteAttempt → ℕ) (t : FCPTransport) : FCPTransport :=
  match t.pending with
  | none => t
  | some cmd =>
    match t.issueWrite bus cmd with
    | (t, none) => t
    | (t, some status) => t.completeCommand bus status []

/-- Both attempts are forgotten before the old write is cancelled. -/
def retryCommand (bus : FCPWriteAttempt → ℕ) (t : FCPTransport) : FCPTransport :=
  match t.pending with
  | none => t
  | some cmd =>
    if t.shuttingDown then t
    else
      startPendingWrite bus { t with
        pending := some { cmd with
          timeoutToken := none
          asyncHandle := 0
          activeWriteAttempt := none
          successfulWriteAttempt := none
          gotInterim := false }
        cancelled := if cmd.asyncHandle ≠ 0 then t.cancelled ++ [cmd.asyncHandle]
          else t.cancelled }

/-- A response before the write completion proves that the write arrived. -/
def onFCPResponse (bus : FCPWriteAttempt → ℕ) (t : FCPTransport) (now : ℕ) (r : Response) :
    FCPTransport :=
  match t.pending with
  | none => t
  | some cmd =>
    if t.shuttingDown then t
    else
      match cmd.successfulWriteAttempt.or cmd.activeWriteAttempt with
      | none => t
      | some attempt =>
        if t.routeRegistry.isCurrent attempt.route = false then t
        else if cmd.accepts attempt r = false then t
        else
          let cmd := { cmd with successfulWriteAttempt := some attempt }
          if r.interim then
            scheduleTimeout { t with pending := some { cmd with gotInterim := true } } now
              t.interimTimeoutMs
          else
            completeCommand bus { t with pending := some cmd } .ok
              (r.payload.take kAVCFrameMaxSize)

/-- A failed attempt is retried while retries are left. -/
def failAttempt (bus : FCPWriteAttempt → ℕ) (t : FCPTransport) (cmd : OutstandingCommand)
    (status : FCPStatus) : FCPTransport :=
  if 0 < cmd.retriesLeft then
    retryCommand bus { t with pending := some { cmd with retriesLeft := cmd.retriesLeft - 1 } }
  else completeCommand bus t status []

def onAsyncWriteComplete (bus : FCPWriteAttempt → ℕ) (t : FCPTransport) (now : ℕ)
    (writeAttempt : FCPWriteAttempt) (status : AsyncStatus) : FCPTransport :=
  match t.pending with
  | none => t
  | some cmd =>
    if t.shuttingDown then t
    else if cmd.activeWriteAttempt.map FCPWriteAttempt.id ≠ some writeAttempt.id then t
    else if t.routeRegistry.isCurrent writeAttempt.route = false then t
    else if status ≠ .success then t.failAttempt bus cmd .transportError
    else
      scheduleTimeout
        { t with pending := some { cmd with successfulWriteAttempt := some writeAttempt } } now
        t.timeoutMs

/-- The callback of a timer. -/
def onCommandTimeout (bus : FCPWriteAttempt → ℕ) (t : FCPTransport) (epoch : ℕ) : FCPTransport :=
  match t.pending with
  | none => t
  | some cmd =>
    if t.shuttingDown || cmd.timeoutEpoch ≠ epoch then t
    else failAttempt bus { t with pending := some { cmd with timeoutToken := none } }
      { cmd with timeoutToken := none } .timeout

inductive Event
  | response (r : Response)
  | writeComplete (writeAttempt : FCPWriteAttempt) (status : AsyncStatus)
  | timer (epoch : ℕ)
  deriving DecidableEq, Repr

/-- An event with the time of its dispatch. -/
def step (bus : FCPWriteAttempt → ℕ) (t : FCPTransport) : ℕ × Event → FCPTransport
  | (now, .response r) => t.onFCPResponse bus now r
  | (now, .writeComplete writeAttempt status) => t.onAsyncWriteComplete bus now writeAttempt status
  | (_, .timer epoch) => t.onCommandTimeout bus epoch

end FCPTransport

end ASFireWire.AVC
