import ASFireWire.AsyncTypes
import ASFireWire.EfcProtocol

/-! The EFC transaction runner (`Audio/Protocols/Fireworks/EfcTransport.cpp`). A step is one
critical section of `lock_` or one call made with the lock released; the calls that a thread still
has to make are kept as tasks, and any task may run next. -/
namespace ASFireWire.Fireworks

open ASFireWire.Async

inductive IOReturn
  | success | error | notReady | timeout | notResponding | aborted | ioError | badArgument
  deriving DecidableEq, Repr

/-- `number` counts the submissions. A response timer is named by the serial it was scheduled for,
0 is no timer. -/
structure Pending where
  number : ℕ
  category : Category
  command : ℕ
  seqnum : ℕ
  frame : List UInt8
  attempts : ℕ := 0
  serial : ℕ := 0
  timeout : ℕ := 0
  writeHandle : ℕ := 0
  writeOutstanding : Bool := false
  deriving DecidableEq, Repr

structure SendSnapshot where
  number : ℕ
  serial : ℕ
  attempt : ℕ
  node : ℕ
  frame : List UInt8
  deriving DecidableEq, Repr

/-- What a thread does next: `send` calls `WriteBlock`, `recordWrite` is the section behind it,
`armTimeout` calls `ScheduleAfter`, `recordTimer` is the section behind that one; `complete` and
`drain` run completions. -/
inductive Task
  | startNext
  | send (snapshot : SendSnapshot)
  | recordWrite (serial attempt handle : ℕ)
  | armTimeout (serial : ℕ)
  | recordTimer (serial token : ℕ)
  | complete (done : Pending) (status : IOReturn) (response : Option Response)
  | drain (drained : List Pending) (status : IOReturn)
  deriving DecidableEq, Repr

structure Route where
  valid : Bool := false
  nodeId : ℕ := 0xFFFF
  deriving DecidableEq, Repr

/-- One call of `OnResponse`, with what the transport had then. -/
structure Received where
  sourceID : ℕ
  payload : List UInt8
  route : Route
  inflight : Option Pending
  deriving DecidableEq, Repr

/-- The arguments of one `Submit`. -/
structure Submission where
  category : Category
  command : ℕ
  params : List ℕ
  deriving DecidableEq, Repr

structure CompletionRecord where
  number : ℕ
  status : IOReturn
  response : Option Response
  deriving DecidableEq, Repr

/-- The transport with the threads inside it and what it has outside: `writes` are the serials of
the accepted writes whose callback is still to come, `timers` those of the armed timers,
`lateTimers` those of timers cancelled but perhaps on their way. The last four fields record the
run. -/
structure EfcTransport where
  timerScheduler : Bool := true
  route : Route := {}
  currentSeqnum : ℕ := kSeqnumFirst
  nextSerial : ℕ := 0
  queue : List Pending := []
  inflight : Option Pending := none
  tasks : List Task := []
  writes : List ℕ := []
  timers : List ℕ := []
  lateTimers : List ℕ := []
  submissions : List Submission := []
  written : List SendSnapshot := []
  received : List Received := []
  completions : List CompletionRecord := []
  deriving DecidableEq, Repr

def phyId (nodeId : ℕ) : ℕ := nodeId % 64

namespace EfcTransport

def setRoute (s : EfcTransport) (route : Route) : EfcTransport := { s with route := route }

def addTask (s : EfcTransport) (task : Task) : EfcTransport := { s with tasks := s.tasks ++ [task] }

/-- `Submit`; `StartNext` is still to come. -/
def submit (s : EfcTransport) (category : Category) (command : ℕ) (params : List ℕ) :
    EfcTransport :=
  { s.addTask .startNext with
    queue := s.queue ++ [{
      number := s.submissions.length, category := category, command := command, seqnum := s.currentSeqnum
      frame := encodeCommand s.currentSeqnum category command params }]
    currentSeqnum := nextSeqnum s.currentSeqnum
    submissions := s.submissions ++ [⟨category, command, params⟩] }

/-- `CancelAll`: everything is taken out in one section, the completions follow. -/
def cancelAll (s : EfcTransport) (status : IOReturn) : EfcTransport :=
  { s.addTask (.drain (s.inflight.toList ++ s.queue) status) with inflight := none, queue := [] }

/-- `PrepareSendLocked` for the command in flight; its `Send` is still to come. -/
def prepareSend (s : EfcTransport) (pending : Pending) : EfcTransport :=
  let serial := s.nextSerial + 1
  let attempt := pending.attempts + 1
  { s.addTask (.send ⟨pending.number, serial, attempt, phyId s.route.nodeId, pending.frame⟩) with
    nextSerial := serial
    inflight := some
      { pending with attempts := attempt, serial := serial, writeOutstanding := false } }

/-- The command in flight is taken out and is to be completed. -/
def detach (s : EfcTransport) (pending : Pending) (status : IOReturn)
    (response : Option Response) : EfcTransport :=
  { s.addTask (.complete pending status response) with inflight := none }

/-- The critical section of `StartNext`. -/
def startNext (s : EfcTransport) : EfcTransport :=
  match s.inflight, s.queue with
  | none, pending :: rest =>
    let s := { s with queue := rest }
    if !s.route.valid || !s.timerScheduler then s.detach pending .notReady none
    else s.prepareSend pending
  | _, _ => s

/-- `WriteBlock`: handle 0 means that the write was refused and no callback follows. -/
def send (s : EfcTransport) (snapshot : SendSnapshot) (handle : ℕ) : EfcTransport :=
  { s.addTask (.recordWrite snapshot.serial snapshot.attempt handle) with
    written := s.written ++ [snapshot]
    writes := if handle = 0 then s.writes else s.writes ++ [snapshot.serial] }

/-- The section of `Send` behind `WriteBlock`. -/
def recordWrite (s : EfcTransport) (serial attempt handle : ℕ) : EfcTransport :=
  match s.inflight with
  | none => s
  | some pending =>
    if pending.serial = serial ∧ pending.timeout = 0 ∧ pending.attempts = attempt then
      { s with inflight := some { pending with writeHandle := handle, writeOutstanding := true } }
    else s

/-- One more attempt, or completion with a timeout. -/
def retry (s : EfcTransport) (pending : Pending) : EfcTransport :=
  if pending.attempts < kMaxAttempts then s.prepareSend pending
  else s.detach pending .timeout none

/-- `OnWriteCompleted`. -/
def onWriteCompleted (s : EfcTransport) (serial : ℕ) (status : AsyncStatus) : EfcTransport :=
  match s.inflight with
  | none => s
  | some pending =>
    if pending.serial ≠ serial then s
    else
      let pending := { pending with writeOutstanding := false }
      match status with
      | .success => { s.addTask (.armTimeout serial) with inflight := some pending }
      | .timeout | .busyRetryExhausted => s.retry pending
      | .staleGeneration => s.detach pending .notResponding none
      | .aborted => s.detach pending .aborted none
      | _ => s.detach pending .ioError none

/-- `ScheduleAfter`, which may fail. -/
def armTimeout (s : EfcTransport) (serial : ℕ) (scheduled : Bool) : EfcTransport :=
  if scheduled then
    { s.addTask (.recordTimer serial serial) with timers := s.timers ++ [serial] }
  else s.addTask (.recordTimer serial 0)

/-- `Cancel` of a response timer. -/
def cancelTimer (s : EfcTransport) (token : ℕ) : EfcTransport :=
  if token = 0 then s
  else
    { s with
      timers := s.timers.filter (· ≠ token)
      lateTimers := s.lateTimers ++ s.timers.filter (· = token) }

/-- The section of `ArmTimeout` behind `ScheduleAfter`. -/
def recordTimer (s : EfcTransport) (serial token : ℕ) : EfcTransport :=
  match s.inflight with
  | none => s.cancelTimer token
  | some pending =>
    if pending.serial = serial then
      if token = 0 then s.detach pending .notReady none
      else { s with inflight := some { pending with timeout := token } }
    else s.cancelTimer token

/-- `OnTimeout`. -/
def onTimeout (s : EfcTransport) (serial : ℕ) : EfcTransport :=
  match s.inflight with
  | none => s
  | some pending =>
    if pending.serial ≠ serial then s else s.retry { pending with timeout := 0 }

/-- Status of a command whose response has arrived. -/
def responseStatus (response : Response) (pending : Pending) : IOReturn :=
  if !responseMatches response pending.seqnum pending.category pending.command then .badArgument
  else if response.header.status ≠ kStatusOk then .error
  else .success

/-- The response comes from the routed node and echoes the command in flight. -/
def accepts (s : EfcTransport) (sourceID : ℕ) (decoded : Response) (pending : Pending) : Bool :=
  s.route.valid && phyId sourceID = phyId s.route.nodeId &&
    decoded.header.seqnum = echoed pending.seqnum

/-- The section of `OnResponse` and the timer call behind it. -/
def onResponse (s : EfcTransport) (sourceID : ℕ) (payload : List UInt8) : EfcTransport :=
  match decodeResponse payload, s.inflight with
  | some decoded, some pending =>
    if !s.accepts sourceID decoded pending then s
    else
      (s.cancelTimer pending.timeout).detach { pending with timeout := 0 }
        (responseStatus decoded pending) (some decoded)
  | _, _ => s

/-- `Complete`: the callback, then `StartNext`. -/
def complete (s : EfcTransport) (done : Pending) (status : IOReturn)
    (response : Option Response) : EfcTransport :=
  { s.addTask .startNext with
    completions := s.completions ++ [⟨done.number, status, response⟩] }

/-- The next command `CancelAll` has taken out. -/
def drain (s : EfcTransport) (drained : List Pending) (status : IOReturn) : EfcTransport :=
  match drained with
  | [] => s
  | pending :: rest =>
    { (s.cancelTimer pending.timeout).addTask (.drain rest status) with
      completions := s.completions ++ [⟨pending.number, status, none⟩] }

/-- A thread goes on with its task; `answer` is what the call it makes returns. -/
def runTask (s : EfcTransport) (task : Task) (answer : ℕ) : EfcTransport :=
  match task with
  | .startNext => s.startNext
  | .send snapshot => s.send snapshot answer
  | .recordWrite serial attempt handle => s.recordWrite serial attempt handle
  | .armTimeout serial => s.armTimeout serial (answer ≠ 0)
  | .recordTimer serial token => s.recordTimer serial token
  | .complete done status response => s.complete done status response
  | .drain drained status => s.drain drained status

end EfcTransport

inductive EfcEvent
  | submit (category : Category) (command : ℕ) (params : List ℕ)
  | setRoute (route : Route)
  | cancelAll (status : IOReturn)
  | response (sourceID : ℕ) (payload : List UInt8)
  | writeCompleted (serial : ℕ) (status : AsyncStatus)
  | timerExpired (serial : ℕ)
  | run (index answer : ℕ)
  deriving DecidableEq, Repr

namespace EfcTransport

/-- Callbacks come for writes that are outstanding and for timers that were armed, once each. -/
def step (s : EfcTransport) : EfcEvent → EfcTransport
  | .submit category command params => s.submit category command params
  | .setRoute route => s.setRoute route
  | .cancelAll status => s.cancelAll status
  | .response sourceID payload =>
    { s.onResponse sourceID payload with
      received := s.received ++ [⟨sourceID, payload, s.route, s.inflight⟩] }
  | .writeCompleted serial status =>
    if serial ∈ s.writes then
      { s with writes := s.writes.erase serial }.onWriteCompleted serial status
    else s
  | .timerExpired serial =>
    if serial ∈ s.timers then { s with timers := s.timers.erase serial }.onTimeout serial
    else if serial ∈ s.lateTimers then
      { s with lateTimers := s.lateTimers.erase serial }.onTimeout serial
    else s
  | .run index answer =>
    match s.tasks[index]? with
    | none => s
    | some task => { s with tasks := s.tasks.eraseIdx index }.runTask task answer

end EfcTransport

end ASFireWire.Fireworks
