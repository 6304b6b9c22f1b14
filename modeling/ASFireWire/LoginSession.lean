import ASFireWire.AsyncTypes

/-! The management plane of an SBP-2 session (`Protocols/SBP2/Session/LoginSession.cpp`). All calls
run on one queue, so that a call is one step; the bus may complete a write before `WriteBlock`
returns. -/
namespace ASFireWire.SBP2

open ASFireWire.Async

inductive LoginState
  | idle | loggingIn | loggedIn | reconnecting | loggingOut | suspended | failed
  deriving DecidableEq, Repr

/-- What the one management timer is armed for. -/
inductive ManagementTimer
  | loginTimeout | loginRetry | loginAfterReset | reconnectTimeout | reconnectAgain | logoutTimeout
  deriving DecidableEq, Repr

inductive ManagementORB
  | login | reconnect | logout
  deriving DecidableEq, Repr

/-- A write of an ORB pointer to the management agent whose completion is to come. -/
structure ManagementWrite where
  orb : ManagementORB
  generation : ℕ
  deriving DecidableEq, Repr

/-- What `WriteBlock` does: it returns no handle, or one with the completion to come, or it runs
the completion and then returns with a handle or without. -/
inductive WriteAnswer
  | refused
  | pending
  | immediate (status : AsyncStatus) (handle : Bool)
  deriving DecidableEq, Repr

def WriteAnswer.handle : WriteAnswer → Bool
  | refused => false
  | pending => true
  | immediate _ handle => handle

/-- What a call of the session finds: the generation of the bus, whether address space can be
allocated, and how its write is answered. -/
structure BusAnswer where
  generation : ℕ := 0
  allocated : Bool := true
  written : WriteAnswer := .pending
  deriving DecidableEq, Repr

structure SBP2TargetInfo where
  managementAgentOffset : ℕ := 0
  targetNodeId : ℕ := 0xFFFF
  deriving DecidableEq, Repr

structure LoginResponse where
  loginID : ℕ
  reconnectHold : ℕ
  deriving DecidableEq, Repr

/-- `SBPStatus::kNoAdditionalInfo`. -/
def kNoAdditionalInfo : ℕ := 0

/-- A call of `loginCallback_` or of `logoutCallback_` with its status. -/
inductive SessionReport
  | login (status : ℤ)
  | logout (status : ℤ)
  deriving DecidableEq, Repr

def kLoginRetryMax : ℕ := 32

def kStatusSessionLost : ℤ := -3

/-- `resources` are the five address ranges, `boundGeneration` the binding of the fetch agent, and
`reports` the callbacks that were called. The last three fields are the target's view in the
present generation and whether a logout was written: `offered` a login or reconnect ORB has been
handed to the bus, `accepted` the target has taken one. -/
structure LoginSession where
  configured : Bool := false
  targetInfo : SBP2TargetInfo := {}
  state : LoginState := .idle
  loginID : ℕ := 0
  reconnectHold : ℕ := 0
  loginGeneration : ℕ := 0
  loginNodeID : ℕ := 0xFFFF
  loginRetryCount : ℕ := 0
  resources : Bool := false
  boundGeneration : Option ℕ := none
  managementTimer : Option ManagementTimer := none
  writes : List ManagementWrite := []
  loginCallback : Bool := false
  logoutCallback : Bool := false
  reports : List SessionReport := []
  offered : Bool := false
  accepted : Bool := false
  logoutAttempted : Bool := false
  deriving DecidableEq, Repr

namespace LoginSession

def configure (s : LoginSession) (info : SBP2TargetInfo) : LoginSession :=
  { s with targetInfo := info, configured := true }

/-- `ArmManagementTimer`. -/
def arm (s : LoginSession) (timer : ManagementTimer) : LoginSession :=
  { s with managementTimer := some timer }

def cancelManagementTimer (s : LoginSession) : LoginSession := { s with managementTimer := none }

def setState (s : LoginSession) (state : LoginState) : LoginSession := { s with state := state }

def reportLogin (s : LoginSession) (status : ℤ) : LoginSession :=
  if s.loginCallback then { s with reports := s.reports ++ [.login status] } else s

def reportLogout (s : LoginSession) (status : ℤ) : LoginSession :=
  if s.logoutCallback then { s with reports := s.reports ++ [.logout status] } else s

/-- One more attempt a second from now, or the end of the login. -/
def retryLogin (s : LoginSession) : LoginSession :=
  if s.loginRetryCount < kLoginRetryMax then
    { s with loginRetryCount := s.loginRetryCount + 1 }.arm .loginRetry
  else (s.setState .failed).reportLogin (-1)

def onLoginWriteComplete (s : LoginSession) (expectedGeneration : ℕ) (status : AsyncStatus) :
    LoginSession :=
  if expectedGeneration ≠ s.loginGeneration ∨ s.state ≠ .loggingIn then s
  else if status ≠ .success then s.cancelManagementTimer.retryLogin
  else s.cancelManagementTimer.arm .loginTimeout

def onReconnectWriteComplete (s : LoginSession) (expectedGeneration : ℕ) (status : AsyncStatus) :
    LoginSession :=
  if expectedGeneration ≠ s.loginGeneration ∨ s.state ≠ .reconnecting then s
  else if status ≠ .success then s.arm .reconnectAgain
  else s.arm .reconnectTimeout

/-- The end of a logout, with status 0 from a status block. -/
def endLogout (s : LoginSession) (status : ℤ) : LoginSession :=
  ({ s with loginID := 0 }.setState .idle).reportLogout status

def onLogoutWriteComplete (s : LoginSession) (expectedGeneration : ℕ) (status : AsyncStatus) :
    LoginSession :=
  if expectedGeneration ≠ s.loginGeneration ∨ s.state ≠ .loggingOut then s
  else if status ≠ .success then s.cancelManagementTimer.endLogout (-1)
  else s.arm .logoutTimeout

def onWriteComplete (s : LoginSession) (write : ManagementWrite) (status : AsyncStatus) :
    LoginSession :=
  match write.orb with
  | .login => s.onLoginWriteComplete write.generation status
  | .reconnect => s.onReconnectWriteComplete write.generation status
  | .logout => s.onLogoutWriteComplete write.generation status

/-- `WriteBlock` of an ORB pointer to the management agent. -/
def writeManagement (s : LoginSession) (orb : ManagementORB) (answer : WriteAnswer) :
    LoginSession :=
  let s := { s with
    offered := s.offered || orb ≠ .logout && answer ≠ .refused
    logoutAttempted := s.logoutAttempted || orb = .logout }
  match answer with
  | .refused => s
  | .pending => { s with writes := s.writes ++ [⟨orb, s.loginGeneration⟩] }
  | .immediate status _ => s.onWriteComplete ⟨orb, s.loginGeneration⟩ status

def login (s : LoginSession) (answer : BusAnswer) : LoginSession × Bool :=
  if !s.configured then (s, false)
  else if s.state = .loggingIn ∨ s.state = .loggedIn then (s, false)
  else if !s.resources && !answer.allocated then (s.setState .failed, false)
  else
    let s := { s with
      resources := true, state := .loggingIn, loginGeneration := answer.generation % 2 ^ 16
      loginNodeID := s.targetInfo.targetNodeId }.writeManagement .login answer.written
    if !answer.written.handle then (s.setState .failed, false)
    else (s.arm .loginTimeout, true)

def logout (s : LoginSession) (answer : BusAnswer) : LoginSession × Bool :=
  if s.state ≠ .loggedIn ∧ s.state ≠ .suspended then (s, false)
  else
    let s := { s with
      state := .loggingOut, boundGeneration := none }.writeManagement .logout answer.written
    if !answer.written.handle then (s.setState .failed, false)
    else (s.arm .logoutTimeout, true)

def reconnect (s : LoginSession) (answer : BusAnswer) : LoginSession × Bool :=
  if s.state ≠ .suspended ∧ s.state ≠ .loggedIn then (s, false)
  else
    let s := { s with
      state := .reconnecting, loginGeneration := answer.generation % 2 ^ 16
      loginNodeID := s.targetInfo.targetNodeId }
    if !s.resources && !answer.allocated then (s.setState .failed, false)
    else
      let s := { s with resources := true }.writeManagement .reconnect answer.written
      if !answer.written.handle then (s.arm .reconnectTimeout, true) else (s, true)

/-- `CancelManagementTimer`, `Unbind` and `DeallocateResources`. -/
def tearDown (s : LoginSession) : LoginSession :=
  { s.cancelManagementTimer with boundGeneration := none, resources := false }

def handleBusReset (s : LoginSession) (newGeneration : ℕ) : LoginSession :=
  match s.state with
  | .loggingIn =>
    ({ s.tearDown with loginRetryCount := 0, loginGeneration := newGeneration }.setState .idle).arm
      .loginAfterReset
  | .loggedIn => { s.tearDown.setState .suspended with loginGeneration := newGeneration }
  | .reconnecting =>
    ({ s.tearDown with loginGeneration := newGeneration }.setState .suspended).arm .reconnectAgain
  | .loggingOut => s.tearDown.setState .idle
  | .failed => { s with resources := false }
  | _ => s

def onLoginTimeout (s : LoginSession) (answer : BusAnswer) : LoginSession :=
  if s.state ≠ .loggingIn then s
  else if s.loginRetryCount < kLoginRetryMax then
    (({ s with loginRetryCount := s.loginRetryCount + 1 }.setState .idle).login answer).1
  else (s.setState .failed).reportLogin (-2)

/-- `NotifySessionLost` and the full login behind it. -/
def loseSession (s : LoginSession) (answer : BusAnswer) : LoginSession :=
  (((s.reportLogin kStatusSessionLost).setState .idle).login answer).1

def onReconnectTimeout (s : LoginSession) (answer : BusAnswer) : LoginSession :=
  if s.state ≠ .reconnecting then s else s.loseSession answer

def onLogoutTimeout (s : LoginSession) : LoginSession :=
  if s.state ≠ .loggingOut then s else s.endLogout (-2)

/-- The management timer expires. -/
def onManagementTimer (s : LoginSession) (answer : BusAnswer) : LoginSession :=
  match s.managementTimer with
  | none => s
  | some timer =>
    let s := s.cancelManagementTimer
    match timer with
    | .loginTimeout => s.onLoginTimeout answer
    | .loginRetry =>
      ({ s with
        loginGeneration := answer.generation % 2 ^ 16
        loginNodeID := s.targetInfo.targetNodeId, state := .idle }.login answer).1
    | .loginAfterReset => (s.login answer).1
    | .reconnectTimeout => s.onReconnectTimeout answer
    | .reconnectAgain => (s.reconnect answer).1
    | .logoutTimeout => s.onLogoutTimeout

/-- `CompleteLoginFromStatusBlock`; `response` is what `ReadIncomingData` finds. -/
def completeLogin (s : LoginSession) (sbpStatus : ℕ) (response : Option LoginResponse) :
    LoginSession :=
  if sbpStatus ≠ kNoAdditionalInfo then s.retryLogin
  else
    match response with
    | none => s.retryLogin
    | some response =>
      { s with
        loginID := response.loginID, reconnectHold := response.reconnectHold
        loginRetryCount := 0, state := .loggedIn
        boundGeneration := some s.loginGeneration }.reportLogin 0

def completeReconnect (s : LoginSession) (sbpStatus : ℕ) (answer : BusAnswer) : LoginSession :=
  if sbpStatus ≠ kNoAdditionalInfo then s.loseSession answer
  else
    { s with
      state := .loggedIn, boundGeneration := some s.loginGeneration }.reportLogin 0

/-- `OnStatusBlockRemoteWrite`, a write to the status FIFO. -/
def onStatusBlock (s : LoginSession) (sbpStatus : ℕ) (response : Option LoginResponse)
    (answer : BusAnswer) : LoginSession :=
  match s.state with
  | .loggingIn => s.cancelManagementTimer.completeLogin sbpStatus response
  | .reconnecting => s.cancelManagementTimer.completeReconnect sbpStatus answer
  | .loggingOut => s.cancelManagementTimer.endLogout 0
  | _ => s

end LoginSession

end ASFireWire.SBP2
