import ASFireWire.KeyedLists
import ASFireWire.LoginSession

/-! The registry of SBP-2 sessions (`Protocols/SBP2/Session/SessionRegistry.cpp`). Its calls run on
the queue of the sessions, one after the other. -/
namespace ASFireWire.SBP2

open ASFireWire.Async

def kSBP2UnitSpecId : ℕ := 0x00609E

def kSBP2UnitSwVersion : ℕ := 0x010483

inductive CreateError
  | notReady | notFound | unsupported | exclusiveAccess
  deriving DecidableEq, Repr

/-- `DeviceRouteToken`. -/
structure SessionRoute where
  generation : ℕ := 0
  deviceIncarnation : ℕ := 0
  nodeId : ℕ := 0
  deriving DecidableEq, Repr

/-- What the registry reads of an `FWUnit`; `deviceNodeId` is the node of its device, if it has
one. -/
structure SBP2Unit where
  unitSpecID : ℕ := kSBP2UnitSpecId
  unitSwVersion : ℕ := kSBP2UnitSwVersion
  managementAgentOffset : Option ℕ := none
  deviceNodeId : Option ℕ := none
  deriving DecidableEq, Repr

def buildTargetInfoFromUnit (unit : SBP2Unit) : SBP2TargetInfo where
  managementAgentOffset := unit.managementAgentOffset.getD 0
  targetNodeId := unit.deviceNodeId.getD 0xFFFF

structure SessionRecord where
  handle : ℕ
  owner : ℕ
  guid : ℕ
  romOffset : ℕ
  route : SessionRoute
  session : LoginSession
  lastError : ℤ := 0
  deriving DecidableEq, Repr

/-- An entry of `retiringSessions_`. The session keeps the handle and the owner it had. -/
structure RetiringSession where
  handle : ℕ
  owner : ℕ
  guid : ℕ
  romOffset : ℕ
  session : LoginSession
  deriving DecidableEq, Repr

/-- A session that has left both lists, with what the target knew and whether a logout had been
written. -/
structure Departure where
  handle : ℕ
  accepted : Bool
  logoutAttempted : Bool
  deriving DecidableEq, Repr

/-- `observed` are the calls of `loginStateObserver_`. -/
structure SessionRegistry where
  sessions : List SessionRecord := []
  retiringSessions : List RetiringSession := []
  nextHandle : ℕ := 1
  observed : List (ℕ × Bool) := []
  departed : List Departure := []
  deriving DecidableEq, Repr

namespace SessionRegistry

variable (g : SessionRegistry)

def findByHandle (handle : ℕ) : Option SessionRecord := KeyedLists.lookup (·.handle) g.sessions handle

def findByHandleForOwner (owner handle : ℕ) : Option SessionRecord :=
  (g.findByHandle handle).filter (·.owner = owner)

def findRetiring (handle : ℕ) : Option RetiringSession :=
  KeyedLists.lookup (·.handle) g.retiringSessions handle

def hasSessionForTarget (guid romOffset : ℕ) : Bool :=
  g.sessions.any (fun r => r.guid = guid && r.romOffset = romOffset) ||
    g.retiringSessions.any (fun r => r.guid = guid && r.romOffset = romOffset)

def departure (handle : ℕ) (session : LoginSession) : Departure :=
  ⟨handle, session.accepted, session.logoutAttempted⟩

/-- `sessions_.erase`, of a session that is held nowhere else. -/
def eraseSession (handle : ℕ) : SessionRegistry :=
  { g with
    sessions := KeyedLists.erase (·.handle) handle g.sessions
    departed := g.departed ++
      (g.sessions.filter (·.handle = handle)).map fun r => departure r.handle r.session }

/-- `EraseRetiredSessionLocked`. -/
def eraseRetired (handle : ℕ) : SessionRegistry :=
  { g with
    retiringSessions := KeyedLists.erase (·.handle) handle g.retiringSessions
    departed := g.departed ++
      (g.retiringSessions.filter (·.handle = handle)).map fun r => departure r.handle r.session }

/-- `SetReleaseLogoutCallbackLocked` and `RetireSessionLocked`, with the erasure from `sessions_`
that follows. -/
def retire (r : SessionRecord) : SessionRegistry :=
  { g with
    sessions := KeyedLists.erase (·.handle) r.handle g.sessions
    retiringSessions := g.retiringSessions ++
      [⟨r.handle, r.owner, r.guid, r.romOffset, { r.session with logoutCallback := true }⟩] }

/-- Replace the session with a handle. -/
def putSession (handle : ℕ) (session : LoginSession) : SessionRegistry :=
  { g with
    sessions := KeyedLists.modify (·.handle) handle ({ · with session := session }) g.sessions
    retiringSessions :=
      KeyedLists.modify (·.handle) handle ({ · with session := session }) g.retiringSessions }

/-- The session with a handle, and the GUID its callbacks were made for. -/
def findSession (handle : ℕ) : Option (ℕ × LoginSession) :=
  ((g.findByHandle handle).map fun r => (r.guid, r.session)).or
    ((g.findRetiring handle).map fun r => (r.guid, r.session))

/-- The login callback of `StartLogin`. -/
def loginReported (handle : ℕ) (status : ℤ) : SessionRegistry :=
  match g.findByHandle handle with
  | none => g
  | some r =>
    { g with
      sessions := KeyedLists.modify (·.handle) handle ({ · with lastError := status }) g.sessions
      observed := g.observed ++ [(r.guid, decide (status = 0))] }

/-- The logout callback of a release. -/
def logoutReported (handle guid : ℕ) : SessionRegistry :=
  { (g.eraseSession handle).eraseRetired handle with observed := g.observed ++ [(guid, false)] }

def report (handle guid : ℕ) (g : SessionRegistry) : SessionReport → SessionRegistry
  | .login status => g.loginReported handle status
  | .logout _ => g.logoutReported handle guid

/-- A call of a session, and the callbacks it makes. -/
def perform (handle : ℕ) (call : LoginSession → LoginSession) : SessionRegistry :=
  match g.findSession handle with
  | none => g
  | some (guid, session) =>
    (call session).reports.foldl (report handle guid)
      (g.putSession handle { call session with reports := [] })

def createSession (owner guid romOffset : ℕ) (route : Option SessionRoute)
    (unit : Option SBP2Unit) : SessionRegistry × Except CreateError ℕ :=
  match route with
  | none => (g, .error .notReady)
  | some route =>
    match unit with
    | none => (g, .error .notFound)
    | some unit =>
      if unit.unitSpecID ≠ kSBP2UnitSpecId ∨ unit.unitSwVersion ≠ kSBP2UnitSwVersion then
        (g, .error .unsupported)
      else if unit.managementAgentOffset = none ∨ unit.managementAgentOffset = some 0 then
        (g, .error .unsupported)
      else
        let targetInfo := buildTargetInfoFromUnit unit
        if targetInfo.managementAgentOffset = 0 ∨ targetInfo.targetNodeId ≠ route.nodeId then
          (g, .error .unsupported)
        else if g.hasSessionForTarget guid romOffset then (g, .error .exclusiveAccess)
        else
          ({ g with
            sessions := g.sessions ++ [{
              handle := g.nextHandle, owner := owner, guid := guid, romOffset := romOffset
              route := route, session := ({} : LoginSession).configure targetInfo }]
            nextHandle := g.nextHandle + 1 }, .ok g.nextHandle)

/-- `StartLogin`; `isCurrent` is the answer of `deviceRegistry_.IsCurrent`. -/
def startLogin (owner handle : ℕ) (isCurrent : Bool) (answer : BusAnswer) :
    SessionRegistry × Bool :=
  match g.findByHandleForOwner owner handle with
  | none => (g, false)
  | some r =>
    if !isCurrent then (g, false)
    else if r.session.state ≠ .idle then (g, false)
    else
      let call s := LoginSession.login { s with loginCallback := true } answer
      (g.perform handle fun s => (call s).1, (call r.session).2)

/-- Whether a release goes on with `Logout`. -/
def logsOut (session : LoginSession) : Bool :=
  session.state = .loggedIn || session.state = .suspended

/-- What a release does with a record under the lock. -/
def detach (g : SessionRegistry) (r : SessionRecord) : SessionRegistry :=
  if logsOut r.session || r.session.state = .loggingOut then g.retire r
  else g.eraseSession r.handle

/-- `Logout` of a retired session, which is given up when that is rejected. -/
def logoutRetired (handle : ℕ) (answer : BusAnswer) : SessionRegistry :=
  match g.findRetiring handle with
  | none => g
  | some r =>
    let g := g.perform handle fun s => (s.logout answer).1
    if (r.session.logout answer).2 then g else g.eraseRetired handle

def releaseSession (owner handle : ℕ) (answer : BusAnswer) : SessionRegistry × Bool :=
  match g.findByHandleForOwner owner handle with
  | none => (g, false)
  | some r =>
    (if logsOut r.session then (g.detach r).logoutRetired handle answer else g.detach r, true)

/-- `ReleaseOwner`: all records of the owner under the lock, then the logouts. -/
def releaseOwner (owner : ℕ) (answers : ℕ → BusAnswer) : SessionRegistry :=
  let records := g.sessions.filter (·.owner = owner)
  let toLogout := (records.filter (logsOut ·.session)).map (·.handle)
  toLogout.foldl (fun g handle => g.logoutRetired handle (answers handle))
    (records.foldl detach g)

def onBusReset (newGeneration : ℕ) : SessionRegistry :=
  { g with
    sessions := g.sessions.map fun r =>
      { r with session := r.session.handleBusReset newGeneration } }

/-- The record of a suspended session whose device is back in generation `gen`. -/
def refreshRecord (gen : ℕ) (routes : ℕ → Option SessionRoute) (units : ℕ → ℕ → Option SBP2Unit)
    (r : SessionRecord) : Option SessionRecord :=
  match routes r.guid, units r.guid r.romOffset with
  | some route, some unit =>
    if r.session.state = .suspended ∧ route.generation = gen ∧
        route.deviceIncarnation = r.route.deviceIncarnation then
      some { r with
        session := r.session.configure (buildTargetInfoFromUnit unit), route := route }
    else none
  | _, _ => none

/-- `RefreshTargets`: the records under the lock, then the reconnects. -/
def refreshTargets (gen : ℕ) (routes : ℕ → Option SessionRoute) (units : ℕ → ℕ → Option SBP2Unit)
    (answers : ℕ → BusAnswer) : SessionRegistry :=
  let toReconnect := (g.sessions.filter fun r => (refreshRecord gen routes units r).isSome).map
    (·.handle)
  toReconnect.foldl (fun g handle => g.perform handle fun s => (s.reconnect (answers handle)).1)
    { g with sessions := g.sessions.map fun r => (refreshRecord gen routes units r).getD r }

/-- The bus has a new generation: no login was offered to a target or accepted in it. -/
def changeGeneration : SessionRegistry :=
  { g with
    sessions := g.sessions.map fun r =>
      { r with session := { r.session with offered := false, accepted := false } }
    retiringSessions := g.retiringSessions.map fun r =>
      { r with session := { r.session with offered := false, accepted := false } } }

end SessionRegistry

/-- Calls of the registry, and what befalls the session with a handle. -/
inductive RegistryEvent
  | createSession (owner guid romOffset : ℕ) (route : Option SessionRoute) (unit : Option SBP2Unit)
  | startLogin (owner handle : ℕ) (isCurrent : Bool) (answer : BusAnswer)
  | releaseSession (owner handle : ℕ) (answer : BusAnswer)
  | releaseOwner (owner : ℕ) (answers : ℕ → BusAnswer)
  | generationChanged
  | onBusReset (newGeneration : ℕ)
  | refreshTargets (gen : ℕ) (routes : ℕ → Option SessionRoute)
      (units : ℕ → ℕ → Option SBP2Unit) (answers : ℕ → BusAnswer)
  | writeCompleted (handle : ℕ) (write : ManagementWrite) (status : AsyncStatus)
  | statusBlock (handle sbpStatus : ℕ) (response : Option LoginResponse) (answer : BusAnswer)
  | managementTimer (handle : ℕ) (answer : BusAnswer)
  | targetAccepts (handle : ℕ)

namespace SessionRegistry

/-- Write completions come for writes that are outstanding, status blocks to a session that has its
address ranges, and a target can accept what it was offered in the present generation. -/
def step (g : SessionRegistry) : RegistryEvent → SessionRegistry
  | .createSession owner guid romOffset route unit =>
    (g.createSession owner guid romOffset route unit).1
  | .startLogin owner handle isCurrent answer => (g.startLogin owner handle isCurrent answer).1
  | .releaseSession owner handle answer => (g.releaseSession owner handle answer).1
  | .releaseOwner owner answers => g.releaseOwner owner answers
  | .generationChanged => g.changeGeneration
  | .onBusReset newGeneration => g.onBusReset newGeneration
  | .refreshTargets gen routes units answers => g.refreshTargets gen routes units answers
  | .writeCompleted handle write status => g.perform handle fun s =>
    if write ∈ s.writes then { s with writes := s.writes.erase write }.onWriteComplete write status
    else s
  | .statusBlock handle sbpStatus response answer => g.perform handle fun s =>
    if s.resources then s.onStatusBlock sbpStatus response answer else s
  | .managementTimer handle answer => g.perform handle fun s => s.onManagementTimer answer
  | .targetAccepts handle => g.perform handle fun s =>
    if s.offered then { s with accepted := true } else s

/-- Whose call it is. -/
def callerOf : RegistryEvent → Option ℕ
  | .createSession owner .. => some owner
  | .startLogin owner .. => some owner
  | .releaseSession owner .. => some owner
  | .releaseOwner owner _ => some owner
  | _ => none

end SessionRegistry

end ASFireWire.SBP2
