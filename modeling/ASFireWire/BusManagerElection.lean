import ASFireWire.AsyncTypes
import ASFireWire.BusGeneration
import ASFireWire.PostResetTiming
import ASFireWire.Runs

/-! The bus-manager election (`Bus/BusManager/BusManagerElection*`): the ownership state machine
and the driver that contends for `BUS_MANAGER_ID` once a generation, at once or from a deferred
timer, and reads the outcome from the compare-swap that comes back. -/
namespace ASFireWire.Bus

open ASFireWire.Async ASFireWire.BusReset ASFireWire.Topology

inductive RoleMode | legacyBmcCleared | clientOnly | irmResourceHost | fullBusManager
  deriving DecidableEq, Repr

inductive FullBMActivityLevel
  | observeOnly | electionOnly | cyclePolicyAllowed | gapPolicyAllowed | forceRootAllowed
  | remoteCmstrAllowed
  deriving DecidableEq, Repr

/-- The enumerator's value; the levels are compared by it. -/
def FullBMActivityLevel.level : FullBMActivityLevel → ℕ
  | .observeOnly => 0
  | .electionOnly => 1
  | .cyclePolicyAllowed => 2
  | .gapPolicyAllowed => 3
  | .forceRootAllowed => 4
  | .remoteCmstrAllowed => 5

structure RolePolicy where
  roleMode : RoleMode := .clientOnly
  fullBMActivityLevel : FullBMActivityLevel := .observeOnly
  deriving DecidableEq, Repr

/-! ### The ownership state machine -/

inductive BmOwner | none | local | remote | unknown
  deriving DecidableEq, Repr

inductive DecisionAction | doNotContend | contendImmediately | contendAfterGrace
  deriving DecidableEq, Repr

inductive ElectionOutcome | wonBM | incumbentReestablished | remoteBM | electionFailed
  deriving DecidableEq, Repr

structure BmElectionInputs where
  mode : RoleMode
  activityLevel : FullBMActivityLevel
  generation : ℕ
  localId : ℕ
  irmId : Option ℕ
  wasIncumbent : Bool
  abdicateObserved : Bool
  deriving DecidableEq, Repr

def kNoBusManagerId : ℕ := 0x3F

structure BusManagerElection where
  owner : BmOwner := .none
  ownerId : Option ℕ := none
  lastElectionGen : ℕ := 0
  staleAbortCount : ℕ := 0
  lastOldValue : ℕ := kNoBusManagerId
  deriving DecidableEq, Repr

namespace BusManagerElection

def decideAction (fsm : BusManagerElection) (inputs : BmElectionInputs) :
    DecisionAction × BusManagerElection :=
  if inputs.mode ≠ .fullBusManager then (.doNotContend, fsm)
  else if inputs.activityLevel.level < FullBMActivityLevel.electionOnly.level then
    (.doNotContend, fsm)
  else if inputs.irmId = none then (.doNotContend, fsm)
  else
    let fsm := { fsm with lastElectionGen := inputs.generation }
    if inputs.wasIncumbent && !inputs.abdicateObserved then (.contendImmediately, fsm)
    else (.contendAfterGrace, fsm)

/-- `BUS_MANAGER_ID` has six bits; a value with any upper bit set is no owner at all. -/
def interpretOldValue (fsm : BusManagerElection) (oldValue localId : ℕ) :
    ElectionOutcome × BusManagerElection :=
  let fsm := { fsm with lastOldValue := oldValue }
  if oldValue / 64 ≠ 0 then
    (.electionFailed, { fsm with owner := .unknown, ownerId := none })
  else if oldValue = kNoBusManagerId then
    (.wonBM, { fsm with owner := .local, ownerId := some localId })
  else if oldValue = localId then
    (.incumbentReestablished, { fsm with owner := .local, ownerId := some localId })
  else (.remoteBM, { fsm with owner := .remote, ownerId := some (oldValue % 64) })

def reset (fsm : BusManagerElection) : BusManagerElection :=
  { fsm with
    owner := .none
    ownerId := none
    lastOldValue := kNoBusManagerId }

def incrementStaleAbortCount (fsm : BusManagerElection) : BusManagerElection :=
  { fsm with staleAbortCount := fsm.staleAbortCount + 1 }

/-- The class a contender is put in. -/
lemma decideAction_contends {fsm : BusManagerElection} {inputs : BmElectionInputs}
    (h : (fsm.decideAction inputs).1 ≠ .doNotContend) :
    (fsm.decideAction inputs).1 =
      if inputs.wasIncumbent && !inputs.abdicateObserved then .contendImmediately
      else .contendAfterGrace := by
  unfold decideAction at h ⊢
  dsimp only at h ⊢
  split_ifs at h ⊢ <;> first | rfl | exact absurd rfl h

end BusManagerElection

/-! ### The driver -/

/-- What the driver tells its observer. -/
inductive RoleNotice
  | localWonBM (generation localNodeId : ℕ)
  | remoteBM (generation remoteNodeId : ℕ)
  | electionFailed (generation : ℕ) (status : AsyncStatus)
  deriving DecidableEq, Repr

inductive LocalCSRLockStatus | success | timeout | hardwareUnavailable
  deriving DecidableEq, Repr

/-- What the local `CSRControl` lock answers. -/
structure LocalCSRLockResult where
  status : LocalCSRLockStatus := .hardwareUnavailable
  oldValue : ℕ := 0
  compareMatched : Bool := false
  deriving DecidableEq, Repr

/-- The captures of a deferred contention. -/
structure DeferredContention where
  generation : ℕ
  localNodeId : ℕ
  irmNodeId : ℕ
  busBase16 : ℕ
  candidateClass : BMCandidateClass
  deriving DecidableEq, Repr

/-- The captures of a compare-swap callback, with the handle the controller gave out. -/
structure OutstandingLock where
  handle : ℕ
  generation : ℕ
  localNodeId : ℕ
  destinationID : ℕ
  deriving DecidableEq, Repr

structure YieldTopologyKey where
  localNodeId : ℕ := 0xFF
  rootNodeId : ℕ := 0xFF
  irmNodeId : ℕ := 0xFF
  nodeCount : ℕ := 0
  deriving DecidableEq, Repr

def kFastResetAfterBMWinNs : ℕ := 500000000

/-- The fields of `BusManagerElectionDriver`. -/
structure ElectionDriver where
  rolePolicy : RolePolicy := {}
  fsm : BusManagerElection := {}
  inFlightHandle : Option ℕ := none
  wasIncumbent : Bool := false
  inFlight : Bool := false
  inFlightGen : ℕ := 0
  attemptedGeneration : ℕ := 0
  attemptsThisGeneration : UInt8 := 0
  localNodeId : ℕ := 0xFF
  irmNodeId : ℕ := 0xFF
  lastElectionPath : ℕ := 0
  lastAction : ℕ := 0
  active : Bool := true
  lastLocalBMWinNs : ℕ := 0
  stormYieldPending : Bool := false
  stormYieldActive : Bool := false
  stormYieldKey : YieldTopologyKey := {}
  deriving DecidableEq, Repr

/-- The driver with what it is wired to: the bus state and the timing gates it reads, the abdicate
flag it consumes, the deferred contentions and compare-swaps it cannot take back. `epoch` numbers
the generations of the bus, `locks` lists the epoch of every compare-swap issued, and `resetSeen`
says that a reset started whose generation is not confirmed yet. -/
structure ElectionWorld where
  driver : ElectionDriver := {}
  generation16 : ℕ := 0
  timing : PostResetTimingState := {}
  abdicate : Bool := false
  timers : List DeferredContention := []
  outstanding : List OutstandingLock := []
  nextHandle : ℕ := 1
  cancelled : List ℕ := []
  notices : List RoleNotice := []
  epoch : ℕ := 0
  locks : List ℕ := []
  resetSeen : Bool := false
  deriving DecidableEq, Repr

namespace ElectionDriver

def electionStillAllowed (d : ElectionDriver) : Bool :=
  d.active && d.rolePolicy.roleMode = .fullBusManager &&
    FullBMActivityLevel.electionOnly.level ≤ d.rolePolicy.fullBMActivityLevel.level

/-- A reset right after a local win, on a bus whose remote root is also the IRM, is taken as
evidence that the bus does not want this manager. -/
def shouldYieldForStableRemoteIRM (d : ElectionDriver) (snap : TopologySnapshot) :
    Bool × ElectionDriver :=
  let key : YieldTopologyKey :=
    ⟨snap.localNodeId, snap.rootNodeId, snap.irmNodeId, snap.nodeCount⟩
  let d :=
    if d.stormYieldPending then
      let yields := decide (snap.localNodeId ≠ kInvalidPhysicalId ∧
        snap.rootNodeId ≠ kInvalidPhysicalId ∧ snap.irmNodeId ≠ kInvalidPhysicalId ∧
        snap.localNodeId ≠ snap.rootNodeId ∧ snap.rootNodeId = snap.irmNodeId)
      { d with
        stormYieldPending := false
        stormYieldActive := yields
        stormYieldKey := if yields then key else d.stormYieldKey }
    else d
  if !d.stormYieldActive then (false, d)
  else if key ≠ d.stormYieldKey then (false, { d with stormYieldActive := false })
  else
    (true, { d with
      lastAction := 3
      lastElectionPath := 0
      inFlight := false })

end ElectionDriver

namespace ElectionWorld

def notify (w : ElectionWorld) (notice : RoleNotice) : ElectionWorld :=
  { w with notices := w.notices ++ [notice] }

/-- `inFlight_` is cleared before the callback is found to be stale. -/
def handleCompareSwapResult (w : ElectionWorld) (generation localNodeId : ℕ)
    (status : AsyncStatus) (oldValue nowNs : ℕ) : ElectionWorld :=
  if !w.driver.active then w
  else
    let d := { w.driver with inFlight := false }
    if w.generation16 ≠ generation then
      { w with driver := { d with fsm := d.fsm.incrementStaleAbortCount } }
    else if status ≠ .success then
      { w with driver := d }.notify (.electionFailed generation status)
    else
      let r := d.fsm.interpretOldValue oldValue localNodeId
      let d := { d with fsm := r.2 }
      match r.1 with
      | .wonBM | .incumbentReestablished =>
        { w with driver := { d with lastLocalBMWinNs := nowNs } }.notify
          (.localWonBM generation localNodeId)
      | .remoteBM =>
        { w with driver := d }.notify (.remoteBM generation (d.fsm.ownerId.getD 0xFF))
      | .electionFailed =>
        { w with driver := d }.notify (.electionFailed generation .lockCompareFail)

def logLock (w : ElectionWorld) : ElectionWorld := { w with locks := w.locks ++ [w.epoch] }

/-- `Contend`: the lock goes to the local register when this node is the IRM, and to the bus
otherwise. -/
def contendNow (w : ElectionWorld) (generation localNodeId irmNodeId busBase16 : ℕ)
    (lockResult : LocalCSRLockResult) (nowNs : ℕ) : ElectionWorld :=
  match contend w.driver.electionStillAllowed true ⟨w.generation16, 0, 0⟩
      generation localNodeId irmNodeId busBase16 with
  | .notAllowed | .staleGeneration => { w with driver := { w.driver with inFlight := false } }
  | .localCompareSwap _ =>
    let w := { w with driver := { w.driver with lastElectionPath := 1 } }.logLock
    if lockResult.status ≠ .success then
      { w with driver := { w.driver with inFlight := false } }.notify
        (.electionFailed generation .hardwareError)
    else w.handleCompareSwapResult generation localNodeId .success lockResult.oldValue nowNs
  | .remoteCompareSwap destinationID swapValue =>
    let lock : OutstandingLock := ⟨w.nextHandle, generation, swapValue, destinationID⟩
    { w with
      driver := { w.driver with lastElectionPath := 2, inFlightHandle := some w.nextHandle }
      outstanding := w.outstanding ++ [lock]
      nextHandle := w.nextHandle + 1 }.logLock

/-- The attempt is counted, and the lock goes out. -/
def attempt (w : ElectionWorld) (t : DeferredContention) (lockResult : LocalCSRLockResult)
    (nowNs : ℕ) : ElectionWorld :=
  let w := { w with
    driver := { w.driver with
      attemptedGeneration := t.generation
      attemptsThisGeneration := w.driver.attemptsThisGeneration + 1 } }
  w.contendNow t.generation t.localNodeId t.irmNodeId t.busBase16 lockResult nowNs

/-- The Annex H gate: contend now, or defer the contention until the gate opens. -/
def enterGate (w : ElectionWorld) (t : DeferredContention) (nowNs : ℕ)
    (lockResult : LocalCSRLockResult) : ElectionWorld :=
  let gate := w.timing.checkBMGate t.generation t.candidateClass nowNs
  let engaged := { w with
    driver := { w.driver with inFlight := true, inFlightGen := t.generation } }
  if gate.state = .expiredGeneration then w
  else if gate.allowed then engaged.attempt t lockResult nowNs
  else if gate.state = .closed then { engaged with timers := engaged.timers ++ [t] }
  else w

def electionInputs (w : ElectionWorld) (snap : TopologySnapshot) : BmElectionInputs where
  mode := w.driver.rolePolicy.roleMode
  activityLevel := w.driver.rolePolicy.fullBMActivityLevel
  generation := snap.generation
  localId := snap.localNodeId
  irmId := some snap.irmNodeId
  wasIncumbent := w.driver.wasIncumbent
  abdicateObserved := w.abdicate

def contention (snap : TopologySnapshot) (candidateClass : BMCandidateClass) :
    DeferredContention :=
  ⟨snap.generation, snap.localNodeId, snap.irmNodeId, snap.busBase16, candidateClass⟩

/-- The election of a snapshot that passed the driver's own checks. -/
def elect (w : ElectionWorld) (snap : TopologySnapshot) (nowNs : ℕ)
    (lockResult : LocalCSRLockResult) : ElectionWorld :=
  let r := w.driver.fsm.decideAction (w.electionInputs snap)
  let decided (lastAction : ℕ) : ElectionWorld :=
    { w with
      abdicate := false
      driver := { w.driver with fsm := r.2, lastAction := lastAction } }
  match r.1 with
  | .doNotContend => decided 0
  | .contendImmediately => (decided 1).enterGate (contention snap .incumbent) nowNs lockResult
  | .contendAfterGrace => (decided 2).enterGate (contention snap .nonIncumbent) nowNs lockResult

def onTopologyReady (w : ElectionWorld) (snap : TopologySnapshot) (nowNs : ℕ)
    (lockResult : LocalCSRLockResult) : ElectionWorld :=
  if !w.driver.active then w
  else if !w.driver.electionStillAllowed then w
  else if snap.localNodeId = kInvalidPhysicalId ∨ snap.irmNodeId = kInvalidPhysicalId then w
  else
    let d := { w.driver with localNodeId := snap.localNodeId, irmNodeId := snap.irmNodeId }
    let r := d.shouldYieldForStableRemoteIRM snap
    let w := { w with driver := r.2 }
    if r.1 then w
    else if w.driver.attemptedGeneration = snap.generation ∧ 1 ≤ w.driver.attemptsThisGeneration
    then w
    else if w.driver.inFlight ∧ snap.generation ≤ w.driver.inFlightGen then w
    else w.elect snap nowNs lockResult

/-- The deferred contention. The attempts of its generation were checked when it was scheduled,
not here. -/
def fireTimer (w : ElectionWorld) (t : DeferredContention) (nowNs : ℕ)
    (lockResult : LocalCSRLockResult) : ElectionWorld :=
  if !w.driver.active then w
  else
    let idle := { w with driver := { w.driver with inFlight := false } }
    if !w.driver.electionStillAllowed then idle
    else if w.generation16 ≠ t.generation then idle
    else if !(w.timing.checkBMGate t.generation t.candidateClass nowNs).allowed then idle
    else w.attempt t lockResult nowNs

def cancelInFlight (w : ElectionWorld) : ElectionWorld :=
  { w with
    cancelled := w.cancelled ++ w.driver.inFlightHandle.toList
    driver := { w.driver with inFlightHandle := none } }

def onBusReset (w : ElectionWorld) (nowNs : ℕ) : ElectionWorld :=
  let d := w.driver
  let localWasBM := decide (d.fsm.owner = .local)
  let fast := localWasBM && d.lastLocalBMWinNs ≠ 0 && d.lastLocalBMWinNs ≤ nowNs &&
    nowNs - d.lastLocalBMWinNs ≤ kFastResetAfterBMWinNs
  { w with
    driver := { d with
      stormYieldPending := fast || d.stormYieldPending
      wasIncumbent := localWasBM
      fsm := d.fsm.reset
      inFlight := false
      inFlightGen := 0
      attemptsThisGeneration := 0
      lastElectionPath := 0
      lastAction := 0 } }.cancelInFlight

def stop (w : ElectionWorld) : ElectionWorld :=
  { w with driver := { w.driver with active := false, inFlight := false } }.cancelInFlight

/-- The compare-swap callback drops the handle first, whichever election it belongs to. -/
def complete (w : ElectionWorld) (c : OutstandingLock) (status : AsyncStatus)
    (oldValue nowNs : ℕ) : ElectionWorld :=
  { w with driver := { w.driver with inFlightHandle := none } }.handleCompareSwapResult
    c.generation c.localNodeId status oldValue nowNs

end ElectionWorld

end ASFireWire.Bus
