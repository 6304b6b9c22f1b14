import ASFireWire.Runs

/-! `IRMClient` (`Bus/IRM/IRMClient.cpp`): the read and compare-swap loops by which one client
allocates and releases channels and bandwidth at the isochronous resource manager, among the
compare-swaps of the other nodes. Registers are 32-bit words. -/
namespace ASFireWire.IRM

inductive AllocationStatus
  | success | noResources | channelBusy | bandwidthShort | generationMismatch | timeout | notFound
  | failed
  deriving DecidableEq, Repr

inductive Register | bandwidthAvailable | channelsAvailable31_0 | channelsAvailable63_32
  deriving DecidableEq, Repr

structure RetryPolicy where
  maxRetries : ℕ := 2
  maxTimeoutRetries : ℕ := 3
  deriving DecidableEq, Repr

def kMaxBandwidthUnitsS400 : UInt32 := 4915

def kNoIRMNode : ℕ := 0xFF

def channelToBitMask (channel : ℕ) : UInt32 :=
  if channel < 32 then 1 <<< UInt32.ofNat (31 - channel) else 1 <<< UInt32.ofNat (63 - channel)

def channelToRegister (channel : ℕ) : Register :=
  if channel < 32 then .channelsAvailable31_0 else .channelsAvailable63_32

/-- What a lock context is for: `ChannelLockState` or `BandwidthLockState`. -/
inductive Job
  | channel (channel : ℕ) (allocate : Bool)
  | bandwidth (units : UInt32) (allocate : Bool)
  deriving DecidableEq, Repr

def Job.register : Job → Register
  | .channel number _ => channelToRegister number
  | .bandwidth _ _ => .bandwidthAvailable

structure LockState where
  job : Job
  retriesLeft : ℕ
  timeoutRetriesLeft : ℕ
  unansweredDesired : Option UInt32 := none
  deriving DecidableEq, Repr

inductive Request
  | read
  | lock (expected desired : UInt32)
  deriving DecidableEq, Repr

/-- What the user callback of a lock context does: report to the caller, or carry on with the
next step of `AllocateResources` or `ReleaseResources`. -/
inductive Continuation
  | report
  | allocateBandwidth (channel : ℕ) (units : UInt32)
  | rollback (channel : ℕ)
  | rolledBack (bandwidthStatus : AllocationStatus)
  | releaseChannel (channel : ℕ)
  | releasedChannel (bandwidthStatus : AllocationStatus)
  deriving DecidableEq, Repr

/-- The lock operation under way, with the bus request it waits for. -/
structure Active where
  ctx : LockState
  request : Request
  next : Continuation
  policy : RetryPolicy
  deriving DecidableEq, Repr

/-- What became of a bus request: the IRM's response; a completion without one, for a request
that never reached the register; or a timeout, with or without the lock applied. -/
inductive Answer
  | answered
  | staleGeneration
  | failed
  | lost (applied : Bool)
  deriving DecidableEq, Repr

/-- A compare-swap of this client that took effect. -/
structure Swap where
  job : Job
  expected : UInt32
  desired : UInt32
  deriving DecidableEq, Repr

structure World where
  registers : Register → UInt32
  irmNodeId : ℕ
  active : Option Active := none
  /-- The effective compare-swaps, newest first. -/
  swaps : List Swap := []
  /-- The lock operations that have called back, newest first. -/
  completed : List (Job × AllocationStatus) := []
  callbacks : List AllocationStatus := []

/-! ### One lock operation -/

/-- What a callback leads to: a status for the caller, or the next request of the operation. -/
inductive Verdict
  | report (status : AllocationStatus)
  | issue (ctx : LockState) (request : Request)

def onChannelRead (ctx : LockState) (channel : ℕ) (allocate : Bool) (currentValue : UInt32) :
    Verdict :=
  let bitMask := channelToBitMask channel
  if allocate then
    if currentValue &&& bitMask = 0 then .report .channelBusy
    else .issue ctx (.lock currentValue (currentValue &&& ~~~bitMask))
  else .issue ctx (.lock currentValue (currentValue ||| bitMask))

def onBandwidthRead (ctx : LockState) (units : UInt32) (allocate : Bool)
    (currentBandwidth : UInt32) : Verdict :=
  if allocate = false ∧ ctx.unansweredDesired = some currentBandwidth then .report .success
  else
    let ctx := { ctx with unansweredDesired := none }
    if allocate then
      if currentBandwidth < units then .report .bandwidthShort
      else .issue ctx (.lock currentBandwidth (currentBandwidth - units))
    else if kMaxBandwidthUnitsS400 < currentBandwidth + units then .report .success
    else .issue ctx (.lock currentBandwidth (currentBandwidth + units))

def onRead (ctx : LockState) (currentValue : UInt32) : Verdict :=
  match ctx.job with
  | .channel channel allocate => onChannelRead ctx channel allocate currentValue
  | .bandwidth units allocate => onBandwidthRead ctx units allocate currentValue

/-- `OnChannelCompareSwap` and `OnBandwidthCompareSwap`. -/
def onCompareSwap (ctx : LockState) (expectedValue oldValue : UInt32) : Verdict :=
  if oldValue = expectedValue then .report .success
  else if ctx.retriesLeft = 0 then .report .noResources
  else .issue { ctx with retriesLeft := ctx.retriesLeft - 1 } .read

def onTimeout (ctx : LockState) : Verdict :=
  if ctx.timeoutRetriesLeft = 0 then .report .timeout
  else .issue { ctx with timeoutRetriesLeft := ctx.timeoutRetriesLeft - 1 } .read

/-- A timed-out lock also notes the value it tried to write; channel contexts have no such field. -/
def onLockTimeout (ctx : LockState) (desired : UInt32) : Verdict :=
  match ctx.job with
  | .channel _ _ => onTimeout ctx
  | .bandwidth _ _ =>
    if ctx.timeoutRetriesLeft = 0 then .report .timeout
    else
      .issue { ctx with
        timeoutRetriesLeft := ctx.timeoutRetriesLeft - 1
        unansweredDesired := some desired } .read

/-- What a request's completion leads to; `value` is the register's when the request was served. -/
def verdict (ctx : LockState) (request : Request) (value : UInt32) : Answer → Verdict
  | .answered =>
    match request with
    | .read => onRead ctx value
    | .lock expected _ => onCompareSwap ctx expected value
  | .staleGeneration => .report .generationMismatch
  | .failed => .report .failed
  | .lost _ =>
    match request with
    | .read => onTimeout ctx
    | .lock _ desired => onLockTimeout ctx desired

/-- The request is a lock that was served and whose compare matched. -/
def effective (request : Request) (value : UInt32) (answer : Answer) : Option (UInt32 × UInt32) :=
  match request with
  | .read => none
  | .lock expected desired =>
    if value = expected ∧ (answer = .answered ∨ answer = .lost true) then some (expected, desired)
    else none

/-! ### Operations -/

/-- An operation reports at once, or starts a lock operation. -/
inductive Outcome
  | report (status : AllocationStatus)
  | start (job : Job) (next : Continuation)

def channelOperation (irmNodeId channel : ℕ) (allocate : Bool) (next : Continuation)
    (callback : AllocationStatus → Outcome) : Outcome :=
  if 64 ≤ channel then callback .failed
  else if irmNodeId = kNoIRMNode then callback .notFound
  else .start (.channel channel allocate) next

def bandwidthOperation (irmNodeId : ℕ) (units : UInt32) (allocate : Bool) (next : Continuation)
    (callback : AllocationStatus → Outcome) : Outcome :=
  if units = 0 then callback .success
  else if irmNodeId = kNoIRMNode then callback .notFound
  else .start (.bandwidth units allocate) next

/-- `AllocateResources` once its bandwidth step has called back. -/
def afterBandwidth (irmNodeId channel : ℕ) (bandwidthStatus : AllocationStatus) : Outcome :=
  if bandwidthStatus = .success then .report .success
  else if bandwidthStatus = .generationMismatch then .report bandwidthStatus
  else channelOperation irmNodeId channel false (.rolledBack bandwidthStatus)
    fun _ => .report bandwidthStatus

/-- `AllocateResources` once its channel step has called back. -/
def afterChannel (irmNodeId channel : ℕ) (units : UInt32) (channelStatus : AllocationStatus) :
    Outcome :=
  if channelStatus ≠ .success then .report channelStatus
  else bandwidthOperation irmNodeId units true (.rollback channel) (afterBandwidth irmNodeId channel)

def firstFailure (bandwidthStatus channelStatus : AllocationStatus) : AllocationStatus :=
  if bandwidthStatus = .success then channelStatus else bandwidthStatus

/-- `ReleaseResources` once its bandwidth step has called back. -/
def afterBandwidthRelease (irmNodeId channel : ℕ) (bandwidthStatus : AllocationStatus) : Outcome :=
  if bandwidthStatus = .generationMismatch then .report bandwidthStatus
  else channelOperation irmNodeId channel false (.releasedChannel bandwidthStatus)
    fun channelStatus => .report (firstFailure bandwidthStatus channelStatus)

def deliver (irmNodeId : ℕ) (next : Continuation) (status : AllocationStatus) : Outcome :=
  match next with
  | .report => .report status
  | .allocateBandwidth channel units => afterChannel irmNodeId channel units status
  | .rollback channel => afterBandwidth irmNodeId channel status
  | .rolledBack bandwidthStatus => .report bandwidthStatus
  | .releaseChannel channel => afterBandwidthRelease irmNodeId channel status
  | .releasedChannel bandwidthStatus => .report (firstFailure bandwidthStatus status)

namespace World

def conclude (w : World) (policy : RetryPolicy) : Outcome → World
  | .report status => { w with active := none, callbacks := status :: w.callbacks }
  | .start job next =>
    { w with
      active := some {
        ctx := {
          job := job
          retriesLeft := policy.maxRetries
          timeoutRetriesLeft := policy.maxTimeoutRetries }
        request := .read
        next := next
        policy := policy } }

def allocateChannel (w : World) (channel : ℕ) (policy : RetryPolicy) : World :=
  w.conclude policy (channelOperation w.irmNodeId channel true .report .report)

def releaseChannel (w : World) (channel : ℕ) (policy : RetryPolicy) : World :=
  w.conclude policy (channelOperation w.irmNodeId channel false .report .report)

def allocateBandwidth (w : World) (units : UInt32) (policy : RetryPolicy) : World :=
  w.conclude policy (bandwidthOperation w.irmNodeId units true .report .report)

def releaseBandwidth (w : World) (units : UInt32) (policy : RetryPolicy) : World :=
  w.conclude policy (bandwidthOperation w.irmNodeId units false .report .report)

def allocateResources (w : World) (channel : ℕ) (units : UInt32) (policy : RetryPolicy) : World :=
  w.conclude policy
    (if 64 ≤ channel then .report .failed
    else if w.irmNodeId = kNoIRMNode then .report .notFound
    else channelOperation w.irmNodeId channel true (.allocateBandwidth channel units)
      (afterChannel w.irmNodeId channel units))

def releaseResources (w : World) (channel : ℕ) (units : UInt32) (policy : RetryPolicy) : World :=
  w.conclude policy (bandwidthOperation w.irmNodeId units false (.releaseChannel channel)
    (afterBandwidthRelease w.irmNodeId channel))

/-- The registers and the log after a request's compare-swap, if it took effect. -/
def serve (w : World) (a : Active) (answer : Answer) : World :=
  match effective a.request (w.registers a.ctx.job.register) answer with
  | none => w
  | some (expected, desired) =>
    { w with
      registers := Function.update w.registers a.ctx.job.register desired
      swaps := { job := a.ctx.job, expected := expected, desired := desired } :: w.swaps }

/-- The user callback of the lock operation `a`. -/
def callBack (w : World) (a : Active) (status : AllocationStatus) : World :=
  { w with completed := (a.ctx.job, status) :: w.completed }.conclude a.policy
    (deliver w.irmNodeId a.next status)

def reply (w : World) (a : Active) (answer : Answer) : World :=
  match verdict a.ctx a.request (w.registers a.ctx.job.register) answer with
  | .report status => (w.serve a answer).callBack a status
  | .issue ctx request =>
    { w.serve a answer with active := some { a with ctx := ctx, request := request } }

end World

/-- Another node's compare-swap that changes a register, or the completion of this client's
outstanding request. -/
inductive Event
  | others (register : Register) (value : UInt32)
  | reply (answer : Answer)
  deriving DecidableEq, Repr

def step (w : World) : Event → World
  | .others register value => { w with registers := Function.update w.registers register value }
  | .reply answer =>
    match w.active with
    | none => w
    | some a => w.reply a answer

end ASFireWire.IRM
