import Mathlib

/-! The post-reset timing gates (`Bus/Timing/PostResetTiming*`): Self-ID completion anchors a
generation, and each gated action opens a fixed delay after the anchor. Times are nanoseconds
of the monotonic clock. -/
namespace ASFireWire.BusReset

def kNanosecondsPerMillisecond : ℕ := 1000000

def kBMNonIncumbentDelayNs : ℕ := 125 * kNanosecondsPerMillisecond

def kIRMFallbackDelayNs : ℕ := 625 * kNanosecondsPerMillisecond

def kNewIsoAllocationDelayNs : ℕ := 1000 * kNanosecondsPerMillisecond

inductive TimingGate
  | bmIncumbentContention | bmNonIncumbentContention | irmFallbackCheck | newIsoAllocation
  deriving DecidableEq, Repr

inductive TimingGateState
  | unknown | closed | open | expiredGeneration | suppressedByRolePolicy | suppressedByTopology
  deriving DecidableEq, Repr

inductive BMCandidateClass | notCandidate | incumbent | nonIncumbent
  deriving DecidableEq, Repr

structure TimingGateResult where
  state : TimingGateState := .unknown
  gate : TimingGate := .newIsoAllocation
  generation : ℕ := 0
  nowNs : ℕ := 0
  selfIdCompleteNs : ℕ := 0
  allowedAtNs : ℕ := 0
  remainingNs : ℕ := 0
  ageSinceSelfIdNs : ℕ := 0
  allowed : Bool := false
  deriving DecidableEq, Repr

/-- The anchor of a generation and the deadlines computed from it. -/
structure PostResetTimingState where
  generation : ℕ := 0
  valid : Bool := false
  selfIdComplete : Bool := false
  selfIdCompleteNs : ℕ := 0
  bmIncumbentAllowedNs : ℕ := 0
  bmNonIncumbentAllowedNs : ℕ := 0
  irmFallbackAllowedNs : ℕ := 0
  newIsoAllocationAllowedNs : ℕ := 0
  createdAtNs : ℕ := 0
  invalidatedAtNs : ℕ := 0
  deriving DecidableEq, Repr

namespace PostResetTimingState

/-- A reset edge replaces the whole state; it does not look at the one it invalidates. -/
def onBusResetStarted (generation nowNs : ℕ) : PostResetTimingState where
  generation := generation
  createdAtNs := nowNs
  invalidatedAtNs := nowNs

def onSelfIDComplete (generation selfIdCompleteNs : ℕ) : PostResetTimingState where
  generation := generation
  valid := true
  selfIdComplete := true
  selfIdCompleteNs := selfIdCompleteNs
  createdAtNs := selfIdCompleteNs
  bmIncumbentAllowedNs := selfIdCompleteNs
  bmNonIncumbentAllowedNs := selfIdCompleteNs + kBMNonIncumbentDelayNs
  irmFallbackAllowedNs := selfIdCompleteNs + kIRMFallbackDelayNs
  newIsoAllocationAllowedNs := selfIdCompleteNs + kNewIsoAllocationDelayNs

def makeGateResult (generation : ℕ) (gate : TimingGate) (nowNs selfIdCompleteNs allowedAtNs : ℕ) :
    TimingGateResult :=
  let open' := decide (allowedAtNs ≤ nowNs)
  { generation := generation
    gate := gate
    nowNs := nowNs
    selfIdCompleteNs := selfIdCompleteNs
    allowedAtNs := allowedAtNs
    ageSinceSelfIdNs := nowNs - selfIdCompleteNs
    state := if open' then .open else .closed
    allowed := open'
    remainingNs := allowedAtNs - nowNs }

def allowedAtNs (s : PostResetTimingState) : TimingGate → ℕ
  | .bmIncumbentContention => s.bmIncumbentAllowedNs
  | .bmNonIncumbentContention => s.bmNonIncumbentAllowedNs
  | .irmFallbackCheck => s.irmFallbackAllowedNs
  | .newIsoAllocation => s.newIsoAllocationAllowedNs

def checkGate (s : PostResetTimingState) (generation : ℕ) (gate : TimingGate) (nowNs : ℕ) :
    TimingGateResult :=
  if !s.valid || !s.selfIdComplete then
    { generation := generation, gate := gate, nowNs := nowNs, state := .closed }
  else if generation ≠ s.generation then
    { generation := generation
      gate := gate
      nowNs := nowNs
      selfIdCompleteNs := s.selfIdCompleteNs
      state := .expiredGeneration }
  else makeGateResult generation gate nowNs s.selfIdCompleteNs (s.allowedAtNs gate)

def checkBMGate (s : PostResetTimingState) (generation : ℕ) (candidateClass : BMCandidateClass)
    (nowNs : ℕ) : TimingGateResult :=
  match candidateClass with
  | .incumbent => s.checkGate generation .bmIncumbentContention nowNs
  | .nonIncumbent => s.checkGate generation .bmNonIncumbentContention nowNs
  | .notCandidate =>
    { s.checkGate generation .bmNonIncumbentContention nowNs with
      state := .suppressedByRolePolicy
      allowed := false }

end PostResetTimingState

end ASFireWire.BusReset
