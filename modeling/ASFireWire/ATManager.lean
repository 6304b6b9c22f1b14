import ASFireWire.DescriptorRing
import ASFireWire.Runs

/-! AT submission (`Async/Engine/ATManagerImpl.hpp`) against a controller that executes chains in
link order. PATH 2 appends to the running list through the previous chain's OUTPUT_LAST; PATH 1
programs `CommandPtr`. -/
namespace ASFireWire.Async

inductive ATState | idle | arming | running | stopping | error
  deriving DecidableEq, Repr

inductive SubmitStatus | success | badArgument | notReady
  deriving DecidableEq, Repr

/-- The controller's side of one AT context. `cursor` is the first block of the chain it executes
or executed last, `done` tells which. -/
structure ATHardware where
  run : Bool := false
  dead : Bool := false
  commandPtr : ℕ := 0
  cursor : Option ℕ := none
  done : Bool := false
  deriving DecidableEq, Repr

/-- A chain with the request it was built from. -/
structure SubmittedChain extends DescriptorChain where
  req : ChainRequest
  deriving DecidableEq, Repr

/-- One AT context with its manager. `inRing` lists the chains whose blocks are not released and
`pending` those the controller has not completed, oldest first. -/
structure ATContext where
  ring : DescriptorRing
  state : ATState := .idle
  hw : ATHardware := {}
  inRing : List SubmittedChain := []
  pending : List SubmittedChain := []

namespace ATContext

/-- Index of the OUTPUT_LAST of the chain that starts at `index`: OUTPUT_MORE_Immediate is
followed by it contiguously. -/
def lastOf (ring : DescriptorRing) (index : ℕ) : ℕ :=
  match (ring.storage index).command with
  | .outputLast => index
  | .outputMore => index + 2

/-- The controller follows the branch word of the chain at `index`. -/
def Links (ring : DescriptorRing) (index next : ℕ) : Prop :=
  (ring.storage (lastOf ring index)).branchWord ≠ 0 ∧
    next = ring.indexOf (ring.storage (lastOf ring index)).branchWord

/-- The controller completes the chain under its cursor: the status goes to its OUTPUT_LAST. -/
def completeCursor (s : ATContext) (status : ℕ) : ATContext :=
  match s.hw.cursor with
  | none => s
  | some index =>
    if s.hw.done then s
    else
      let last := lastOf s.ring index
      { s with
        hw := { s.hw with done := true }
        ring := s.ring.write last { s.ring.storage last with xferStatus := status }
        pending := s.pending.filter (·.first ≠ index) }

/-- `clearRunAndPoll_`: while it is polled the controller finishes the packet in progress with
some status, or is given up on. -/
def clearRunAndPoll (s : ATContext) (polled : Option ℕ) : ATContext :=
  let s := match polled with
    | none => s
    | some status => s.completeCursor status
  { s with hw := { s.hw with run := false } }

/-- A write to `CommandPtr` followed by RUN: execution starts at that chain. -/
def programAndRun (s : ATContext) (commandPtr : ℕ) : ATContext :=
  { s with hw := { s.hw with
      run := true, commandPtr := commandPtr
      cursor := some (s.ring.indexOf commandPtr), done := false } }

def submitPath1 (s : ATContext) (chain : DescriptorChain) (polled : Option ℕ) :
    ATContext × SubmitStatus :=
  let s := { s with state := .arming }
  let s := if s.hw.run then s.clearRunAndPoll polled else s
  let cmdPtr := s.ring.commandPtrWordFromIOVA chain.firstIOVA32 (chain.totalBlocks % 16)
  if cmdPtr = 0 then ({ s with state := .error }, .badArgument)
  else
    let s := s.programAndRun cmdPtr
    ({ s with state := .running, ring := s.ring.updateRingTail chain }, .success)

def submitPath2 (s : ATContext) (chain : DescriptorChain) : ATContext × SubmitStatus :=
  match s.ring.linkTailTo s.ring.tail chain with
  | none => (s, .notReady)
  | some ring =>
    if !s.hw.run || s.hw.dead then ({ s with ring := ring.unlinkTail ring.tail }, .notReady)
    else ({ s with ring := ring.updateRingTail chain }, .success)

/-- `Submit`, with the path chosen from software state only. -/
def submitChain (s : ATContext) (chain : DescriptorChain) (polled : Option ℕ) :
    ATContext × SubmitStatus :=
  let canP2 := s.state = .running && 0 < s.ring.prevLastBlocks && !s.ring.isEmpty
  let path2 := s.submitPath2 chain
  if canP2 && path2.2 = .success then path2
  else (if canP2 then path2.1 else s).submitPath1 chain polled

/-- Build a chain and submit it; only a successful submission counts as submitted. -/
def submit (s : ATContext) (req : ChainRequest) (polled : Option ℕ) :
    ATContext × SubmitStatus :=
  match buildTransactionChain s.ring req with
  | (ring, none) => ({ s with ring := ring }, .badArgument)
  | (ring, some chain) =>
    let r := { s with ring := ring }.submitChain chain polled
    if r.2 = .success then
      ({ r.1 with
        inRing := r.1.inRing ++ [⟨chain, req⟩]
        pending := r.1.pending ++ [⟨chain, req⟩] }, r.2)
    else r

/-- A running controller completes the chain under its cursor, or moves on along the branch
word of the chain it has completed. -/
def hwStep (s : ATContext) (status : ℕ) : ATContext :=
  if !s.hw.run || s.hw.dead then s
  else if !s.hw.done then s.completeCursor status
  else
    match s.hw.cursor with
    | none => s
    | some index =>
      let branch := (s.ring.storage (lastOf s.ring index)).branchWord
      if branch = 0 then s
      else { s with hw := { s.hw with cursor := some (s.ring.indexOf branch), done := false } }

/-- `ClearDescriptorStatus` on every block of a chain. -/
def clearChain (ring : DescriptorRing) (chain : DescriptorChain) : DescriptorRing :=
  { ring with storage := fun x =>
      if chain.first ≤ x ∧ x ≤ chain.lastRingIndex then
        { ring.storage x with branchWord := 0, timeStamp := 0, xferStatus := 0 }
      else ring.storage x }

/-- The completion scan consumes the oldest chain: its blocks are cleared, the head moves past it
and the blocks skipped behind it, and a drained ring stops the context. -/
def reclaim (s : ATContext) : ATContext :=
  match s.inRing with
  | [] => s
  | chain :: rest =>
    if s.ring.isEmpty then s
    else
      let ring := clearChain s.ring chain.toDescriptorChain
      match rest with
      | [] => { s with
          ring := { ring with head := ring.tail, prevLastBlocks := 0 }
          hw := { s.hw with run := false }
          inRing := [] }
      | next :: _ => { s with ring := { ring with head := next.first }, inRing := rest }

end ATContext

inductive ATEvent
  | submit (req : ChainRequest) (polled : Option ℕ)
  | hwStep (status : ℕ)
  | reclaim
  deriving DecidableEq, Repr

namespace ATContext

def step (s : ATContext) : ATEvent → ATContext
  | .submit req polled => (s.submit req polled).1
  | .hwStep status => s.hwStep status
  | .reclaim => s.reclaim

end ATContext

end ASFireWire.Async
