import ASFireWire.Runs

/-! The command engine of an SBP-2 session (`Protocols/SBP2/Session/FetchAgent.cpp`) with the bus
writes, the timers and the ORBs it works on. -/
namespace ASFireWire.SBP2

/-- An ORB by its address, the key of `outstandingORBs_`. -/
abbrev ORBKey := ℕ

/-- An ORB_POINTER write whose completion has not been delivered. `binding` and `submission` say
for which `Bind` and which `Submit` it was issued. -/
structure PointerWrite where
  handle : ℕ
  orb : ORBKey
  generation : ℕ
  cancelled : Bool := false
  binding : ℕ
  submission : ℕ
  deriving DecidableEq, Repr

/-- A completion callback and what it is called with. -/
structure ORBCompletion where
  submission : ℕ
  transportStatus : ℤ
  sbpStatus : ℕ
  deriving DecidableEq, Repr

def kUnspecifiedError : ℕ := 255

structure FetchAgent where
  bound : Bool := false
  generation : ℕ := 0
  /-- The timeout token of each outstanding ORB, 0 for none. -/
  outstandingORBs : ORBKey → Option ℕ := fun _ => none
  pendingImmediateORBs : List ORBKey := []
  activeFetchAgentORB : Option ORBKey := none
  fetchAgentWriteHandle : Option ℕ := none
  fetchAgentWriteInUse : Bool := false
  agentResetInProgress : Bool := false
  defaultWriteRetries : ℕ := 20
  isAppended : ORBKey → Bool := fun _ => false
  fetchAgentWriteRetries : ORBKey → ℕ := fun _ => 20
  timeoutDuration : ORBKey → ℕ := fun _ => 0
  writes : List PointerWrite := []
  retryTimers : List ORBKey := []
  timeouts : List (ℕ × ORBKey) := []
  /-- Generations of the AGENT_RESET writes that `Reset` has outstanding. -/
  resetWrites : List ℕ := []
  /-- What the other AGENT_RESET writes call when they complete. -/
  noWaitResets : List (Option ORBCompletion) := []
  nextHandle : ℕ := 1
  nextToken : ℕ := 1
  /-- Number of `Bind` and `Unbind` calls. -/
  binding : ℕ := 0
  /-- Number of accepted submissions, and the last one of each ORB. -/
  submissions : ℕ := 0
  submission : ORBKey → ℕ := fun _ => 0
  /-- Submissions whose ORB_POINTER was written, newest write first. -/
  issued : List ℕ := []
  /-- Submissions whose ORB_POINTER write has succeeded. -/
  delivered : List ℕ := []
  /-- Callbacks that have run, newest first. -/
  completed : List ORBCompletion := []

namespace FetchAgent

/-- `Clear(true)`: an outstanding pointer write is cancelled, its completion still to come. -/
def clear (s : FetchAgent) : FetchAgent :=
  { s with
    timeouts := s.timeouts.filter fun t => s.outstandingORBs t.2 ≠ some t.1
    isAppended := fun orb => if (s.outstandingORBs orb).isSome then false else s.isAppended orb
    outstandingORBs := fun _ => none
    pendingImmediateORBs := []
    activeFetchAgentORB := none
    fetchAgentWriteHandle := none
    fetchAgentWriteInUse := false
    writes := if s.fetchAgentWriteInUse then
        s.writes.map fun w =>
          if s.fetchAgentWriteHandle = some w.handle then { w with cancelled := true } else w
      else s.writes }

def bind (s : FetchAgent) (generation : ℕ) : FetchAgent :=
  { s.clear with generation := generation, bound := true, binding := s.binding + 1 }

def unbind (s : FetchAgent) : FetchAgent :=
  { s.clear with generation := 0, bound := false, binding := s.binding + 1 }

/-- The entry of an ORB goes, and its timer with it. -/
def forget (s : FetchAgent) (orb : ORBKey) : FetchAgent :=
  { s with
    timeouts := s.timeouts.filter fun t => ¬ (t.2 = orb ∧ s.outstandingORBs orb = some t.1)
    outstandingORBs := Function.update s.outstandingORBs orb none
    activeFetchAgentORB :=
      if s.activeFetchAgentORB = some orb then none else s.activeFetchAgentORB
    isAppended := Function.update s.isAppended orb false }

def failORB (s : FetchAgent) (orb : ORBKey) (transportStatus : ℤ) (sbpStatus : ℕ) : FetchAgent :=
  { s.forget orb with
    pendingImmediateORBs := s.pendingImmediateORBs.filter (· ≠ orb)
    completed := ⟨s.submission orb, transportStatus, sbpStatus⟩ :: s.completed }

def failPendingImmediate (s : FetchAgent) (transportStatus : ℤ) (sbpStatus : ℕ) : FetchAgent :=
  s.pendingImmediateORBs.foldl (fun s orb => s.failORB orb transportStatus sbpStatus) s

/-- Write the ORB's address to the fetch agent; `accepted` is false where the bus gives no
handle. -/
def appendImmediate (s : FetchAgent) (orb : ORBKey) (accepted : Bool) : FetchAgent × Bool :=
  if s.fetchAgentWriteInUse then (s, false)
  else if accepted then
    ({ s with
      activeFetchAgentORB := some orb
      fetchAgentWriteInUse := true
      fetchAgentWriteHandle := some s.nextHandle
      nextHandle := s.nextHandle + 1
      writes := s.writes ++ [{
        handle := s.nextHandle, orb := orb, generation := s.generation
        binding := s.binding, submission := s.submission orb }]
      issued := s.submission orb :: s.issued }, true)
  else
    (failORB { s with activeFetchAgentORB := none, fetchAgentWriteHandle := none } orb (-1)
      kUnspecifiedError, false)

/-- `prepared` is whether the ORB is valid and `PrepareForExecution` succeeds. -/
def submit (s : FetchAgent) (orb : ORBKey) (timeout : ℕ) (prepared accepted : Bool) :
    FetchAgent × Bool :=
  if s.bound = false ∨ s.isAppended orb = true ∨ prepared = false then (s, false)
  else
    let s :=
      { s with
        fetchAgentWriteRetries :=
          Function.update s.fetchAgentWriteRetries orb s.defaultWriteRetries
        timeoutDuration := Function.update s.timeoutDuration orb timeout
        isAppended := Function.update s.isAppended orb true
        outstandingORBs := Function.update s.outstandingORBs orb (some 0)
        submissions := s.submissions + 1
        submission := Function.update s.submission orb s.submissions }
    if s.fetchAgentWriteInUse then
      ({ s with pendingImmediateORBs := s.pendingImmediateORBs ++ [orb] }, true)
    else s.appendImmediate orb accepted

def reset (s : FetchAgent) (accepted : Bool) : FetchAgent :=
  if s.bound = false ∨ s.agentResetInProgress = true then s
  else if accepted then
    { s with agentResetInProgress := true, resetWrites := s.resetWrites ++ [s.generation] }
  else s

def resetNoWait (s : FetchAgent) (onComplete : Option ORBCompletion) (accepted : Bool) :
    FetchAgent :=
  if s.bound = false ∨ accepted = false then
    { s with completed := onComplete.toList ++ s.completed }
  else { s with noWaitResets := s.noWaitResets ++ [onComplete] }

def onAgentResetComplete (s : FetchAgent) (expectedGeneration : ℕ) : FetchAgent :=
  if expectedGeneration ≠ s.generation then s
  else { s.clear with agentResetInProgress := false }

/-- An earlier timer of the ORB is replaced. -/
def startORBTimeout (s : FetchAgent) (orb : ORBKey) : FetchAgent :=
  if s.timeoutDuration orb = 0 then s
  else match s.outstandingORBs orb with
    | none => s
    | some token =>
      { s with
        timeouts := (s.timeouts.filter fun t => ¬ (t.2 = orb ∧ t.1 = token)) ++ [(s.nextToken, orb)]
        outstandingORBs := Function.update s.outstandingORBs orb (some s.nextToken)
        nextToken := s.nextToken + 1 }

/-- The pointer write of the active ORB failed. -/
def onWriteFailed (s : FetchAgent) (accepted : Bool) : FetchAgent :=
  match s.activeFetchAgentORB with
  | none => s
  | some orb =>
    if 0 < s.fetchAgentWriteRetries orb then
      { s with
        fetchAgentWriteRetries :=
          Function.update s.fetchAgentWriteRetries orb (s.fetchAgentWriteRetries orb - 1)
        retryTimers := s.retryTimers ++ [orb] }
    else
      (((s.failORB orb (-1) kUnspecifiedError).failPendingImmediate (-1)
        kUnspecifiedError).clear).reset accepted

/-- The next pending ORB is written. -/
def writeNext (s : FetchAgent) (accepted : Bool) : FetchAgent :=
  match s.pendingImmediateORBs with
  | [] => s
  | next :: rest =>
    (appendImmediate { s with pendingImmediateORBs := rest } next accepted).1

def onWriteSucceeded (s : FetchAgent) (accepted : Bool) : FetchAgent :=
  let s := match s.activeFetchAgentORB with
    | none => s
    | some orb => s.startORBTimeout orb
  writeNext { s with activeFetchAgentORB := none } accepted

def onFetchAgentWriteComplete (s : FetchAgent) (expectedGeneration : ℕ) (success accepted : Bool) :
    FetchAgent :=
  if s.bound = false ∨ expectedGeneration ≠ s.generation then s
  else
    let s := { s with fetchAgentWriteInUse := false, fetchAgentWriteHandle := none }
    if success then s.onWriteSucceeded accepted else s.onWriteFailed accepted

/-- A status block for `orb`; false when it is unsolicited. -/
def onStatusBlock (s : FetchAgent) (orb : ORBKey) (sbpStatus : ℕ) (dead accepted : Bool) :
    FetchAgent × Bool :=
  if s.outstandingORBs orb = none then (s, false)
  else
    let callback : ORBCompletion := ⟨s.submission orb, 0, sbpStatus⟩
    if dead then ((s.forget orb).resetNoWait (some callback) accepted, true)
    else ({ s.forget orb with completed := callback :: s.completed }, true)

/-- The timer of a failed pointer write. -/
def onRetryTimer (s : FetchAgent) (orb : ORBKey) (accepted : Bool) : FetchAgent :=
  if s.activeFetchAgentORB = some orb then (s.appendImmediate orb accepted).1 else s

def onORBTimeout (s : FetchAgent) (orb : ORBKey) (accepted : Bool) : FetchAgent :=
  if s.outstandingORBs orb = none then s
  else (s.resetNoWait none accepted).failORB orb (-1) kUnspecifiedError

/-! ### Events -/

/-- `accepted` is whether the bus takes the write that the event leads to. -/
inductive Event
  | bind (generation : ℕ)
  | unbind
  | submit (orb : ORBKey) (timeout : ℕ) (prepared accepted : Bool)
  | writeComplete (handle : ℕ) (success accepted : Bool)
  | retryTimer (orb : ORBKey) (accepted : Bool)
  | statusBlock (orb : ORBKey) (sbpStatus : ℕ) (dead accepted : Bool)
  | orbTimeout (token : ℕ) (accepted : Bool)
  | reset (accepted : Bool)
  | resetComplete (index : ℕ)
  | noWaitComplete (index : ℕ)
  deriving DecidableEq, Repr

def step (s : FetchAgent) : Event → FetchAgent
  | .bind generation => s.bind generation
  | .unbind => s.unbind
  | .submit orb timeout prepared accepted => (s.submit orb timeout prepared accepted).1
  | .writeComplete handle success accepted =>
    match s.writes.find? fun w => w.handle = handle with
    | none => s
    | some w =>
      onFetchAgentWriteComplete
        { s with
          writes := s.writes.filter fun w => w.handle ≠ handle
          delivered := if success then w.submission :: s.delivered else s.delivered }
        w.generation success accepted
  | .retryTimer orb accepted =>
    if orb ∈ s.retryTimers then
      onRetryTimer { s with retryTimers := s.retryTimers.erase orb } orb accepted
    else s
  | .statusBlock orb sbpStatus dead accepted => (s.onStatusBlock orb sbpStatus dead accepted).1
  | .orbTimeout token accepted =>
    match s.timeouts.find? fun t => t.1 = token with
    | none => s
    | some t =>
      onORBTimeout { s with timeouts := s.timeouts.filter fun t => t.1 ≠ token } t.2 accepted
  | .reset accepted => s.reset accepted
  | .resetComplete index =>
    match s.resetWrites[index]? with
    | none => s
    | some generation =>
      onAgentResetComplete { s with resetWrites := s.resetWrites.eraseIdx index } generation
  | .noWaitComplete index =>
    match s.noWaitResets[index]? with
    | none => s
    | some onComplete =>
      { s with
        noWaitResets := s.noWaitResets.eraseIdx index
        completed := onComplete.toList ++ s.completed }

end FetchAgent

end ASFireWire.SBP2
