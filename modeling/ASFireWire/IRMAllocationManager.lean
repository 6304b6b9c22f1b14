import ASFireWire.IRMAllocations

/-! `IRMAllocationManager` (`Bus/IRM/IRMAllocationManager.cpp`): one allocation tracked across bus
resets. The client operations it starts are outstanding until they complete, in any order, among
further calls. -/
namespace ASFireWire.IRM

open Runs

/-- A client operation the manager has started, with what its callback is for. -/
inductive Operation
  /-- `AllocateResources` for `Allocate`. -/
  | allocate (channel units : ℕ)
  /-- `ReleaseResources`, followed by the allocation of an `Allocate` that released first. -/
  | release (channel units : ℕ) (next : Option (ℕ × ℕ))
  /-- `AllocateResources` for `AttemptReallocation`. -/
  | reallocate (channel units newGeneration : ℕ)
  deriving DecidableEq, Repr

/-- How a client operation ended: its status, and what it did at the IRM. For an allocation the
flags say what it leaves taken, for a release what it gave back. -/
structure Completion where
  status : AllocationStatus
  channel : Bool
  bandwidth : Bool
  deriving DecidableEq, Repr

/-- What the manager reports: to the caller of `Allocate` or `Release`, or an allocation lost. -/
inductive Report
  | allocated (status : AllocationStatus)
  | released (status : AllocationStatus)
  | lost (channel units : ℕ)
  deriving DecidableEq, Repr

structure Manager where
  isAllocated : Bool := false
  channel : ℕ := 0xFF
  bandwidthUnits : ℕ := 0
  allocationGeneration : ℕ := 0
  /-- The outstanding operations, with the generation each was started in. -/
  operations : List (ℕ × Operation) := []
  /-- The generation of the bus and of the client. -/
  generation : ℕ := 0
  /-- What the manager's operations hold at the IRM in this generation. -/
  heldChannels : Multiset ℕ := 0
  heldUnits : ℕ := 0
  reports : List Report := []

namespace Manager

def start (m : Manager) (op : Operation) : Manager :=
  { m with operations := m.operations ++ [(m.generation, op)] }

def report (m : Manager) (r : Report) : Manager := { m with reports := m.reports ++ [r] }

def clear (m : Manager) : Manager :=
  { m with isAllocated := false, channel := 0xFF, bandwidthUnits := 0, allocationGeneration := 0 }

/-- `Release`, with the allocation that its callback goes on to. -/
def releaseThen (m : Manager) (next : Option (ℕ × ℕ)) : Manager :=
  m.clear.start (.release m.channel m.bandwidthUnits next)

def allocate (m : Manager) (channel units : ℕ) : Manager :=
  if m.isAllocated then m.releaseThen (some (channel, units))
  else m.start (.allocate channel units)

def release (m : Manager) : Manager :=
  if m.isAllocated then m.releaseThen none else m.report (.released .success)

def attemptReallocation (m : Manager) (newGeneration : ℕ) : Manager :=
  if m.isAllocated then m.start (.reallocate m.channel m.bandwidthUnits newGeneration) else m

def onBusReset (m : Manager) (newGeneration : ℕ) : Manager :=
  if !m.isAllocated then m
  else if m.allocationGeneration = newGeneration then m
  else m.attemptReallocation newGeneration

def onReallocationFailed (m : Manager) : Manager :=
  m.clear.report (.lost m.channel m.bandwidthUnits)

/-- What a completed allocation leaves at the IRM. -/
def take (m : Manager) (channel units : ℕ) (c : Completion) : Manager :=
  { m with
    heldChannels := if c.channel then channel ::ₘ m.heldChannels else m.heldChannels
    heldUnits := if c.bandwidth then m.heldUnits + units else m.heldUnits }

/-- What a completed release gives back. -/
def giveBack (m : Manager) (channel units : ℕ) (c : Completion) : Manager :=
  { m with
    heldChannels := if c.channel then m.heldChannels.erase channel else m.heldChannels
    heldUnits := if c.bandwidth then m.heldUnits - units else m.heldUnits }

/-- The callback `updateAllocationState` of `Allocate`. -/
def updateAllocationState (m : Manager) (channel units : ℕ) (status : AllocationStatus) : Manager :=
  (if status = .success then
    { m with
      isAllocated := true
      channel := channel
      bandwidthUnits := units
      allocationGeneration := m.generation }
  else m).report (.allocated status)

/-- The callback of `AttemptReallocation`. -/
def onReallocation (m : Manager) (newGeneration : ℕ) (status : AllocationStatus) : Manager :=
  if status = .success then { m with allocationGeneration := newGeneration }
  else if status = .generationMismatch then m
  else m.onReallocationFailed

def onCompletion (m : Manager) (op : Operation) (c : Completion) : Manager :=
  match op with
  | .allocate channel units => (m.take channel units c).updateAllocationState channel units c.status
  | .release channel units none => (m.giveBack channel units c).report (.released c.status)
  | .release channel units (some (channel', units')) =>
    (m.giveBack channel units c).start (.allocate channel' units')
  | .reallocate channel units newGeneration =>
    (m.take channel units c).onReallocation newGeneration c.status

end Manager

/-- A call on the manager, a bus reset together with the call of `OnBusReset` it leads to, or the
completion of an outstanding operation. -/
inductive Occurrence
  | allocate (channel units : ℕ)
  | release
  | busReset (newGeneration : ℕ)
  | complete (index : ℕ) (completion : Completion)
  deriving DecidableEq, Repr

/-- A bus reset frees every resource at the IRM. -/
def Manager.step (m : Manager) : Occurrence → Manager
  | .allocate channel units => m.allocate channel units
  | .release => m.release
  | .busReset newGeneration =>
    { m with generation := newGeneration, heldChannels := 0, heldUnits := 0 }.onBusReset newGeneration
  | .complete index completion =>
    match m.operations[index]? with
    | none => m
    | some (_, op) =>
      { m with operations := m.operations.eraseIdx index }.onCompletion op completion

/-! ### Runs of the manager -/

namespace Operation

/-- The operation allocates, or is followed by one that does. -/
def allocates : Operation → Bool
  | .release _ _ none => false
  | _ => true

def reallocates : Operation → Bool
  | .reallocate _ _ _ => true
  | _ => false

def releasing : Operation → Multiset ℕ
  | .release channel _ _ => {channel}
  | _ => 0

def releasingUnits : Operation → ℕ
  | .release _ units _ => units
  | _ => 0

end Operation

def Completion.Full (c : Completion) : Prop := c.channel = true ∧ c.bandwidth = true

/-- What the client's operations promise when every request is answered: success is complete,
bandwidth is taken by nothing else, and a generation mismatch tells of a bus reset. -/
def Completion.Answers (c : Completion) (m : Manager) (generation : ℕ) (op : Operation) : Prop :=
  (c.status = .success → c.Full) ∧
    (c.status = .generationMismatch → generation ≠ m.generation) ∧
    (op.releasing = 0 → c.status ≠ .success → c.bandwidth = false)

instance (c : Completion) : Decidable c.Full := inferInstanceAs (Decidable (_ ∧ _))

instance (c : Completion) (m : Manager) (generation : ℕ) (op : Operation) :
    Decidable (c.Answers m generation op) := inferInstanceAs (Decidable (_ ∧ _ ∧ _))

/-- The completion of an `AllocateResources`, read off the compare-swaps that took effect. -/
def World.completion (w : World) (channel : ℕ) (units : UInt32) (status : AllocationStatus) :
    Completion where
  status := status
  channel := w.swaps.countP (fun s => s.job = .channel channel false) <
    w.swaps.countP fun s => s.job = .channel channel true
  bandwidth := w.swaps.any fun s => s.job = .bandwidth units true

/-- The client keeps its promise: success is complete, and a failure takes no bandwidth, and no
channel unless the rollback failed or the generation ended. -/
theorem allocateResources_answers {registers : Register → UInt32} {irmNodeId channel : ℕ}
    {policy : RetryPolicy} {units : UInt32} (hunits : units ≠ 0) {events : List Event}
    (hanswered : ∀ e ∈ events, e.Answered) {w : World}
    (hw : w = run step ((idle registers irmNodeId).allocateResources channel units policy) events)
    (hover : w.active = none) :
    ∃ status, w.callbacks = [status] ∧
      (status = .success → (w.completion channel units status).Full) ∧
      (status ≠ .success → (w.completion channel units status).bandwidth = false) ∧
      (status ≠ .success → status ≠ .generationMismatch →
        (∀ failure, (Job.channel channel false, failure) ∈ w.completed → failure = .success) →
        (w.completion channel units status).channel = false) := by
  have hstart : Resources channel units
      ((idle registers irmNodeId).allocateResources channel units policy) :=
    resources_allocateResources channel units
  have hreports := run_resources hstart hanswered
  rw [← hw, World.Reports, hover] at hreports
  obtain ⟨status, hcallbacks, hsuccess, hfail⟩ := hreports
  refine ⟨status, hcallbacks, fun hstatus => ?_, fun hstatus => ?_, fun hstatus hgen hrollback => ?_⟩
  · obtain ⟨s, hs, ⟨hzero, -⟩ | ⟨-, t, hswaps, ht⟩⟩ := hsuccess.mp hstatus
    · exact absurd hzero hunits
    · simp [World.completion, Completion.Full, hswaps, hs.1, ht.1]
  · rcases hfail hstatus with (hnone | ⟨s, r, hpair, hs, hr⟩) | ⟨-, ⟨s, hone, hs⟩, -⟩
    · simp [World.completion, hnone]
    · simp [World.completion, hpair, hs.1, hr.1]
    · simp [World.completion, hone, hs.1]
  · rcases hfail hstatus with (hnone | ⟨s, r, hpair, hs, hr⟩) | ⟨-, -, hwhy⟩
    · simp [World.completion, hnone]
    · simp [World.completion, hpair, hs.1, hr.1]
    · rcases hwhy with hmismatch | ⟨failure, hne, hmem⟩
      · exact absurd hmismatch hgen
      · exact absurd (hrollback failure hmem) hne

namespace Manager

/-- Bus resets change the generation, and operations complete as answered ones do. -/
def Plausible (m : Manager) : Occurrence → Prop
  | .busReset newGeneration => newGeneration ≠ m.generation
  | .complete index c => ∀ p ∈ m.operations[index]?, c.Answers m p.1 p.2
  | _ => True

/-- Calls keep out of each other's way, and nothing is left behind by a failure: no allocation is
asked for while one is outstanding, no release while a reallocation is, no bus reset while any
operation is; releases succeed, and failed allocations have been rolled back. -/
def Orderly (m : Manager) : Occurrence → Prop
  | .allocate _ _ => ∀ p ∈ m.operations, p.2.allocates = false
  | .release => ∀ p ∈ m.operations, p.2.reallocates = false
  | .busReset _ => m.operations = []
  | .complete index c => ∀ p ∈ m.operations[index]?,
      if p.2.releasing = 0 then c.status ≠ .success → c.channel = false else c.status = .success

instance (m : Manager) : ∀ e, Decidable (m.Plausible e)
  | .busReset newGeneration => inferInstanceAs (Decidable (newGeneration ≠ m.generation))
  | .complete index c => inferInstanceAs (Decidable (∀ p ∈ m.operations[index]?, c.Answers m p.1 p.2))
  | .allocate _ _ | .release => isTrue trivial

instance (m : Manager) : ∀ e, Decidable (m.Orderly e)
  | .allocate _ _ => inferInstanceAs (Decidable (∀ p ∈ m.operations, p.2.allocates = false))
  | .release => inferInstanceAs (Decidable (∀ p ∈ m.operations, p.2.reallocates = false))
  | .busReset _ => inferInstanceAs (Decidable (m.operations = []))
  | .complete index c => inferInstanceAs (Decidable (∀ p ∈ m.operations[index]?,
      if p.2.releasing = 0 then c.status ≠ .success → c.channel = false else c.status = .success))

def recorded (m : Manager) : Multiset ℕ := if m.isAllocated then {m.channel} else 0

def recordedUnits (m : Manager) : ℕ := if m.isAllocated then m.bandwidthUnits else 0

/-- The record says what is held. -/
def Matches (m : Manager) : Prop :=
  m.heldChannels = m.recorded ∧ m.heldUnits = m.recordedUnits

instance (m : Manager) : Decidable m.Matches := inferInstanceAs (Decidable (_ ∧ _))

def releasing (operations : List (ℕ × Operation)) : Multiset ℕ :=
  (operations.map fun p => p.2.releasing).sum

def releasingUnits (operations : List (ℕ × Operation)) : ℕ :=
  (operations.map fun p => p.2.releasingUnits).sum

/-- No reallocation is outstanding: what is held is recorded or being released. -/
structure Steady (m : Manager) : Prop where
  steady : ∀ p ∈ m.operations, p.2.reallocates = false
  started : ∀ p ∈ m.operations, p.1 = m.generation
  single : m.operations.countP (fun p => p.2.allocates) ≤ 1
  pending : (∃ p ∈ m.operations, p.2.allocates = true) → m.isAllocated = false
  current : m.isAllocated = true → m.allocationGeneration = m.generation
  channels : m.heldChannels = m.recorded + releasing m.operations
  units : m.heldUnits = m.recordedUnits + releasingUnits m.operations

/-- The only outstanding operation reallocates what is recorded, and nothing is held. -/
structure Reallocating (m : Manager) : Prop where
  operations : m.operations =
    [(m.generation, .reallocate m.channel m.bandwidthUnits m.generation)]
  isAllocated : m.isAllocated = true
  channels : m.heldChannels = 0
  units : m.heldUnits = 0

variable {m : Manager} {p : ℕ × Operation} {c : Completion} {index : ℕ}

/-- What is left once an outstanding operation is taken out. -/
lemma perm_eraseIdx (h : m.operations[index]? = some p) :
    (p :: m.operations.eraseIdx index).Perm m.operations := by
  obtain ⟨hlt, rfl⟩ := List.getElem?_eq_some_iff.mp h
  exact List.getElem_cons_eraseIdx_perm hlt

lemma releasing_eraseIdx (h : m.operations[index]? = some p) :
    releasing m.operations = p.2.releasing + releasing (m.operations.eraseIdx index) := by
  unfold releasing
  rw [← ((perm_eraseIdx h).map fun p => p.2.releasing).sum_eq, List.map_cons, List.sum_cons]

lemma releasingUnits_eraseIdx (h : m.operations[index]? = some p) :
    releasingUnits m.operations =
      p.2.releasingUnits + releasingUnits (m.operations.eraseIdx index) := by
  unfold releasingUnits
  rw [← ((perm_eraseIdx h).map fun p => p.2.releasingUnits).sum_eq, List.map_cons, List.sum_cons]

lemma releasing_append (ops : List (ℕ × Operation)) (p : ℕ × Operation) :
    releasing (ops ++ [p]) = releasing ops + p.2.releasing := by
  simp [releasing]

lemma releasingUnits_append (ops : List (ℕ × Operation)) (p : ℕ × Operation) :
    releasingUnits (ops ++ [p]) = releasingUnits ops + p.2.releasingUnits := by
  simp [releasingUnits]

lemma countP_eraseIdx (h : m.operations[index]? = some p) (f : ℕ × Operation → Bool) :
    m.operations.countP f = (m.operations.eraseIdx index).countP f + if f p then 1 else 0 := by
  rw [← (perm_eraseIdx h).countP_eq, List.countP_cons]

/-- With an allocating operation taken out, no other is left. -/
lemma Steady.last (hs : Steady m) (h : m.operations[index]? = some p)
    (hp : p.2.allocates = true) :
    ∀ q ∈ m.operations.eraseIdx index, q.2.allocates = false := by
  have hcount := countP_eraseIdx h fun q => q.2.allocates
  have hsingle := hs.single
  simp only [hp, if_true] at hcount
  intro q hq
  have hzero : (m.operations.eraseIdx index).countP (fun q => q.2.allocates) = 0 := by omega
  simpa using List.countP_eq_zero.mp hzero q hq

lemma Steady.unallocated (hs : Steady m) (h : m.operations[index]? = some p)
    (hp : p.2.allocates = true) : m.isAllocated = false :=
  hs.pending ⟨p, List.mem_of_getElem? h, hp⟩

/-- An allocation has ended, with all taken or nothing. -/
lemma steady_allocate {generation channel units : ℕ} (hs : Steady m)
    (h : m.operations[index]? = some (generation, .allocate channel units))
    (hsuccess : c.status = .success → c.Full)
    (hfail : c.status ≠ .success → c.channel = false ∧ c.bandwidth = false) :
    Steady ({ m with operations := m.operations.eraseIdx index }.onCompletion
      (.allocate channel units) c) := by
  have hrest := hs.last h rfl
  have hnone := hs.unallocated h rfl
  have hchannels : m.heldChannels = releasing (m.operations.eraseIdx index) := by
    rw [hs.channels, releasing_eraseIdx h]
    simp [recorded, hnone, Operation.releasing]
  have hunits : m.heldUnits = releasingUnits (m.operations.eraseIdx index) := by
    rw [hs.units, releasingUnits_eraseIdx h]
    simp [recordedUnits, hnone, Operation.releasingUnits]
  have hsteady : ∀ q ∈ m.operations.eraseIdx index, q.2.reallocates = false :=
    fun q hq => hs.steady q (List.mem_of_mem_eraseIdx hq)
  have hstarted : ∀ q ∈ m.operations.eraseIdx index, q.1 = m.generation :=
    fun q hq => hs.started q (List.mem_of_mem_eraseIdx hq)
  have hsingle : (m.operations.eraseIdx index).countP (fun q => q.2.allocates) ≤ 1 := by
    rw [List.countP_eq_zero.mpr fun q hq => by simp [hrest q hq]]
    exact Nat.zero_le 1
  by_cases hstatus : c.status = .success
  · obtain ⟨hc, hb⟩ := hsuccess hstatus
    simp only [onCompletion, take, updateAllocationState, report, hstatus, hc, hb, if_true]
    refine ⟨hsteady, hstarted, hsingle, fun ⟨q, hq, hqa⟩ => ?_, fun _ => rfl, ?_, ?_⟩
    · exact absurd hqa (by simp [hrest q hq])
    · simp only [recorded, if_true, hchannels]
      exact (Multiset.singleton_add _ _).symm
    · simp only [recordedUnits, if_true, hunits]
      omega
  · obtain ⟨hc, hb⟩ := hfail hstatus
    simp only [onCompletion, take, updateAllocationState, report, hstatus, hc, hb, if_false,
      Bool.false_eq_true]
    refine ⟨hsteady, hstarted, hsingle, fun _ => hnone, fun ha => ?_, ?_, ?_⟩
    · exact absurd ha (by simp [hnone])
    · simp [recorded, hnone, hchannels]
    · simp [recordedUnits, hnone, hunits]

/-- A release has ended with everything given back. -/
lemma steady_giveBack {generation channel units : ℕ} {next : Option (ℕ × ℕ)} (hs : Steady m)
    (h : m.operations[index]? = some (generation, .release channel units next)) (hfull : c.Full) :
    Steady ({ m with operations := m.operations.eraseIdx index }.giveBack channel units c) := by
  have hchannels : m.heldChannels.erase channel =
      m.recorded + releasing (m.operations.eraseIdx index) := by
    rw [hs.channels, releasing_eraseIdx h]
    simp only [Operation.releasing]
    rw [add_left_comm, Multiset.singleton_add, Multiset.erase_cons_head]
  have hunits : m.heldUnits - units =
      m.recordedUnits + releasingUnits (m.operations.eraseIdx index) := by
    rw [hs.units, releasingUnits_eraseIdx h]
    simp only [Operation.releasingUnits]
    omega
  have hcount := countP_eraseIdx h fun q => q.2.allocates
  have hsingle := hs.single
  simp only [giveBack, hfull.1, hfull.2, if_true]
  refine ⟨fun q hq => hs.steady q (List.mem_of_mem_eraseIdx hq),
    fun q hq => hs.started q (List.mem_of_mem_eraseIdx hq), ?_, ?_, hs.current, hchannels, hunits⟩
  · simp only
    omega
  · rintro ⟨q, hq, hqa⟩
    exact hs.pending ⟨q, List.mem_of_mem_eraseIdx hq, hqa⟩

/-- Starting an operation that leaves the record as it is. -/
lemma steady_start {op : Operation} (hs : Steady m) (hre : op.reallocates = false)
    (hreleasing : op.releasing = 0) (hunits : op.releasingUnits = 0)
    (hnone : ∀ q ∈ m.operations, q.2.allocates = false) (hm : m.isAllocated = false) :
    Steady (m.start op) := by
  have hzero : m.operations.countP (fun q => q.2.allocates) = 0 :=
    List.countP_eq_zero.mpr fun q hq => by simp [hnone q hq]
  refine ⟨?_, ?_, ?_, fun _ => hm, hs.current, ?_, ?_⟩
  · intro q hq
    rcases List.mem_append.mp hq with hq | hq
    · exact hs.steady q hq
    · rw [List.mem_singleton.mp hq]
      exact hre
  · intro q hq
    rcases List.mem_append.mp hq with hq | hq
    · exact hs.started q hq
    · rw [List.mem_singleton.mp hq]
      rfl
  · simp only [start, List.countP_append, hzero, List.countP_singleton]
    split <;> omega
  · simp only [start, releasing_append, hreleasing, add_zero]
    exact hs.channels
  · simp only [start, releasingUnits_append, hunits, add_zero]
    exact hs.units

/-- `Release` moves the recorded resources to the outstanding release. -/
lemma steady_releaseThen (hs : Steady m) (hm : m.isAllocated = true) (next : Option (ℕ × ℕ)) :
    Steady (m.releaseThen next) := by
  have hnone : ∀ q ∈ m.operations, q.2.allocates = false := by
    intro q hq
    by_contra hqa
    exact absurd (hs.pending ⟨q, hq, by simpa using hqa⟩) (by simp [hm])
  have hzero : m.operations.countP (fun q => q.2.allocates) = 0 :=
    List.countP_eq_zero.mpr fun q hq => by simp [hnone q hq]
  refine ⟨?_, ?_, ?_, fun _ => rfl, by simp [releaseThen, clear, start], ?_, ?_⟩
  · intro q hq
    rcases List.mem_append.mp hq with hq | hq
    · exact hs.steady q hq
    · rw [List.mem_singleton.mp hq]
      rfl
  · intro q hq
    rcases List.mem_append.mp hq with hq | hq
    · exact hs.started q hq
    · rw [List.mem_singleton.mp hq]
      rfl
  · simp only [releaseThen, clear, start, List.countP_append, hzero, List.countP_singleton]
    split <;> omega
  · have hchannels := hs.channels
    simp only [recorded, hm, if_true] at hchannels
    simp only [releaseThen, clear, start, releasing_append, recorded, Operation.releasing, hchannels]
    simp [add_comm]
  · have hunits := hs.units
    simp only [recordedUnits, hm, if_true] at hunits
    simp only [releaseThen, clear, start, releasingUnits_append, recordedUnits,
      Operation.releasingUnits, hunits]
    simp [add_comm]

lemma steady_complete (hs : Steady m) (hfaith : m.Plausible (.complete index c))
    (horderly : m.Orderly (.complete index c)) : Steady (m.step (.complete index c)) := by
  simp only [Manager.step]
  cases hop : m.operations[index]? with
  | none => exact hs
  | some p =>
    obtain ⟨generation, op⟩ := p
    obtain ⟨hfull, hmismatch, hbandwidth⟩ := hfaith _ hop
    have hordered := horderly _ hop
    cases op with
    | allocate channel units =>
      simp only [Operation.releasing, if_true] at hordered
      exact steady_allocate hs hop hfull fun hne => ⟨hordered hne, hbandwidth rfl hne⟩
    | release channel units next =>
      simp only [Operation.releasing, Multiset.singleton_ne_zero, if_false] at hordered
      have hback := steady_giveBack hs hop (hfull hordered)
      cases next with
      | none => exact ⟨hback.steady, hback.started, hback.single, hback.pending, hback.current,
          hback.channels, hback.units⟩
      | some allocation =>
        exact steady_start hback rfl rfl rfl (hs.last hop rfl) (hs.unallocated hop rfl)
    | reallocate channel units newGeneration =>
      exact absurd (hs.steady _ (List.mem_of_getElem? hop)) (by simp [Operation.reallocates])

/-- The reallocation after a bus reset has ended, with all taken again or the record dropped. -/
lemma reallocating_complete (hr : Reallocating m) (hfaith : m.Plausible (.complete index c))
    (horderly : m.Orderly (.complete index c)) :
    Steady (m.step (.complete index c)) ∨ Reallocating (m.step (.complete index c)) := by
  cases index with
  | succ index =>
    have hop : m.operations[index + 1]? = none := by simp [hr.operations]
    simp only [Manager.step, hop]
    exact .inr hr
  | zero =>
    have hop : m.operations[0]? =
        some (m.generation, .reallocate m.channel m.bandwidthUnits m.generation) := by
      simp [hr.operations]
    obtain ⟨hfull, hmismatch, hbandwidth⟩ := hfaith _ hop
    have hordered := horderly _ hop
    simp only [Operation.releasing, if_true] at hordered
    have hempty : m.operations.eraseIdx 0 = [] := by simp [hr.operations]
    simp only [Manager.step, hop, hempty, onCompletion, take, onReallocation]
    left
    by_cases hstatus : c.status = .success
    · obtain ⟨hc, hb⟩ := hfull hstatus
      simp only [hstatus, hc, hb, if_true, hr.channels, hr.units]
      refine ⟨by simp, by simp, by simp, by simp, fun _ => rfl, ?_, ?_⟩
      · simp [recorded, hr.isAllocated, releasing]
      · simp [recordedUnits, hr.isAllocated, releasingUnits]
    · have hne : c.status ≠ .generationMismatch := fun h => hmismatch h rfl
      have hc := hordered hstatus
      have hb := hbandwidth rfl hstatus
      simp only [hstatus, hne, hc, hb, if_false, Bool.false_eq_true, onReallocationFailed, clear,
        report, hr.channels, hr.units]
      exact ⟨by simp, by simp, by simp, by simp, by simp, by simp [recorded, releasing],
        by simp [recordedUnits, releasingUnits]⟩

lemma step_ledger {e : Occurrence} (hfaith : m.Plausible e) (horderly : m.Orderly e)
    (h : Steady m ∨ Reallocating m) : Steady (m.step e) ∨ Reallocating (m.step e) := by
  cases e with
  | allocate channel units =>
    rcases h with hs | hr
    · left
      simp only [Manager.step, Manager.allocate]
      split
      · next hm => exact steady_releaseThen hs hm _
      · next hm => exact steady_start hs rfl rfl rfl horderly (by simpa using hm)
    · exact absurd (horderly _ (by rw [hr.operations]; exact List.mem_singleton_self _))
        (by simp [Operation.allocates])
  | release =>
    rcases h with hs | hr
    · left
      simp only [Manager.step, Manager.release]
      split
      · next hm => exact steady_releaseThen hs hm _
      · exact ⟨hs.steady, hs.started, hs.single, hs.pending, hs.current, hs.channels, hs.units⟩
    · exact absurd (horderly _ (by rw [hr.operations]; exact List.mem_singleton_self _))
        (by simp [Operation.reallocates])
  | busReset newGeneration =>
    rcases h with hs | hr
    · have hempty : m.operations = [] := horderly
      simp only [Manager.step, Manager.onBusReset, attemptReallocation]
      cases hm : m.isAllocated with
      | false =>
        left
        simp only [Bool.not_false, if_true]
        exact ⟨by simp [hempty], by simp [hempty], by simp [hempty], fun _ => rfl, by simp,
          by simp [recorded, hempty, releasing], by simp [recordedUnits, hempty, releasingUnits]⟩
      | true =>
        have hne : ¬m.allocationGeneration = newGeneration := by
          rw [hs.current hm]
          exact fun h => hfaith h.symm
        right
        simp only [Bool.not_true, Bool.false_eq_true, if_false, hne, if_true, start, hempty,
          List.nil_append]
        exact ⟨rfl, rfl, rfl, rfl⟩
    · exact absurd (hr.operations.symm.trans horderly) (by simp)
  | complete index c =>
    rcases h with hs | hr
    · exact .inl (steady_complete hs hfaith horderly)
    · exact reallocating_complete hr hfaith horderly

/-- In every orderly run of the manager with answered operations, whenever none is outstanding the
record says exactly what is held at the IRM in the current generation. -/
theorem record_matches (generation : ℕ) (occurrences : List Occurrence)
    (hmeets : Meets Manager.step (fun m e => m.Plausible e ∧ m.Orderly e)
      { generation := generation } occurrences)
    (hdone : (run Manager.step { generation := generation } occurrences).operations = []) :
    (run Manager.step { generation := generation } occurrences).Matches := by
  have hinitial : Steady { generation := generation } :=
    ⟨by simp, by simp, by simp, by simp, by simp, rfl, rfl⟩
  have hrun := invariant_run_of_meets (I := fun m : Manager => Steady m ∨ Reallocating m)
    (fun m e h he => step_ledger he.1 he.2 h) (.inl hinitial) hmeets
  rcases hrun with hs | hr
  · have hchannels := hs.channels
    have hunits := hs.units
    rw [hdone] at hchannels hunits
    exact ⟨by simpa [releasing] using hchannels, by simpa [releasingUnits] using hunits⟩
  · exact absurd (hr.operations.symm.trans hdone) (by simp)

/-- Success, with both resources taken or given back. -/
def full : Completion := ⟨.success, true, true⟩

/-- An allocation, then a bus reset. -/
def resetAllocation : List Occurrence := [.allocate 5 100, .complete 0 full, .busReset 2]

theorem reallocation_matches :
    (run Manager.step { generation := 1 } (resetAllocation ++ [.complete 0 full])).Matches :=
  record_matches 1 (resetAllocation ++ [.complete 0 full]) (by decide) (by decide)

/-- A release overtaken by the reallocation leaves the resources held and unrecorded. -/
theorem release_during_reallocation :
    let occurrences := resetAllocation ++ [.release, .complete 1 full, .complete 0 full]
    Meets Manager.step Plausible { generation := 1 } occurrences ∧
      (run Manager.step { generation := 1 } occurrences).operations = [] ∧
      ¬(run Manager.step { generation := 1 } occurrences).Matches := by
  decide

end Manager

end ASFireWire.IRM
