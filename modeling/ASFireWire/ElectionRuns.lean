import ASFireWire.BusManagerElection

/-! Runs of the election driver. Deferred contentions and compare-swap callbacks fire in any
order, also after later resets; the driver shares one in-flight flag and one handle among them. -/
namespace ASFireWire.Bus

open ASFireWire.Async ASFireWire.BusReset ASFireWire.Topology Runs

inductive ElectionEvent
  | topologyReady (snap : TopologySnapshot) (nowNs : ℕ) (lockResult : LocalCSRLockResult)
  | busReset (nowNs : ℕ)
  | timer (i nowNs : ℕ) (lockResult : LocalCSRLockResult)
  | completion (i : ℕ) (status : AsyncStatus) (oldValue nowNs : ℕ)
  | generationConfirmed (generation : ℕ)
  | timing (state : PostResetTimingState)
  | abdicateWritten
  | setRolePolicy (policy : RolePolicy)
  | stop
  deriving DecidableEq

namespace ElectionWorld

def step (w : ElectionWorld) : ElectionEvent → ElectionWorld
  | .topologyReady snap nowNs lockResult => w.onTopologyReady snap nowNs lockResult
  | .busReset nowNs => { w.onBusReset nowNs with resetSeen := true }
  | .timer i nowNs lockResult =>
    match w.timers[i]? with
    | none => w
    | some t => { w with timers := w.timers.eraseIdx i }.fireTimer t nowNs lockResult
  | .completion i status oldValue nowNs =>
    match w.outstanding[i]? with
    | none => w
    | some c => { w with outstanding := w.outstanding.eraseIdx i }.complete c status oldValue nowNs
  | .generationConfirmed generation =>
    { w with
      generation16 := generation
      epoch := w.epoch + 1
      resetSeen := false }
  | .timing state => { w with timing := state }
  | .abdicateWritten => { w with abdicate := true }
  | .setRolePolicy policy => { w with driver := { w.driver with rolePolicy := policy } }
  | .stop => w.stop

/-! ### What the driver promises -/

/-- No generation sees a second compare-swap. -/
def LocksOnce (w : ElectionWorld) : Prop := ∀ epoch, w.locks.count epoch ≤ 1

/-- An election of the current generation is under way: the flag says so, or its compare-swap is
the one the handle names. -/
def InProgress (w : ElectionWorld) : Prop :=
  (w.driver.inFlight = true ∧ w.driver.inFlightGen = w.generation16) ∨
    ∃ c ∈ w.outstanding, c.generation = w.generation16 ∧ w.driver.inFlightHandle = some c.handle

instance (w : ElectionWorld) : Decidable w.InProgress :=
  inferInstanceAs (Decidable (_ ∨ ∃ c ∈ w.outstanding, _ ∧ _))

/-- A timer or a completion of another generation than the current one. -/
def Stale (w : ElectionWorld) : ElectionEvent → Prop
  | .timer i _ _ => ∃ t ∈ w.timers[i]?, t.generation ≠ w.generation16
  | .completion i _ _ _ => ∃ c ∈ w.outstanding[i]?, c.generation ≠ w.generation16
  | _ => False

/-- A stale event leaves the owner alone, and the bookkeeping of an election of the current
generation. -/
def StaleKeeps (w : ElectionWorld) (e : ElectionEvent) : Prop :=
  w.Stale e →
    (w.step e).driver.fsm.owner = w.driver.fsm.owner ∧
    (w.step e).driver.fsm.ownerId = w.driver.fsm.ownerId ∧
    (w.InProgress → (w.step e).driver.inFlight = w.driver.inFlight ∧
      (w.step e).driver.inFlightHandle = w.driver.inFlightHandle)

/-- The driver's own check of a second attempt in a generation. -/
def Attempted (w : ElectionWorld) (generation : ℕ) : Prop :=
  w.driver.attemptedGeneration = generation ∧ 1 ≤ w.driver.attemptsThisGeneration

instance (w : ElectionWorld) (generation : ℕ) : Decidable (w.Attempted generation) :=
  inferInstanceAs (Decidable (_ ∧ _))

/-- The attempt counter can still be trusted: no reset has cleared it in a generation that was
locked and is still the current one, and it does not wrap. -/
def Remembers (w : ElectionWorld) : Prop :=
  (w.resetSeen = true → w.epoch ∉ w.locks) ∧ w.driver.attemptsThisGeneration ≠ 255

instance (w : ElectionWorld) : Decidable w.Remembers := inferInstanceAs (Decidable (_ ∧ _))

def candidateClass (w : ElectionWorld) : BMCandidateClass :=
  if w.driver.wasIncumbent && !w.abdicate then .incumbent else .nonIncumbent

/-- A snapshot whose gate is open belongs to the current generation; a timer of the current
generation whose gate is open comes before any attempt in it; a stale timer or completion comes
while no election of the current generation is under way. -/
def Orderly (w : ElectionWorld) : ElectionEvent → Prop
  | .topologyReady snap nowNs _ =>
    (w.timing.checkBMGate snap.generation w.candidateClass nowNs).allowed = true →
      snap.generation = w.generation16 ∧ w.Remembers
  | .timer i nowNs _ =>
    ∀ t ∈ w.timers[i]?, (t.generation ≠ w.generation16 → ¬w.InProgress) ∧
      (t.generation = w.generation16 →
        (w.timing.checkBMGate t.generation t.candidateClass nowNs).allowed = true →
          w.Remembers ∧ ¬w.Attempted t.generation)
  | .completion i _ _ _ =>
    ∀ c ∈ w.outstanding[i]?, c.generation ≠ w.generation16 → ¬w.InProgress
  | _ => True

instance (w : ElectionWorld) (e : ElectionEvent) : Decidable (w.Orderly e) := by
  unfold Orderly
  cases e <;> infer_instance

/-! ### Stale events -/

lemma handleCompareSwapResult_stale {w : ElectionWorld} {generation : ℕ}
    (h : w.generation16 ≠ generation) (localNodeId : ℕ) (status : AsyncStatus)
    (oldValue nowNs : ℕ) :
    (w.handleCompareSwapResult generation localNodeId status oldValue nowNs).driver.fsm.owner =
        w.driver.fsm.owner ∧
      (w.handleCompareSwapResult generation localNodeId status oldValue nowNs).driver.fsm.ownerId =
        w.driver.fsm.ownerId := by
  unfold handleCompareSwapResult
  by_cases hactive : (!w.driver.active) = true
  · rw [if_pos hactive]
    exact ⟨rfl, rfl⟩
  · rw [if_neg hactive, if_pos h]
    exact ⟨rfl, rfl⟩

lemma fireTimer_stale {w : ElectionWorld} {t : DeferredContention}
    (h : w.generation16 ≠ t.generation) (nowNs : ℕ) (lockResult : LocalCSRLockResult) :
    (w.fireTimer t nowNs lockResult).driver.fsm = w.driver.fsm := by
  unfold fireTimer
  dsimp only
  split_ifs <;> rfl

/-- Whatever the run, a stale event never moves the ownership. -/
lemma owner_of_stale {w : ElectionWorld} {e : ElectionEvent} (h : w.Stale e) :
    (w.step e).driver.fsm.owner = w.driver.fsm.owner ∧
      (w.step e).driver.fsm.ownerId = w.driver.fsm.ownerId := by
  cases e with
  | timer i nowNs lockResult =>
    obtain ⟨t, ht, hgen⟩ := h
    have hstep : w.step (.timer i nowNs lockResult) =
        { w with timers := w.timers.eraseIdx i }.fireTimer t nowNs lockResult := by
      simp only [step, Option.mem_def.mp ht]
    rw [hstep, fireTimer_stale (w := { w with timers := w.timers.eraseIdx i }) (Ne.symm hgen)]
    exact ⟨rfl, rfl⟩
  | completion i status oldValue nowNs =>
    obtain ⟨c, hc, hgen⟩ := h
    have hstep : w.step (.completion i status oldValue nowNs) =
        { w with outstanding := w.outstanding.eraseIdx i }.complete c status oldValue nowNs := by
      simp only [step, Option.mem_def.mp hc]
    have hkeep := handleCompareSwapResult_stale
      (w := { w with
        outstanding := w.outstanding.eraseIdx i
        driver := { w.driver with inFlightHandle := none } })
      (Ne.symm hgen) c.localNodeId status oldValue nowNs
    rw [hstep]
    exact hkeep
  | _ => exact h.elim

lemma not_inProgress_of_orderly {w : ElectionWorld} {e : ElectionEvent} (h : w.Orderly e)
    (hstale : w.Stale e) : ¬w.InProgress := by
  cases e with
  | timer i nowNs lockResult =>
    obtain ⟨t, ht, hgen⟩ := hstale
    exact (h t ht).1 hgen
  | completion i status oldValue nowNs =>
    obtain ⟨c, hc, hgen⟩ := hstale
    exact h c hc hgen
  | _ => exact hstale.elim

lemma staleKeeps_of_orderly {w : ElectionWorld} {e : ElectionEvent} (h : w.Orderly e) :
    w.StaleKeeps e := by
  intro hstale
  obtain ⟨howner, hid⟩ := owner_of_stale hstale
  exact ⟨howner, hid, fun hp => absurd hp (not_inProgress_of_orderly h hstale)⟩

/-! ### The ledger of attempts -/

/-- What the count of compare-swaps depends on. -/
structure Ledger where
  generation16 : ℕ
  epoch : ℕ
  locks : List ℕ
  resetSeen : Bool
  attemptedGeneration : ℕ
  attemptsThisGeneration : UInt8

def ledger (w : ElectionWorld) : Ledger where
  generation16 := w.generation16
  epoch := w.epoch
  locks := w.locks
  resetSeen := w.resetSeen
  attemptedGeneration := w.driver.attemptedGeneration
  attemptsThisGeneration := w.driver.attemptsThisGeneration

/-- One lock a generation, none of a later one, and the current generation's lock is on the
attempt counter until a reset clears it. -/
structure Ledger.Counted (l : Ledger) : Prop where
  once : ∀ epoch, l.locks.count epoch ≤ 1
  past : ∀ epoch ∈ l.locks, epoch ≤ l.epoch
  counted : l.epoch ∈ l.locks → l.resetSeen = true ∨
    (l.attemptedGeneration = l.generation16 ∧ 1 ≤ l.attemptsThisGeneration)

lemma handleCompareSwapResult_ledger (w : ElectionWorld) (generation localNodeId : ℕ)
    (status : AsyncStatus) (oldValue nowNs : ℕ) :
    (w.handleCompareSwapResult generation localNodeId status oldValue nowNs).ledger =
      w.ledger := by
  unfold handleCompareSwapResult
  dsimp only
  split_ifs
  · rfl
  · rfl
  · rfl
  · split <;> rfl

/-- Contending issues at most one lock, and only in the generation it was asked for. -/
lemma contendNow_ledger (w : ElectionWorld) (generation localNodeId irmNodeId busBase16 : ℕ)
    (lockResult : LocalCSRLockResult) (nowNs : ℕ) :
    (w.contendNow generation localNodeId irmNodeId busBase16 lockResult nowNs).ledger =
        w.ledger ∨
      (w.generation16 = generation ∧
        (w.contendNow generation localNodeId irmNodeId busBase16 lockResult nowNs).ledger =
          { w.ledger with locks := w.locks ++ [w.epoch] }) := by
  unfold contendNow contend
  by_cases hallowed : (!w.driver.electionStillAllowed || !true) = true
  · rw [if_pos hallowed]
    exact Or.inl rfl
  · rw [if_neg hallowed]
    by_cases hgen : w.generation16 ≠ generation
    · rw [if_pos hgen]
      exact Or.inl rfl
    · rw [if_neg hgen]
      apply Or.inr
      apply And.intro (not_not.mp hgen)
      by_cases hlocal : irmNodeId = localNodeId
      · rw [if_pos hlocal]
        dsimp only
        split_ifs
        · rfl
        · rw [handleCompareSwapResult_ledger]
          rfl
      · rw [if_neg hlocal]
        rfl

lemma one_le_succ_of_ne {n : UInt8} (h : n ≠ 255) : 1 ≤ n + 1 := by
  have hn : n.toNat ≠ 255 := fun heq => h (UInt8.toNat_inj.mp heq)
  have hlt := n.toNat_lt
  rw [UInt8.le_iff_toNat_le, UInt8.toNat_add]
  simp only [UInt8.toNat_ofNat]
  omega

/-- An attempt in a generation without one is counted. -/
lemma counted_attempt {w : ElectionWorld} {t : DeferredContention} (h : w.ledger.Counted)
    (hgen : t.generation = w.generation16) (hnew : w.epoch ∉ w.locks)
    (hwrap : w.driver.attemptsThisGeneration ≠ 255) (lockResult : LocalCSRLockResult)
    (nowNs : ℕ) : (w.attempt t lockResult nowNs).ledger.Counted := by
  have hcase := contendNow_ledger
    { w with
      driver := { w.driver with
        attemptedGeneration := t.generation
        attemptsThisGeneration := w.driver.attemptsThisGeneration + 1 } }
    t.generation t.localNodeId t.irmNodeId t.busBase16 lockResult nowNs
  rcases hcase with heq | ⟨-, heq⟩
  · unfold attempt
    dsimp only
    rw [heq]
    exact ⟨h.once, h.past, fun hmem => absurd hmem hnew⟩
  · unfold attempt
    dsimp only
    rw [heq]
    constructor
    · intro epoch
      have honce := h.once epoch
      simp only [ledger, List.count_append] at honce ⊢
      by_cases heq : epoch = w.epoch
      · subst heq
        simp [List.count_eq_zero_of_not_mem hnew]
      · simp only [List.count_cons_of_ne (Ne.symm heq), List.count_nil]
        omega
    · intro epoch hmem
      rcases List.mem_append.mp hmem with hold | hlast
      · exact h.past epoch hold
      · exact (List.mem_singleton.mp hlast).le
    · intro _
      exact Or.inr ⟨hgen, one_le_succ_of_ne hwrap⟩

/-- A trusted counter that shows no attempt in the current generation: there was no lock in it. -/
lemma not_locked {w : ElectionWorld} (h : w.ledger.Counted) (hremembers : w.Remembers)
    (hattempted : ¬w.Attempted w.generation16) : w.epoch ∉ w.locks := by
  intro hmem
  rcases h.counted hmem with hreset | hcounted
  · exact hremembers.1 hreset hmem
  · exact hattempted hcounted

/-- A contention at the gate is an attempt, or leaves the ledger alone. -/
lemma counted_enterGate {w : ElectionWorld} {t : DeferredContention} {nowNs : ℕ}
    (h : w.ledger.Counted)
    (hopen : (w.timing.checkBMGate t.generation t.candidateClass nowNs).allowed = true →
      t.generation = w.generation16 ∧ w.epoch ∉ w.locks ∧ w.driver.attemptsThisGeneration ≠ 255)
    (lockResult : LocalCSRLockResult) : (w.enterGate t nowNs lockResult).ledger.Counted := by
  unfold enterGate
  dsimp only
  split_ifs with hexpired hallowed hclosed
  · exact h
  · obtain ⟨hgen, hnew, hwrap⟩ := hopen hallowed
    apply counted_attempt
    · exact h
    · exact hgen
    · exact hnew
    · exact hwrap
  · exact h
  · exact h

lemma candidateClass_of_decided {w : ElectionWorld} {snap : TopologySnapshot}
    {action : DecisionAction} (hcontend : action ≠ .doNotContend)
    (h : (w.driver.fsm.decideAction (w.electionInputs snap)).1 = action) :
    w.candidateClass = if action = .contendImmediately then .incumbent else .nonIncumbent := by
  have hcontend' : (w.driver.fsm.decideAction (w.electionInputs snap)).1 ≠ .doNotContend := by
    rwa [h]
  have hdecided := BusManagerElection.decideAction_contends hcontend'
  rw [h] at hdecided
  have heq : action = if (w.driver.wasIncumbent && !w.abdicate) = true then .contendImmediately
    else .contendAfterGrace := hdecided
  unfold candidateClass
  split_ifs at heq ⊢ <;> simp_all

lemma counted_elect {w : ElectionWorld} {snap : TopologySnapshot} {nowNs : ℕ}
    (h : w.ledger.Counted)
    (hopen : (w.timing.checkBMGate snap.generation w.candidateClass nowNs).allowed = true →
      snap.generation = w.generation16 ∧ w.epoch ∉ w.locks ∧
        w.driver.attemptsThisGeneration ≠ 255)
    (lockResult : LocalCSRLockResult) : (w.elect snap nowNs lockResult).ledger.Counted := by
  unfold elect
  dsimp only
  split
  next => exact h
  next hdecided =>
    rw [candidateClass_of_decided (by simp) hdecided, if_pos rfl] at hopen
    apply counted_enterGate
    · exact h
    · exact hopen
  next hdecided =>
    rw [candidateClass_of_decided (by simp) hdecided, if_neg (by simp)] at hopen
    apply counted_enterGate
    · exact h
    · exact hopen

lemma shouldYield_frame (d : ElectionDriver) (snap : TopologySnapshot) :
    (d.shouldYieldForStableRemoteIRM snap).2.attemptedGeneration = d.attemptedGeneration ∧
      (d.shouldYieldForStableRemoteIRM snap).2.attemptsThisGeneration =
        d.attemptsThisGeneration ∧
      (d.shouldYieldForStableRemoteIRM snap).2.wasIncumbent = d.wasIncumbent := by
  unfold ElectionDriver.shouldYieldForStableRemoteIRM
  dsimp only
  split_ifs <;> exact ⟨rfl, rfl, rfl⟩

lemma counted_onTopologyReady {w : ElectionWorld} {snap : TopologySnapshot} {nowNs : ℕ}
    {lockResult : LocalCSRLockResult} (h : w.ledger.Counted)
    (horderly : w.Orderly (.topologyReady snap nowNs lockResult)) :
    (w.onTopologyReady snap nowNs lockResult).ledger.Counted := by
  obtain ⟨hattempted, hattempts, hincumbent⟩ := shouldYield_frame
    { w.driver with localNodeId := snap.localNodeId, irmNodeId := snap.irmNodeId } snap
  have hledger : ({ w with driver := (ElectionDriver.shouldYieldForStableRemoteIRM
      { w.driver with localNodeId := snap.localNodeId, irmNodeId := snap.irmNodeId }
      snap).2 } : ElectionWorld).ledger = w.ledger := by
    simp only [ledger, hattempted, hattempts]
  unfold onTopologyReady
  dsimp only
  split_ifs with hactive hallowed hids hyield hdone hbusy
  · exact h
  · exact h
  · exact h
  · rw [hledger]
    exact h
  · rw [hledger]
    exact h
  · rw [hledger]
    exact h
  · apply counted_elect (by rw [hledger]; exact h)
    intro hopen
    have hclass : ElectionWorld.candidateClass { w with
        driver := (ElectionDriver.shouldYieldForStableRemoteIRM
          { w.driver with localNodeId := snap.localNodeId, irmNodeId := snap.irmNodeId }
          snap).2 } = w.candidateClass := by
      simp only [candidateClass, hincumbent]
    rw [hclass] at hopen
    obtain ⟨hgen, hremembers⟩ := horderly hopen
    rw [hattempted, hattempts] at hdone
    apply And.intro hgen
    apply And.intro
    · apply not_locked h hremembers
      rw [← hgen]
      exact hdone
    · rw [hattempts]
      exact hremembers.2

lemma counted_fireTimer {w : ElectionWorld} {t : DeferredContention} {nowNs : ℕ}
    (h : w.ledger.Counted)
    (horderly : t.generation = w.generation16 →
      (w.timing.checkBMGate t.generation t.candidateClass nowNs).allowed = true →
        w.Remembers ∧ ¬w.Attempted t.generation)
    (lockResult : LocalCSRLockResult) : (w.fireTimer t nowNs lockResult).ledger.Counted := by
  unfold fireTimer
  dsimp only
  split_ifs with hactive hallowed hgen hgate
  · exact h
  · exact h
  · exact h
  · exact h
  · have hcurrent : t.generation = w.generation16 := (not_not.mp hgen).symm
    obtain ⟨hremembers, hattempted⟩ := horderly hcurrent (by simpa using hgate)
    rw [hcurrent] at hattempted
    exact counted_attempt h hcurrent (not_locked h hremembers hattempted) hremembers.2
      lockResult nowNs

theorem counted_step {w : ElectionWorld} {e : ElectionEvent} (h : w.ledger.Counted)
    (horderly : w.Orderly e) : (w.step e).ledger.Counted := by
  cases e with
  | topologyReady snap nowNs lockResult => exact counted_onTopologyReady h horderly
  | busReset nowNs => exact ⟨h.once, h.past, fun _ => Or.inl rfl⟩
  | timer i nowNs lockResult =>
    unfold step
    dsimp only
    split
    next => exact h
    next t ht =>
      apply counted_fireTimer (w := { w with timers := w.timers.eraseIdx i }) h
      exact (horderly t ht).2
  | completion i status oldValue nowNs =>
    unfold step
    dsimp only
    split
    next => exact h
    next c hc =>
      unfold complete
      rw [handleCompareSwapResult_ledger]
      exact h
  | generationConfirmed generation =>
    constructor
    · exact h.once
    · intro epoch hmem
      exact (h.past epoch hmem).trans (Nat.le_succ w.epoch)
    · intro hmem
      exact absurd (h.past _ hmem) (Nat.not_succ_le_self w.epoch)
  | timing state => exact h
  | abdicateWritten => exact h
  | setRolePolicy policy => exact h
  | stop => exact h

/-- A driver that was just made. -/
def start (policy : RolePolicy) : ElectionWorld := { driver := { rolePolicy := policy } }

lemma counted_start (policy : RolePolicy) : (start policy).ledger.Counted where
  once := by simp [ledger, start]
  past := by simp [ledger, start]
  counted := by simp [ledger, start]

/-- In a run whose events are all orderly no generation sees a second compare-swap, and no stale
event touches the ownership or the election of the current generation. -/
theorem elections_once (policy : RolePolicy) (events : List ElectionEvent)
    (h : Meets step Orderly (start policy) events) :
    (run step (start policy) events).LocksOnce ∧
      Meets step StaleKeeps (start policy) events := by
  have hrun : (run step (start policy) events).ledger.Counted :=
    invariant_run_of_meets (I := fun w : ElectionWorld => w.ledger.Counted)
      (fun _ _ hw he => counted_step hw he) (counted_start policy) h
  constructor
  · exact hrun.once
  · clear hrun
    generalize start policy = w at h
    induction events generalizing w with
    | nil => trivial
    | cons e events ih => exact ⟨staleKeeps_of_orderly h.1, ih _ h.2⟩

/-! ### Two elections -/

/-- A two-node bus on which the remote root is the IRM. -/
def remoteRootSnapshot (generation : ℕ) : TopologySnapshot where
  generation := generation
  capturedAt := 0
  busBase16 := 0xFFC0
  busNumber := some 0x3FF
  localNodeId := 0
  rootNodeId := 1
  irmNodeId := 1
  nodeCount := 2
  gapCount := 63
  gapCountConsistent := true
  betaRepeatersPresent := false
  rawSelfIdQuadlets := []
  selfIdSequenceCount := 2
  physical := {}
  normalizedFromLocal := {}

def busManagerPolicy : RolePolicy := ⟨.fullBusManager, .electionOnly⟩

/-- Generation `generation` is confirmed and its Self-ID phase ends at `nowNs`. -/
def confirmed (generation nowNs : ℕ) : List ElectionEvent :=
  [.generationConfirmed generation,
    .timing (PostResetTimingState.onSelfIDComplete generation nowNs),
    .topologyReady (remoteRootSnapshot generation) nowNs {}]

/-- The contention of generation 1 is deferred, generation 2 defers its own, the timer of
generation 1 fires, and the snapshot of generation 2 is delivered again. -/
def overtakenTimer : List ElectionEvent :=
  confirmed 1 0 ++ [.busReset 50000000] ++ confirmed 2 100000000

def deliveredAgain : List ElectionEvent :=
  [.timer 0 125000000 {}, .topologyReady (remoteRootSnapshot 2) 130000000 {},
    .timer 0 225000000 {}, .timer 0 225000000 {}]

/-- The stale timer clears the flag of generation 2's election, so the second delivery defers a
second contention, and both of them lock. -/
theorem second_lock_in_generation :
    ¬(run step (start busManagerPolicy) (overtakenTimer ++ deliveredAgain)).LocksOnce ∧
      ¬Meets step StaleKeeps (start busManagerPolicy) (overtakenTimer ++ deliveredAgain) := by
  constructor
  · intro h
    have hcount : (run step (start busManagerPolicy)
        (overtakenTimer ++ deliveredAgain)).locks.count 2 = 2 := by decide +kernel
    have hle := h 2
    omega
  · intro h
    have hkeep := (meets_append.mp h).2.1
    have hstale : (run step (start busManagerPolicy) overtakenTimer).Stale
        (.timer 0 125000000 {}) :=
      ⟨⟨1, 0, 1, 0xFFC0, .nonIncumbent⟩, by decide +kernel, by decide +kernel⟩
    have hprogress : (run step (start busManagerPolicy) overtakenTimer).InProgress := by
      decide +kernel
    have hflag := ((hkeep hstale).2.2 hprogress).1
    have hcleared : ((run step (start busManagerPolicy) overtakenTimer).step
        (.timer 0 125000000 {})).driver.inFlight = false := by decide +kernel
    have hset : (run step (start busManagerPolicy) overtakenTimer).driver.inFlight = true := by
      decide +kernel
    rw [hcleared, hset] at hflag
    exact absurd hflag (by simp)

/-- The compare-swap of generation 1 comes back after generation 2 is confirmed and before its
snapshot is delivered. -/
def lateCallback : List ElectionEvent :=
  confirmed 1 0 ++
    [.timer 0 125000000 {}, .busReset 130000000, .generationConfirmed 2,
      .completion 0 .aborted 0 131000000,
      .timing (PostResetTimingState.onSelfIDComplete 2 132000000),
      .topologyReady (remoteRootSnapshot 2) 132000000 {}, .timer 0 257000000 {},
      .completion 0 .success 0x3F 258000000]

theorem lateCallback_once :
    Meets step Orderly (start busManagerPolicy) lateCallback ∧
      (run step (start busManagerPolicy) lateCallback).locks = [1, 2] ∧
      (run step (start busManagerPolicy) lateCallback).driver.fsm.owner = .local ∧
      (run step (start busManagerPolicy) lateCallback).LocksOnce ∧
      Meets step StaleKeeps (start busManagerPolicy) lateCallback := by
  have h : Meets step Orderly (start busManagerPolicy) lateCallback := by decide +kernel
  exact ⟨h, by decide +kernel, by decide +kernel, elections_once busManagerPolicy lateCallback h⟩

end ElectionWorld

end ASFireWire.Bus
