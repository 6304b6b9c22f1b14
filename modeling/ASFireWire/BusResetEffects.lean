import ASFireWire.BusResetCoordinator

/-! What one pass of the coordinator's state machine can do, as far as the holdoff and the
quiescing of the transmit contexts depend on it: the fields of `View` it changes and the calls
it adds. -/
namespace ASFireWire.BusReset

/-- Calls that neither accept a generation, nor touch the transmit contexts, nor reset the bus. -/
def Call.Minor : Call → Prop
  | .selfIDAccepted _ _ | .onBusResetBegin _ | .stopATContextsOnly | .flushATContexts
  | .readATContexts _ | .clearBusReset | .rearmATContexts | .onBusResetComplete _
  | .initiateBusReset _ _ => False
  | _ => True

structure View where
  state : State
  stopFlushIssued : Bool
  latch : SelfIDLatchState
  blockedUntilNs : ℕ
  now : ℕ
  lastIrqNs : ℕ

/-- The holdoff check of `MaybeDispatchPendingSoftwareReset` lets a reset through. -/
def View.Unblocked (v : View) : Prop := ¬(v.blockedUntilNs ≠ 0 ∧ v.now < v.blockedUntilNs)

/-- A call the coordinator may make while it issues a software reset. -/
def View.Issues (v : View) (x : Call) : Prop :=
  x.Minor ∨ v.Unblocked ∧ ∃ shortReset, x = .initiateBusReset shortReset v.now

namespace Coordinator

variable {c c' c'' : Coordinator} {P Q : Call → Prop} {a : Answers}

def view (c : Coordinator) : View where
  state := c.state
  stopFlushIssued := c.stopFlushIssued
  latch := c.selfIdLatch
  blockedUntilNs := c.cycle.timing.softwareResetBlockedUntilNs
  now := c.now
  lastIrqNs := c.lastIrqNs

/-- The view is kept and only calls satisfying `P` are added. -/
def Extends (P : Call → Prop) (c c' : Coordinator) : Prop :=
  c'.view = c.view ∧ ∃ new, c'.calls = new ++ c.calls ∧ ∀ x ∈ new, P x

lemma Extends.of_eq (hv : c'.view = c.view) (hc : c'.calls = c.calls) : Extends P c c' :=
  ⟨hv, [], by simp [hc], by simp⟩

lemma Extends.refl : Extends P c c := .of_eq rfl rfl

lemma Extends.trans (h : Extends P c c') (h' : Extends P c' c'') : Extends P c c'' := by
  obtain ⟨hv, new, hc, hP⟩ := h
  obtain ⟨hv', new', hc', hP'⟩ := h'
  refine ⟨hv'.trans hv, new' ++ new, by simp [hc, hc'], fun x hx => ?_⟩
  rcases List.mem_append.mp hx with hx | hx
  · exact hP' x hx
  · exact hP x hx

lemma Extends.mono (hPQ : ∀ x, P x → Q x) (h : Extends P c c') : Extends Q c c' := by
  obtain ⟨hv, new, hc, hP⟩ := h
  exact ⟨hv, new, hc, fun x hx => hPQ x (hP x hx)⟩

lemma extends_call {x : Call} (hx : P x) : Extends P c (c.call x) :=
  ⟨rfl, [x], rfl, by simpa using hx⟩

lemma extends_callWhen {x : Call} {p : Bool} (hx : P x) : Extends P c (c.callWhen p x) := by
  unfold callWhen
  split
  · exact extends_call hx
  · exact .refl

/-! ### Functions that leave the view and the calls alone -/

@[simp] lemma dispatchAsync_view (w : Work) : (c.dispatchAsync w).view = c.view := rfl

@[simp] lemma dispatchAsync_calls (w : Work) : (c.dispatchAsync w).calls = c.calls := rfl

@[simp] lemma completeCurrentRun_view : c.completeCurrentRun.view = c.view := rfl

@[simp] lemma completeCurrentRun_calls : c.completeCurrentRun.calls = c.calls := rfl

@[simp] lemma yieldAndReschedule_view (ms : ℕ) : (c.yieldAndReschedule ms).view = c.view := by
  unfold yieldAndReschedule
  split <;> rfl

@[simp] lemma yieldAndReschedule_calls (ms : ℕ) : (c.yieldAndReschedule ms).calls = c.calls := by
  unfold yieldAndReschedule
  split <;> rfl

@[simp] lemma transitionTo_view (s : State) :
    (c.transitionTo s).view = { c.view with state := s } := by
  unfold transitionTo
  split
  · next h => rw [← h]; rfl
  · rfl

@[simp] lemma transitionTo_calls (s : State) : (c.transitionTo s).calls = c.calls := by
  unfold transitionTo
  split <;> rfl

@[simp] lemma recordRecoveryReason_view (r : String) : (c.recordRecoveryReason r).view = c.view :=
  rfl

@[simp] lemma recordRecoveryReason_calls (r : String) :
    (c.recordRecoveryReason r).calls = c.calls := rfl

@[simp] lemma recordRecoveryReasonCode_view (code : RecoveryReasonCode) :
    (c.recordRecoveryReasonCode code).view = c.view := rfl

@[simp] lemma recordRecoveryReasonCode_calls (code : RecoveryReasonCode) :
    (c.recordRecoveryReasonCode code).calls = c.calls := rfl

@[simp] lemma queueReset_view (r : ResetRequest) : (c.queueReset r).view = c.view := by
  simp only [queueReset]
  split <;> rfl

@[simp] lemma queueReset_calls (r : ResetRequest) : (c.queueReset r).calls = c.calls := by
  simp only [queueReset]
  split <;> rfl

lemma requestSoftwareReset_same (r : ResetRequest) :
    (c.requestSoftwareReset r).view = c.view ∧ (c.requestSoftwareReset r).calls = c.calls := by
  unfold requestSoftwareReset
  split
  · exact ⟨rfl, rfl⟩
  · split
    · split
      · simp only []
        split
        · exact ⟨rfl, rfl⟩
        · exact ⟨queueReset_view r, queueReset_calls r⟩
      · exact ⟨queueReset_view r, queueReset_calls r⟩
    · exact ⟨queueReset_view r, queueReset_calls r⟩

@[simp] lemma requestSoftwareReset_view (r : ResetRequest) :
    (c.requestSoftwareReset r).view = c.view := (requestSoftwareReset_same r).1

@[simp] lemma requestSoftwareReset_calls (r : ResetRequest) :
    (c.requestSoftwareReset r).calls = c.calls := (requestSoftwareReset_same r).2

lemma maybeRequestTopologyDrivenReset_extends :
    Extends P c (c.maybeRequestTopologyDrivenReset a) := by
  unfold maybeRequestTopologyDrivenReset
  split
  · exact .refl
  · split
    · exact .refl
    · split
      · exact .refl
      · split
        · exact .refl
        · exact .of_eq (requestSoftwareReset_view _) (requestSoftwareReset_calls _)

/-! ### Functions that add minor calls -/

lemma clearSoftwareResetTracking_extends (r : ResetRequest) (d : Bool) :
    Extends Call.Minor c (c.clearSoftwareResetTracking r d) := by
  have hcall : Extends Call.Minor c (c.callWhen (r.gapDecisionReason.isSome && c.deps.busManager)
      .clearInFlightGapReset) := extends_callWhen trivial
  unfold clearSoftwareResetTracking
  cases d with
  | false => exact hcall
  | true => exact hcall.trans (.of_eq rfl rfl)

lemma failedPhyConfig_extends (r : ResetRequest) (d : Bool) (reason : String) {x : Call}
    (hx : x.Minor) :
    Extends Call.Minor c (((c.call x).recordRecoveryReason reason).clearSoftwareResetTracking r d) :=
  ((extends_call hx).trans (.of_eq rfl rfl)).trans (clearSoftwareResetTracking_extends r d)

lemma applySoftwareResetPhyConfig_extends (r : ResetRequest) (d : Bool) :
    Extends Call.Minor c (c.applySoftwareResetPhyConfig a r d).1 := by
  unfold applySoftwareResetPhyConfig
  cases r.phyConfig with
  | none =>
    simp only []
    cases c.currentGapCountForBareReset with
    | none => exact .refl
    | some gap =>
      cases a.phyConfigSent with
      | true => exact extends_call trivial
      | false => exact failedPhyConfig_extends r d _ trivial
  | some command =>
    simp only []
    cases command.setContender with
    | none =>
      cases a.phyConfigSent with
      | true => exact extends_call trivial
      | false => exact failedPhyConfig_extends r d _ trivial
    | some contender =>
      have hcontender : Extends Call.Minor c (c.call (.setContender contender)) :=
        extends_call trivial
      cases a.phyConfigSent with
      | true => exact hcontender.trans (extends_call trivial)
      | false => exact hcontender.trans (failedPhyConfig_extends r d _ trivial)

lemma noteIssuedGapReset_extends (r : ResetRequest) :
    Extends Call.Minor c (c.noteIssuedGapReset r) := by
  unfold noteIssuedGapReset
  split
  · exact extends_callWhen trivial
  · exact .refl

lemma buildTopology_extends : Extends Call.Minor c (c.buildTopology a) := by
  unfold buildTopology
  split
  · exact Extends.trans (.of_eq rfl rfl) (extends_callWhen trivial)
  · exact Extends.trans (.of_eq rfl rfl) (extends_callWhen trivial)
  · exact .refl

lemma forceUnmaskBusResetIfNeeded_extends : Extends Call.Minor c c.forceUnmaskBusResetIfNeeded := by
  unfold forceUnmaskBusResetIfNeeded
  split
  · exact Extends.trans (.of_eq rfl rfl) (extends_call trivial)
  · exact .refl

/-! ### Issuing a reset -/

lemma finishSoftwareReset_extends (r : ResetRequest) (h : c.view.Unblocked) :
    Extends c.view.Issues c (c.finishSoftwareReset a r) := by
  have hminor : ∀ x, Call.Minor x → c.view.Issues x := fun x hx => .inl hx
  have hinit : Extends c.view.Issues c (c.call (.initiateBusReset (r.flavor = .short) c.now)) :=
    extends_call (.inr ⟨h, _, rfl⟩)
  unfold finishSoftwareReset
  cases a.resetInitiated with
  | false =>
    exact (hinit.trans (.of_eq rfl rfl)).trans
      ((clearSoftwareResetTracking_extends _ _).mono hminor)
  | true =>
    have hnote := hinit.trans ((noteIssuedGapReset_extends r).mono hminor)
    simp only [Bool.not_true, Bool.false_eq_true, if_false]
    split
    · exact hnote.trans (.of_eq rfl rfl)
    · exact hnote.trans (.of_eq rfl rfl)

lemma dispatchSoftwareReset_extends (r : ResetRequest) (h : c.view.Unblocked) :
    Extends c.view.Issues c (c.dispatchSoftwareReset a r) := by
  have happly := applySoftwareResetPhyConfig_extends (c := { c with lastResetKind := r.kind })
    (a := a) r (carriesDelegation r)
  have hview : (({ c with lastResetKind := r.kind } : Coordinator).applySoftwareResetPhyConfig a r
      (carriesDelegation r)).1.view = c.view := happly.1
  have hissue : Extends c.view.Issues c (({ c with lastResetKind := r.kind } :
      Coordinator).applySoftwareResetPhyConfig a r (carriesDelegation r)).1 :=
    Extends.trans (.of_eq rfl rfl) (happly.mono fun x hx => .inl hx)
  unfold dispatchSoftwareReset
  simp only []
  split
  · next d _ heq =>
    rw [heq] at hissue
    exact hissue
  · next d _ heq =>
    rw [heq] at hissue hview
    have hfinish := finishSoftwareReset_extends (a := a) r (hview.symm ▸ h)
    rw [hview] at hfinish
    exact hissue.trans hfinish

lemma maybeDispatchPendingSoftwareReset_extends :
    Extends c.view.Issues c (c.maybeDispatchPendingSoftwareReset a) := by
  unfold maybeDispatchPendingSoftwareReset
  split
  · exact .refl
  · next r _ =>
    simp only []
    split
    · exact .of_eq (yieldAndReschedule_view _) (yieldAndReschedule_calls _)
    · next h =>
      exact Extends.trans (.of_eq rfl rfl)
        (dispatchSoftwareReset_extends (c := { c with cycle := { c.cycle with
          pendingReset := none } }) r h)

end Coordinator

/-! ### The effects of a pass -/

/-- Every call is minor, or rearms the transmit contexts. -/
def Call.Rearms (x : Call) : Prop :=
  x.Minor ∨ x = .rearmATContexts ∨ ∃ generation, x = .onBusResetComplete generation

/-- The calls of `StopFlushAT`, unless the cycle has already made them. -/
def View.stopFlushCalls (v : View) (new : List Call) (nextGeneration : ℕ) : List Call :=
  if v.stopFlushIssued then []
  else .flushATContexts :: .stopATContextsOnly :: .onBusResetBegin nextGeneration :: new

/-- How a pass changes the view `v`, with the calls it adds, newest first. `late` says when a
completion may be accepted outside a reset cycle. -/
inductive Effect (late : Prop) (v : View) : View → List Call → Prop
  | edge {new : List Call} (h : ∀ x ∈ new, x.Minor) :
      Effect late v { v with state := .detecting, stopFlushIssued := false, latch := {} } new
  | lateAccepted (hstate : v.state = .idle) (hlate : late) {new : List Call}
      (h : ∀ x ∈ new, x.Minor) (generation : ℕ) :
      Effect late v { v with state := .quiescingAT, latch := {} }
        (new ++ [.selfIDAccepted generation v.latch.completionTime])
  | idle (hstate : v.state = .idle) {latch : SelfIDLatchState} (hlatch : latch = v.latch ∨ latch = {})
      {new : List Call} (h : ∀ x ∈ new, v.Issues x) :
      Effect late v { v with latch := latch } new
  | armed (hstate : v.state = .detecting) {new : List Call} (h : ∀ x ∈ new, x.Minor) :
      Effect late v { v with state := .waitingSelfID } new
  | accepted (hstate : v.state = .waitingSelfID)
      (hlatch : v.latch.complete = true ∨ v.latch.stickyComplete = true) {new : List Call}
      (h : ∀ x ∈ new, x.Minor) (generation : ℕ) :
      Effect late v { v with
        state := .quiescingAT
        latch := {}
        blockedUntilNs := v.latch.completionTime + kRepeatedResetHoldoffNs }
        (new ++ [.selfIDAccepted generation v.latch.completionTime])
  | undecoded (hstate : v.state = .waitingSelfID)
      (hlatch : v.latch.complete = true ∨ v.latch.stickyComplete = true) {new : List Call}
      (h : ∀ x ∈ new, x.Minor) :
      Effect late v { v with
        state := .quiescingAT
        latch := {}
        blockedUntilNs := v.latch.completionTime + kRepeatedResetHoldoffNs } new
  | timedOut (hstate : v.state = .waitingSelfID) {new : List Call} (h : ∀ x ∈ new, x.Minor) :
      Effect late v { v with state := .quiescingAT, latch := {} } new
  | quiesced (hstate : v.state = .quiescingAT) {new : List Call} (h : ∀ x ∈ new, x.Minor)
      (nextGeneration : ℕ) :
      Effect late v { v with state := .restoringConfigROM, stopFlushIssued := true }
        (.readATContexts true :: v.stopFlushCalls new nextGeneration)
  | active (hstate : v.state = .quiescingAT) {new : List Call} (h : ∀ x ∈ new, x.Minor)
      (nextGeneration : ℕ) :
      Effect late v { v with stopFlushIssued := true }
        (.readATContexts false :: v.stopFlushCalls new nextGeneration)
  | restored (hstate : v.state = .restoringConfigROM) {new : List Call}
      (h : ∀ x ∈ new, x.Minor) :
      Effect late v { v with state := .clearingBusReset } new
  | cleared (hstate : v.state = .clearingBusReset) {clear : List Call}
      (h : clear = [] ∨ clear = [.clearBusReset]) :
      Effect late v { v with state := .rearming }
        (.unmaskBusReset :: (clear ++ [.readATContexts true]))
  | unclear (hstate : v.state = .clearingBusReset) : Effect late v v [.readATContexts false]
  | rearmed (hstate : v.state = .rearming) {new : List Call} (h : ∀ x ∈ new, x.Rearms) :
      Effect late v { v with state := .complete } new
  | completed (hstate : v.state = .complete) {new : List Call}
      (h : ∀ x ∈ new, View.Issues { v with state := .idle } x) :
      Effect late v { v with state := .idle } new
  | waits : Effect late v v []

/-- A pass that accepts a completion outside a reset cycle: no edge is pending, the coordinator
is idle, and the capture of a latched completion decodes. -/
def AcceptsLate (c : Coordinator) (a : Answers) : Prop :=
  c.pendingBusResetEdge = false ∧ c.state = .idle ∧ c.canAttemptSelfIDDecode a = true ∧
    ∃ decoded, a.decode = some (.ok decoded)

instance (a : Answers) : Decidable (∃ decoded, a.decode = some (.ok decoded)) :=
  match a.decode with
  | some (.ok decoded) => isTrue ⟨decoded, rfl⟩
  | some (.error _) => isFalse (by simp)
  | none => isFalse (by simp)

instance (c : Coordinator) (a : Answers) : Decidable (AcceptsLate c a) :=
  inferInstanceAs (Decidable (_ ∧ _ ∧ _ ∧ _))

namespace Coordinator

variable {c c' c'' : Coordinator} {a : Answers} {late : Prop}

/-- `c'` is reached from `c` by an effect. -/
def Takes (late : Prop) (c c' : Coordinator) : Prop :=
  ∃ new, c'.calls = new ++ c.calls ∧ Effect late c.view c'.view new

lemma Takes.of_view {v : View} {l : List Call} (hv : c'.view = v)
    (hc : c'.calls = l ++ c.calls) (h : Effect late c.view v l) : Takes late c c' :=
  ⟨l, hc, hv ▸ h⟩

lemma takes_waits (hv : c'.view = c.view) (hc : c'.calls = c.calls) : Takes late c c' :=
  .of_view hv (by simp [hc]) .waits

lemma clearConsumedSelfIDInterrupts_spec : ∃ new,
    (c.clearConsumedSelfIDInterrupts a).calls = new ++ c.calls ∧ (∀ x ∈ new, x.Minor) ∧
    (c.clearConsumedSelfIDInterrupts a).view = { c.view with latch := {} } := by
  obtain ⟨hv, new, hc, hnew⟩ := extends_callWhen (P := Call.Minor) (c := c)
    (p := c.hasSelfIDCompletion && a.writeAccess)
    (x := .clearSelfIDInterrupts c.selfIdLatch.complete c.selfIdLatch.stickyComplete) trivial
  refine ⟨new, hc, hnew, ?_⟩
  calc (c.clearConsumedSelfIDInterrupts a).view
    _ = { (c.callWhen (c.hasSelfIDCompletion && a.writeAccess)
        (.clearSelfIDInterrupts c.selfIdLatch.complete c.selfIdLatch.stickyComplete)).view with
          latch := {} } := rfl
    _ = { c.view with latch := {} } := by rw [hv]

lemma clearStaleSelfIDComplete2_spec : ∃ new,
    (c.clearStaleSelfIDComplete2 a).calls = new ++ c.calls ∧ (∀ x ∈ new, x.Minor) ∧
    (c.clearStaleSelfIDComplete2 a).view = { c.view with
      latch := { c.view.latch with stickyComplete := false, stickyCompleteTimeNs := 0 } } := by
  obtain ⟨hv, new, hc, hnew⟩ := extends_callWhen (P := Call.Minor) (c := c) (p := a.writeAccess)
    (x := .clearSelfIDInterrupts false true) trivial
  refine ⟨new, hc, hnew, ?_⟩
  calc (c.clearStaleSelfIDComplete2 a).view
    _ = { (c.callWhen a.writeAccess (.clearSelfIDInterrupts false true)).view with
          latch := { (c.callWhen a.writeAccess (.clearSelfIDInterrupts false true)).view.latch with
            stickyComplete := false, stickyCompleteTimeNs := 0 } } := rfl
    _ = _ := by rw [hv]

lemma abortScan_extends :
    Extends Call.Minor c (if c.deps.romScanner && 0 < c.lastGeneration then
      { c with metrics := { c.metrics with abortCount := c.metrics.abortCount + 1 } }.call
        (.abortScan c.lastGeneration) else c) := by
  split
  · exact Extends.trans (.of_eq rfl rfl) (extends_call trivial)
  · exact .refl

lemma beginNewResetCycle_spec : ∃ new,
    (c.beginNewResetCycle a).calls = new ++ c.calls ∧ (∀ x ∈ new, x.Minor) ∧
    (c.beginNewResetCycle a).view =
      { c.view with state := .detecting, stopFlushIssued := false, latch := {} } := by
  unfold beginNewResetCycle
  simp only []
  set fresh : Coordinator := { c with
    pendingBusResetEdge := false
    selfIdLatch := {}
    stopFlushIssued := false
    filtersEnabled := false
    atArmed := false
    cycle := c.cycle.resetForNewEdge
    postResetTiming := .onBusResetStarted c.lastGeneration c.now
    resetEpoch := c.resetEpoch + 1
    readyForDiscoveryFailureBits := 0 } with hfresh
  have habort := abortScan_extends (c := fresh)
  set aborted := (if fresh.deps.romScanner && 0 < fresh.lastGeneration then
      { fresh with metrics := { fresh.metrics with abortCount := fresh.metrics.abortCount + 1 } }.call
        (.abortScan fresh.lastGeneration) else fresh) with haborted
  have htold : Extends Call.Minor fresh ((aborted.call .invalidateTopology).callWhen
      (aborted.call .invalidateTopology).deps.topologyMapService .invalidateTopologyMap) :=
    (habort.trans (extends_call (x := .invalidateTopology) trivial)).trans
      (extends_callWhen trivial)
  set told := (aborted.call .invalidateTopology).callWhen
      (aborted.call .invalidateTopology).deps.topologyMapService .invalidateTopologyMap
  obtain ⟨hv, new, hc, hnew⟩ := htold
  obtain ⟨new', hc', hnew', hv'⟩ := clearStaleSelfIDComplete2_spec
    (c := (told.transitionTo .detecting).maskBusReset) (a := a)
  have hmask : ((told.transitionTo .detecting).maskBusReset).view =
      { told.view with state := .detecting } := transitionTo_view _
  have hmaskCalls : ((told.transitionTo .detecting).maskBusReset).calls =
      .maskBusReset :: (new ++ c.calls) := by
    rw [show ((told.transitionTo .detecting).maskBusReset).calls =
      .maskBusReset :: (told.transitionTo .detecting).calls from rfl, transitionTo_calls, hc]
  refine ⟨new' ++ .maskBusReset :: new, by rw [hc', hmaskCalls]; simp, fun x hx => ?_, ?_⟩
  · simp only [List.mem_append, List.mem_cons] at hx
    rcases hx with hx | rfl | hx
    · exact hnew' x hx
    · trivial
    · exact hnew x hx
  · rw [hv', hmask, hv]
    rfl

lemma decodeSelfID_fails (h : ∀ decoded, a.decode ≠ some (.ok decoded)) :
    ∃ d, c.decodeSelfID a = (d, false) ∧ d.view = c.view ∧ d.calls = c.calls := by
  unfold decodeSelfID
  cases hd : a.decode with
  | none => exact ⟨c, rfl, rfl, rfl⟩
  | some result =>
    cases result with
    | error code => exact ⟨_, rfl, rfl, rfl⟩
    | ok decoded => exact absurd hd (h decoded)

/-- An idle pass that does not accept a late completion at most drops the latch. -/
lemma handleStraySelfID_drops (h : ¬(c.canAttemptSelfIDDecode a = true ∧
    ∃ decoded, a.decode = some (.ok decoded))) : ∃ new,
    (c.handleStraySelfID a).calls = new ++ c.calls ∧ (∀ x ∈ new, x.Minor) ∧
    ((c.handleStraySelfID a).view = c.view ∨
      (c.handleStraySelfID a).view = { c.view with latch := {} }) := by
  unfold handleStraySelfID
  split
  · exact ⟨[], rfl, by simp, .inl rfl⟩
  · split
    · obtain ⟨new, hc, hnew, hv⟩ := clearConsumedSelfIDInterrupts_spec (c := c) (a := a)
      exact ⟨new, hc, hnew, .inr hv⟩
    · next hcan =>
      have hfail : ∀ decoded, a.decode ≠ some (.ok decoded) := by
        intro decoded hd
        exact h ⟨by simpa using hcan, decoded, hd⟩
      obtain ⟨d, hdecode, hdv, hdc⟩ := decodeSelfID_fails (c := c) hfail
      rw [hdecode]
      obtain ⟨new, hc, hnew, hv⟩ := clearConsumedSelfIDInterrupts_spec (c := d) (a := a)
      exact ⟨new, by rw [← hdc]; exact hc, hnew, .inr (by rw [← hdv]; exact hv)⟩

lemma handleStraySelfID_accepts (hcan : c.canAttemptSelfIDDecode a = true) {decoded : SelfIDResult}
    (hd : a.decode = some (.ok decoded)) : ∃ new,
    (c.handleStraySelfID a).calls = new ++ .selfIDAccepted decoded.generation
      c.selfIdLatch.completionTime :: c.calls ∧ (∀ x ∈ new, x.Minor) ∧
    (c.handleStraySelfID a).view = { c.view with state := .quiescingAT, latch := {} } := by
  have hhas : c.hasSelfIDCompletion = true := by
    simp only [canAttemptSelfIDDecode, Bool.and_eq_true] at hcan
    exact hcan.2
  have hdecode : c.decodeSelfID a = (c.acceptSelfID decoded, true) := by
    simp only [decodeSelfID, hd]
  obtain ⟨new, hc, hnew, hv⟩ :=
    clearConsumedSelfIDInterrupts_spec (c := c.acceptSelfID decoded) (a := a)
  refine ⟨new ++ [.confirmBusGeneration (decoded.generation % 256)], ?_, ?_, ?_⟩
  · simp only [handleStraySelfID, hhas, hcan, hdecode, Bool.not_true, Bool.false_eq_true, if_false,
      if_true, transitionTo_calls, hc]
    rw [show (c.acceptSelfID decoded).calls =
      .confirmBusGeneration (decoded.generation % 256) ::
        .selfIDAccepted decoded.generation c.selfIdLatch.completionTime :: c.calls from rfl]
    simp
  · intro x hx
    rcases List.mem_append.mp hx with hx | hx
    · exact hnew x hx
    · rw [List.mem_singleton.mp hx]
      trivial
  · simp only [handleStraySelfID, hhas, hcan, hdecode, Bool.not_true, Bool.false_eq_true, if_false,
      if_true, transitionTo_view, hv]
    rfl

lemma stepIdle_takes (hstate : c.state = .idle) :
    Takes (c.canAttemptSelfIDDecode a = true ∧ ∃ decoded, a.decode = some (.ok decoded)) c
      (c.stepIdle a).1 := by
  by_cases hlate : c.canAttemptSelfIDDecode a = true ∧ ∃ decoded, a.decode = some (.ok decoded)
  · obtain ⟨hcan, decoded, hd⟩ := hlate
    have hhas : c.hasSelfIDCompletion = true := by
      simp only [canAttemptSelfIDDecode, Bool.and_eq_true] at hcan
      exact hcan.2
    obtain ⟨new, hc, hnew, hv⟩ := handleStraySelfID_accepts hcan hd
    have hquiescing : (c.handleStraySelfID a).state = .quiescingAT := congrArg View.state hv
    refine Takes.of_view (v := { c.view with state := .quiescingAT, latch := {} })
      (l := new ++ [.selfIDAccepted decoded.generation c.view.latch.completionTime]) ?_ ?_
      (.lateAccepted hstate ⟨hcan, decoded, hd⟩ hnew decoded.generation)
    · simp only [stepIdle, hhas, if_true, hquiescing]
      exact hv
    · simp only [stepIdle, hhas, if_true, hquiescing]
      rw [List.append_assoc]
      exact hc
  · have hstray : ∃ new, (if c.hasSelfIDCompletion then c.handleStraySelfID a else c).calls =
        new ++ c.calls ∧ (∀ x ∈ new, x.Minor) ∧
        ((if c.hasSelfIDCompletion then c.handleStraySelfID a else c).view = c.view ∨
          (if c.hasSelfIDCompletion then c.handleStraySelfID a else c).view =
            { c.view with latch := {} }) := by
      split
      · exact handleStraySelfID_drops hlate
      · exact ⟨[], rfl, by simp, .inl rfl⟩
    unfold stepIdle
    simp only []
    generalize (if c.hasSelfIDCompletion then c.handleStraySelfID a else c) = d at hstray
    obtain ⟨new, hc, hnew, hv⟩ := hstray
    have hidle : d.state = .idle := by
      rcases hv with hv | hv
      · exact (congrArg View.state hv).trans hstate
      · exact (congrArg View.state hv).trans hstate
    have hissues : d.view.Issues = c.view.Issues := by
      rcases hv with hv | hv
      · rw [hv]
      · rw [hv]
        rfl
    rw [if_neg (by simp [hidle])]
    have hunmask := (forceUnmaskBusResetIfNeeded_extends (c := d)).mono
      (Q := c.view.Issues) fun x hx => .inl hx
    have hdispatch := maybeDispatchPendingSoftwareReset_extends
      (c := d.forceUnmaskBusResetIfNeeded) (a := a)
    rw [hunmask.1, hissues] at hdispatch
    obtain ⟨hv', new', hc', hnew'⟩ := hunmask.trans hdispatch
    refine Takes.of_view (v := { c.view with latch := d.view.latch }) (l := new' ++ new) ?_ ?_
      (.idle hstate ?_ fun x hx => ?_)
    · rw [hv']
      rcases hv with hv | hv <;> rw [hv]
    · rw [hc', hc]
      simp
    · rcases hv with hv | hv <;> rw [hv]
      · exact .inl rfl
      · exact .inr rfl
    · rcases List.mem_append.mp hx with hx | hx
      · exact hnew' x hx
      · exact .inl (hnew x hx)

lemma stepDetecting_takes (hstate : c.state = .detecting) : Takes late c c.stepDetecting.1 := by
  refine Takes.of_view (v := { c.view with state := .waitingSelfID }) (l := [.armSelfIDBuffer])
    (transitionTo_view _) (transitionTo_calls _) (.armed hstate fun x hx => ?_)
  rw [List.mem_singleton.mp hx]
  trivial

/-- The holdoff is armed whether or not the capture decodes. -/
lemma consumeSelfID_takes (hstate : c.state = .waitingSelfID) (hhas : c.hasSelfIDCompletion = true) :
    Takes late c (c.consumeSelfID a) := by
  have hlatch : c.view.latch.complete = true ∨ c.view.latch.stickyComplete = true := by
    simp only [hasSelfIDCompletion, Bool.or_eq_true] at hhas
    exact hhas
  set armed := c.armSoftwareResetHoldoffAfterSelfIDCompletion c.selfIdLatch.completionTime
  by_cases hd : ∃ decoded, a.decode = some (.ok decoded)
  · obtain ⟨decoded, hd⟩ := hd
    have hdecode : armed.decodeSelfID a = (armed.acceptSelfID decoded, true) := by
      simp only [decodeSelfID, hd]
    obtain ⟨new, hc, hnew, hv⟩ :=
      clearConsumedSelfIDInterrupts_spec (c := armed.acceptSelfID decoded) (a := a)
    refine Takes.of_view (v := { c.view with
      state := .quiescingAT
      latch := {}
      blockedUntilNs := c.view.latch.completionTime + kRepeatedResetHoldoffNs })
      (l := (new ++ [.confirmBusGeneration (decoded.generation % 256)]) ++
        [.selfIDAccepted decoded.generation c.view.latch.completionTime]) ?_ ?_
      (.accepted hstate hlatch (fun x hx => ?_) decoded.generation)
    · unfold consumeSelfID
      simp only [armed, hdecode, if_true, transitionTo_view]
      exact congrArg (fun v : View => { v with state := .quiescingAT }) hv
    · unfold consumeSelfID
      simp only [armed, hdecode, if_true, transitionTo_calls]
      refine hc.trans ?_
      simp only [List.append_assoc]
      rfl
    · rcases List.mem_append.mp hx with hx | hx
      · exact hnew x hx
      · rw [List.mem_singleton.mp hx]
        trivial
  · obtain ⟨d, hdecode, hdv, hdc⟩ := decodeSelfID_fails (c := armed) (a := a)
      fun decoded h => hd ⟨decoded, h⟩
    obtain ⟨new, hc, hnew, hv⟩ := clearConsumedSelfIDInterrupts_spec (c := d) (a := a)
    refine Takes.of_view (v := { c.view with
      state := .quiescingAT
      latch := {}
      blockedUntilNs := c.view.latch.completionTime + kRepeatedResetHoldoffNs })
      (l := new) ?_ ?_ (.undecoded hstate hlatch hnew)
    · unfold consumeSelfID
      simp only [armed, hdecode, Bool.false_eq_true, if_false, transitionTo_view,
        requestSoftwareReset_view, recordRecoveryReasonCode_view, hv, hdv]
      rfl
    · unfold consumeSelfID
      simp only [armed, hdecode, Bool.false_eq_true, if_false, transitionTo_calls,
        requestSoftwareReset_calls, recordRecoveryReasonCode_calls, hc, hdc]
      rfl

lemma abandonSelfID_takes (hstate : c.state = .waitingSelfID) : Takes late c (c.abandonSelfID a) := by
  obtain ⟨new, hc, hnew, hv⟩ := clearConsumedSelfIDInterrupts_spec
    (c := (c.recordRecoveryReason "Self-ID timeout").recordRecoveryReasonCode .selfIDTimeout)
    (a := a)
  refine Takes.of_view (v := { c.view with state := .quiescingAT, latch := {} }) (l := new) ?_ ?_
    (.timedOut hstate hnew)
  · simp only [abandonSelfID, transitionTo_view, requestSoftwareReset_view, hv,
      recordRecoveryReason_view, recordRecoveryReasonCode_view]
  · simp only [abandonSelfID, transitionTo_calls, requestSoftwareReset_calls, hc,
      recordRecoveryReason_calls, recordRecoveryReasonCode_calls]

lemma stepWaitingSelfID_takes (hstate : c.state = .waitingSelfID) :
    Takes late c (c.stepWaitingSelfID a).1 := by
  unfold stepWaitingSelfID
  split
  · next hcan =>
    simp only [canAttemptSelfIDDecode, Bool.and_eq_true] at hcan
    exact consumeSelfID_takes hstate hcan.2
  · split
    · exact abandonSelfID_takes hstate
    · exact takes_waits (yieldAndReschedule_view _) (yieldAndReschedule_calls _)

lemma stopFlushAT_spec : ∃ new g, (∀ x ∈ new, x.Minor) ∧ c.stopFlushAT.view = c.view ∧
    c.stopFlushAT.calls = .flushATContexts :: .stopATContextsOnly :: .onBusResetBegin g ::
      (new ++ c.calls) := by
  obtain ⟨hv, new, hc, hnew⟩ := extends_callWhen (P := Call.Minor) (c := c)
    (p := c.deps.topologyMapService) (x := .invalidateTopologyMap) trivial
  unfold stopFlushAT
  simp only []
  generalize c.callWhen c.deps.topologyMapService .invalidateTopologyMap = told at hv hc
  generalize (told.lastGeneration + 1) % 256 = g
  refine ⟨new, g, hnew, hv, ?_⟩
  rw [← hc]
  rfl

/-- The transmit contexts are stopped and flushed once a cycle. -/
lemma stopFlushOnce_spec : ∃ new g, (∀ x ∈ new, x.Minor) ∧
    c.stopFlushOnce.calls = c.view.stopFlushCalls new g ++ c.calls ∧
    c.stopFlushOnce.view = { c.view with stopFlushIssued := true } := by
  by_cases hflag : c.stopFlushIssued = true
  · have honce : c.stopFlushOnce = c := if_pos hflag
    have hcalls : c.view.stopFlushCalls [] 0 = [] := if_pos hflag
    refine ⟨[], 0, by simp, by rw [honce, hcalls, List.nil_append], ?_⟩
    rw [honce, ← hflag]
    rfl
  · obtain ⟨new, g, hnew, hv, hc⟩ := stopFlushAT_spec (c := { c with stopFlushIssued := true })
    have honce : c.stopFlushOnce = ({ c with stopFlushIssued := true } : Coordinator).stopFlushAT :=
      if_neg hflag
    have hcalls : c.view.stopFlushCalls new g =
        .flushATContexts :: .stopATContextsOnly :: .onBusResetBegin g :: new := if_neg hflag
    refine ⟨new, g, hnew, by rw [honce, hc, hcalls]; rfl, ?_⟩
    rw [honce, hv]
    rfl

lemma stepQuiescingAT_takes (hstate : c.state = .quiescingAT) :
    Takes late c (c.stepQuiescingAT a).1 := by
  obtain ⟨new, g, hnew, hc, hv⟩ := stopFlushOnce_spec (c := c)
  unfold stepQuiescingAT
  simp only []
  generalize c.stopFlushOnce = d at hc hv
  cases a.atInactive with
  | true =>
    refine Takes.of_view (v := { c.view with state := .restoringConfigROM, stopFlushIssued := true })
      (l := .readATContexts true :: c.view.stopFlushCalls new g) ?_ ?_ (.quiesced hstate hnew g)
    · simp only [if_true, transitionTo_view]
      exact congrArg (fun v : View => { v with state := .restoringConfigROM }) hv
    · simp only [if_true, transitionTo_calls]
      exact congrArg (Call.readATContexts true :: ·) hc
  | false =>
    refine Takes.of_view (v := { c.view with stopFlushIssued := true })
      (l := .readATContexts false :: c.view.stopFlushCalls new g) ?_ ?_ (.active hstate hnew g)
    · simp only [Bool.false_eq_true, if_false, yieldAndReschedule_view]
      exact hv
    · simp only [Bool.false_eq_true, if_false, yieldAndReschedule_calls]
      exact congrArg (Call.readATContexts false :: ·) hc

lemma stepRestoringConfigROM_takes (hstate : c.state = .restoringConfigROM) :
    Takes late c (c.stepRestoringConfigROM a).1 := by
  have hbuilt : Extends Call.Minor c ((c.call .restoreConfigROM).buildTopology a) :=
    (extends_call (x := .restoreConfigROM) trivial).trans buildTopology_extends
  unfold stepRestoringConfigROM
  simp only []
  set built := (c.call .restoreConfigROM).buildTopology a
  have hrequest : Extends Call.Minor c (if built.cycle.acceptedTopology.isSome then
      built.maybeRequestTopologyDrivenReset a else built) := by
    split
    · exact hbuilt.trans maybeRequestTopologyDrivenReset_extends
    · exact hbuilt
  obtain ⟨hv, new, hc, hnew⟩ := hrequest
  refine Takes.of_view (v := { c.view with state := .clearingBusReset }) (l := new) ?_ ?_
    (.restored hstate hnew)
  · rw [transitionTo_view, hv]
  · rw [transitionTo_calls, hc]

lemma callWhen_clearBusReset_spec (p : Bool) : ∃ clear, (clear = [] ∨ clear = [.clearBusReset]) ∧
    (c.callWhen p .clearBusReset).calls = clear ++ c.calls ∧
    (c.callWhen p .clearBusReset).view = c.view := by
  cases p with
  | true => exact ⟨_, .inr rfl, rfl, rfl⟩
  | false => exact ⟨_, .inl rfl, rfl, rfl⟩

lemma stepClearingBusReset_takes (hstate : c.state = .clearingBusReset) :
    Takes late c (c.stepClearingBusReset a).1 := by
  unfold stepClearingBusReset
  simp only []
  cases a.atInactive with
  | true =>
    obtain ⟨clear, hclear, hc, hv⟩ := callWhen_clearBusReset_spec
      (c := { c.call (.readATContexts true) with busResetClearTime := c.now }) a.writeAccess
    refine Takes.of_view (v := { c.view with state := .rearming })
      (l := .unmaskBusReset :: (clear ++ [.readATContexts true])) ?_ ?_ (.cleared hstate hclear)
    · refine (transitionTo_view _).trans ?_
      exact congrArg (fun v : View => { v with state := .rearming }) hv
    · refine (transitionTo_calls _).trans ?_
      rw [List.cons_append, List.append_assoc]
      exact congrArg (Call.unmaskBusReset :: ·) hc
  | false =>
    exact Takes.of_view (l := [.readATContexts false]) (yieldAndReschedule_view _)
      (yieldAndReschedule_calls _) (.unclear hstate)

lemma stepRearming_takes (hstate : c.state = .rearming) : Takes late c (c.stepRearming a).1 := by
  unfold stepRearming
  split
  · exact takes_waits (yieldAndReschedule_view _) (yieldAndReschedule_calls _)
  · simp only []
    set ready : Coordinator := { c with wasRoot := a.isRoot, filtersEnabled := true, atArmed := true }
    have hrearm : Extends Call.Rearms ready ((ready.callWhen a.writeAccess .enableFilters).call
        .rearmATContexts) :=
      (extends_callWhen (.inl trivial)).trans (extends_call (.inr (.inl rfl)))
    set rearmed := (ready.callWhen a.writeAccess .enableFilters).call .rearmATContexts
    obtain ⟨hv, new, hc, hnew⟩ := hrearm.trans (extends_callWhen (c := rearmed)
      (p := rearmed.lastGeneration ≤ 0xFF) (x := .onBusResetComplete rearmed.lastGeneration)
      (.inr (.inr ⟨_, rfl⟩)))
    refine Takes.of_view (v := { c.view with state := .complete }) (l := new) ?_ ?_
      (.rearmed hstate hnew)
    · rw [transitionTo_view, hv]
      rfl
    · rw [transitionTo_calls, hc]

lemma stepComplete_takes (hstate : c.state = .complete) : Takes late c (c.stepComplete a).1 := by
  unfold stepComplete
  simp only []
  have hv : (c.logMetrics.transitionTo .idle).view = { c.view with state := .idle } :=
    transitionTo_view _
  have hc : (c.logMetrics.transitionTo .idle).calls = c.calls := transitionTo_calls _
  generalize c.logMetrics.transitionTo .idle = d at hv hc
  split
  · obtain ⟨hv', new, hc', hnew⟩ := maybeDispatchPendingSoftwareReset_extends (c := d) (a := a)
    refine Takes.of_view (v := { c.view with state := .idle }) (l := new) (hv'.trans hv)
      (hc'.trans (by rw [hc])) (.completed hstate fun x hx => ?_)
    rw [← hv]
    exact hnew x hx
  · have hnone : Effect late c.view { c.view with state := .idle } [] :=
      .completed hstate (by simp)
    split
    · exact Takes.of_view (l := []) hv hc hnone
    · exact Takes.of_view (l := []) hv hc hnone

theorem stepState_takes :
    Takes (c.state = .idle ∧ c.canAttemptSelfIDDecode a = true ∧
      ∃ decoded, a.decode = some (.ok decoded)) c (c.stepState a).1 := by
  unfold stepState
  split
  · next h => simpa [h] using stepIdle_takes (a := a) h
  · next h => exact stepDetecting_takes h
  · next h => exact stepWaitingSelfID_takes h
  · next h => exact stepQuiescingAT_takes h
  · next h => exact stepRestoringConfigROM_takes h
  · next h => exact stepClearingBusReset_takes h
  · next h => exact stepRearming_takes h
  · next h => exact stepComplete_takes h

/-! ### Whole passes and the other actions -/

/-- What every effect keeps, a pass keeps. `L` is asked of the view in which a completion is
accepted outside a reset cycle. -/
theorem pass_rule {I : View → List Call → Prop} {L : View → Prop}
    (heffect : ∀ (p : Prop) (v v' : View) (new log : List Call), (p → L v) → I v log →
      Effect p v v' new → I v' (new ++ log))
    (hlate : AcceptsLate c a → L c.view) (finished : ℕ) (h : I c.view c.calls) :
    I (c.pass finished a).view (c.pass finished a).calls := by
  have hstep : I ((if c.pendingBusResetEdge then c.beginNewResetCycle a else c).stepState a).1.view
      ((if c.pendingBusResetEdge then c.beginNewResetCycle a else c).stepState a).1.calls := by
    by_cases hedge : c.pendingBusResetEdge = true
    · rw [if_pos hedge]
      obtain ⟨new, hc, hnew, hv⟩ := beginNewResetCycle_spec (c := c) (a := a)
      have hbegin := heffect False _ _ _ _ False.elim h (.edge hnew)
      rw [← hc, ← hv] at hbegin
      have hdetecting : (c.beginNewResetCycle a).state = .detecting := congrArg View.state hv
      obtain ⟨new', hc', heff⟩ := stepState_takes (c := c.beginNewResetCycle a) (a := a)
      rw [hc']
      refine heffect _ _ _ _ _ (fun hp => ?_) hbegin heff
      rw [hdetecting] at hp
      exact absurd hp.1 (by decide)
    · rw [if_neg hedge]
      obtain ⟨new, hc, heff⟩ := stepState_takes (c := c) (a := a)
      rw [hc]
      exact heffect _ _ _ _ _ (fun hp => hlate ⟨by simpa using hedge, hp⟩) h heff
  unfold pass
  simp only []
  generalize (if c.pendingBusResetEdge then c.beginNewResetCycle a else c).stepState a = r at hstep
  obtain ⟨d, result⟩ := r
  cases result with
  | «continue» =>
    simp only []
    split
    · exact hstep
    · simpa using hstep
  | yield => exact hstep
  | finish => exact hstep

end Coordinator

/-- The latch after an interrupt. -/
def SelfIDLatchState.latched (latch : SelfIDLatchState) (complete sticky : Bool) (timestamp : ℕ) :
    SelfIDLatchState :=
  let latch := if complete then { latch with complete := true, completeTimeNs := timestamp } else latch
  if sticky then { latch with stickyComplete := true, stickyCompleteTimeNs := timestamp } else latch

lemma onIrq_view (c : Coordinator) (busReset complete sticky : Bool) (timestamp : ℕ) :
    (c.onIrq busReset complete sticky timestamp).view =
      { c.view with
        latch := c.view.latch.latched complete sticky timestamp
        lastIrqNs := timestamp } := by
  cases busReset <;> cases complete <;> cases sticky <;> rfl

lemma onIrq_calls (c : Coordinator) (busReset complete sticky : Bool) (timestamp : ℕ) :
    (c.onIrq busReset complete sticky timestamp).calls = c.calls := by
  cases busReset <;> cases complete <;> cases sticky <;> rfl

/-- Requests, timers and scheduling only move fields outside the view. -/
lemma step_other (c : Coordinator) {x : Action} (helapse : ∀ ns, x ≠ .elapse ns)
    (hirq : ∀ b s s' t, x ≠ .irq b s s' t) (hpass : ∀ a, x ≠ .pass a) :
    (step c x).view = c.view ∧ (step c x).calls = c.calls := by
  cases x with
  | elapse ns => exact absurd rfl (helapse ns)
  | irq b s s' t => exact absurd rfl (hirq b s s' t)
  | pass a => exact absurd rfl (hpass a)
  | requestUserReset shortReset reason => exact Coordinator.requestSoftwareReset_same _
  | requestConfigRomRestageReset reason => exact Coordinator.requestSoftwareReset_same _
  | requestRolePolicyReset targetRoot longReset gapCount setContender reason =>
    exact Coordinator.requestSoftwareReset_same _
  | resetDelegationRetryCounter => exact ⟨rfl, rfl⟩
  | setPreviousScanHadBusyNodes busy =>
    simp only [step, Coordinator.setPreviousScanHadBusyNodes]
    generalize (if busy = true then _ else 0) = delayMs
    exact ⟨rfl, trivial⟩
  | escalateDiscoveryDelay =>
    simp only [step, Coordinator.escalateDiscoveryDelay]
    generalize min (_ : ℕ) _ = delayMs
    split <;> exact ⟨rfl, rfl⟩
  | runStateMachine =>
    simp only [step, Coordinator.runStateMachine]
    split <;> exact ⟨rfl, rfl⟩
  | deferredRun =>
    simp only [step, Coordinator.runStateMachine]
    split <;> exact ⟨rfl, rfl⟩
  | manualResetWatchdog manualEpoch resetEpoch =>
    simp only [step, Coordinator.maybeRecoverMissingManualResetIrq]
    split
    · exact ⟨rfl, rfl⟩
    · split
      · exact ⟨rfl, rfl⟩
      · exact Coordinator.requestSoftwareReset_same _
  | discovery nodeIDValid generation =>
    have hready : (c.readyForDiscovery nodeIDValid generation).1.view = c.view ∧
        (c.readyForDiscovery nodeIDValid generation).1.calls = c.calls := by
      unfold Coordinator.readyForDiscovery
      simp only []
      split <;> exact ⟨rfl, rfl⟩
    simp only [step, Coordinator.runDiscovery]
    generalize c.readyForDiscovery nodeIDValid generation = r at hready
    obtain ⟨d, ready⟩ := r
    cases ready with
    | true => exact hready
    | false => exact hready

/-- The run of an action preserves `I` when time, interrupts and effects do. -/
theorem step_rule {I : View → List Call → Prop} {L : View → Prop} {c : Coordinator} {x : Action}
    (helapse : ∀ (v : View) log ns, I v log → I { v with now := v.now + ns } log)
    (hirq : ∀ b s s' t, x = .irq b s s' t → I c.view c.calls →
      I { c.view with latch := c.view.latch.latched s s' t, lastIrqNs := t } c.calls)
    (heffect : ∀ (p : Prop) (v v' : View) (new log : List Call), (p → L v) → I v log →
      Effect p v v' new → I v' (new ++ log))
    (hlate : ∀ a, x = .pass a → c.running.isSome → AcceptsLate c a → L c.view)
    (h : I c.view c.calls) : I (step c x).view (step c x).calls := by
  have hother : (∀ ns, x ≠ .elapse ns) → (∀ b s s' t, x ≠ .irq b s s' t) → (∀ a, x ≠ .pass a) →
      I (step c x).view (step c x).calls := by
    intro h₁ h₂ h₃
    obtain ⟨hv, hc⟩ := step_other c h₁ h₂ h₃
    rw [hv, hc]
    exact h
  cases x with
  | elapse ns => exact helapse _ _ ns h
  | irq b s s' t =>
    simp only [step, onIrq_view, onIrq_calls]
    exact hirq b s s' t rfl h
  | pass a =>
    simp only [step]
    cases hrun : c.running with
    | none => exact h
    | some finished =>
      exact Coordinator.pass_rule heffect (hlate a rfl (by simp [hrun])) finished h
  | _ => apply hother <;> simp

end ASFireWire.BusReset
