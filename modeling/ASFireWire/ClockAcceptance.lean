import ASFireWire.DICEClockBringup

/-! The clock that a DICE bring-up reports against the device's global section as it was read last,
whatever arrives in the notification mailbox. -/
namespace ASFireWire.DICE

open Programs
open Async (AsyncStatus)

/-- The states in which the device's global section may be read. -/
abbrev GlobalStates := {states : Set GlobalState // states.Nonempty}

/-- Any access may fail and any notification may arrive; the log is the global state read last. -/
def globalReads (globals : GlobalStates) : Environment Action Reply (Option GlobalState) where
  can
    | .readGlobalState _ _, answer => answer.1 = .success → answer.2 ∈ globals.1
    | _, _ => True
  note
    | g, .readGlobalState _ _, answer => if answer.1 = .success then some answer.2 else g
    | g, _, _ => g

namespace DICEDuplexBringupController

/-- The clock that the controller is to bring up. -/
structure Requested (desired : DiceClockConfiguration) (c : DICEDuplexBringupController) : Prop where
  diceClock : c.diceClock = desired
  desiredClock : c.restartSession.desiredClock.sampleRateHz = desired.sampleRateHz

/-- A success reports the rate of the global state read last, which has the requested clock select. -/
def Truthful (desired : DiceClockConfiguration) (g : Option GlobalState) (report : Report) : Prop :=
  report.status = .success → ∃ state, g = some state ∧ state.clockSelect = desired.clockSelect ∧
    state.sampleRate = report.controller.restartSession.appliedClock.sampleRateHz

/-- What is reported of the clock is true on every path, and the two tests of acceptance accept the
same states. -/
structure ClockContract (desired : DiceClockConfiguration) (globals : GlobalStates) : Prop where
  applied : ∀ c, Ensures (globalReads globals) (Truthful desired) none (applyClockConfig desired c)
  prepared : ∀ channels c,
    Ensures (globalReads globals) (Truthful desired) none (prepareDuplex channels desired c)
  confirmed : ∀ c, Requested desired c →
    Ensures (globalReads globals) (Truthful desired) none (confirmDuplexStart c)
  agree : ∀ c, Requested desired c → ∀ state ∈ globals.1, ∀ notify,
    c.activeCheckAccepts notify state = c.clockAcceptedReadAccepts notify state

/-- The device is at the requested clock, and locked where its section shows the acceptance. -/
structure Settled (desired : DiceClockConfiguration) (state : GlobalState) : Prop where
  clockSelect : state.clockSelect = desired.clockSelect
  sampleRate : state.sampleRate = desired.sampleRateHz
  locked : isClockAccepted state.notification = true →
    isSourceLocked state.status = true ∧ nominalRateHz state.status = desired.sampleRateHz

variable {globals : GlobalStates} {desired : DiceClockConfiguration}
  {c : DICEDuplexBringupController} {g : Option GlobalState}

/-! ### A success comes after a read and reports the request -/

/-- A success has read the global section and reports the requested rate. -/
def ReportsRequest (desired : DiceClockConfiguration) (g : Option GlobalState) (report : Report) :
    Prop :=
  report.status = .success → g ≠ none ∧
    report.controller.restartSession.appliedClock.sampleRateHz = desired.sampleRateHz

lemma reports_of_ne {report : Report} (hstatus : report.status ≠ .success) :
    ReportsRequest desired g report :=
  fun h => absurd h hstatus

lemma reports_doRollback {status : IOReturn} (hstatus : status ≠ .success) :
    Ensures (globalReads globals) (ReportsRequest desired) g (doRollback status c) := by
  rw [doRollback]
  split
  · exact reports_of_ne hstatus
  · apply ensures_bind_of_forall
    intro g current
    cases current with
    | false => exact reports_of_ne hstatus
    | true => exact ensures_bind_of_forall fun g stopped => reports_of_ne hstatus

lemma reports_stopAndReport {status : IOReturn} (hstatus : status ≠ .success) :
    Ensures (globalReads globals) (ReportsRequest desired) g (stopAndReport status c) :=
  ensures_bind_of_forall fun _ _ => reports_of_ne hstatus

/-- The first step of most functions. -/
lemma reports_ensureRouteCurrent {p : Prog Report}
    (h : ∀ g, Ensures (globalReads globals) (ReportsRequest desired) g p) :
    Ensures (globalReads globals) (ReportsRequest desired) g
      (c.ensureRouteCurrent >>= fun current => if current then p else doRollback .offline c) := by
  apply ensures_bind_of_forall
  intro g current
  cases current with
  | false => exact reports_doRollback (by decide)
  | true => exact h g

/-- Where all sections are read the global state is known, and the rest of the setup is kept. -/
lemma ensures_refreshRuntimeCaps {α : Type} {Q : Option GlobalState → α → Prop}
    {f : DICEDuplexBringupController × IOReturn → Prog α}
    (hfail : ∀ g status, status ≠ .success → Ensures (globalReads globals) Q g (f (c, status)))
    (hdone : ∀ g c', g ≠ none → (∀ desired, Requested desired c → Requested desired c') →
      Ensures (globalReads globals) Q g (f (c', .success))) :
    Ensures (globalReads globals) Q g (c.refreshRuntimeCaps >>= f) := by
  rw [ensures_bind, refreshRuntimeCaps, readGlobalState, ensures_perform_bind]
  rintro ⟨globalStatus, global⟩ -
  by_cases hglobal : globalStatus = .success
  · subst hglobal
    simp only [ne_eq, not_true_eq_false, if_false]
    rw [ensures_perform_bind]
    rintro ⟨txStatus, tx⟩ -
    by_cases htx : txStatus = .success
    · subst htx
      simp only [not_true_eq_false, if_false]
      rw [ensures_perform_bind]
      rintro ⟨rxStatus, rx⟩ -
      by_cases hrx : rxStatus = .success
      · subst hrx
        simp only [not_true_eq_false, if_false]
        exact hdone (some global) _ (by simp) fun desired h => ⟨h.1, h.2⟩
      · simp only [hrx, not_false_eq_true, if_true]
        exact hfail _ rxStatus hrx
    · simp only [htx, not_false_eq_true, if_true]
      exact hfail _ txStatus htx
  · simp only [ne_eq, hglobal, not_false_eq_true, if_true]
    exact hfail _ globalStatus hglobal

lemma ensures_currentRoute {α : Type} {Q : Option GlobalState → α → Prop} {f : Bool → Prog α}
    (h : ∀ current, Ensures (globalReads globals) Q g (f current)) :
    Ensures (globalReads globals) Q g (c.ensureRouteCurrent >>= f) := by
  rw [ensureRouteCurrent]
  split
  · exact h true
  · rw [ensures_perform_bind]
    exact fun current _ => h current

/-- The release of the owner reads nothing and leaves the clocks alone. -/
lemma ensures_releaseOwner {α : Type} {Q : Option GlobalState → α → Prop}
    {f : DICEDuplexBringupController × IOReturn → Prog α}
    (hfail : ∀ c' status, status ≠ .success → Ensures (globalReads globals) Q g (f (c', status)))
    (hdone : ∀ c', c'.restartSession.appliedClock = c.restartSession.appliedClock →
      Ensures (globalReads globals) Q g (f (c', .success))) :
    Ensures (globalReads globals) Q g (c.releaseOwner >>= f) := by
  rw [releaseOwner]
  split
  · exact hdone c rfl
  · rw [ensures_bind, ensures_perform_bind]
    intro requested _
    cases requested with
    | true => exact hfail c .aborted (by decide)
    | false =>
      simp only [Bool.false_eq_true, if_false]
      apply ensures_currentRoute
      intro current
      cases current with
      | false => exact hdone _ rfl
      | true =>
        simp only [if_true]
        rw [ensures_bind, compareSwap64BE, ensures_perform_bind]
        rintro ⟨status, previous⟩ -
        rw [ensures_pure]
        split
        · exact hfail _ _ ‹_›
        · split
          · exact hfail _ _ (by decide)
          · exact hdone _ rfl

/-- The controller brings up the requested clock, and refreshes its capabilities before it reports. -/
structure Underway (desired : DiceClockConfiguration) (c : DICEDuplexBringupController) : Prop
    extends Requested desired c where
  refreshes : c.flowMode = .clockApply ∨ c.refreshRuntimeCapsOnPrepare = true

lemma reports_doCompleteClockApply (h : Requested desired c) :
    Ensures (globalReads globals) (ReportsRequest desired) g (doCompleteClockApply c) := by
  apply ensures_refreshRuntimeCaps
  · intro g status hstatus
    simp only [ne_eq, hstatus, not_false_eq_true, if_true]
    exact reports_doRollback hstatus
  · intro g c' hg hrequested
    simp only [ne_eq, not_true_eq_false, if_false]
    apply ensures_releaseOwner
    · intro c'' status hstatus
      simp only [hstatus, not_false_eq_true, if_true]
      exact reports_of_ne hstatus
    · intro c'' happlied
      simp only [not_true_eq_false, if_false]
      intro _
      refine ⟨hg, ?_⟩
      change c''.restartSession.appliedClock.sampleRateHz = desired.sampleRateHz
      rw [happlied]
      exact (hrequested desired h).2

lemma reports_doFinishPrepare (h : Requested desired c)
    (hrefresh : c.refreshRuntimeCapsOnPrepare = true) :
    Ensures (globalReads globals) (ReportsRequest desired) g (doFinishPrepare c) := by
  rw [doFinishPrepare, if_neg (by simp [hrefresh])]
  apply ensures_refreshRuntimeCaps
  · intro g status hstatus
    simp only [ne_eq, hstatus, not_false_eq_true, if_true]
    exact reports_doRollback hstatus
  · intro g c' hg hrequested
    simp only [ne_eq, not_true_eq_false, if_false]
    intro _
    exact ⟨hg, (hrequested desired h).2⟩

lemma reports_doDiscoverStreams (h : Requested desired c)
    (hrefresh : c.refreshRuntimeCapsOnPrepare = true) (reads : List DiscoverRead) :
    Ensures (globalReads globals) (ReportsRequest desired) g (doDiscoverStreams reads c) := by
  induction reads generalizing g with
  | nil => exact reports_doFinishPrepare h hrefresh
  | cons read later ih =>
    apply reports_ensureRouteCurrent
    intro g
    apply ensures_bind_of_forall
    intro g status
    split
    · exact reports_doRollback ‹_›
    · exact ih

lemma reports_doAwaitStreamingClockLock (h : Requested desired c)
    (hrefresh : c.refreshRuntimeCapsOnPrepare = true) (attempt : ℕ) :
    Ensures (globalReads globals) (ReportsRequest desired) g
      (doAwaitStreamingClockLock attempt c) := by
  obtain ⟨left, hleft⟩ : ∃ left, kStreamingClockLockTimeoutMs - attempt * kPollIntervalMs = left :=
    ⟨_, rfl⟩
  induction left using Nat.strong_induction_on generalizing attempt g with
  | _ left ih =>
    rw [doAwaitStreamingClockLock]
    apply reports_ensureRouteCurrent
    intro g
    apply ensures_bind_of_forall
    rintro g ⟨status, state⟩
    by_cases hstatus : status = .success
    · simp only [hstatus, ne_eq, not_true_eq_false, if_false]
      split
      · exact reports_doDiscoverStreams h hrefresh _
      · split
        · exact reports_doRollback (by decide)
        · rename_i hwaiting
          apply ensures_bind_of_forall
          intro g scheduled
          split
          · exact ih _ (by simp only [kPollIntervalMs] at *; omega) _ rfl
          · exact reports_doRollback (by decide)
    · simp only [ne_eq, hstatus, not_false_eq_true, if_true]
      exact reports_doRollback hstatus

lemma reports_clockConfirmed (h : Underway desired c) :
    Ensures (globalReads globals) (ReportsRequest desired) g (clockConfirmed c) := by
  rw [clockConfirmed]
  split
  · exact reports_doCompleteClockApply h.toRequested
  · rename_i hflow
    exact reports_doAwaitStreamingClockLock h.toRequested (h.refreshes.resolve_left hflow) 0

lemma reports_doReadGlobalAfterClockAccepted (h : Underway desired c) (observedNotify : Quadlet)
    {failureStatus : IOReturn} (hfailure : failureStatus ≠ .success) :
    Ensures (globalReads globals) (ReportsRequest desired) g
      (doReadGlobalAfterClockAccepted observedNotify failureStatus c) := by
  apply reports_ensureRouteCurrent
  intro g
  apply ensures_bind_of_forall
  rintro g ⟨status, state⟩
  dsimp only
  split
  · exact reports_doRollback ‹_›
  · split
    · exact reports_clockConfirmed h
    · exact reports_doRollback hfailure

lemma reports_doConfirmClockAccepted (h : Underway desired c) (observedNotify : Quadlet) :
    Ensures (globalReads globals) (ReportsRequest desired) g
      (doConfirmClockAccepted observedNotify c) := by
  apply reports_ensureRouteCurrent
  intro g
  apply ensures_bind_of_forall
  intro g lateMailboxBits
  exact reports_doReadGlobalAfterClockAccepted h _ (by decide)

lemma reports_doWaitClockAccepted (h : Underway desired c) (attempt : ℕ) :
    Ensures (globalReads globals) (ReportsRequest desired) g (doWaitClockAccepted attempt c) := by
  obtain ⟨left, hleft⟩ : ∃ left, kClockAcceptedTimeoutMs - attempt * kPollIntervalMs = left :=
    ⟨_, rfl⟩
  induction left using Nat.strong_induction_on generalizing attempt g with
  | _ left ih =>
    rw [doWaitClockAccepted]
    apply reports_ensureRouteCurrent
    intro g
    apply ensures_bind_of_forall
    intro g mailboxBits
    split
    · exact reports_doReadGlobalAfterClockAccepted h _ (by decide)
    · split
      · exact reports_doConfirmClockAccepted h _
      · apply ensures_bind_of_forall
        intro g scheduled
        split
        · exact ih _ (by simp only [kPollIntervalMs] at *; omega) _ rfl
        · exact reports_doRollback (by decide)

lemma reports_doActiveClockCheck (h : Underway desired c) (accumulatedNotify : Quadlet) :
    Ensures (globalReads globals) (ReportsRequest desired) g
      (doActiveClockCheck accumulatedNotify c) := by
  apply reports_ensureRouteCurrent
  intro g
  apply ensures_bind_of_forall
  rintro g ⟨status, state⟩
  dsimp only
  split
  · exact reports_doWaitClockAccepted h 0
  · apply ensures_bind_of_forall
    intro g mailboxBits
    split
    · exact reports_clockConfirmed h
    · exact reports_doWaitClockAccepted h 0

lemma reports_doWriteClockSelect (h : Underway desired c) :
    Ensures (globalReads globals) (ReportsRequest desired) g (doWriteClockSelect c) := by
  apply reports_ensureRouteCurrent
  intro g
  split
  · apply ensures_bind_of_forall
    intro g bits
    exact reports_doActiveClockCheck h bits
  · apply ensures_bind_of_forall
    intro g _
    apply ensures_bind_of_forall
    intro g status
    split
    · exact reports_doRollback ‹_›
    · apply ensures_bind_of_forall
      intro g earlyBits
      split
      · exact reports_doReadGlobalAfterClockAccepted h _ (by decide)
      · exact reports_doActiveClockCheck h earlyBits

/-- A short read counts as a failure. -/
lemma short_ne_success (status : IOReturn) :
    (if status = .success then IOReturn.underrun else status) ≠ .success := by
  split
  · decide
  · exact ‹_›

lemma reports_doReadOwnerAfterClaim (h : Underway desired c) :
    Ensures (globalReads globals) (ReportsRequest desired) g (doReadOwnerAfterClaim c) := by
  apply reports_ensureRouteCurrent
  intro g
  apply ensures_bind_of_forall
  rintro g ⟨status, payload⟩
  dsimp only
  split
  · exact reports_doRollback (short_ne_success status)
  · split
    · exact reports_doRollback (by decide)
    · exact reports_doWriteClockSelect h

lemma reports_doClaimOwner (h : Underway desired c) :
    Ensures (globalReads globals) (ReportsRequest desired) g (doClaimOwner c) := by
  apply reports_ensureRouteCurrent
  intro g
  apply ensures_bind_of_forall
  rintro g ⟨status, previous⟩
  dsimp only
  split
  · exact reports_doRollback ‹_›
  · split
    · exact reports_doRollback (by decide)
    · exact reports_doReadOwnerAfterClaim ⟨⟨h.diceClock, h.desiredClock⟩, h.refreshes⟩

lemma reports_doReadOwnerBeforeClaim (h : Underway desired c) :
    Ensures (globalReads globals) (ReportsRequest desired) g (doReadOwnerBeforeClaim c) := by
  apply reports_ensureRouteCurrent
  intro g
  apply ensures_bind_of_forall
  rintro g ⟨status, payload⟩
  dsimp only
  split
  · exact reports_doRollback (short_ne_success status)
  · exact reports_doClaimOwner h

lemma reports_doReadGlobalBeforeClaim (h : Underway desired c) :
    Ensures (globalReads globals) (ReportsRequest desired) g (doReadGlobalBeforeClaim c) := by
  apply reports_ensureRouteCurrent
  intro g
  apply ensures_bind_of_forall
  rintro g ⟨status, state⟩
  dsimp only
  split
  · exact reports_doRollback ‹_›
  · exact reports_doReadOwnerBeforeClaim ⟨⟨h.diceClock, h.desiredClock⟩, h.refreshes⟩

lemma reports_doRefreshSectionLayout (h : Underway desired c) :
    Ensures (globalReads globals) (ReportsRequest desired) g (doRefreshSectionLayout c) := by
  apply reports_ensureRouteCurrent
  intro g
  apply ensures_bind_of_forall
  rintro g ⟨status, sections⟩
  dsimp only
  split
  · exact reports_doRollback ‹_›
  · exact reports_doReadGlobalBeforeClaim ⟨⟨h.diceClock, h.desiredClock⟩, h.refreshes⟩

lemma reports_doReadGlobalStatus (h : Underway desired c) :
    Ensures (globalReads globals) (ReportsRequest desired) g (doReadGlobalStatus c) := by
  apply reports_ensureRouteCurrent
  intro g
  apply ensures_bind_of_forall
  rintro g ⟨status, value⟩
  dsimp only
  split
  · exact reports_doRollback ‹_›
  · exact reports_doRefreshSectionLayout h

/-! ### The operations -/

lemma reports_answer {status : IOReturn} (hstatus : status ≠ .success) :
    Ensures (globalReads globals) (ReportsRequest desired) g (answer status c) :=
  reports_of_ne hstatus

theorem reports_applyClockConfig (c : DICEDuplexBringupController) :
    Ensures (globalReads globals) (ReportsRequest desired) g (applyClockConfig desired c) := by
  rw [applyClockConfig]
  split
  · exact reports_answer (by decide)
  · split
    · exact reports_answer (by decide)
    · split
      · exact reports_answer (by decide)
      · apply ensures_bind_of_forall
        intro g _
        exact reports_doReadGlobalStatus ⟨⟨rfl, rfl⟩, .inl rfl⟩

lemma reports_startPrepare (channels : AudioDuplexChannels) :
    Ensures (globalReads globals) (ReportsRequest desired) g
      (startPrepare channels desired c) := by
  apply ensures_bind_of_forall
  intro g _
  exact reports_doReadGlobalStatus ⟨⟨rfl, rfl⟩, .inr rfl⟩

theorem reports_prepareDuplex (channels : AudioDuplexChannels) (c : DICEDuplexBringupController) :
    Ensures (globalReads globals) (ReportsRequest desired) g
      (prepareDuplex channels desired c) := by
  rw [prepareDuplex]
  split
  · exact reports_answer (by decide)
  · split
    · exact reports_answer (by decide)
    · split
      · exact reports_answer (by decide)
      · split
        · apply ensures_bind_of_forall
          rintro g ⟨c', stopStatus⟩
          dsimp only
          split
          · exact reports_answer ‹_›
          · exact reports_startPrepare channels
        · exact reports_startPrepare channels

lemma reports_doCompleteConfirm (h : Requested desired c) (notification status extStatus : Quadlet) :
    Ensures (globalReads globals) (ReportsRequest desired) g
      (doCompleteConfirm notification status extStatus c) := by
  apply ensures_refreshRuntimeCaps
  · intro g status hstatus
    simp only [ne_eq, hstatus, not_false_eq_true, if_true]
    exact reports_stopAndReport hstatus
  · intro g c' hg hrequested
    simp only [ne_eq, not_true_eq_false, if_false]
    split
    · intro _
      exact ⟨hg, (hrequested desired ⟨h.1, h.2⟩).2⟩
    · exact reports_stopAndReport (by decide)

lemma reports_doPollSourceLock (h : Requested desired c) (attempt : ℕ)
    (accumulatedNotify : Quadlet) :
    Ensures (globalReads globals) (ReportsRequest desired) g
      (doPollSourceLock attempt accumulatedNotify c) := by
  obtain ⟨left, hleft⟩ : ∃ left, kReadyTimeoutMs - attempt * kPollIntervalMs = left := ⟨_, rfl⟩
  induction left using Nat.strong_induction_on generalizing attempt accumulatedNotify g with
  | _ left ih =>
    rw [doPollSourceLock]
    apply ensures_bind_of_forall
    intro g current
    cases current with
    | false => exact reports_stopAndReport (by decide)
    | true =>
      apply ensures_bind_of_forall
      intro g bits
      apply ensures_bind_of_forall
      rintro g ⟨statusRead, statusValue⟩
      dsimp only
      split
      · exact reports_stopAndReport ‹_›
      · split
        · apply ensures_bind_of_forall
          intro g _
          apply ensures_bind_of_forall
          intro g _
          exact reports_doCompleteConfirm h _ _ _
        · split
          · exact reports_stopAndReport (by decide)
          · apply ensures_bind_of_forall
            intro g scheduled
            split
            · exact ih _ (by simp only [kPollIntervalMs] at *; omega) _ _ rfl
            · exact reports_doRollback (by decide)

theorem reports_confirmDuplexStart (h : Requested desired c) :
    Ensures (globalReads globals) (ReportsRequest desired) g (confirmDuplexStart c) := by
  rw [confirmDuplexStart]
  split
  · exact reports_answer (by decide)
  · apply ensures_bind_of_forall
    intro g _
    exact reports_doPollSourceLock (c := c.setPhase .confirmingDeviceStart) ⟨h.1, h.2⟩ 0 0

/-! ### A device at the requested clock -/

/-- The log holds a state of the device. -/
def Observed (globals : GlobalStates) (g : Option GlobalState) : Prop :=
  ∀ state, g = some state → state ∈ globals.1

lemma observed_note (g : Option GlobalState) (a : Action) (r : Reply a)
    (hcan : (globalReads globals).can a r) (hg : Observed globals g) :
    Observed globals ((globalReads globals).note g a r) := by
  cases a with
  | readGlobalState sections readSize =>
    obtain ⟨status, state⟩ := r
    intro state' hstate
    change (if status = .success then some state else g) = some state' at hstate
    split at hstate
    · rw [← Option.some.inj hstate]
      exact hcan ‹_›
    · exact hg state' hstate
  | _ => exact hg

/-- Where every state has the requested clock, so has the one read last. -/
lemma truthful_of_reports (hglobals : ∀ state ∈ globals.1, Settled desired state)
    {p : Prog Report} (h : Ensures (globalReads globals) (ReportsRequest desired) none p) :
    Ensures (globalReads globals) (Truthful desired) none p := by
  apply Ensures.assuming observed_note
  · refine Follows.mono (fun g report hreport hg hsuccess => ?_) h
    obtain ⟨hread, happlied⟩ := hreport hsuccess
    obtain ⟨state, hstate⟩ := Option.ne_none_iff_exists'.mp hread
    have hsettled := hglobals state (hg state hstate)
    exact ⟨state, hstate, hsettled.clockSelect, hsettled.sampleRate.trans happlied.symm⟩
  · intro state hstate
    cases hstate

lemma isClockAccepted_or (notify notify' : Quadlet) :
    isClockAccepted (notify ||| notify') = (isClockAccepted notify || isClockAccepted notify') := by
  have hzero : (notify ||| notify') &&& Notify.kClockAccepted = 0 ↔
      notify &&& Notify.kClockAccepted = 0 ∧ notify' &&& Notify.kClockAccepted = 0 := by
    rw [BitVec.and_or_distrib_right]
    exact BitVec.or_eq_zero_iff
  simp only [isClockAccepted, ne_eq, hzero, not_and_or, Bool.decide_or]

/-- On the states of a device at the requested clock the two tests agree. -/
lemma accepts_of_settled (h : Requested desired c) {state : GlobalState}
    (hsettled : Settled desired state) (notify : Quadlet) :
    c.activeCheckAccepts notify state = c.clockAcceptedReadAccepts notify state := by
  have hselect : state.clockSelect = c.diceClock.clockSelect := by
    rw [h.diceClock]
    exact hsettled.clockSelect
  rw [activeCheckAccepts, clockAcceptedReadAccepts, isClockAccepted_or]
  cases haccepted : isClockAccepted state.notification with
  | false => simp [hselect]
  | true =>
    obtain ⟨hlocked, hnominal⟩ := hsettled.locked haccepted
    simp [hselect, sourceLockedAtTarget, sampleRateAtTarget, hlocked, hnominal, h.desiredClock,
      hsettled.sampleRate]

theorem clockContract_of_settled (hglobals : ∀ state ∈ globals.1, Settled desired state) :
    ClockContract desired globals where
  applied c := truthful_of_reports hglobals (reports_applyClockConfig c)
  prepared channels c := truthful_of_reports hglobals (reports_prepareDuplex channels c)
  confirmed _ h := truthful_of_reports hglobals (reports_confirmDuplexStart h)
  agree _ h state hstate notify := accepts_of_settled h (hglobals state hstate) notify

/-! ### A device that may be at another clock -/

/-- A success with the requested rate, after `state` as the global state read last. -/
def AppliedAfter (desired : DiceClockConfiguration) (state : GlobalState) (g : Option GlobalState)
    (report : Report) : Prop :=
  g = some state ∧ report.status = .success ∧
    report.controller.restartSession.appliedClock.sampleRateHz = desired.sampleRateHz

/-- An idle controller of node 0 that applies the requested clock. -/
structure Applying (desired : DiceClockConfiguration) (c : DICEDuplexBringupController) : Prop where
  busInfo : c.busInfo = {}
  flowMode : c.flowMode = .clockApply
  desiredClock : c.restartSession.desiredClock.sampleRateHz = desired.sampleRateHz

section Paths

variable {state : GlobalState} (hstate : state ∈ globals.1) (h : Applying desired c)
include hstate h

omit hstate h in
lemma reaches_currentRoute {α : Type} {Q : Option GlobalState → α → Prop} {f : Bool → Prog α}
    (h : Reaches (globalReads globals) Q g (f true)) :
    Reaches (globalReads globals) Q g (c.ensureRouteCurrent >>= f) := by
  rw [ensureRouteCurrent]
  split
  · exact h
  · exact ⟨true, trivial, h⟩

omit h in
lemma reaches_readGlobalStateFull {α : Type} {Q : Option GlobalState → α → Prop}
    {sections : GeneralSections} {f : IOReturn × GlobalState → Prog α}
    (h : Reaches (globalReads globals) Q (some state) (f (.success, state))) :
    Reaches (globalReads globals) Q g (readGlobalStateFull sections >>= f) :=
  ⟨(.success, state), fun _ => hstate, h⟩

omit h in
lemma reaches_refreshRuntimeCaps {α : Type} {Q : Option GlobalState → α → Prop}
    {f : DICEDuplexBringupController × IOReturn → Prog α}
    (h : ∀ c', (∀ desired, Applying desired c → Applying desired c') →
      Reaches (globalReads globals) Q (some state) (f (c', .success))) :
    Reaches (globalReads globals) Q g (c.refreshRuntimeCaps >>= f) := by
  rw [reaches_bind]
  refine ⟨(.success, state), fun _ => hstate, (.success, {}), trivial, (.success, {}), trivial, ?_⟩
  exact h _ fun desired happlying => ⟨happlying.1, happlying.2, happlying.3⟩

omit hstate h in
lemma reaches_compareSwap {α : Type} {Q : Option GlobalState → α → Prop} {offset : Quadlet}
    {expected desired : BitVec 64} {f : IOReturn × BitVec 64 → Prog α} (previous : BitVec 64)
    (h : Reaches (globalReads globals) Q g (f (.success, previous))) :
    Reaches (globalReads globals) Q g (compareSwap64BE offset expected desired >>= f) :=
  ⟨(.success, previous), trivial, h⟩

omit hstate h in
lemma reaches_releaseOwner {α : Type} {Q : Option GlobalState → α → Prop}
    {f : DICEDuplexBringupController × IOReturn → Prog α}
    (h : ∀ c', c'.restartSession.appliedClock = c.restartSession.appliedClock →
      Reaches (globalReads globals) Q g (f (c', .success))) :
    Reaches (globalReads globals) Q g (c.releaseOwner >>= f) := by
  rw [reaches_bind, releaseOwner]
  split
  · exact h c rfl
  · apply reaches_answer false trivial
    apply reaches_currentRoute
    apply reaches_compareSwap c.ownerValue
    simp only [ne_eq, not_true_eq_false, if_false, false_and]
    exact h _ rfl

lemma reaches_doCompleteClockApply :
    Reaches (globalReads globals) (AppliedAfter desired state) g (doCompleteClockApply c) := by
  apply reaches_refreshRuntimeCaps hstate
  intro c' hkeeps
  apply reaches_releaseOwner
  intro c'' happlied
  refine ⟨rfl, rfl, ?_⟩
  change c''.restartSession.appliedClock.sampleRateHz = desired.sampleRateHz
  rw [happlied]
  exact (hkeeps desired h).desiredClock

/-- CLOCK_ACCEPTED in the mailbox passes the active check in any state. -/
lemma reaches_doActiveClockCheck (accumulatedNotify : Quadlet) :
    Reaches (globalReads globals) (AppliedAfter desired state) g
      (doActiveClockCheck accumulatedNotify c) := by
  apply reaches_currentRoute
  apply reaches_readGlobalStateFull hstate
  simp only [ne_eq, not_true_eq_false, if_false]
  apply reaches_answer (a := Action.mailboxConsume) Notify.kClockAccepted trivial
  have haccepts : c.activeCheckAccepts (accumulatedNotify ||| Notify.kClockAccepted) state := by
    have hbit : isClockAccepted Notify.kClockAccepted = true := by decide
    rw [activeCheckAccepts, isClockAccepted_or, hbit, Bool.or_true, Bool.true_or]
  rw [if_pos haccepts, clockConfirmed, if_pos h.flowMode]
  exact reaches_doCompleteClockApply hstate h

lemma reaches_doWriteClockSelect :
    Reaches (globalReads globals) (AppliedAfter desired state) g (doWriteClockSelect c) := by
  apply reaches_currentRoute
  simp only [if_true]
  split
  · exact ⟨0, trivial, reaches_doActiveClockCheck hstate h 0⟩
  · refine ⟨(), trivial, AsyncStatus.success, trivial, 0, trivial, ?_⟩
    exact reaches_doActiveClockCheck hstate h 0

/-- The owner register of a bus where the host is node 0. -/
def ownerBytes : List (BitVec 8) := [0xFF, 0xC0, 0x00, 0x01, 0x00, 0x00, 0x00, 0x00]

omit hstate h in
lemma reaches_readBlock {α : Type} {Q : Option GlobalState → α → Prop} {offset : Quadlet}
    {length : ℕ} {f : IOReturn × List (BitVec 8) → Prog α} (payload : List (BitVec 8))
    (h : Reaches (globalReads globals) Q g (f (.success, payload))) :
    Reaches (globalReads globals) Q g (readBlock offset length >>= f) :=
  ⟨(.success, payload), trivial, h⟩

lemma reaches_doReadOwnerAfterClaim :
    Reaches (globalReads globals) (AppliedAfter desired state) g (doReadOwnerAfterClaim c) := by
  apply reaches_currentRoute
  apply reaches_readBlock ownerBytes
  have howner : decodeOwnerOctlet ownerBytes = c.ownerValue := by
    rw [ownerValue, h.busInfo]
    decide
  have hlength : ¬ ownerBytes.length < 8 := by decide
  simp only [ne_eq, not_true_eq_false, hlength, or_self, if_false, howner]
  exact reaches_doWriteClockSelect hstate h

lemma reaches_doClaimOwner :
    Reaches (globalReads globals) (AppliedAfter desired state) g (doClaimOwner c) := by
  apply reaches_currentRoute
  apply reaches_compareSwap kOwnerNoOwner
  simp only [ne_eq, not_true_eq_false, false_and, if_false]
  exact reaches_doReadOwnerAfterClaim hstate ⟨h.busInfo, h.flowMode, h.desiredClock⟩

lemma reaches_doReadGlobalBeforeClaim :
    Reaches (globalReads globals) (AppliedAfter desired state) g (doReadGlobalBeforeClaim c) := by
  apply reaches_currentRoute
  apply reaches_readGlobalStateFull hstate
  simp only [ne_eq, not_true_eq_false, if_false]
  apply reaches_currentRoute
  apply reaches_readBlock ownerBytes
  have hlength : ¬ ownerBytes.length < 8 := by decide
  simp only [ne_eq, not_true_eq_false, hlength, or_self, if_false]
  exact reaches_doClaimOwner hstate ⟨h.busInfo, h.flowMode, h.desiredClock⟩

lemma reaches_doReadGlobalStatus :
    Reaches (globalReads globals) (AppliedAfter desired state) g (doReadGlobalStatus c) := by
  apply reaches_currentRoute
  refine ⟨(.success, 0), trivial, ?_⟩
  apply reaches_currentRoute
  refine ⟨(.success, c.sections), trivial, ?_⟩
  exact reaches_doReadGlobalBeforeClaim hstate ⟨h.busInfo, h.flowMode, h.desiredClock⟩

end Paths

/-- Whatever the last state is, a clock may be reported as applied after it. -/
lemma reaches_applyClockConfig (hsupported : isSupportedDiceClockConfiguration desired = true)
    {state : GlobalState} (hstate : state ∈ globals.1) :
    Reaches (globalReads globals) (AppliedAfter desired state) none
      (applyClockConfig desired {}) := by
  have hrefused : ¬ isSupportedDiceClockConfiguration desired = false := by simp [hsupported]
  rw [applyClockConfig, if_neg hrefused]
  apply reaches_answer (a := Action.mailboxReset) () trivial
  exact reaches_doReadGlobalStatus hstate ⟨rfl, rfl, rfl⟩

/-- A controller that brings up the clock. -/
def requesting (desired : DiceClockConfiguration) : DICEDuplexBringupController where
  diceClock := desired
  restartSession := { desiredClock := { sampleRateHz := desired.sampleRateHz } }

lemma locked_of_agree (h : Requested desired c) {state : GlobalState}
    (hselect : state.clockSelect = desired.clockSelect)
    (hrate : state.sampleRate = desired.sampleRateHz)
    (haccepted : isClockAccepted state.notification = true)
    (hagree : c.activeCheckAccepts 0#32 state = c.clockAcceptedReadAccepts 0#32 state) :
    isSourceLocked state.status = true ∧ nominalRateHz state.status = desired.sampleRateHz := by
  have hnone : isClockAccepted 0#32 = false := by decide
  have hlocked : (isSourceLocked state.status && decide (nominalRateHz state.status =
      desired.sampleRateHz)) = true := by
    simpa [activeCheckAccepts, clockAcceptedReadAccepts, isClockAccepted_or, hnone, haccepted,
      sourceLockedAtTarget, sampleRateAtTarget, h.diceClock, h.desiredClock, hselect, hrate]
      using hagree
  rw [Bool.and_eq_true, decide_eq_true_eq] at hlocked
  exact hlocked

/-- A device whose clock is reported truly and accepted alike is at the requested clock. -/
theorem settled_of_clockContract (hsupported : isSupportedDiceClockConfiguration desired = true)
    (hcontract : ClockContract desired globals) {state : GlobalState}
    (hstate : state ∈ globals.1) : Settled desired state := by
  obtain ⟨g, report, htruthful, hlast, hsuccess, happlied⟩ :=
    (reaches_applyClockConfig hsupported hstate).ensured (hcontract.applied {})
  obtain ⟨state', hstate', hselect, hrate⟩ := htruthful hsuccess
  obtain rfl : state = state' := Option.some.inj (hlast.symm.trans hstate')
  have hrate : state.sampleRate = desired.sampleRateHz := hrate.trans happlied
  refine ⟨hselect, hrate, fun haccepted => ?_⟩
  have hrequested : Requested desired (requesting desired) := ⟨rfl, rfl⟩
  exact locked_of_agree hrequested hselect hrate haccepted
    (hcontract.agree _ hrequested state hstate 0#32)

/-- The reports are true on every path and the two tests agree exactly where the device is at the
requested clock in all its states, and locked where a state shows the acceptance. -/
theorem clockContract_iff (hsupported : isSupportedDiceClockConfiguration desired = true)
    (globals : GlobalStates) :
    ClockContract desired globals ↔ ∀ state ∈ globals.1, Settled desired state :=
  ⟨fun h _ hstate => settled_of_clockContract hsupported h hstate, clockContract_of_settled⟩

def clock48kInternal : DiceClockConfiguration where
  sampleRateHz := 48000
  clockSelect := 0x20C

/-- A device locked at `rate` by its internal clock, with the rate's index in the clock words. -/
def lockedState (rate : ℕ) (index : Quadlet) : GlobalState where
  clockSelect := index <<< 8 ||| 0x0C
  status := index <<< 8 ||| 0x01
  sampleRate := rate

/-- A device in one state. -/
def constantState (state : GlobalState) : GlobalStates := ⟨{state}, Set.singleton_nonempty state⟩

lemma settled_48kInternal : Settled clock48kInternal (lockedState 48000 0x02) := by
  constructor <;> decide

theorem clockContract_48kInternal :
    ClockContract clock48kInternal (constantState (lockedState 48000 0x02)) :=
  (clockContract_iff (by decide) _).mpr fun _ hstate => hstate ▸ settled_48kInternal

/-- A CLOCK_ACCEPTED from anywhere lets a device at 44.1 kHz pass for one at 48 kHz. -/
theorem not_clockContract_otherRate :
    ¬ ClockContract clock48kInternal (constantState (lockedState 44100 0x01)) := by
  intro h
  have hsettled := settled_of_clockContract (by decide) h (Set.mem_singleton _)
  exact absurd hsettled.sampleRate (by decide)

end DICEDuplexBringupController

end ASFireWire.DICE
