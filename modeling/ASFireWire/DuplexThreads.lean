import ASFireWire.AudioDuplexCoordinator
import ASFireWire.Runs

/-! Calls on one GUID in threads of their own, interleaved at the critical sections of the
coordinator's lock. -/
namespace ASFireWire.Duplex

open Programs

/-- A request taken from the broker and not completed yet. -/
structure InHand where
  token : ℕ
  superseded : Bool := false
  deriving DecidableEq, Repr

/-- Whether the thread has the GUID, and the clock request it is to complete. -/
structure Custody where
  holds : Bool := false
  hand : Option InHand := none
  deriving DecidableEq, Repr

namespace Custody

/-- The custody after an action and its answer. -/
def next (g : Custody) : (a : CoordinatorAction) → Answer a → Custody
  | .acquire, true => { g with holds := true }
  | .release, _ => { g with holds := false }
  | .submitClockRequest _ _, .launched token => ⟨true, some ⟨token, false⟩⟩
  | .submitClockRequest _ _, .queued _ (some superseded) =>
    { g with hand := some ⟨superseded.token, true⟩ }
  | .tryConsumePending, some request => { g with hand := some ⟨request.token, false⟩ }
  | .complete _, _ => { g with hand := none }
  | _, _ => g

/-- What a thread does only with the GUID, and only with or without a request in hand. -/
def Allow (g : Custody) : CoordinatorAction → Prop
  | .acquire => g.holds = false
  | .release => g.holds = true ∧ g.hand = none
  | .submitClockRequest _ _ => g.holds = false ∧ g.hand = none
  | .tryConsumePending => g.hand = none
  | .complete completion =>
    ∃ superseded, g.hand = some ⟨completion.token, superseded⟩ ∧
      (completion.outcome = .superseded ↔ superseded = true)
  | .storeSession _ => g.holds = true
  | _ => True

/-- How a program leaves the custody. -/
def End (g : Custody) : Next → Prop
  | .returned _ => g = {}
  | .drainPending => g = { holds := true }
  | .clockRequestLoop current _ => g = { holds := true, hand := some ⟨current.token, false⟩ }

end Custody

def custody : Protocol CoordinatorAction Answer Custody where
  allow := Custody.Allow
  follow g a r g' := g' = g.next a r

/-- Actions that touch neither the gate nor the broker. -/
def Inner : CoordinatorAction → Prop
  | .acquire | .release | .submitClockRequest _ _ | .tryConsumePending | .complete _ =>
    False
  | _ => True

/-- A part of an operation between its claim and its release. -/
lemma Inner.follows {α : Type} {p : Op α} {Q : Custody → α → Prop} {g : Custody}
    (hp : Always Inner p) (hholds : g.holds = true) (hQ : ∀ a, Q g a) :
    Follows custody Q g p := by
  refine Always.follows (fun a ha => ?_) hp hQ
  cases a <;> first | exact ha.elim | exact ⟨trivial, fun r g' hg => hg⟩ |
    exact ⟨hholds, fun r g' hg => hg⟩

/-! ### What the stages of a start record -/

def DuplexRestartSession.withoutProgress (session : DuplexRestartSession) : DuplexRestartSession :=
  { session.clearRestartProgress with generation := 0, appliedClock := {} }

/-- A stage records its phase, its progress and what the device answered, and nothing else. -/
def Stage.OnlyProgress : Stage → Prop
  | .abortIfTeardown => True
  | .record commit => ∀ session, (commit session).withoutProgress = session.withoutProgress
  | .call _ _ _ commit => ∀ f ∈ commit, ∀ answer session,
      (f answer session).withoutProgress = session.withoutProgress

lemma onlyProgress_startHostStages (direction : DuplexHostDirection) :
    ∀ stage ∈ startHostStages direction, stage.OnlyProgress := by
  cases direction <;>
    simp [startHostStages, Stage.OnlyProgress, DuplexRestartSession.withoutProgress,
      DuplexRestartSession.clearRestartProgress]

lemma onlyProgress_prepareStages (desiredClock : AudioClockConfig) :
    ∀ stage ∈ prepareStages desiredClock, stage.OnlyProgress := by
  simp [prepareStages, Stage.OnlyProgress, DuplexRestartSession.withoutProgress,
      DuplexRestartSession.clearRestartProgress]

lemma onlyProgress_reserveStages (channels : DuplexStreamProfile) :
    ∀ stage ∈ reserveStages channels, stage.OnlyProgress := by
  intro stage hstage
  simp only [reserveStages, List.cons_append, List.mem_cons, List.mem_append, List.mem_map,
    List.not_mem_nil, or_false] at hstage
  rcases hstage with rfl | ((⟨i, -, rfl⟩ | rfl | rfl) | ⟨i, -, rfl⟩) | rfl <;>
    simp [Stage.OnlyProgress, DuplexRestartSession.withoutProgress,
      DuplexRestartSession.clearRestartProgress]

lemma onlyProgress_prepareHostStages (channels : DuplexStreamProfile)
    (direction : DuplexHostDirection) :
    ∀ stage ∈ prepareHostStages channels direction, stage.OnlyProgress := by
  intro stage hstage
  cases direction <;>
    simp only [prepareHostStages, List.mem_append, List.mem_cons, List.mem_flatMap,
      List.not_mem_nil, or_false] at hstage <;>
    rcases hstage with (rfl | rfl) | ⟨i, -, rfl | rfl⟩ <;> simp [Stage.OnlyProgress]

lemma onlyProgress_clockLockStages (profile : DuplexStreamProfile) :
    ∀ stage ∈ clockLockStages profile, stage.OnlyProgress := by
  unfold clockLockStages
  split_ifs
  · simp [Stage.OnlyProgress, DuplexRestartSession.withoutProgress,
      DuplexRestartSession.clearRestartProgress]
  · simp

lemma onlyProgress_programStages (profile : DuplexStreamProfile) :
    ∀ stage ∈ programStages profile, stage.OnlyProgress := by
  have hhost (early : Bool) (direction : DuplexHostDirection) (stage : Stage)
      (hstage : stage ∈ if early then startHostStages direction else []) : stage.OnlyProgress := by
    cases early with
    | true => exact onlyProgress_startHostStages direction stage hstage
    | false => cases hstage
  intro stage hstage
  simp only [programStages, List.mem_append, List.mem_cons, List.mem_flatMap, List.not_mem_nil,
    or_false] at hstage
  rcases hstage with (((hstage | rfl | rfl) | hstage) | rfl | rfl | rfl) | ⟨direction, -, hstage⟩
  · exact hhost _ _ stage hstage
  · trivial
  · simp [Stage.OnlyProgress, DuplexRestartSession.withoutProgress,
      DuplexRestartSession.clearRestartProgress]
  · exact hhost _ _ stage hstage
  · trivial
  · simp [Stage.OnlyProgress, DuplexRestartSession.withoutProgress,
      DuplexRestartSession.clearRestartProgress]
  · trivial
  · split_ifs at hstage
    · cases hstage
    · exact onlyProgress_startHostStages direction stage hstage

lemma onlyProgress_laterStages (channels profile : DuplexStreamProfile) :
    ∀ stage ∈ profile.prepareOrder.flatMap (prepareHostStages channels) ++
      clockLockStages profile ++ programStages profile, stage.OnlyProgress := by
  intro stage hstage
  rw [List.mem_append, List.mem_append, List.mem_flatMap] at hstage
  rcases hstage with (⟨direction, -, hstage⟩ | hstage) | hstage
  · exact onlyProgress_prepareHostStages channels direction stage hstage
  · exact onlyProgress_clockLockStages profile stage hstage
  · exact onlyProgress_programStages profile stage hstage

/-! ### The stages touch neither gate nor broker -/

lemma inner_setSessionState (session : DuplexRestartSession) (next : DuplexLifecycleKind) :
    Always Inner (setSessionState session next) := by
  unfold setSessionState
  cases session.setLifecycle next with
  | some session => trivial
  | none => exact ⟨trivial, fun _ => trivial⟩

lemma inner_enterIdle (session : DuplexRestartSession) : Always Inner (enterIdle session) := by
  unfold enterIdle
  cases session.enterIdle with
  | some session => trivial
  | none => exact ⟨trivial, fun _ => trivial⟩

lemma inner_enterFailed (session : DuplexRestartSession) :
    Always Inner (enterFailed session) := by
  unfold enterFailed
  cases session.enterFailed with
  | some session => trivial
  | none => exact ⟨trivial, fun _ => trivial⟩

lemma inner_stopContexts (profile : DuplexStreamProfile) :
    Always Inner (stopContexts profile) := by
  unfold stopContexts
  simp [Inner]

lemma inner_runDuplexStop (session : DuplexRestartSession) :
    Always Inner (runDuplexStop session) := by
  unfold runDuplexStop
  simp only [always_perform_bind, always_ite, always_pure, Inner, true_and, implies_true]
  intro _ _
  apply (inner_setSessionState _ _).bind
  rintro (_ | session)
  · trivial
  · simp only [always_perform_bind, Inner, true_and]
    intro _ profile
    apply (inner_stopContexts profile).bind
    rintro (_ | result)
    · trivial
    · simp only [always_ite]
      constructor
      · intro _
        exact (inner_enterIdle _).bind fun _ => ⟨trivial, fun _ => trivial⟩
      · intro _
        exact (inner_enterFailed _).bind fun _ => ⟨trivial, fun _ => trivial⟩

namespace StartContext

variable (t : StartContext)

lemma inner_isRestartEpochCurrent : Always Inner t.isRestartEpochCurrent := by
  unfold isRestartEpochCurrent
  simp [Inner]

lemma inner_finalizeFailure (session : DuplexRestartSession) (failureStatus : IOReturn)
    (failedPhase : DuplexRestartPhase) (cause : DuplexRestartFailureCause)
    (errorClass : DuplexRestartErrorClass) (rollbackAttempted : Bool) (rollbackStatus : IOReturn)
    (hostStateKnown deviceStateKnown : Bool) :
    Always Inner (t.finalizeFailure session failureStatus failedPhase cause errorClass
      rollbackAttempted rollbackStatus hostStateKnown deviceStateKnown) :=
  (inner_enterFailed _).bind fun _ => ⟨trivial, fun _ => trivial⟩

lemma inner_rollbackToFailure (session : DuplexRestartSession) (failureStatus : IOReturn)
    (failedPhase : DuplexRestartPhase) (cause : DuplexRestartFailureCause) :
    Always Inner (t.rollbackToFailure session failureStatus failedPhase cause) := by
  have hrest (_ : DeviceAnswer) : Always Inner (runDuplexStop session >>= fun stopped =>
      t.finalizeFailure stopped.2 failureStatus failedPhase cause .stageFailure true stopped.1
        true true) :=
    (inner_runDuplexStop session).bind fun _ => t.inner_finalizeFailure ..
  unfold rollbackToFailure
  simp only [always_ite, always_perform_bind, Inner, true_and, always_pure, implies_true]
  exact ⟨fun _ _ _ => hrest, fun _ => hrest⟩

lemma inner_rollbackToInvalidation (session : DuplexRestartSession)
    (failedPhase : DuplexRestartPhase) (cause : DuplexRestartFailureCause) :
    Always Inner (t.rollbackToInvalidation session failedPhase cause) := by
  unfold rollbackToInvalidation
  simp only [always_ite, always_perform_bind, Inner, true_and, always_pure, implies_true]
  intro _ _ _
  apply (inner_runDuplexStop session).bind
  rintro ⟨rollbackStatus, session⟩
  simp only [always_ite]
  constructor
  · intro _
    exact t.inner_finalizeFailure ..
  · intro _
    refine ⟨trivial, fun stopped => ?_⟩
    exact (inner_enterIdle _).bind fun _ => ⟨trivial, fun _ => trivial⟩

end StartContext

lemma inner_stageCall (call : StageCall) : Always Inner call.run := by
  cases call with
  | host call => exact ⟨trivial, fun _ => trivial⟩
  | device call => exact ⟨trivial, fun _ => trivial⟩

lemma inner_runStages (t : StartContext) (stages : List Stage) (session : DuplexRestartSession) :
    Always Inner (runStages t stages session) := by
  induction stages generalizing session with
  | nil => trivial
  | cons stage stages ih =>
    cases stage with
    | abortIfTeardown =>
      simp only [runStages, always_perform_bind, always_ite, always_pure, Inner, true_and,
        implies_true]
      exact fun _ _ => ih session
    | record commit => exact ⟨trivial, fun _ => ih _⟩
    | call call failedPhase cause commit =>
      apply (inner_stageCall call).bind
      intro answer
      simp only [always_ite]
      constructor
      · intro _
        exact (t.inner_rollbackToFailure ..).bind fun _ => trivial
      · intro _
        apply t.inner_isRestartEpochCurrent.bind
        intro current
        simp only [always_ite]
        constructor
        · intro _
          exact (t.inner_rollbackToInvalidation ..).bind fun _ => trivial
        · intro _
          cases commit with
          | none => exact ih session
          | some commit => exact ⟨trivial, fun _ => ih _⟩

lemma inner_confirmStart (t : StartContext) (session : DuplexRestartSession) :
    Always Inner (confirmStart t session) := by
  unfold confirmStart
  simp only [always_perform_bind, always_ite, always_pure, Inner, true_and, implies_true]
  intro _ _ confirm
  constructor
  · intro _
    exact t.inner_rollbackToFailure ..
  · intro _
    apply t.inner_isRestartEpochCurrent.bind
    intro current
    simp only [always_ite]
    constructor
    · intro _
      exact t.inner_rollbackToInvalidation ..
    · intro _
      apply (inner_setSessionState _ _).bind
      rintro (_ | session)
      · exact t.inner_rollbackToFailure ..
      · exact ⟨trivial, fun _ => trivial⟩

lemma inner_startDuplex (t : StartContext) (channels : DuplexStreamProfile)
    (session : DuplexRestartSession) : Always Inner (startDuplex t channels session) := by
  unfold startDuplex
  simp only [always_perform_bind, always_ite, always_pure, Inner, true_and, implies_true]
  intro _ _ claimStatus
  constructor
  · intro _
    exact t.inner_finalizeFailure ..
  · intro _ _
    apply (inner_runStages t _ _).bind
    rintro (status | session)
    · trivial
    · apply (inner_runStages t _ _).bind
      rintro (status | session)
      · trivial
      · refine ⟨trivial, fun profile => ?_⟩
        apply (inner_runStages t _ _).bind
        rintro (status | session)
        · trivial
        · exact inner_confirmStart t session

lemma inner_runDuplexStart (record : DuplexRecord) (session : DuplexRestartSession)
    (desiredClock : AudioClockConfig) (reason : DuplexRestartReason) :
    Always Inner (runDuplexStart record session desiredClock reason) := by
  unfold runDuplexStart runTransaction
  simp only [always_perform_bind, always_ite, always_pure, Inner, true_and, implies_true]
  intro _ _ _ _ route
  cases route with
  | none => trivial
  | some route =>
    simp only [always_perform_bind, always_ite, always_pure, Inner, true_and, implies_true]
    intro _ _ _ channels restartId client
    constructor
    · intro _
      exact StartContext.inner_finalizeFailure ..
    · intro _ source
      constructor
      · intro _
        exact StartContext.inner_finalizeFailure ..
      · intro _
        apply (inner_enterIdle _).bind
        rintro (_ | session)
        · exact StartContext.inner_rollbackToFailure ..
        · apply (inner_setSessionState _ _).bind
          rintro (_ | session)
          · exact StartContext.inner_rollbackToFailure ..
          · exact ⟨trivial, fun _ => inner_startDuplex ..⟩

lemma inner_runIdleClockApply (session : DuplexRestartSession) (topologyGeneration : ℕ)
    (desiredClock : AudioClockConfig) (reason : DuplexRestartReason) :
    Always Inner (runIdleClockApply session topologyGeneration desiredClock reason) := by
  unfold runIdleClockApply
  simp only [always_perform_bind, always_ite, always_pure, Inner, true_and, implies_true]
  intro _ _ route
  cases route with
  | none => trivial
  | some route =>
    simp only [always_perform_bind, always_ite, always_pure, Inner, true_and, implies_true]
    intro _ _ restartId
    apply (inner_enterIdle _).bind
    rintro (_ | session)
    · trivial
    · apply (inner_setSessionState _ _).bind
      rintro (_ | session)
      · trivial
      · simp only [always_perform_bind, always_ite, Inner, true_and]
        intro _ apply'
        constructor
        · intro _
          exact (inner_enterFailed _).bind fun _ => ⟨trivial, fun _ => trivial⟩
        · intro _
          apply (StartContext.inner_isRestartEpochCurrent _).bind
          intro current
          simp only [always_perform_bind, always_ite, Inner, true_and]
          constructor
          · intro _ stopped
            exact (inner_enterIdle _).bind fun _ => ⟨trivial, fun _ => trivial⟩
          · intro _
            exact (inner_enterIdle _).bind fun _ => ⟨trivial, fun _ => trivial⟩

lemma inner_applyClockRequest (request : PendingClockRequest) :
    Always Inner (applyClockRequest request) := by
  unfold applyClockRequest
  simp only [always_perform_bind, always_ite, always_pure, Inner, true_and, implies_true]
  intro _ _ _ _ _ _ record
  cases record with
  | none => trivial
  | some record =>
    simp only [always_perform_bind, always_ite, always_pure, Inner, true_and, implies_true]
    intro _ session
    constructor
    · intro _ _ _
      apply (inner_runDuplexStop session).bind
      rintro ⟨stopStatus, session⟩
      simp only [always_perform_bind, always_ite, always_pure, Inner, true_and, implies_true]
      intro _ _ _
      exact inner_runDuplexStart ..
    · intro _ _ _
      exact inner_runIdleClockApply ..

/-! ### What every operation does with the GUID and the requests -/

section Custody

variable {α : Type} {Q : Custody → α → Prop} {g : Custody}

lemma custody_allow {a : CoordinatorAction} : custody.allow g a ↔ g.Allow a := Iff.rfl

lemma custody_follow {a : CoordinatorAction} {r : Answer a} {g' : Custody} :
    custody.follow g a r g' ↔ g' = g.next a r := Iff.rfl

lemma custody_perform_bind {a : CoordinatorAction} {f : Answer a → Op α} :
    Follows custody Q g (Program.perform a >>= f) ↔
      g.Allow a ∧ ∀ r, Follows custody Q (g.next a r) (f r) := by
  apply and_congr_right
  intro _
  apply forall_congr'
  intro r
  constructor
  · exact fun h => h _ rfl
  · rintro h g' rfl
    exact h

lemma custody_claimGuid (polls : ℕ) {Q : Custody → Claim → Prop}
    (hacquired : Q { holds := true } .acquired) (htimedOut : Q {} .timedOut)
    (htornDown : Q {} .tornDown) : Follows custody Q {} (claimGuid polls) := by
  induction polls with
  | zero => exact htimedOut
  | succ polls ih =>
    rw [claimGuid, custody_perform_bind]
    refine ⟨rfl, fun acquired => ?_⟩
    cases acquired with
    | true => exact hacquired
    | false =>
      simp only [Bool.false_eq_true, if_false]
      rw [custody_perform_bind]
      refine ⟨trivial, fun torn => ?_⟩
      cases torn with
      | true => exact htornDown
      | false => exact ih

lemma custody_completeClockRequest {Q : Custody → Unit → Prop} {request : PendingClockRequest}
    {outcome : DuplexClockRequestOutcome} {status : IOReturn} (houtcome : outcome ≠ .superseded)
    (hhand : g.hand = some ⟨request.token, false⟩) (hQ : Q { g with hand := none } ()) :
    Follows custody Q g (completeClockRequest request outcome status) := by
  unfold completeClockRequest
  rw [custody_perform_bind]
  refine ⟨trivial, fun session => ?_⟩
  refine ⟨⟨false, hhand, by simp [houtcome]⟩, ?_⟩
  rintro _ g' rfl
  exact hQ

lemma custody_failPendingClockRequest {Q : Custody → Unit → Prop}
    {outcome : DuplexClockRequestOutcome} {status : IOReturn} (houtcome : outcome ≠ .superseded)
    (hhand : g.hand = none) (hQ : Q g ()) :
    Follows custody Q g (failPendingClockRequest outcome status) := by
  unfold failPendingClockRequest
  rw [custody_perform_bind]
  refine ⟨hhand, fun request => ?_⟩
  cases request with
  | none => exact hQ
  | some request =>
    apply custody_completeClockRequest houtcome rfl
    rw [← hhand]
    exact hQ

lemma custody_abortClockRequests {Q : Custody → Unit → Prop} {request : PendingClockRequest}
    (hhand : g.hand = some ⟨request.token, false⟩) (hQ : Q { g with hand := none } ()) :
    Follows custody Q g (abortClockRequests request) := by
  unfold abortClockRequests
  rw [follows_bind]
  apply custody_completeClockRequest (by simp) hhand
  exact custody_failPendingClockRequest (by simp) rfl hQ

lemma custody_awaitCompletion (token polls : ℕ) :
    Follows custody Custody.End {} (awaitCompletion token polls) := by
  induction polls with
  | zero => rfl
  | succ polls ih =>
    rw [awaitCompletion, custody_perform_bind]
    refine ⟨trivial, fun completion => ?_⟩
    cases completion with
    | some completion => rfl
    | none =>
      rw [custody_perform_bind]
      refine ⟨trivial, fun torn => ?_⟩
      cases torn with
      | true => rfl
      | false => exact ih

lemma custody_endStart (status : IOReturn) :
    Follows custody Custody.End { holds := true } (endStart status) := by
  unfold endStart
  rw [custody_perform_bind]
  exact ⟨⟨rfl, rfl⟩, fun _ => rfl⟩

lemma custody_endClockRequestLoop (awaited : ℕ) :
    Follows custody Custody.End { holds := true } (endClockRequestLoop awaited) := by
  unfold endClockRequestLoop
  rw [custody_perform_bind]
  exact ⟨⟨rfl, rfl⟩, fun _ => custody_awaitCompletion awaited clockRequestPolls⟩

lemma inner_stopOrTeardown : Always Inner stopOrTeardown := by
  unfold stopOrTeardown
  simp [Inner]

lemma custody_clockRequestRound (current : PendingClockRequest) (awaited : ℕ) :
    Follows custody Custody.End { holds := true, hand := some ⟨current.token, false⟩ }
      (clockRequestRound current awaited) := by
  have hend : Follows custody Custody.End
      { holds := true, hand := some ⟨current.token, false⟩ }
      (abortClockRequests current >>= fun _ => endClockRequestLoop awaited) := by
    rw [follows_bind]
    apply custody_abortClockRequests rfl
    exact custody_endClockRequestLoop awaited
  unfold clockRequestRound
  rw [follows_bind]
  apply Inner.follows inner_stopOrTeardown rfl
  intro stopped
  rw [follows_ite]
  refine ⟨fun _ => hend, fun _ => ?_⟩
  rw [follows_bind]
  apply Inner.follows (inner_applyClockRequest current) rfl
  intro status
  rw [follows_bind]
  apply Inner.follows inner_stopOrTeardown rfl
  intro stopped
  rw [follows_ite]
  refine ⟨fun _ => hend, fun _ => ?_⟩
  rw [follows_bind]
  apply custody_completeClockRequest _ rfl
  · rw [custody_perform_bind]
    refine ⟨rfl, fun next => ?_⟩
    cases next with
    | none => exact custody_endClockRequestLoop awaited
    | some next => rfl
  · unfold appliedOutcome
    split_ifs <;> simp

lemma custody_drainRound : Follows custody Custody.End { holds := true } drainRound := by
  unfold drainRound
  rw [custody_perform_bind]
  refine ⟨rfl, fun pending => ?_⟩
  cases pending with
  | none => exact custody_endStart .success
  | some pending =>
    have hend : Follows custody Custody.End
        { holds := true, hand := some ⟨pending.token, false⟩ }
        (abortClockRequests pending >>= fun _ => endStart .success) := by
      rw [follows_bind]
      apply custody_abortClockRequests rfl
      exact custody_endStart .success
    dsimp only
    rw [custody_perform_bind]
    refine ⟨trivial, fun stopped => ?_⟩
    rw [follows_ite]
    refine ⟨fun _ => hend, fun _ => ?_⟩
    rw [follows_bind]
    apply Inner.follows (inner_applyClockRequest pending) rfl
    intro status
    rw [custody_perform_bind]
    refine ⟨trivial, fun stopped => ?_⟩
    rw [follows_ite]
    refine ⟨fun _ => hend, fun _ => ?_⟩
    rw [follows_bind]
    apply custody_completeClockRequest _ rfl
    · rfl
    · unfold appliedOutcome
      split_ifs <;> simp

lemma custody_requestClockConfig (desiredClock : AudioClockConfig)
    (reason : DuplexRestartReason) :
    Follows custody Custody.End {} (requestClockConfig desiredClock reason) := by
  unfold requestClockConfig
  simp only [follows_perform_bind, custody_allow, custody_follow, forall_eq, follows_ite, follows_pure]
  refine ⟨trivial, fun guarded => ⟨fun _ => rfl, fun _ => ⟨trivial, fun torn => ⟨fun _ => rfl,
    fun _ => ⟨fun _ => rfl, fun _ => ⟨trivial, fun session => ⟨⟨rfl, rfl⟩, ?_⟩⟩⟩⟩⟩⟩⟩
  intro submission
  cases submission with
  | refused => rfl
  | launched token => rfl
  | queued token superseded =>
    cases superseded with
    | none => exact custody_awaitCompletion token clockRequestPolls
    | some superseded =>
      rw [custody_perform_bind]
      exact ⟨⟨true, rfl, by simp⟩, fun _ => custody_awaitCompletion token clockRequestPolls⟩

lemma custody_runStartStreaming :
    Follows custody Custody.End { holds := true } runStartStreaming := by
  have hfail (outcome : DuplexClockRequestOutcome) (reported status : IOReturn)
      (houtcome : outcome ≠ .superseded) : Follows custody Custody.End { holds := true }
        (failPendingClockRequest outcome reported >>= fun _ => endStart status) := by
    rw [follows_bind]
    exact custody_failPendingClockRequest houtcome rfl (custody_endStart status)
  unfold runStartStreaming
  rw [custody_perform_bind]
  refine ⟨trivial, fun torn => ?_⟩
  rw [follows_ite]
  refine ⟨fun _ => custody_endStart .aborted, fun _ => ?_⟩
  rw [custody_perform_bind]
  refine ⟨trivial, fun record => ?_⟩
  cases record with
  | none => exact hfail .failed .notReady .notReady (by simp)
  | some record =>
    dsimp only
    rw [custody_perform_bind]
    refine ⟨trivial, fun session => ?_⟩
    rw [follows_bind]
    apply Inner.follows (inner_runDuplexStart ..) rfl
    intro status
    rw [follows_ite]
    refine ⟨fun _ => hfail .failed status status (by simp), fun _ => ?_⟩
    rw [custody_perform_bind]
    refine ⟨trivial, fun stopped => ?_⟩
    rw [follows_ite]
    exact ⟨fun _ => hfail .abortedByStop .aborted .success (by simp), fun _ => rfl⟩

lemma custody_startStreaming : Follows custody Custody.End {} startStreaming := by
  unfold startStreaming
  simp only [follows_perform_bind, custody_allow, custody_follow, forall_eq, follows_ite, follows_pure]
  refine ⟨trivial, fun guarded => ⟨fun _ => rfl, fun _ => ⟨trivial, fun torn => ⟨fun _ => rfl,
    fun _ => ⟨trivial, fun stopped => ⟨fun _ => rfl, fun _ => ⟨trivial, fun _ => ?_⟩⟩⟩⟩⟩⟩⟩
  rw [follows_bind]
  apply custody_claimGuid
  · exact custody_runStartStreaming
  · rfl
  · rfl

lemma inner_runStopStreaming : Always Inner runStopStreaming := by
  unfold runStopStreaming
  simp only [always_perform_bind, always_ite, always_pure, Inner, true_and, implies_true]
  intro _ _ existing _ record
  cases record with
  | none => exact ⟨trivial, fun _ => ⟨trivial, fun _ => trivial⟩⟩
  | some record =>
    exact ⟨trivial, fun loaded => (inner_runDuplexStop _).bind fun _ => trivial⟩

lemma custody_stopStreaming : Follows custody Custody.End {} stopStreaming := by
  unfold stopStreaming
  simp only [follows_perform_bind, custody_allow, custody_follow, forall_eq, follows_ite, follows_pure]
  refine ⟨trivial, fun torn => ⟨fun _ => rfl, fun _ => ⟨trivial, fun _ => ⟨trivial,
    fun _ => ?_⟩⟩⟩⟩
  rw [follows_bind]
  apply custody_failPendingClockRequest (by simp) rfl
  rw [follows_bind]
  apply custody_claimGuid
  · dsimp only
    rw [follows_bind]
    apply Inner.follows inner_runStopStreaming rfl
    intro status
    rw [follows_bind]
    apply custody_failPendingClockRequest (by simp) rfl
    rw [custody_perform_bind]
    exact ⟨trivial, fun _ => custody_endStart status⟩
  · exact ⟨trivial, fun _ _ hg => hg⟩
  · exact ⟨trivial, fun _ _ hg => hg⟩

lemma inner_recordRecovery (session : DuplexRestartSession) (reason : DuplexRestartReason) :
    Always Inner (recordRecovery session reason) := by
  unfold recordRecovery
  simp [Inner]

lemma inner_failSession (record : Option DuplexRecord) (session : DuplexRestartSession)
    (reason : DuplexRestartReason) : Always Inner (failSession record session reason) :=
  (inner_enterFailed _).bind fun _ => ⟨trivial, fun _ => trivial⟩

lemma inner_restartSession (record : DuplexRecord) (session : DuplexRestartSession)
    (reason : DuplexRestartReason) : Always Inner (restartSession record session reason) := by
  unfold restartSession
  simp only [always_perform_bind, always_ite, always_pure, Inner, true_and, implies_true]
  constructor
  · intro _ _ _
    apply (inner_runDuplexStop session).bind
    rintro ⟨stopStatus, session⟩
    simp only [always_ite, always_pure, implies_true, true_and]
    intro _
    apply inner_stopOrTeardown.bind
    intro stopped
    simp only [always_ite, always_pure, implies_true, true_and]
    exact fun _ => inner_runDuplexStart ..
  · intro _
    apply inner_stopOrTeardown.bind
    intro stopped
    simp only [always_ite, always_pure, implies_true, true_and]
    exact fun _ => inner_runDuplexStart ..

lemma inner_runRecoveryStreaming (reason : DuplexRestartReason) :
    Always Inner (runRecoveryStreaming reason) := by
  unfold runRecoveryStreaming
  simp only [always_perform_bind, always_ite, always_pure, Inner, true_and, implies_true]
  intro _ _ record session
  apply (inner_recordRecovery session reason).bind
  intro session
  simp only [always_perform_bind, Inner, true_and]
  intro stopRequested
  split
  · trivial
  · exact inner_failSession ..
  · trivial
  · exact inner_restartSession ..

lemma inner_recoveryCurrent (expectedRestartId : ℕ) :
    Always Inner (recoveryCurrent expectedRestartId) := by
  unfold recoveryCurrent
  simp [Inner]

lemma custody_recoverStreaming (reason : DuplexRestartReason) (expectedRestartId : ℕ) :
    Follows custody Custody.End {} (recoverStreaming reason expectedRestartId) := by
  unfold recoverStreaming
  simp only [follows_perform_bind, custody_allow, custody_follow, forall_eq, follows_ite, follows_pure]
  refine ⟨trivial, fun guarded => ⟨fun _ => rfl, fun _ => ⟨trivial, fun torn => ⟨fun _ => rfl,
    fun _ => ⟨trivial, fun stopped => ⟨fun _ => rfl, fun _ => ⟨trivial, fun _ => ?_⟩⟩⟩⟩⟩⟩⟩
  rw [follows_bind]
  apply custody_claimGuid
  · dsimp only
    rw [follows_bind]
    apply Inner.follows (inner_recoveryCurrent expectedRestartId) rfl
    intro current
    rw [follows_ite]
    refine ⟨fun _ => custody_endStart .aborted, fun _ => ?_⟩
    rw [follows_bind]
    apply custody_failPendingClockRequest (by simp) rfl
    rw [follows_bind]
    apply Inner.follows (inner_runRecoveryStreaming reason) rfl
    exact custody_endStart
  · rfl
  · rfl

/-- Every call keeps to the custody of the GUID and of the requests. -/
theorem custody_call (call : Call) : Follows custody Custody.End {} call.program := by
  cases call with
  | startStreaming => exact custody_startStreaming
  | stopStreaming => exact custody_stopStreaming
  | requestClockConfig desiredClock reason => exact custody_requestClockConfig desiredClock reason
  | recoverStreaming reason expectedRestartId =>
    exact custody_recoverStreaming reason expectedRestartId
  | cancelRemoteDevice =>
    refine custody_perform_bind.mpr ⟨trivial, fun _ => ?_⟩
    rw [follows_bind]
    exact custody_failPendingClockRequest (by simp) rfl rfl
  | acknowledgeDevicePresent => exact custody_perform_bind.mpr ⟨trivial, fun _ => rfl⟩

/-- And so does every round of a loop. -/
theorem custody_next {next : Next} (hend : g.End next) {p : Op Next}
    (hp : next.program = some p) : Follows custody Custody.End g p := by
  cases next with
  | returned status => cases hp
  | drainPending =>
    cases hp
    cases hend
    exact custody_drainRound
  | clockRequestLoop current awaited =>
    cases hp
    cases hend
    exact custody_clockRequestRound current awaited

end Custody

/-! ### Threads -/

structure Thread where
  program : Op Next := .done (.returned .success)
  custody : Custody := {}
  deriving Inhabited

/-- The calls so far are numbered. `completions` are all completions made, and `displaced` the
tokens that were pending when a newer request was queued. -/
structure DuplexWorld where
  shared : SharedState := {}
  threads : ℕ → Thread := fun _ => {}
  calls : ℕ := 0
  completions : List DuplexClockRequestCompletion := []
  displaced : List ℕ := []

inductive DuplexEvent
  | call (call : Call)
  | run (thread : ℕ) (answers : ∀ a, Answer a)
  | clearSession
  | teardown

namespace DuplexWorld

def completionsAfter (w : DuplexWorld) : CoordinatorAction → List DuplexClockRequestCompletion
  | .complete completion => w.completions ++ [completion]
  | _ => w.completions

def displacedAfter (w : DuplexWorld) : (a : CoordinatorAction) → Answer a → List ℕ
  | .submitClockRequest _ _, .queued _ _ =>
    w.displaced ++ (w.shared.pending.map (·.token)).toList
  | _, _ => w.displaced

/-- Thread `i` performs an action. -/
def act (w : DuplexWorld) (i : ℕ) (answers : ∀ a, Answer a) (a : CoordinatorAction)
    (next : Answer a → Op Next) : DuplexWorld :=
  let (shared, r) := w.shared.perform answers a
  { w with
    shared := shared
    threads := Function.update w.threads i ⟨next r, (w.threads i).custody.next a r⟩
    completions := w.completionsAfter a
    displaced := w.displacedAfter a r }

def step (w : DuplexWorld) : DuplexEvent → DuplexWorld
  | .call call =>
    { w with
      threads := Function.update w.threads w.calls ⟨call.program, {}⟩
      calls := w.calls + 1 }
  | .run i answers =>
    match (w.threads i).program with
    | .act a next => w.act i answers a next
    | .done next =>
      match next.program with
      | none => w
      | some program =>
        { w with threads := Function.update w.threads i { w.threads i with program := program } }
  | .clearSession => { w with shared := w.shared.clearSession }
  | .teardown => { w with shared := { w.shared with cancel := true } }

end DuplexWorld

end ASFireWire.Duplex
