import ASFireWire.DuplexThreads

/-! The lifecycle, phase and progress an operation leaves in the stored session, on every path
through its stages. -/
namespace ASFireWire.Duplex

open Programs

/-- What the restart machine writes of a session; `anyProgress` is `HasAnyRestartState`. -/
structure ProgressFields where
  lifecycle : DuplexLifecycleKind := .idle
  phase : DuplexRestartPhase := .idle
  anyProgress : Bool := false
  deviceRunning : Bool := false
  deriving DecidableEq, Repr

def DuplexRestartSession.progressFields (session : DuplexRestartSession) : ProgressFields where
  lifecycle := session.lifecycle
  phase := session.phase
  anyProgress := session.hasAnyRestartState
  deviceRunning := session.deviceRunning

namespace ProgressFields

def failed : ProgressFields := { lifecycle := .failed, phase := .failed }

def Running (f : ProgressFields) : Prop :=
  f.lifecycle = .running ∧ f.phase = .running ∧ f.deviceRunning = true

/-- Idle or failed with nothing in progress, or running. -/
def AtRest (f : ProgressFields) : Prop := f = {} ∨ f = failed ∨ f.Running

instance : DecidablePred AtRest := fun f =>
  inferInstanceAs (Decidable (f = {} ∨ f = failed ∨
    (f.lifecycle = .running ∧ f.phase = .running ∧ f.deviceRunning = true)))

end ProgressFields

/-- The fields of the stored session, if there is one. -/
abbrev Stored : Type := Option ProgressFields

def Stored.AtRest (stored : Stored) : Prop := ∀ f, stored = some f → f.AtRest

/-- The stored fields as the thread knows them while it has the GUID. -/
abbrev HeldFields : Type := Option Stored

/-- A refused transition is never attempted, and the GUID is released only at rest. A `stop` finds
the device exactly where a session is stored; and there is no teardown. -/
def lifecycles (stop : Bool) : Protocol CoordinatorAction Answer HeldFields where
  allow g
    | .illegalTransition _ _ => False
    | .release => ∀ stored, g = some stored → stored.AtRest
    | _ => True
  follow g
    | .acquire, true, g' => ∃ stored : Stored, stored.AtRest ∧ g' = some stored
    | .submitClockRequest _ _, .launched _, g' => ∃ stored : Stored, stored.AtRest ∧ g' = some stored
    | .release, _, g' => g' = none
    | .loadSession _, session, g' =>
      (∀ stored, g = some stored → session.progressFields = stored.getD {}) ∧ g' = g
    | .getSession _, session, g' =>
      (∀ stored, g = some stored → session.map (·.progressFields) = stored) ∧ g' = g
    | .storeSession session, _, g' => g' = g.map fun _ => some session.progressFields
    | .teardownRequested, torn, g' => torn = false ∧ g' = g
    | .requireDuplexRecord, record, g' =>
      (stop = true → ∀ stored, g = some stored → record.isSome = stored.isSome) ∧ g' = g
    | _, _, g' => g' = g

section Lifecycles

variable {α : Type} {stop : Bool} {Q : HeldFields → α → Prop} {g : HeldFields}

/-- Actions that leave the GUID and the stored session alone. -/
def bystanding : CoordinatorAction → Bool
  | .illegalTransition _ _ | .release | .acquire | .submitClockRequest _ _ | .storeSession _ => false
  | _ => true

lemma bystanding_follow {a : CoordinatorAction} (ha : bystanding a = true) {r : Answer a}
    {g' : HeldFields} (h : (lifecycles stop).follow g a r g') : g' = g := by
  cases a with
  | loadSession forUpdate => exact h.2
  | getSession forUpdate => exact h.2
  | teardownRequested => exact h.2
  | requireDuplexRecord => exact h.2
  | _ => first | exact h | cases ha

lemma bystanding_allow {a : CoordinatorAction} (ha : bystanding a = true) :
    (lifecycles stop).allow g a := by
  cases a <;> trivial

lemma bystanding_follows {p : Op α} (hp : Always (bystanding · = true) p) (hQ : ∀ a, Q g a) :
    Follows (lifecycles stop) Q g p :=
  Always.follows (fun _ ha => ⟨bystanding_allow ha, fun _ _ hg => bystanding_follow ha hg⟩) hp hQ

/-- An action whose answer does not matter here. -/
lemma life_perform_bind {a : CoordinatorAction} {f : Answer a → Op α} (ha : bystanding a = true)
    (hf : ∀ r, Follows (lifecycles stop) Q g (f r)) :
    Follows (lifecycles stop) Q g (Program.perform a >>= f) := by
  refine ⟨bystanding_allow ha, fun r g' hg => ?_⟩
  rw [bystanding_follow ha hg]
  exact hf r

lemma life_ite {c : Prop} [Decidable c] {p q : Op α} (hp : c → Follows (lifecycles stop) Q g p)
    (hq : ¬ c → Follows (lifecycles stop) Q g q) :
    Follows (lifecycles stop) Q g (if c then p else q) :=
  follows_ite.mpr ⟨hp, hq⟩

/-- There is no teardown. -/
lemma life_teardown {q p : Op α} (hp : Follows (lifecycles stop) Q g p) :
    Follows (lifecycles stop) Q g (Op.teardownRequested >>= fun torn => if torn then q else p) := by
  refine ⟨trivial, ?_⟩
  rintro torn g' ⟨rfl, rfl⟩
  exact hp

lemma life_store {session : DuplexRestartSession} {f : Unit → Op α} {stored : Stored}
    (hf : Follows (lifecycles stop) Q (some (some session.progressFields)) (f ())) :
    Follows (lifecycles stop) Q (some stored) (Op.storeSession session >>= f) := by
  refine ⟨trivial, ?_⟩
  rintro r g' rfl
  exact hf

lemma setSessionState_eq {session : DuplexRestartSession} {next : DuplexLifecycleKind}
    (h : canTransitionLifecycle session.lifecycle next = true) :
    setSessionState session next = .done (some { session with lifecycle := next }) := by
  unfold setSessionState DuplexRestartSession.setLifecycle
  rw [if_pos (.inr h)]
  rfl

lemma enterIdle_eq {session : DuplexRestartSession}
    (h : session.lifecycle = .idle ∨ canTransitionLifecycle session.lifecycle .idle = true) :
    enterIdle session =
      .done (some { session.clearRestartProgress .idle with lifecycle := .idle }) := by
  unfold enterIdle DuplexRestartSession.enterIdle
  rw [if_neg]
  · rfl
  · rintro ⟨hidle, hcan⟩
    rcases h with h | h
    · exact hidle h
    · rw [h] at hcan
      cases hcan

lemma enterFailed_eq {session : DuplexRestartSession}
    (h : canTransitionLifecycle session.lifecycle .failed = true) :
    enterFailed session =
      .done { session.clearRestartProgress .failed with lifecycle := .failed } := by
  unfold enterFailed DuplexRestartSession.enterFailed
  rw [if_neg (by simp [h])]
  rfl

lemma progressFields_idle (session : DuplexRestartSession) :
    ({ session.clearRestartProgress .idle with lifecycle := .idle } :
      DuplexRestartSession).progressFields = {} := rfl

lemma progressFields_failed (session : DuplexRestartSession) :
    ({ session.clearRestartProgress .failed with lifecycle := .failed } :
      DuplexRestartSession).progressFields = .failed := rfl

lemma ProgressFields.AtRest.toFailed {f : ProgressFields} (h : f.AtRest) :
    canTransitionLifecycle f.lifecycle .failed = true := by
  rcases h with rfl | rfl | ⟨hrunning, -⟩
  · rfl
  · rfl
  · rw [hrunning]
    rfl

lemma ProgressFields.AtRest.toIdle {f : ProgressFields} (h : f.AtRest) :
    f.lifecycle = .idle ∨ canTransitionLifecycle f.lifecycle .idle = true := by
  rcases h with rfl | rfl | ⟨hrunning, -⟩
  · exact .inl rfl
  · exact .inr rfl
  · rw [hrunning]
    exact .inr rfl

lemma life_enterIdle_bind {session : DuplexRestartSession} {f : Option DuplexRestartSession → Op α}
    (h : session.progressFields.AtRest)
    (hf : Follows (lifecycles stop) Q g
      (f (some { session.clearRestartProgress .idle with lifecycle := .idle }))) :
    Follows (lifecycles stop) Q g (Duplex.enterIdle session >>= f) := by
  rw [enterIdle_eq h.toIdle]
  exact hf

lemma life_setSessionState_bind {session : DuplexRestartSession} {next : DuplexLifecycleKind}
    {f : Option DuplexRestartSession → Op α}
    (h : canTransitionLifecycle session.lifecycle next = true)
    (hf : Follows (lifecycles stop) Q g (f (some { session with lifecycle := next }))) :
    Follows (lifecycles stop) Q g (setSessionState session next >>= f) := by
  rw [setSessionState_eq h]
  exact hf

lemma life_enterIdle_store {session : DuplexRestartSession} {f : DuplexRestartSession → Op α}
    {stored : Stored}
    (h : session.lifecycle = .idle ∨ canTransitionLifecycle session.lifecycle .idle = true)
    (hf : ∀ session', Follows (lifecycles stop) Q (some (some {})) (f session')) :
    Follows (lifecycles stop) Q (some stored) (do
      let session := (← enterIdle session).getD session
      Op.storeSession session
      f session) := by
  rw [enterIdle_eq h, Program.bind_done]
  apply life_store
  exact hf _

lemma life_enterFailed_store {session : DuplexRestartSession} {f : DuplexRestartSession → Op α}
    {stored : Stored} (h : canTransitionLifecycle session.lifecycle .failed = true)
    (hf : ∀ session', Follows (lifecycles stop) Q (some (some .failed)) (f session')) :
    Follows (lifecycles stop) Q (some stored) (do
      let session ← enterFailed session
      Op.storeSession session
      f session) := by
  rw [enterFailed_eq h, Program.bind_done]
  apply life_store
  exact hf _

/-! ### Stop -/

/-- What a stop leaves. -/
def ProgressFields.Stopped (f : ProgressFields) : Prop := f = {} ∨ f = failed

lemma ProgressFields.Stopped.atRest {f : ProgressFields} (h : f.Stopped) : f.AtRest :=
  h.imp id .inl

/-- Without a teardown a stop always comes to a status. -/
lemma life_stopContexts {Q : HeldFields → Option IOReturn → Prop} (profile : DuplexStreamProfile)
    (hQ : ∀ status, Q g (some status)) :
    Follows (lifecycles stop) Q g (stopContexts profile) := by
  have hrest (hostStatus : IOReturn) (deviceAnswer : DeviceAnswer) :
      Follows (lifecycles stop) Q g (if hostStatus ≠ .success then pure (some hostStatus)
        else if deviceAnswer.status = .unsupported then pure (some .success)
        else pure (some deviceAnswer.status)) :=
    life_ite (fun _ => hQ _) fun _ => life_ite (fun _ => hQ _) fun _ => hQ _
  unfold stopContexts
  apply life_ite
  · intro _
    apply life_perform_bind rfl
    intro _
    apply life_perform_bind rfl
    intro transmitStopStatus
    apply life_perform_bind rfl
    intro _
    apply life_perform_bind rfl
    intro receiveStopStatus
    apply life_perform_bind rfl
    intro cleanupStatus
    exact life_ite (fun _ => hQ _) fun _ => life_ite (fun _ => hQ _) fun _ => hQ _
  · intro _
    apply life_perform_bind rfl
    intro hostStatus
    apply life_perform_bind rfl
    intro deviceAnswer
    apply life_ite
    · intro _
      exact life_teardown (hrest hostStatus deviceAnswer)
    · intro _
      exact hrest hostStatus deviceAnswer

/-- A stop from where it may begin leaves the session idle or failed. -/
lemma life_runDuplexStop {Q : HeldFields → IOReturn × DuplexRestartSession → Prop}
    {session : DuplexRestartSession} {stored : Stored}
    (hstop : canTransitionLifecycle session.lifecycle .stopping = true)
    (hQ : ∀ status session', session'.progressFields.Stopped →
      Q (some (some session'.progressFields)) (status, session')) :
    Follows (lifecycles stop) Q (some stored) (runDuplexStop session) := by
  unfold runDuplexStop
  apply life_teardown
  refine life_setSessionState_bind ?_ (life_store (life_perform_bind rfl fun profile => ?_))
  · exact hstop
  rw [follows_bind]
  apply life_stopContexts
  intro result
  apply life_ite
  · intro _
    dsimp only
    rw [enterIdle_eq (.inr rfl), Program.bind_done]
    apply life_store
    exact hQ _ _ (.inl (progressFields_idle _))
  · intro _
    dsimp only
    rw [enterFailed_eq rfl, Program.bind_done]
    apply life_store
    exact hQ _ _ (.inr (progressFields_failed _))

/-! ### Start -/

lemma Stored.atRest_some {f : ProgressFields} (h : f.AtRest) : Stored.AtRest (some f) := by
  rintro _ ⟨⟩
  exact h

lemma Stored.atRest_failed : Stored.AtRest (some .failed) := Stored.atRest_some (.inr (.inl rfl))

/-- The lifecycles of a start under way. -/
def DuplexLifecycleKind.InStart (l : DuplexLifecycleKind) : Prop := l = .starting ∨ l = .recovering

lemma DuplexLifecycleKind.InStart.toStopping {l : DuplexLifecycleKind} (h : l.InStart) :
    canTransitionLifecycle l .stopping = true := by
  rcases h with rfl | rfl <;> rfl

lemma DuplexLifecycleKind.InStart.toFailed {l : DuplexLifecycleKind} (h : l.InStart) :
    canTransitionLifecycle l .failed = true := by
  rcases h with rfl | rfl <;> rfl

lemma DuplexLifecycleKind.InStart.toRunning {l : DuplexLifecycleKind} (h : l.InStart) :
    canTransitionLifecycle l .running = true := by
  rcases h with rfl | rfl <;> rfl

lemma inStart_lifecycleForStart (reason : DuplexRestartReason) :
    (lifecycleForStart reason).InStart := by
  unfold lifecycleForStart
  split_ifs
  · exact .inr rfl
  · exact .inl rfl

namespace StartContext

variable (t : StartContext)

lemma bystanding_isRestartEpochCurrent : Always (bystanding · = true) t.isRestartEpochCurrent := by
  unfold isRestartEpochCurrent
  simp [bystanding]

lemma life_finalizeFailure {Q : HeldFields → IOReturn → Prop} {session : DuplexRestartSession}
    {stored : Stored} (hfailed : canTransitionLifecycle session.lifecycle .failed = true)
    (failureStatus : IOReturn) (failedPhase : DuplexRestartPhase)
    (cause : DuplexRestartFailureCause) (errorClass : DuplexRestartErrorClass)
    (rollbackAttempted : Bool) (rollbackStatus : IOReturn)
    (hostStateKnown deviceStateKnown : Bool)
    (hQ : ∀ status (stored : Stored), stored.AtRest → Q (some stored) status) :
    Follows (lifecycles stop) Q (some stored) (t.finalizeFailure session failureStatus failedPhase
      cause errorClass rollbackAttempted rollbackStatus hostStateKnown deviceStateKnown) := by
  unfold finalizeFailure
  refine life_enterFailed_store (f := fun _ => pure failureStatus) ?_ fun _ => ?_
  · exact hfailed
  · exact hQ _ _ Stored.atRest_failed

lemma life_rollbackToFailure {Q : HeldFields → IOReturn → Prop} {session : DuplexRestartSession}
    {stored : Stored} (hstop : canTransitionLifecycle session.lifecycle .stopping = true)
    (failureStatus : IOReturn) (failedPhase : DuplexRestartPhase)
    (cause : DuplexRestartFailureCause)
    (hQ : ∀ status (stored : Stored), stored.AtRest → Q (some stored) status) :
    Follows (lifecycles stop) Q (some stored)
      (t.rollbackToFailure session failureStatus failedPhase cause) := by
  have hrest : Follows (lifecycles stop) Q (some stored) (Op.device .breakBothConnections >>=
      fun _ => runDuplexStop session >>= fun stopped =>
        t.finalizeFailure stopped.2 failureStatus failedPhase cause .stageFailure true stopped.1
          true true) := by
    apply life_perform_bind rfl
    intro _
    rw [follows_bind]
    apply life_runDuplexStop hstop
    intro status session' hstopped
    exact t.life_finalizeFailure hstopped.atRest.toFailed _ _ _ _ _ _ _ _ hQ
  unfold rollbackToFailure
  apply life_ite
  · exact fun _ => life_teardown hrest
  · exact fun _ => hrest

lemma life_rollbackToInvalidation {Q : HeldFields → IOReturn → Prop}
    {session : DuplexRestartSession} {stored : Stored}
    (hstop : canTransitionLifecycle session.lifecycle .stopping = true)
    (failedPhase : DuplexRestartPhase) (cause : DuplexRestartFailureCause)
    (hQ : ∀ status (stored : Stored), stored.AtRest → Q (some stored) status) :
    Follows (lifecycles stop) Q (some stored)
      (t.rollbackToInvalidation session failedPhase cause) := by
  unfold rollbackToInvalidation
  apply life_teardown
  apply life_perform_bind rfl
  intro _
  rw [follows_bind]
  apply life_runDuplexStop hstop
  intro status session' hstopped
  apply life_ite
  · intro _
    exact t.life_finalizeFailure hstopped.atRest.toFailed _ _ _ _ _ _ _ _ hQ
  · intro _
    apply life_perform_bind rfl
    intro stopped
    refine life_enterIdle_store (f := fun _ => pure (.aborted : IOReturn)) ?_ fun _ => ?_
    · exact hstopped.atRest.toIdle
    · exact hQ _ _ (Stored.atRest_some (.inl rfl))

end StartContext

lemma lifecycle_onlyProgress {session session' : DuplexRestartSession}
    (h : session'.withoutProgress = session.withoutProgress) :
    session'.lifecycle = session.lifecycle :=
  (congrArg (·.lifecycle) h :)

lemma life_runStages {Q : HeldFields → Except IOReturn DuplexRestartSession → Prop}
    (t : StartContext) {stages : List Stage} (hstages : ∀ stage ∈ stages, stage.OnlyProgress)
    {session : DuplexRestartSession} {stored : Stored} (hstart : session.lifecycle.InStart)
    (herror : ∀ status (stored : Stored), stored.AtRest → Q (some stored) (.error status))
    (hok : ∀ session' (stored : Stored), session'.lifecycle.InStart →
      Q (some stored) (.ok session')) :
    Follows (lifecycles stop) Q (some stored) (runStages t stages session) := by
  induction stages generalizing session stored with
  | nil => exact hok session stored hstart
  | cons stage stages ih =>
    obtain ⟨hstage, hrest⟩ := List.forall_mem_cons.mp hstages
    cases stage with
    | abortIfTeardown => exact life_teardown (ih hrest hstart)
    | record commit =>
      have hsame := lifecycle_onlyProgress (hstage session)
      apply life_store
      exact ih hrest (hsame ▸ hstart)
    | call call failedPhase cause commit =>
      have hcall : Always (bystanding · = true) call.run := by
        cases call with
        | host call => exact ⟨rfl, fun _ => trivial⟩
        | device call => exact ⟨rfl, fun _ => trivial⟩
      rw [runStages, follows_bind]
      apply bystanding_follows hcall
      intro answer
      apply life_ite
      · intro _
        rw [follows_bind]
        exact t.life_rollbackToFailure hstart.toStopping _ _ _ herror
      · intro _
        rw [follows_bind]
        apply bystanding_follows t.bystanding_isRestartEpochCurrent
        intro current
        apply life_ite
        · intro _
          rw [follows_bind]
          exact t.life_rollbackToInvalidation hstart.toStopping _ _ herror
        · intro _
          cases commit with
          | none => exact ih hrest hstart
          | some commit =>
            have hsame := lifecycle_onlyProgress (hstage commit rfl answer session)
            apply life_store
            exact ih hrest (hsame ▸ hstart)

lemma life_confirmStart {Q : HeldFields → IOReturn → Prop} (t : StartContext)
    {session : DuplexRestartSession} {stored : Stored} (hstart : session.lifecycle.InStart)
    (hQ : ∀ status (stored : Stored), stored.AtRest → Q (some stored) status) :
    Follows (lifecycles stop) Q (some stored) (confirmStart t session) := by
  unfold confirmStart
  apply life_teardown
  apply life_perform_bind rfl
  intro confirm
  apply life_ite
  · exact fun _ => t.life_rollbackToFailure hstart.toStopping _ _ _ hQ
  · intro _
    rw [follows_bind]
    apply bystanding_follows t.bystanding_isRestartEpochCurrent
    intro current
    apply life_ite
    · exact fun _ => t.life_rollbackToInvalidation hstart.toStopping _ _ hQ
    · intro _
      refine life_setSessionState_bind ?_ (life_store ?_)
      · exact hstart.toRunning
      · exact hQ _ _ (Stored.atRest_some (.inr (.inr ⟨rfl, rfl, rfl⟩)))

lemma life_startDuplex {Q : HeldFields → IOReturn → Prop} (t : StartContext)
    (channels : DuplexStreamProfile) {session : DuplexRestartSession} {stored : Stored}
    (hstart : session.lifecycle.InStart)
    (hQ : ∀ status (stored : Stored), stored.AtRest → Q (some stored) status) :
    Follows (lifecycles stop) Q (some stored) (startDuplex t channels session) := by
  unfold startDuplex
  apply life_teardown
  apply life_perform_bind rfl
  intro claimStatus
  apply life_ite
  · exact fun _ => t.life_finalizeFailure hstart.toFailed _ _ _ _ _ _ _ _ hQ
  · intro _
    apply life_store
    rw [follows_bind]
    refine life_runStages t (onlyProgress_prepareStages _) hstart hQ ?_
    intro session₁ stored₁ hstart₁
    dsimp only
    rw [follows_bind]
    refine life_runStages t (onlyProgress_reserveStages channels) hstart₁ hQ ?_
    intro session₂ stored₂ hstart₂
    apply life_perform_bind rfl
    intro profile
    rw [follows_bind]
    refine life_runStages t (onlyProgress_laterStages channels profile) hstart₂ hQ ?_
    intro session₃ stored₃ hstart₃
    exact life_confirmStart t hstart₃ hQ

/-- A start from a session at rest leaves a session at rest. -/
lemma life_runDuplexStart {Q : HeldFields → IOReturn → Prop} (record : DuplexRecord)
    {session : DuplexRestartSession} {stored : Stored} (hstored : stored.AtRest)
    (hrest : session.progressFields.AtRest) (desiredClock : AudioClockConfig)
    (reason : DuplexRestartReason)
    (hQ : ∀ status (stored : Stored), stored.AtRest → Q (some stored) status) :
    Follows (lifecycles stop) Q (some stored)
      (runDuplexStart record session desiredClock reason) := by
  have hkeep status : Q (some stored) status := hQ status stored hstored
  unfold runDuplexStart runTransaction
  apply life_perform_bind rfl
  intro guarded
  refine life_ite (fun _ => hkeep _) fun _ => ?_
  apply life_teardown
  apply life_perform_bind rfl
  rintro (_ | route)
  · exact hkeep _
  · apply life_perform_bind rfl
    intro current
    refine life_ite (fun _ => hkeep _) fun _ => ?_
    apply life_perform_bind rfl
    intro _
    apply life_perform_bind rfl
    intro channels
    apply life_perform_bind rfl
    intro restartId
    apply life_perform_bind rfl
    intro client
    apply life_ite
    · exact fun _ => StartContext.life_finalizeFailure _ hrest.toFailed _ _ _ _ _ _ _ _ hQ
    · intro _
      apply life_perform_bind rfl
      intro source
      apply life_ite
      · exact fun _ => StartContext.life_finalizeFailure _ hrest.toFailed _ _ _ _ _ _ _ _ hQ
      · intro _
        have hstart := inStart_lifecycleForStart reason
        refine life_enterIdle_bind ?_ (life_setSessionState_bind ?_ (life_store ?_))
        · exact hrest
        · rcases hstart with h | h <;> rw [h] <;> rfl
        · exact life_startDuplex _ channels hstart hQ

/-- An idle clock change from an idle session leaves a session at rest. -/
lemma life_runIdleClockApply {Q : HeldFields → IOReturn → Prop} {session : DuplexRestartSession}
    {stored : Stored} (hstored : stored.AtRest) (hrest : session.progressFields.AtRest)
    (topologyGeneration : ℕ) (desiredClock : AudioClockConfig) (reason : DuplexRestartReason)
    (hQ : ∀ status (stored : Stored), stored.AtRest → Q (some stored) status) :
    Follows (lifecycles stop) Q (some stored)
      (runIdleClockApply session topologyGeneration desiredClock reason) := by
  have hkeep status : Q (some stored) status := hQ status stored hstored
  have hidle status : Q (some (some {})) status := hQ status _ (Stored.atRest_some (.inl rfl))
  unfold runIdleClockApply
  apply life_teardown
  apply life_perform_bind rfl
  rintro (_ | route)
  · exact hkeep _
  · apply life_perform_bind rfl
    intro current
    refine life_ite (fun _ => hkeep _) fun _ => ?_
    apply life_perform_bind rfl
    intro restartId
    refine life_enterIdle_bind ?_ (life_setSessionState_bind rfl (life_store
      (life_perform_bind rfl fun apply' => ?_)))
    · exact hrest
    · apply life_ite
      · intro _
        refine life_enterFailed_store (f := fun _ => pure _) rfl fun _ => ?_
        exact hQ _ _ Stored.atRest_failed
      · intro _
        rw [follows_bind]
        apply bystanding_follows (StartContext.bystanding_isRestartEpochCurrent _)
        intro current
        apply life_ite
        · intro _
          apply life_perform_bind rfl
          intro stopped
          exact life_enterIdle_store (f := fun _ => pure _) (.inr rfl) fun _ => hidle _
        · intro _
          exact life_enterIdle_store (f := fun _ => pure _) (.inr rfl) fun _ => hidle _

end Lifecycles

/-! ### The operations -/

/-- From a stored session at rest the program goes on without a refused transition, and leaves the
stored session at rest where it ends or releases the GUID. -/
def Rests (stop : Bool) {α : Type} (p : Op α) : Prop := ∀ stored : Stored, stored.AtRest →
  Follows (lifecycles stop) (fun g _ => ∃ stored' : Stored, stored'.AtRest ∧ g = some stored')
    (some stored) p

/-- A program goes round a loop only with a stored session at rest. -/
def EndsResting (g : HeldFields) (next : Next) : Prop :=
  next.program.isSome = true → ∃ stored : Stored, stored.AtRest ∧ g = some stored

section Operations

variable {α β : Type} {stop : Bool}

lemma rests_pure (a : α) : Rests stop (pure a : Op α) := fun stored h => ⟨stored, h, rfl⟩

lemma Rests.bind {p : Op α} {f : α → Op β} (h : Rests stop p) (hf : ∀ a, Rests stop (f a)) :
    Rests stop (p >>= f) := by
  intro stored hrest
  refine (h stored hrest).bind ?_
  rintro g a ⟨stored', hrest', rfl⟩
  exact hf a stored' hrest'

lemma rests_perform_bind {a : CoordinatorAction} {f : Answer a → Op α} (ha : bystanding a = true)
    (hf : ∀ r, Rests stop (f r)) : Rests stop (Program.perform a >>= f) :=
  fun stored h => life_perform_bind ha fun r => hf r stored h

lemma rests_ite {c : Prop} [Decidable c] {p q : Op α} (hp : c → Rests stop p)
    (hq : ¬ c → Rests stop q) : Rests stop (if c then p else q) :=
  fun stored h => life_ite (fun hc => hp hc stored h) fun hc => hq hc stored h

/-- A loaded session has the fields of the stored one. -/
lemma life_load {Q : HeldFields → α → Prop} {stored : Stored} {f : DuplexRestartSession → Op α}
    (forUpdate : Bool) (hf : ∀ session, session.progressFields = stored.getD {} →
      Follows (lifecycles stop) Q (some stored) (f session)) :
    Follows (lifecycles stop) Q (some stored) (Op.loadSession forUpdate >>= f) := by
  refine ⟨trivial, ?_⟩
  rintro session g' ⟨hsession, rfl⟩
  exact hf session (hsession stored rfl)

lemma Stored.AtRest.getD {stored : Stored} (h : stored.AtRest) :
    (stored.getD {}).AtRest := by
  cases stored with
  | none => exact .inl rfl
  | some f => exact h f rfl

lemma bystanding_rests {p : Op α} (hp : Always (bystanding · = true) p) : Rests stop p :=
  fun stored h => bystanding_follows hp fun _ => ⟨stored, h, rfl⟩

lemma bystanding_completeClockRequest (request : PendingClockRequest)
    (outcome : DuplexClockRequestOutcome) (status : IOReturn) :
    Always (bystanding · = true) (completeClockRequest request outcome status) :=
  ⟨rfl, fun _ => ⟨rfl, fun _ => trivial⟩⟩

lemma bystanding_failPendingClockRequest (outcome : DuplexClockRequestOutcome)
    (status : IOReturn) : Always (bystanding · = true) (failPendingClockRequest outcome status) := by
  refine ⟨rfl, ?_⟩
  rintro (_ | request)
  · exact trivial
  · exact bystanding_completeClockRequest request outcome status

lemma rests_completeClockRequest (request : PendingClockRequest)
    (outcome : DuplexClockRequestOutcome) (status : IOReturn) :
    Rests stop (completeClockRequest request outcome status) :=
  bystanding_rests (bystanding_completeClockRequest request outcome status)

lemma rests_failPendingClockRequest (outcome : DuplexClockRequestOutcome) (status : IOReturn) :
    Rests stop (failPendingClockRequest outcome status) :=
  bystanding_rests (bystanding_failPendingClockRequest outcome status)

lemma rests_abortClockRequests (request : PendingClockRequest) :
    Rests stop (abortClockRequests request) :=
  (rests_completeClockRequest _ _ _).bind fun _ => rests_failPendingClockRequest _ _

lemma rests_stopOrTeardown : Rests stop stopOrTeardown := by
  apply bystanding_rests
  unfold stopOrTeardown
  simp [bystanding]

/-- What is stopped first is running or failed. -/
lemma ProgressFields.AtRest.toStopping {f : ProgressFields} (h : f.AtRest)
    (hbusy : f.anyProgress = true ∨ f.phase = .running ∨ f.lifecycle = .running ∨
      f.lifecycle = .recovering ∨ f.lifecycle = .failed) :
    canTransitionLifecycle f.lifecycle .stopping = true := by
  rcases h with rfl | rfl | ⟨hrunning, -⟩
  · simp at hbusy
  · rfl
  · rw [hrunning]
    rfl

lemma rests_applyClockRequest (request : PendingClockRequest) :
    Rests stop (applyClockRequest request) := by
  unfold applyClockRequest
  apply rests_perform_bind rfl
  intro guarded
  refine rests_ite (fun _ => rests_pure _) fun _ => ?_
  apply rests_perform_bind rfl
  intro stopped
  refine rests_ite (fun _ => rests_pure _) fun _ => ?_
  apply rests_perform_bind rfl
  intro torn
  refine rests_ite (fun _ => rests_pure _) fun _ => ?_
  apply rests_perform_bind rfl
  rintro (_ | record)
  · exact rests_pure _
  · refine rests_ite (fun _ => rests_pure _) fun _ => ?_
    intro stored hstored
    apply life_load
    intro session hsession
    have hrest : session.progressFields.AtRest := hsession ▸ hstored.getD
    apply life_ite
    · intro hbusy
      apply life_teardown
      rw [follows_bind]
      apply life_runDuplexStop (hrest.toStopping hbusy)
      intro status session' hstopped
      have hstored' := Stored.atRest_some hstopped.atRest
      refine life_ite (fun _ => ⟨_, hstored', rfl⟩) fun _ => ?_
      apply life_teardown
      exact life_runDuplexStart record hstored' hstopped.atRest _ _
        fun _ stored'' hrest'' => ⟨stored'', hrest'', rfl⟩
    · intro _
      apply life_teardown
      exact life_runIdleClockApply hstored hrest _ _ _
        fun _ stored'' hrest'' => ⟨stored'', hrest'', rfl⟩

/-- The GUID is released at rest. -/
lemma life_release {Q : HeldFields → α → Prop} {stored : Stored} (hstored : stored.AtRest)
    {f : Unit → Op α} (hf : Follows (lifecycles stop) Q none (f ())) :
    Follows (lifecycles stop) Q (some stored) (Op.releaseGuid >>= f) := by
  refine ⟨?_, ?_⟩
  · rintro _ ⟨⟩
    exact hstored
  · rintro r g' rfl
    exact hf

/-- A part that rests, and then the rest of the operation. -/
lemma Rests.follows_bind {Q : HeldFields → β → Prop} {p : Op α} {f : α → Op β}
    (h : Rests stop p) {stored : Stored} (hstored : stored.AtRest)
    (hf : ∀ a (stored : Stored), stored.AtRest → Follows (lifecycles stop) Q (some stored) (f a)) :
    Follows (lifecycles stop) Q (some stored) (p >>= f) := by
  refine (h stored hstored).bind ?_
  rintro g a ⟨stored', hrest', rfl⟩
  exact hf a stored' hrest'

lemma life_endStart {stored : Stored} (hstored : stored.AtRest) (status : IOReturn) :
    Follows (lifecycles stop) EndsResting (some stored) (endStart status) :=
  life_release hstored fun h => by cases h

lemma life_awaitCompletion (token polls : ℕ) :
    Follows (lifecycles stop) EndsResting none (awaitCompletion token polls) := by
  have hreturned {g : HeldFields} (status : IOReturn) : EndsResting g (.returned status) :=
    fun h => by cases h
  induction polls with
  | zero => exact hreturned _
  | succ polls ih =>
    apply life_perform_bind rfl
    rintro (_ | completion)
    · exact life_teardown ih
    · exact hreturned _

lemma life_endClockRequestLoop {stored : Stored} (hstored : stored.AtRest) (awaited : ℕ) :
    Follows (lifecycles stop) EndsResting (some stored) (endClockRequestLoop awaited) :=
  life_release hstored (life_awaitCompletion _ _)

lemma life_claimGuid {Q : HeldFields → Claim → Prop} (polls : ℕ)
    (hacquired : ∀ stored : Stored, stored.AtRest → Q (some stored) .acquired)
    (htimedOut : Q none .timedOut) : Follows (lifecycles stop) Q none (claimGuid polls) := by
  induction polls with
  | zero => exact htimedOut
  | succ polls ih =>
    refine ⟨trivial, ?_⟩
    rintro (_ | _) g' hg
    · cases hg
      exact life_teardown ih
    · obtain ⟨stored, hstored, rfl⟩ := hg
      exact hacquired stored hstored

lemma life_clockRequestRound {stored : Stored} (hstored : stored.AtRest)
    (current : PendingClockRequest) (awaited : ℕ) :
    Follows (lifecycles stop) EndsResting (some stored) (clockRequestRound current awaited) := by
  have hend (stored : Stored) (hstored : stored.AtRest) :
      Follows (lifecycles stop) EndsResting (some stored)
        (abortClockRequests current >>= fun _ => endClockRequestLoop awaited) :=
    (rests_abortClockRequests current).follows_bind hstored
      fun _ _ hstored => life_endClockRequestLoop hstored awaited
  unfold clockRequestRound
  refine rests_stopOrTeardown.follows_bind hstored fun stopped stored hstored => ?_
  refine life_ite (fun _ => hend stored hstored) fun _ => ?_
  refine (rests_applyClockRequest current).follows_bind hstored fun status stored hstored => ?_
  refine rests_stopOrTeardown.follows_bind hstored fun stopped stored hstored => ?_
  refine life_ite (fun _ => hend stored hstored) fun _ => ?_
  refine (rests_completeClockRequest _ _ _).follows_bind hstored fun _ stored hstored => ?_
  apply life_perform_bind rfl
  rintro (_ | next)
  · exact life_endClockRequestLoop hstored awaited
  · exact fun _ => ⟨stored, hstored, rfl⟩

lemma life_drainRound {stored : Stored} (hstored : stored.AtRest) :
    Follows (lifecycles stop) EndsResting (some stored) drainRound := by
  unfold drainRound
  apply life_perform_bind rfl
  rintro (_ | pending)
  · exact life_endStart hstored _
  · have hend (stored : Stored) (hstored : stored.AtRest) :
        Follows (lifecycles stop) EndsResting (some stored)
          (abortClockRequests pending >>= fun _ => endStart .success) :=
      (rests_abortClockRequests pending).follows_bind hstored
        fun _ _ hstored => life_endStart hstored _
    apply life_perform_bind rfl
    intro stopped
    refine life_ite (fun _ => hend stored hstored) fun _ => ?_
    refine (rests_applyClockRequest pending).follows_bind hstored fun status stored hstored => ?_
    apply life_perform_bind rfl
    intro stopped
    refine life_ite (fun _ => hend stored hstored) fun _ => ?_
    exact (rests_completeClockRequest _ _ _).follows_bind hstored
      fun _ stored hstored _ => ⟨stored, hstored, rfl⟩

lemma life_returned {g : HeldFields} (status : IOReturn) :
    Follows (lifecycles stop) EndsResting g (pure (.returned status)) :=
  fun h => by cases h

lemma life_runStartStreaming {stored : Stored} (hstored : stored.AtRest) :
    Follows (lifecycles stop) EndsResting (some stored) runStartStreaming := by
  have hfail (outcome : DuplexClockRequestOutcome) (reported status : IOReturn) (stored : Stored)
      (hstored : stored.AtRest) : Follows (lifecycles stop) EndsResting (some stored)
        (failPendingClockRequest outcome reported >>= fun _ => endStart status) :=
    (rests_failPendingClockRequest _ _).follows_bind hstored
      fun _ _ hstored => life_endStart hstored _
  unfold runStartStreaming
  apply life_teardown
  apply life_perform_bind rfl
  rintro (_ | record)
  · exact hfail _ _ _ stored hstored
  · apply life_load
    intro session hsession
    have hrest : session.progressFields.AtRest := hsession ▸ hstored.getD
    rw [follows_bind]
    refine life_runDuplexStart record hstored hrest _ _ fun status stored hstored => ?_
    refine life_ite (fun _ => hfail _ _ _ stored hstored) fun _ => ?_
    apply life_perform_bind rfl
    intro stopped
    refine life_ite (fun _ => hfail _ _ _ stored hstored) fun _ => ?_
    exact fun _ => ⟨stored, hstored, rfl⟩

lemma life_startStreaming : Follows (lifecycles stop) EndsResting none startStreaming := by
  unfold startStreaming
  apply life_perform_bind rfl
  intro guarded
  refine life_ite (fun _ => life_returned _) fun _ => ?_
  apply life_teardown
  apply life_perform_bind rfl
  intro stopped
  refine life_ite (fun _ => life_returned _) fun _ => ?_
  apply life_perform_bind rfl
  intro _
  rw [follows_bind]
  apply life_claimGuid
  · exact fun stored hstored => life_runStartStreaming hstored
  · exact life_returned _

/-- A stop that finds the device exactly where a session is stored. -/
lemma rests_runStopStreaming : Rests true runStopStreaming := by
  intro stored hstored
  unfold runStopStreaming
  apply life_teardown
  refine ⟨trivial, ?_⟩
  rintro existing g' ⟨hexisting, rfl⟩
  have hsame : existing.map (·.progressFields) = stored := hexisting stored rfl
  refine life_ite (fun _ => ⟨stored, hstored, rfl⟩) fun hbusy => ?_
  refine ⟨trivial, ?_⟩
  rintro record g' ⟨hrecord, rfl⟩
  have hfound : record.isSome = stored.isSome := hrecord rfl stored rfl
  cases existing with
  | none =>
    have hnone : stored = none := hsame.symm
    subst hnone
    cases record with
    | some record => cases hfound
    | none =>
      apply life_load
      intro session hsession
      apply life_store
      refine ⟨_, Stored.atRest_some (.inl ?_), rfl⟩
      have hlifecycle : session.lifecycle = .idle := congrArg ProgressFields.lifecycle hsession
      simp [DuplexRestartSession.progressFields, DuplexRestartSession.clearFailureSnapshot,
        DuplexRestartSession.clearRestartProgress, DuplexRestartSession.hasAnyRestartState,
        DuplexRestartSession.hasDeviceRestartState, DuplexRestartSession.hasHostRestartState,
        hlifecycle]
  | some session =>
    have hsome : stored = some session.progressFields := hsame.symm
    subst hsome
    have hrest : session.progressFields.AtRest := hstored _ rfl
    cases record with
    | none => cases hfound
    | some record =>
      apply life_load
      intro loaded _
      rw [follows_bind]
      refine life_runDuplexStop ?_ fun status session' hstopped =>
        ⟨_, Stored.atRest_some hstopped.atRest, rfl⟩
      apply hrest.toStopping
      rcases hrest with hidle | hfailed | hrunning
      · refine absurd ?_ hbusy
        have hany := congrArg ProgressFields.anyProgress hidle
        have hphase := congrArg ProgressFields.phase hidle
        have hlifecycle := congrArg ProgressFields.lifecycle hidle
        simp only [DuplexRestartSession.progressFields] at hany hphase hlifecycle
        simp [hany, hphase, hlifecycle]
      · exact .inr (.inr (.inr (.inr (congrArg ProgressFields.lifecycle hfailed))))
      · exact .inr (.inl hrunning.2.1)

lemma life_stopStreaming : Follows (lifecycles true) EndsResting none stopStreaming := by
  unfold stopStreaming
  apply life_teardown
  apply life_perform_bind rfl
  intro _
  apply life_perform_bind rfl
  intro _
  rw [follows_bind]
  apply bystanding_follows (bystanding_failPendingClockRequest _ _)
  intro _
  rw [follows_bind]
  apply life_claimGuid
  · intro stored hstored
    refine rests_runStopStreaming.follows_bind hstored fun status stored hstored => ?_
    refine (rests_failPendingClockRequest _ _).follows_bind hstored fun _ stored hstored => ?_
    apply life_perform_bind rfl
    exact fun _ => life_endStart hstored _
  · apply life_perform_bind rfl
    exact fun _ => life_returned _

/-- A recovery that records why leaves the session as it is otherwise. -/
lemma life_recordRecovery {Q : HeldFields → DuplexRestartSession → Prop} {stored : Stored}
    {session : DuplexRestartSession} (hstored : stored.AtRest)
    (hrest : session.progressFields.AtRest) (reason : DuplexRestartReason)
    (hQ : ∀ session' (stored : Stored), stored.AtRest → session'.progressFields.AtRest →
      Q (some stored) session') :
    Follows (lifecycles stop) Q (some stored) (recordRecovery session reason) := by
  unfold recordRecovery
  apply life_ite
  · intro _
    apply life_store
    exact hQ _ _ (Stored.atRest_some hrest) hrest
  · exact fun _ => hQ _ _ hstored hrest

lemma life_restartSession {Q : HeldFields → IOReturn → Prop} {stored : Stored}
    (record : DuplexRecord) {session : DuplexRestartSession} (hstored : stored.AtRest)
    (hrest : session.progressFields.AtRest) (reason : DuplexRestartReason)
    (hQ : ∀ status (stored : Stored), stored.AtRest → Q (some stored) status) :
    Follows (lifecycles stop) Q (some stored) (restartSession record session reason) := by
  unfold restartSession
  apply life_ite
  · intro hbusy
    apply life_teardown
    rw [follows_bind]
    apply life_runDuplexStop
    · exact hrest.toStopping (hbusy.imp id .inl)
    · intro status session' hstopped
      have hstored' := Stored.atRest_some hstopped.atRest
      refine life_ite (fun _ => hQ _ _ hstored') fun _ => ?_
      refine rests_stopOrTeardown.follows_bind hstored' fun stopped stored hstored => ?_
      refine life_ite (fun _ => hQ _ _ hstored) fun _ => ?_
      exact life_runDuplexStart record hstored hstopped.atRest _ _ hQ
  · intro _
    refine rests_stopOrTeardown.follows_bind hstored fun stopped stored hstored => ?_
    refine life_ite (fun _ => hQ _ _ hstored) fun _ => ?_
    exact life_runDuplexStart record hstored hrest _ _ hQ

lemma rests_runRecoveryStreaming (reason : DuplexRestartReason) :
    Rests stop (runRecoveryStreaming reason) := by
  intro stored hstored
  unfold runRecoveryStreaming
  apply life_teardown
  apply life_perform_bind rfl
  intro record
  apply life_load
  intro loaded hloaded
  have hrest : loaded.progressFields.AtRest := hloaded ▸ hstored.getD
  rw [follows_bind]
  refine life_recordRecovery hstored hrest reason fun session stored hstored hrest => ?_
  apply life_perform_bind rfl
  intro stopRequested
  dsimp only
  split
  · exact ⟨stored, hstored, rfl⟩
  · refine life_enterFailed_store (f := fun _ => pure _) ?_ fun _ => ?_
    · split_ifs <;> exact hrest.toFailed
    · exact ⟨_, Stored.atRest_failed, rfl⟩
  · exact ⟨stored, hstored, rfl⟩
  · exact life_restartSession _ hstored hrest reason fun _ stored hstored => ⟨stored, hstored, rfl⟩

lemma life_recoverStreaming (reason : DuplexRestartReason) (expectedRestartId : ℕ) :
    Follows (lifecycles stop) EndsResting none (recoverStreaming reason expectedRestartId) := by
  have hcurrent : Rests stop (recoveryCurrent expectedRestartId) := by
    apply bystanding_rests
    unfold recoveryCurrent
    simp [bystanding]
  unfold recoverStreaming
  apply life_perform_bind rfl
  intro guarded
  refine life_ite (fun _ => life_returned _) fun _ => ?_
  apply life_teardown
  apply life_perform_bind rfl
  intro stopped
  refine life_ite (fun _ => life_returned _) fun _ => ?_
  apply life_perform_bind rfl
  intro _
  rw [follows_bind]
  apply life_claimGuid
  · intro stored hstored
    refine hcurrent.follows_bind hstored fun current stored hstored => ?_
    refine life_ite (fun _ => life_endStart hstored _) fun _ => ?_
    refine (rests_failPendingClockRequest _ _).follows_bind hstored fun _ stored hstored => ?_
    exact (rests_runRecoveryStreaming reason).follows_bind hstored
      fun _ stored hstored => life_endStart hstored _
  · exact life_returned _

lemma life_requestClockConfig (desiredClock : AudioClockConfig) (reason : DuplexRestartReason) :
    Follows (lifecycles stop) EndsResting none (requestClockConfig desiredClock reason) := by
  unfold requestClockConfig
  apply life_perform_bind rfl
  intro guarded
  refine life_ite (fun _ => life_returned _) fun _ => ?_
  apply life_teardown
  refine life_ite (fun _ => life_returned _) fun _ => ?_
  apply life_perform_bind rfl
  intro session
  refine ⟨trivial, ?_⟩
  rintro (_ | ⟨token, superseded⟩ | token) g' hg
  · exact life_returned _
  · cases hg
    cases superseded with
    | none => exact life_awaitCompletion _ _
    | some superseded => exact life_perform_bind rfl fun _ => life_awaitCompletion _ _
  · exact fun _ => hg

/-- Whether the call is a stop, which may not find the device where no session is stored. -/
def Call.isStop : Call → Bool
  | .stopStreaming => true
  | _ => false

theorem life_call (call : Call) :
    Follows (lifecycles call.isStop) EndsResting none call.program := by
  cases call with
  | startStreaming => exact life_startStreaming
  | stopStreaming => exact life_stopStreaming
  | requestClockConfig desiredClock reason => exact life_requestClockConfig desiredClock reason
  | recoverStreaming reason expectedRestartId => exact life_recoverStreaming reason expectedRestartId
  | cancelRemoteDevice =>
    apply life_perform_bind rfl
    intro _
    rw [follows_bind]
    exact bystanding_follows (bystanding_failPendingClockRequest _ _) fun _ => life_returned _
  | acknowledgeDevicePresent => exact life_perform_bind rfl fun _ => life_returned _

theorem life_next {g : HeldFields} {next : Next} (hend : EndsResting g next) {p : Op Next}
    (hp : next.program = some p) : Follows (lifecycles stop) EndsResting g p := by
  obtain ⟨stored, hstored, rfl⟩ := hend (by rw [hp]; rfl)
  cases next with
  | returned status => cases hp
  | drainPending =>
    cases hp
    exact life_drainRound hstored
  | clockRequestLoop current awaited =>
    cases hp
    exact life_clockRequestRound hstored current awaited

end Operations

end ASFireWire.Duplex
