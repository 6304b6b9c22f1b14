import ASFireWire.DuplexThreads

/-! The copies of the stored session that the operations write back, and the fields of it that only
the clock request broker writes. -/
namespace ASFireWire.Duplex

open Programs

/-- The fields the broker writes. -/
structure BrokerFields where
  pendingClock : AudioClockConfig := {}
  pendingReason : DuplexRestartReason := .initialStart
  hasPendingClockRequest : Bool := false
  lastClockCompletion : Option DuplexClockRequestCompletion := none
  deriving DecidableEq, Repr

def DuplexRestartSession.brokerFields (session : DuplexRestartSession) : BrokerFields where
  pendingClock := session.pendingClock
  pendingReason := session.pendingReason
  hasPendingClockRequest := session.hasPendingClockRequest
  lastClockCompletion := session.lastClockCompletion

/-- The broker's fields of the copy a thread may write back, if it has one. -/
abbrev CopyFields : Type := Option BrokerFields

def CopyFields.next (g : CopyFields) : (a : CoordinatorAction) → Answer a → CopyFields
  | .loadSession true, session => some session.brokerFields
  | .getSession true, session => session.map (·.brokerFields)
  | .acquire, _ | .submitClockRequest _ _, _ | .tryConsumePending, _ | .complete _, _ => none
  | _, _ => g

/-- A thread stores only copies with the broker's fields it last loaded, and loads again once it
dealt with a request itself. -/
def copies : Protocol CoordinatorAction Answer CopyFields where
  allow g
    | .storeSession session => g = some session.brokerFields
    | _ => True
  follow g a r g' := g' = CopyFields.next g a r

section Copies

variable {α : Type} {Q : CopyFields → α → Prop} {g : CopyFields}

/-- Actions that neither load, store nor deal with a request. -/
def Aside : CoordinatorAction → Prop
  | .storeSession _ | .loadSession true | .getSession true | .acquire | .submitClockRequest _ _
  | .tryConsumePending | .complete _ => False
  | _ => True

lemma Aside.follows {p : Op α} (hp : Always Aside p) (hQ : ∀ a, Q g a) :
    Follows copies Q g p := by
  refine Always.follows (fun a ha => ?_) hp hQ
  cases a with
  | loadSession forUpdate =>
    cases forUpdate with
    | true => exact ha.elim
    | false => exact ⟨trivial, fun r g' hg => hg⟩
  | getSession forUpdate =>
    cases forUpdate with
    | true => exact ha.elim
    | false => exact ⟨trivial, fun r g' hg => hg⟩
  | _ => first | exact ha.elim | exact ⟨trivial, fun r g' hg => hg⟩

lemma copies_store {session : DuplexRestartSession} {f : Unit → Op α}
    (hg : g = some session.brokerFields) (hnext : Follows copies Q g (f ())) :
    Follows copies Q g (Op.storeSession session >>= f) := by
  refine ⟨hg, ?_⟩
  rintro r g' rfl
  exact hnext

lemma copies_setSessionState {Q : CopyFields → Option DuplexRestartSession → Prop}
    (session : DuplexRestartSession) (next : DuplexLifecycleKind)
    (hnone : Q g none)
    (hsome : ∀ session', session'.brokerFields = session.brokerFields → Q g (some session')) :
    Follows copies Q g (setSessionState session next) := by
  unfold setSessionState
  cases hset : session.setLifecycle next with
  | none => exact ⟨trivial, fun _ _ hg => by cases hg; exact hnone⟩
  | some session' =>
    apply hsome
    unfold DuplexRestartSession.setLifecycle at hset
    split_ifs at hset
    cases hset
    rfl

lemma copies_enterIdle {Q : CopyFields → Option DuplexRestartSession → Prop}
    (session : DuplexRestartSession) (hnone : Q g none)
    (hsome : ∀ session', session'.brokerFields = session.brokerFields → Q g (some session')) :
    Follows copies Q g (enterIdle session) := by
  unfold enterIdle
  cases hset : session.enterIdle with
  | none => exact ⟨trivial, fun _ _ hg => by cases hg; exact hnone⟩
  | some session' =>
    apply hsome
    unfold DuplexRestartSession.enterIdle at hset
    split_ifs at hset
    cases hset
    rfl

lemma copies_enterFailed {Q : CopyFields → DuplexRestartSession → Prop}
    (session : DuplexRestartSession)
    (hQ : ∀ session', session'.brokerFields = session.brokerFields → Q g session') :
    Follows copies Q g (enterFailed session) := by
  unfold enterFailed
  cases hset : session.enterFailed with
  | none => exact ⟨trivial, fun _ _ hg => by cases hg; exact hQ session rfl⟩
  | some session' =>
    apply hQ
    unfold DuplexRestartSession.enterFailed at hset
    split_ifs at hset
    cases hset
    rfl

/-- Entering idle or staying as it is, and then storing. -/
lemma copies_enterIdle_store {session : DuplexRestartSession} {f : DuplexRestartSession → Op α}
    (hg : g = some session.brokerFields)
    (hf : ∀ session', session'.brokerFields = session.brokerFields → Follows copies Q g (f session')) :
    Follows copies Q g (do
      let session := (← enterIdle session).getD session
      Op.storeSession session
      f session) := by
  rw [follows_bind]
  apply copies_enterIdle
  · exact copies_store hg (hf session rfl)
  · intro session' hsame
    exact copies_store (hg.trans (congrArg some hsame.symm)) (hf session' hsame)

lemma copies_enterFailed_store {session : DuplexRestartSession} {f : DuplexRestartSession → Op α}
    (hg : g = some session.brokerFields)
    (hf : ∀ session', session'.brokerFields = session.brokerFields → Follows copies Q g (f session')) :
    Follows copies Q g (do
      let session ← enterFailed session
      Op.storeSession session
      f session) := by
  rw [follows_bind]
  apply copies_enterFailed
  intro session' hsame
  exact copies_store (hg.trans (congrArg some hsame.symm)) (hf session' hsame)

lemma aside_stopContexts (profile : DuplexStreamProfile) : Always Aside (stopContexts profile) := by
  unfold stopContexts
  simp [Aside]

lemma copies_runDuplexStop {Q : CopyFields → IOReturn × DuplexRestartSession → Prop}
    {session : DuplexRestartSession} (hg : g = some session.brokerFields)
    (hQ : ∀ status session', session'.brokerFields = session.brokerFields →
      Q g (status, session')) : Follows copies Q g (runDuplexStop session) := by
  unfold runDuplexStop
  rw [follows_perform_bind]
  refine ⟨trivial, fun torn g' hg' => ?_⟩
  cases hg'
  rw [follows_ite]
  refine ⟨fun _ => hQ _ _ rfl, fun _ => ?_⟩
  rw [follows_bind]
  apply copies_setSessionState
  · exact hQ _ _ rfl
  · intro session' hsame
    apply copies_store (hg.trans (congrArg some hsame.symm))
    rw [follows_perform_bind]
    refine ⟨trivial, fun profile g' hg' => ?_⟩
    cases hg'
    rw [follows_bind]
    apply Aside.follows (aside_stopContexts profile)
    intro result
    cases result with
    | none => exact hQ _ _ hsame
    | some result =>
      dsimp only
      rw [follows_ite]
      constructor
      · intro _
        refine copies_enterIdle_store (f := fun session => pure ((.success : IOReturn), session)) ?_ ?_
        · exact hg.trans (congrArg some hsame.symm)
        · exact fun session'' hsame' => hQ _ _ (hsame'.trans hsame)
      · intro _
        refine copies_enterFailed_store (f := fun session => pure (result, session)) ?_ ?_
        · exact hg.trans (congrArg some hsame.symm)
        · exact fun session'' hsame' => hQ _ _ (hsame'.trans hsame)

namespace StartContext

variable (t : StartContext)

lemma aside_isRestartEpochCurrent : Always Aside t.isRestartEpochCurrent := by
  unfold isRestartEpochCurrent
  simp [Aside]

lemma copies_finalizeFailure {Q : CopyFields → IOReturn → Prop} {session : DuplexRestartSession}
    (hg : g = some session.brokerFields) (failureStatus : IOReturn)
    (failedPhase : DuplexRestartPhase) (cause : DuplexRestartFailureCause)
    (errorClass : DuplexRestartErrorClass) (rollbackAttempted : Bool) (rollbackStatus : IOReturn)
    (hostStateKnown deviceStateKnown : Bool) (hQ : Q g failureStatus) :
    Follows copies Q g (t.finalizeFailure session failureStatus failedPhase cause errorClass
      rollbackAttempted rollbackStatus hostStateKnown deviceStateKnown) :=
  copies_enterFailed_store (f := fun _ => pure failureStatus) hg fun _ _ => hQ

lemma copies_rollbackToFailure {Q : CopyFields → IOReturn → Prop} {session : DuplexRestartSession}
    (hg : g = some session.brokerFields) (failureStatus : IOReturn)
    (failedPhase : DuplexRestartPhase) (cause : DuplexRestartFailureCause)
    (hQ : ∀ status, Q g status) :
    Follows copies Q g (t.rollbackToFailure session failureStatus failedPhase cause) := by
  have hrest : Follows copies Q g (Op.device .breakBothConnections >>= fun _ =>
      runDuplexStop session >>= fun stopped =>
        t.finalizeFailure stopped.2 failureStatus failedPhase cause .stageFailure true stopped.1
          true true) := by
    rw [follows_perform_bind]
    refine ⟨trivial, fun _ g' hg' => ?_⟩
    cases hg'
    rw [follows_bind]
    apply copies_runDuplexStop hg
    intro status session' hsame
    exact t.copies_finalizeFailure (hg.trans (congrArg some hsame.symm)) _ _ _ _ _ _ _ _ (hQ _)
  unfold rollbackToFailure
  rw [follows_ite]
  constructor
  · intro _
    rw [follows_perform_bind]
    refine ⟨trivial, fun torn g' hg' => ?_⟩
    cases hg'
    rw [follows_ite]
    exact ⟨fun _ => hQ _, fun _ => hrest⟩
  · exact fun _ => hrest

lemma copies_rollbackToInvalidation {Q : CopyFields → IOReturn → Prop}
    {session : DuplexRestartSession} (hg : g = some session.brokerFields)
    (failedPhase : DuplexRestartPhase) (cause : DuplexRestartFailureCause)
    (hQ : ∀ status, Q g status) :
    Follows copies Q g (t.rollbackToInvalidation session failedPhase cause) := by
  unfold rollbackToInvalidation
  rw [follows_perform_bind]
  refine ⟨trivial, fun torn g' hg' => ?_⟩
  cases hg'
  rw [follows_ite]
  refine ⟨fun _ => hQ _, fun _ => ?_⟩
  rw [follows_perform_bind]
  refine ⟨trivial, fun _ g' hg' => ?_⟩
  cases hg'
  rw [follows_bind]
  apply copies_runDuplexStop hg
  intro status session' hsame
  have hcopy := hg.trans (congrArg some hsame.symm)
  dsimp only
  rw [follows_ite]
  constructor
  · intro _
    exact t.copies_finalizeFailure hcopy _ _ _ _ _ _ _ _ (hQ _)
  · intro _
    rw [follows_perform_bind]
    refine ⟨trivial, fun stopped g' hg' => ?_⟩
    cases hg'
    refine copies_enterIdle_store (f := fun _ => pure .aborted) ?_ fun _ _ => hQ _
    exact hcopy

end StartContext

lemma brokerFields_onlyProgress {session session' : DuplexRestartSession}
    (h : session'.withoutProgress = session.withoutProgress) :
    session'.brokerFields = session.brokerFields :=
  (congrArg (·.brokerFields) h :)

lemma copies_runStages {Q : CopyFields → Except IOReturn DuplexRestartSession → Prop}
    (t : StartContext) {stages : List Stage} (hstages : ∀ stage ∈ stages, stage.OnlyProgress)
    {session : DuplexRestartSession} (hg : g = some session.brokerFields)
    (herror : ∀ status, Q g (.error status))
    (hok : ∀ session', session'.brokerFields = session.brokerFields → Q g (.ok session')) :
    Follows copies Q g (runStages t stages session) := by
  induction stages generalizing session with
  | nil => exact hok session rfl
  | cons stage stages ih =>
    obtain ⟨hstage, hrest⟩ := List.forall_mem_cons.mp hstages
    cases stage with
    | abortIfTeardown =>
      rw [runStages, follows_perform_bind]
      refine ⟨trivial, fun torn g' hg' => ?_⟩
      cases hg'
      rw [follows_ite]
      exact ⟨fun _ => herror _, fun _ => ih hrest hg hok⟩
    | record commit =>
      have hsame := brokerFields_onlyProgress (hstage session)
      have hcopy := hg.trans (congrArg some hsame.symm)
      exact copies_store hcopy
        (ih hrest hcopy fun session' hsame' => hok session' (hsame'.trans hsame))
    | call call failedPhase cause commit =>
      have hcall : Always Aside call.run := by
        cases call with
        | host call => exact ⟨trivial, fun _ => trivial⟩
        | device call => exact ⟨trivial, fun _ => trivial⟩
      rw [runStages, follows_bind]
      apply Aside.follows hcall
      intro answer
      rw [follows_ite]
      constructor
      · intro _
        rw [follows_bind]
        exact t.copies_rollbackToFailure hg _ _ _ herror
      · intro _
        rw [follows_bind]
        apply Aside.follows t.aside_isRestartEpochCurrent
        intro current
        rw [follows_ite]
        constructor
        · intro _
          rw [follows_bind]
          exact t.copies_rollbackToInvalidation hg _ _ herror
        · intro _
          cases commit with
          | none => exact ih hrest hg hok
          | some commit =>
            have hsame := brokerFields_onlyProgress (hstage commit rfl answer session)
            have hcopy := hg.trans (congrArg some hsame.symm)
            exact copies_store hcopy
              (ih hrest hcopy fun session' hsame' => hok session' (hsame'.trans hsame))

lemma copies_confirmStart {Q : CopyFields → IOReturn → Prop} (t : StartContext)
    {session : DuplexRestartSession} (hg : g = some session.brokerFields)
    (hQ : ∀ status, Q g status) : Follows copies Q g (confirmStart t session) := by
  unfold confirmStart
  rw [follows_perform_bind]
  refine ⟨trivial, fun torn g' hg' => ?_⟩
  cases hg'
  rw [follows_ite]
  refine ⟨fun _ => hQ _, fun _ => ?_⟩
  rw [follows_perform_bind]
  refine ⟨trivial, fun confirm g' hg' => ?_⟩
  cases hg'
  rw [follows_ite]
  refine ⟨fun _ => t.copies_rollbackToFailure hg _ _ _ hQ, fun _ => ?_⟩
  rw [follows_bind]
  apply Aside.follows t.aside_isRestartEpochCurrent
  intro current
  rw [follows_ite]
  refine ⟨fun _ => t.copies_rollbackToInvalidation hg _ _ hQ, fun _ => ?_⟩
  rw [follows_bind]
  apply copies_setSessionState
  · refine t.copies_rollbackToFailure ?_ _ _ _ hQ
    exact hg
  · intro session' hsame
    refine copies_store ?_ (hQ _)
    exact hg.trans (congrArg some hsame.symm)

lemma copies_startDuplex {Q : CopyFields → IOReturn → Prop} (t : StartContext)
    (channels : DuplexStreamProfile) {session : DuplexRestartSession}
    (hg : g = some session.brokerFields) (hQ : ∀ status, Q g status) :
    Follows copies Q g (startDuplex t channels session) := by
  unfold startDuplex
  rw [follows_perform_bind]
  refine ⟨trivial, fun torn g' hg' => ?_⟩
  cases hg'
  rw [follows_ite]
  refine ⟨fun _ => hQ _, fun _ => ?_⟩
  rw [follows_perform_bind]
  refine ⟨trivial, fun claimStatus g' hg' => ?_⟩
  cases hg'
  rw [follows_ite]
  refine ⟨fun _ => t.copies_finalizeFailure hg _ _ _ _ _ _ _ _ (hQ _), fun _ => ?_⟩
  apply copies_store hg
  rw [follows_bind]
  refine copies_runStages t (onlyProgress_prepareStages _) hg hQ ?_
  intro session₁ hsame₁
  have hcopy₁ := hg.trans (congrArg some hsame₁.symm)
  dsimp only
  rw [follows_bind]
  refine copies_runStages t (onlyProgress_reserveStages channels) hcopy₁ hQ ?_
  intro session₂ hsame₂
  have hcopy₂ := hcopy₁.trans (congrArg some hsame₂.symm)
  dsimp only
  rw [follows_perform_bind]
  refine ⟨trivial, fun profile g' hg' => ?_⟩
  cases hg'
  rw [follows_bind]
  refine copies_runStages t (onlyProgress_laterStages channels profile) hcopy₂ hQ ?_
  intro session₃ hsame₃
  exact copies_confirmStart t (hcopy₂.trans (congrArg some hsame₃.symm)) hQ

lemma copies_runDuplexStart {Q : CopyFields → IOReturn → Prop} (record : DuplexRecord)
    {session : DuplexRestartSession} (hg : g = some session.brokerFields)
    (desiredClock : AudioClockConfig) (reason : DuplexRestartReason) (hQ : ∀ status, Q g status) :
    Follows copies Q g (runDuplexStart record session desiredClock reason) := by
  unfold runDuplexStart runTransaction
  rw [follows_perform_bind]
  refine ⟨trivial, fun guarded g' hg' => ?_⟩
  cases hg'
  rw [follows_ite]
  refine ⟨fun _ => hQ _, fun _ => ?_⟩
  rw [follows_perform_bind]
  refine ⟨trivial, fun torn g' hg' => ?_⟩
  cases hg'
  rw [follows_ite]
  refine ⟨fun _ => hQ _, fun _ => ?_⟩
  rw [follows_perform_bind]
  refine ⟨trivial, fun route g' hg' => ?_⟩
  cases hg'
  cases route with
  | none => exact hQ _
  | some route =>
    dsimp only
    rw [follows_perform_bind]
    refine ⟨trivial, fun current g' hg' => ?_⟩
    cases hg'
    rw [follows_ite]
    refine ⟨fun _ => hQ _, fun _ => ?_⟩
    rw [follows_perform_bind]
    refine ⟨trivial, fun _ g' hg' => ?_⟩
    cases hg'
    rw [follows_perform_bind]
    refine ⟨trivial, fun channels g' hg' => ?_⟩
    cases hg'
    rw [follows_perform_bind]
    refine ⟨trivial, fun restartId g' hg' => ?_⟩
    cases hg'
    rw [follows_perform_bind]
    refine ⟨trivial, fun client g' hg' => ?_⟩
    cases hg'
    rw [follows_ite]
    refine ⟨fun _ => StartContext.copies_finalizeFailure _ hg _ _ _ _ _ _ _ _ (hQ _),
      fun _ => ?_⟩
    rw [follows_perform_bind]
    refine ⟨trivial, fun source g' hg' => ?_⟩
    cases hg'
    rw [follows_ite]
    refine ⟨fun _ => StartContext.copies_finalizeFailure _ hg _ _ _ _ _ _ _ _ (hQ _),
      fun _ => ?_⟩
    rw [follows_bind]
    apply copies_enterIdle
    · refine StartContext.copies_rollbackToFailure _ ?_ _ _ _ hQ
      exact hg
    · intro session₁ hsame₁
      have hcopy₁ : g = some session₁.brokerFields := hg.trans (congrArg some hsame₁.symm)
      dsimp only
      rw [follows_bind]
      apply copies_setSessionState
      · exact StartContext.copies_rollbackToFailure _ hcopy₁ _ _ _ hQ
      · intro session₂ hsame₂
        have hcopy₂ := hcopy₁.trans (congrArg some hsame₂.symm)
        apply copies_store hcopy₂
        exact copies_startDuplex _ channels hcopy₂ hQ

lemma copies_runIdleClockApply {Q : CopyFields → IOReturn → Prop} {session : DuplexRestartSession}
    (hg : g = some session.brokerFields) (topologyGeneration : ℕ) (desiredClock : AudioClockConfig)
    (reason : DuplexRestartReason) (hQ : ∀ status, Q g status) :
    Follows copies Q g (runIdleClockApply session topologyGeneration desiredClock reason) := by
  unfold runIdleClockApply
  rw [follows_perform_bind]
  refine ⟨trivial, fun torn g' hg' => ?_⟩
  cases hg'
  rw [follows_ite]
  refine ⟨fun _ => hQ _, fun _ => ?_⟩
  rw [follows_perform_bind]
  refine ⟨trivial, fun route g' hg' => ?_⟩
  cases hg'
  cases route with
  | none => exact hQ _
  | some route =>
    dsimp only
    rw [follows_perform_bind]
    refine ⟨trivial, fun current g' hg' => ?_⟩
    cases hg'
    rw [follows_ite]
    refine ⟨fun _ => hQ _, fun _ => ?_⟩
    rw [follows_perform_bind]
    refine ⟨trivial, fun restartId g' hg' => ?_⟩
    cases hg'
    rw [follows_bind]
    apply copies_enterIdle
    · exact hQ _
    · intro session₁ hsame₁
      have hcopy₁ : g = some session₁.brokerFields := hg.trans (congrArg some hsame₁.symm)
      dsimp only
      rw [follows_bind]
      apply copies_setSessionState
      · exact hQ _
      · intro session₂ hsame₂
        have hcopy₂ := hcopy₁.trans (congrArg some hsame₂.symm)
        apply copies_store hcopy₂
        rw [follows_perform_bind]
        refine ⟨trivial, fun apply' g' hg' => ?_⟩
        cases hg'
        rw [follows_ite]
        constructor
        · intro _
          refine copies_enterFailed_store (f := fun _ => pure _) ?_ fun _ _ => hQ _
          exact hcopy₂
        · intro _
          rw [follows_bind]
          apply Aside.follows (StartContext.aside_isRestartEpochCurrent _)
          intro current
          rw [follows_ite]
          constructor
          · intro _
            rw [follows_perform_bind]
            refine ⟨trivial, fun stopped g' hg' => ?_⟩
            cases hg'
            refine copies_enterIdle_store (f := fun _ => pure _) ?_ fun _ _ => hQ _
            exact hcopy₂
          · intro _
            refine copies_enterIdle_store (f := fun _ => pure _) ?_ fun _ _ => hQ _
            exact hcopy₂

end Copies

/-! ### Every operation loads before it stores -/

/-- Whatever the thread has copied before. -/
def Copied {α : Type} (p : Op α) : Prop := ∀ g, Follows copies (fun _ _ => True) g p

section Copied

variable {α β : Type}

def stores : CoordinatorAction → Bool
  | .storeSession _ => true
  | _ => false

lemma copies_allow {a : CoordinatorAction} (ha : stores a = false) (g : CopyFields) :
    copies.allow g a := by
  cases a <;> trivial

lemma Copied.bind {p : Op α} {f : α → Op β} (h : Copied p) (hf : ∀ a, Copied (f a)) :
    Copied (p >>= f) :=
  fun g => Follows.bind (h g) fun g' a _ => hf a g'

lemma copied_pure (a : α) : Copied (pure a : Op α) := fun _ => trivial

lemma copied_perform (a : CoordinatorAction) (ha : stores a = false) :
    Copied (Program.perform a : Op (Answer a)) :=
  fun g => ⟨copies_allow ha g, fun _ _ _ => trivial⟩

lemma copied_perform_bind {a : CoordinatorAction} {f : Answer a → Op α} (ha : stores a = false)
    (hf : ∀ r, Copied (f r)) : Copied (Program.perform a >>= f) :=
  fun g => ⟨copies_allow ha g, fun r g' _ => hf r g'⟩

lemma copied_ite {c : Prop} [Decidable c] {p q : Op α} (hp : c → Copied p) (hq : ¬ c → Copied q) :
    Copied (if c then p else q) := by
  by_cases hc : c
  · rw [if_pos hc]
    exact hp hc
  · rw [if_neg hc]
    exact hq hc

/-- What follows the load of a copy. -/
lemma copied_load {f : DuplexRestartSession → Op α}
    (hf : ∀ session, Follows copies (fun _ _ => True) (some session.brokerFields) (f session)) :
    Copied (Op.loadSession true >>= f) := by
  intro g
  refine ⟨trivial, ?_⟩
  rintro session g' rfl
  exact hf session

lemma Aside.copied {p : Op α} (hp : Always Aside p) : Copied p :=
  fun _ => Aside.follows hp fun _ => trivial

lemma copied_completeClockRequest (request : PendingClockRequest)
    (outcome : DuplexClockRequestOutcome) (status : IOReturn) :
    Copied (completeClockRequest request outcome status) :=
  copied_perform_bind rfl fun _ => copied_perform _ rfl

lemma copied_failPendingClockRequest (outcome : DuplexClockRequestOutcome) (status : IOReturn) :
    Copied (failPendingClockRequest outcome status) := by
  apply copied_perform_bind rfl
  rintro (_ | request)
  · exact copied_pure ()
  · exact copied_completeClockRequest request outcome status

lemma copied_abortClockRequests (request : PendingClockRequest) :
    Copied (abortClockRequests request) :=
  (copied_completeClockRequest _ _ _).bind fun _ => copied_failPendingClockRequest _ _

lemma copied_claimGuid (polls : ℕ) : Copied (claimGuid polls) := by
  induction polls with
  | zero => exact copied_pure _
  | succ polls ih =>
    apply copied_perform_bind rfl
    intro acquired
    apply copied_ite fun _ => copied_pure _
    intro _
    apply copied_perform_bind rfl
    intro torn
    exact copied_ite (fun _ => copied_pure _) fun _ => ih

lemma copied_awaitCompletion (token polls : ℕ) : Copied (awaitCompletion token polls) := by
  induction polls with
  | zero => exact copied_pure _
  | succ polls ih =>
    apply copied_perform_bind rfl
    rintro (_ | completion)
    · apply copied_perform_bind rfl
      intro torn
      exact copied_ite (fun _ => copied_pure _) fun _ => ih
    · exact copied_pure _

lemma copied_endStart (status : IOReturn) : Copied (endStart status) :=
  copied_perform_bind rfl fun _ => copied_pure _

lemma copied_endClockRequestLoop (awaited : ℕ) : Copied (endClockRequestLoop awaited) :=
  copied_perform_bind rfl fun _ => copied_awaitCompletion _ _

lemma copied_stopOrTeardown : Copied stopOrTeardown := by
  apply copied_perform_bind rfl
  intro stopped
  exact copied_ite (fun _ => copied_pure _) fun _ => copied_perform _ rfl

lemma copied_applyClockRequest (request : PendingClockRequest) :
    Copied (applyClockRequest request) := by
  have htorn (p : Op IOReturn) {g : CopyFields} (hp : Follows copies (fun _ _ => True) g p) :
      Follows copies (fun _ _ => True) g
        (Op.teardownRequested >>= fun torn => if torn then pure .aborted else p) := by
    rw [follows_perform_bind]
    refine ⟨trivial, ?_⟩
    rintro torn g' rfl
    rw [follows_ite]
    exact ⟨fun _ => trivial, fun _ => hp⟩
  unfold applyClockRequest
  apply copied_perform_bind rfl
  intro guarded
  apply copied_ite fun _ => copied_pure _
  intro _
  apply copied_perform_bind rfl
  intro stopped
  apply copied_ite fun _ => copied_pure _
  intro _
  apply copied_perform_bind rfl
  intro torn
  apply copied_ite fun _ => copied_pure _
  intro _
  apply copied_perform_bind rfl
  rintro (_ | record)
  · exact copied_pure _
  · dsimp only
    apply copied_ite fun _ => copied_pure _
    intro _
    apply copied_load
    intro session
    rw [follows_ite]
    constructor
    · intro _
      apply htorn
      rw [follows_bind]
      apply copies_runDuplexStop rfl
      intro status session' hsame
      dsimp only
      rw [follows_ite]
      refine ⟨fun _ => trivial, fun _ => htorn _ ?_⟩
      exact copies_runDuplexStart record (congrArg some hsame.symm) _ _ fun _ => trivial
    · intro _
      apply htorn
      exact copies_runIdleClockApply rfl _ _ _ fun _ => trivial

lemma copied_clockRequestRound (current : PendingClockRequest) (awaited : ℕ) :
    Copied (clockRequestRound current awaited) := by
  have hend : Copied (abortClockRequests current >>= fun _ => endClockRequestLoop awaited) :=
    (copied_abortClockRequests current).bind fun _ => copied_endClockRequestLoop awaited
  apply copied_stopOrTeardown.bind
  intro stopped
  apply copied_ite fun _ => hend
  intro _
  apply (copied_applyClockRequest current).bind
  intro status
  apply copied_stopOrTeardown.bind
  intro stopped
  apply copied_ite fun _ => hend
  intro _
  apply (copied_completeClockRequest _ _ _).bind
  intro _
  apply copied_perform_bind rfl
  rintro (_ | next)
  · exact copied_endClockRequestLoop awaited
  · exact copied_pure _

lemma copied_drainRound : Copied drainRound := by
  apply copied_perform_bind rfl
  rintro (_ | pending)
  · exact copied_endStart _
  · have hend : Copied (abortClockRequests pending >>= fun _ => endStart .success) :=
      (copied_abortClockRequests pending).bind fun _ => copied_endStart _
    apply copied_perform_bind rfl
    intro stopped
    apply copied_ite fun _ => hend
    intro _
    apply (copied_applyClockRequest pending).bind
    intro status
    apply copied_perform_bind rfl
    intro stopped
    apply copied_ite fun _ => hend
    intro _
    exact (copied_completeClockRequest _ _ _).bind fun _ => copied_pure _

lemma copied_requestClockConfig (desiredClock : AudioClockConfig) (reason : DuplexRestartReason) :
    Copied (requestClockConfig desiredClock reason) := by
  unfold requestClockConfig
  apply copied_perform_bind rfl
  intro guarded
  apply copied_ite fun _ => copied_pure _
  intro _
  apply copied_perform_bind rfl
  intro torn
  apply copied_ite fun _ => copied_pure _
  intro _
  apply copied_ite fun _ => copied_pure _
  intro _
  apply copied_perform_bind rfl
  intro session
  apply copied_perform_bind rfl
  intro submission
  cases submission with
  | refused => exact copied_pure _
  | launched token => exact copied_pure _
  | queued token superseded =>
    cases superseded with
    | none => exact copied_awaitCompletion _ _
    | some superseded =>
      exact copied_perform_bind rfl fun _ => copied_awaitCompletion _ _

lemma copied_runStartStreaming : Copied runStartStreaming := by
  have hfail (outcome : DuplexClockRequestOutcome) (reported status : IOReturn) :
      Copied (failPendingClockRequest outcome reported >>= fun _ => endStart status) :=
    (copied_failPendingClockRequest _ _).bind fun _ => copied_endStart _
  unfold runStartStreaming
  apply copied_perform_bind rfl
  intro torn
  apply copied_ite fun _ => copied_endStart _
  intro _
  apply copied_perform_bind rfl
  rintro (_ | record)
  · exact hfail _ _ _
  · apply copied_load
    intro session
    rw [follows_bind]
    apply copies_runDuplexStart record rfl
    intro status
    refine copied_ite (fun _ => hfail _ _ _) (fun _ => ?_) _
    apply copied_perform_bind rfl
    intro stopped
    exact copied_ite (fun _ => hfail _ _ _) fun _ => copied_pure _

lemma copied_startStreaming : Copied startStreaming := by
  unfold startStreaming
  apply copied_perform_bind rfl
  intro guarded
  apply copied_ite fun _ => copied_pure _
  intro _
  apply copied_perform_bind rfl
  intro torn
  apply copied_ite fun _ => copied_pure _
  intro _
  apply copied_perform_bind rfl
  intro stopped
  apply copied_ite fun _ => copied_pure _
  intro _
  apply copied_perform_bind rfl
  intro _
  apply (copied_claimGuid _).bind
  intro claim
  cases claim with
  | acquired => exact copied_runStartStreaming
  | timedOut => exact copied_pure _
  | tornDown => exact copied_pure _

lemma copied_runStopStreaming : Copied runStopStreaming := by
  unfold runStopStreaming
  apply copied_perform_bind rfl
  intro torn
  apply copied_ite fun _ => copied_pure _
  intro _ g
  rw [follows_perform_bind]
  refine ⟨trivial, ?_⟩
  rintro existing g' rfl
  rw [follows_ite]
  refine ⟨fun _ => trivial, fun _ => ?_⟩
  rw [follows_perform_bind]
  refine ⟨trivial, ?_⟩
  rintro (_ | record) g' rfl
  · refine copied_load (fun session => ?_) _
    exact ⟨rfl, fun _ _ _ => trivial⟩
  · dsimp only
    rw [follows_perform_bind]
    refine ⟨trivial, ?_⟩
    rintro loaded g' rfl
    rw [follows_bind]
    refine copies_runDuplexStop ?_ fun _ _ _ => trivial
    cases existing with
    | none => rfl
    | some session => rfl

lemma copied_stopStreaming : Copied stopStreaming := by
  unfold stopStreaming
  apply copied_perform_bind rfl
  intro torn
  apply copied_ite fun _ => copied_pure _
  intro _
  apply copied_perform_bind rfl
  intro _
  apply copied_perform_bind rfl
  intro _
  apply (copied_failPendingClockRequest _ _).bind
  intro _
  apply (copied_claimGuid _).bind
  intro claim
  cases claim with
  | acquired =>
    apply copied_runStopStreaming.bind
    intro status
    apply (copied_failPendingClockRequest _ _).bind
    intro _
    exact copied_perform_bind rfl fun _ => copied_endStart _
  | timedOut => exact copied_perform_bind rfl fun _ => copied_pure _
  | tornDown => exact copied_perform_bind rfl fun _ => copied_pure _

lemma copies_recordRecovery {Q : CopyFields → DuplexRestartSession → Prop} {g : CopyFields}
    {session : DuplexRestartSession} (hg : g = some session.brokerFields)
    (reason : DuplexRestartReason)
    (hQ : ∀ session', session'.brokerFields = session.brokerFields → Q g session') :
    Follows copies Q g (recordRecovery session reason) := by
  unfold recordRecovery
  rw [follows_ite]
  refine ⟨fun _ => ?_, fun _ => hQ session rfl⟩
  apply copies_store
  · exact hg
  · exact hQ _ rfl

lemma copies_restartSession {g : CopyFields} (record : DuplexRecord)
    {session : DuplexRestartSession} (hg : g = some session.brokerFields)
    (reason : DuplexRestartReason) :
    Follows copies (fun _ _ => True) g (restartSession record session reason) := by
  have hstop : Always Aside stopOrTeardown := by
    unfold stopOrTeardown
    simp [Aside]
  unfold restartSession
  rw [follows_ite]
  constructor
  · intro _
    rw [follows_perform_bind]
    refine ⟨trivial, fun torn g' hg' => ?_⟩
    cases hg'
    rw [follows_ite]
    refine ⟨fun _ => trivial, fun _ => ?_⟩
    rw [follows_bind]
    apply copies_runDuplexStop hg
    intro status session' hsame
    dsimp only
    rw [follows_ite]
    refine ⟨fun _ => trivial, fun _ => ?_⟩
    rw [follows_bind]
    apply Aside.follows hstop
    intro stopped
    rw [follows_ite]
    refine ⟨fun _ => trivial, fun _ => ?_⟩
    exact copies_runDuplexStart record (hg.trans (congrArg some hsame.symm)) _ _ fun _ => trivial
  · intro _
    rw [follows_bind]
    apply Aside.follows hstop
    intro stopped
    rw [follows_ite]
    exact ⟨fun _ => trivial, fun _ => copies_runDuplexStart record hg _ _ fun _ => trivial⟩

lemma copied_runRecoveryStreaming (reason : DuplexRestartReason) :
    Copied (runRecoveryStreaming reason) := by
  unfold runRecoveryStreaming
  apply copied_perform_bind rfl
  intro torn
  apply copied_ite fun _ => copied_pure _
  intro _
  apply copied_perform_bind rfl
  intro record
  apply copied_load
  intro loaded
  rw [follows_bind]
  apply copies_recordRecovery rfl
  intro session hsame
  have hcopy : some loaded.brokerFields = some session.brokerFields := congrArg some hsame.symm
  rw [follows_perform_bind]
  refine ⟨trivial, ?_⟩
  rintro stopRequested g' rfl
  dsimp only
  split
  · exact trivial
  · refine copies_enterFailed_store (f := fun _ => pure _) ?_ fun _ _ => trivial
    split_ifs <;> exact hcopy
  · exact trivial
  · exact copies_restartSession _ hcopy reason

lemma copied_recoverStreaming (reason : DuplexRestartReason) (expectedRestartId : ℕ) :
    Copied (recoverStreaming reason expectedRestartId) := by
  have hcurrent : Always Aside (recoveryCurrent expectedRestartId) := by
    unfold recoveryCurrent
    simp [Aside]
  unfold recoverStreaming
  apply copied_perform_bind rfl
  intro guarded
  apply copied_ite fun _ => copied_pure _
  intro _
  apply copied_perform_bind rfl
  intro torn
  apply copied_ite fun _ => copied_pure _
  intro _
  apply copied_perform_bind rfl
  intro stopped
  apply copied_ite fun _ => copied_pure _
  intro _
  apply copied_perform_bind rfl
  intro _
  apply (copied_claimGuid _).bind
  intro claim
  cases claim with
  | acquired =>
    apply (Aside.copied hcurrent).bind
    intro current
    apply copied_ite fun _ => copied_endStart _
    intro _
    apply (copied_failPendingClockRequest _ _).bind
    intro _
    exact (copied_runRecoveryStreaming reason).bind fun _ => copied_endStart _
  | timedOut => exact copied_pure _
  | tornDown => exact copied_pure _

theorem copied_call (call : Call) : Copied call.program := by
  cases call with
  | startStreaming => exact copied_startStreaming
  | stopStreaming => exact copied_stopStreaming
  | requestClockConfig desiredClock reason => exact copied_requestClockConfig desiredClock reason
  | recoverStreaming reason expectedRestartId =>
    exact copied_recoverStreaming reason expectedRestartId
  | cancelRemoteDevice =>
    apply copied_perform_bind rfl
    intro _
    exact (copied_failPendingClockRequest _ _).bind fun _ => copied_pure _
  | acknowledgeDevicePresent => exact copied_perform_bind rfl fun _ => copied_pure _

theorem copied_next {next : Next} {p : Op Next} (hp : next.program = some p) : Copied p := by
  cases next with
  | returned status => cases hp
  | drainPending =>
    cases hp
    exact copied_drainRound
  | clockRequestLoop current awaited =>
    cases hp
    exact copied_clockRequestRound current awaited

end Copied

end ASFireWire.Duplex
