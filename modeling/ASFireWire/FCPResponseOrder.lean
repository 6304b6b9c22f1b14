import ASFireWire.FCPTransport

/-! A write completion of an FCP command in any place among the responses to the command
(`Protocols/AVC/FCPTransport.cpp`). -/
namespace ASFireWire.AVC

open Async Discovery Runs

namespace OutstandingCommand

/-- A command that waits until this time. -/
def WaitsUntil (cmd : OutstandingCommand) (deadline : ℕ) : Prop :=
  cmd.timeoutToken.map Timer.deadline = some deadline

/-- The command of a failed attempt that is retried. -/
def again (cmd : OutstandingCommand) : OutstandingCommand :=
  { cmd with
    retriesLeft := cmd.retriesLeft - 1
    timeoutToken := none
    asyncHandle := 0
    activeWriteAttempt := none
    successfulWriteAttempt := none
    gotInterim := false }

end OutstandingCommand

namespace FCPTransport

/-- What the caller of a command sees, and how often it was written. -/
def outcome (t : FCPTransport) (id : ℕ) : List (FCPStatus × List UInt8) × ℕ :=
  ((t.completions.filter fun c => c.1 = id).map Prod.snd, (t.writes.filter fun w => w.1 = id).length)

/-- No command of this transaction is left. -/
structure Gone (id : ℕ) (t : FCPTransport) : Prop where
  pending : ∀ cmd ∈ t.pending, cmd.transactionID ≠ id
  queued : ∀ cmd ∈ t.queued, cmd.transactionID ≠ id

/-- A command that has an attempt on the route of the device. -/
structure Live (t : FCPTransport) (cmd : OutstandingCommand) (attempt : FCPWriteAttempt) : Prop where
  running : t.shuttingDown = false
  pending : t.pending = some cmd
  active : cmd.activeWriteAttempt = some attempt
  successful : ∀ b ∈ cmd.successfulWriteAttempt, b = attempt
  current : t.routeRegistry.isCurrent attempt.route = true
  guid : attempt.route.guid = t.guid
  alone : ∀ other ∈ t.queued, other.transactionID ≠ cmd.transactionID

variable {bus : FCPWriteAttempt → ℕ} {t : FCPTransport} {id now : ℕ} {cmd : OutstandingCommand}
  {attempt : FCPWriteAttempt} {r : Response}

/-! ### Other commands -/

lemma issueWrite_gone (hqueued : ∀ other ∈ t.queued, other.transactionID ≠ id)
    (hid : cmd.transactionID ≠ id) : Gone id (t.issueWrite bus cmd).1 ∧
      (t.issueWrite bus cmd).1.outcome id = t.outcome id ∧
      (t.issueWrite bus cmd).1.queued = t.queued := by
  unfold issueWrite
  split_ifs
  · exact ⟨⟨by simpa using hid, hqueued⟩, rfl, rfl⟩
  · split
    · exact ⟨⟨by simpa using hid, hqueued⟩, rfl, rfl⟩
    · dsimp only
      split_ifs
      · exact ⟨⟨by simpa using hid, hqueued⟩, rfl, rfl⟩
      · exact ⟨⟨by simpa using hid, hqueued⟩, by simp [outcome, hid], rfl⟩

lemma outcome_finish (hid : cmd.transactionID ≠ id) (status : FCPStatus) (response : List UInt8) :
    (t.finish cmd status response).outcome id = t.outcome id := by
  simp [outcome, finish, hid]

lemma startQueued_gone {queue : List OutstandingCommand}
    (hqueued : ∀ other ∈ queue, other.transactionID ≠ id)
    (hpending : ∀ other ∈ t.pending, other.transactionID ≠ id) :
    Gone id (startQueued bus queue t) ∧ (startQueued bus queue t).outcome id = t.outcome id := by
  induction queue generalizing t with
  | nil => exact ⟨⟨hpending, by simp [startQueued]⟩, rfl⟩
  | cons cmd queue ih =>
    obtain ⟨hcmd, hrest⟩ := List.forall_mem_cons.mp hqueued
    rw [startQueued]
    split_ifs
    · exact ⟨⟨hpending, hqueued⟩, rfl⟩
    · obtain ⟨hgone, houtcome, hkept⟩ := issueWrite_gone
        (t := { t with queued := queue }) hrest hcmd
      split
      · rename_i heq
        rw [heq] at hgone houtcome
        exact ⟨hgone, houtcome⟩
      · rename_i heq
        rw [heq] at hgone houtcome
        obtain ⟨hgone', houtcome'⟩ := ih hrest (t := finish _ cmd _ []) (by simp [finish])
        exact ⟨hgone', houtcome'.trans ((outcome_finish hcmd _ _).trans houtcome)⟩

lemma completeCommand_gone (h : Gone id t) (status : FCPStatus) (response : List UInt8) :
    Gone id (t.completeCommand bus status response) ∧
      (t.completeCommand bus status response).outcome id = t.outcome id := by
  unfold completeCommand
  split
  · exact ⟨h, rfl⟩
  · rename_i cmd hpending
    obtain ⟨hgone, houtcome⟩ := startQueued_gone h.queued
      (t := t.finish cmd status response) (by simp [finish])
    exact ⟨hgone, houtcome.trans (outcome_finish (h.pending cmd hpending) _ _)⟩

lemma startPendingWrite_gone (h : Gone id t) :
    Gone id (t.startPendingWrite bus) ∧ (t.startPendingWrite bus).outcome id = t.outcome id := by
  unfold startPendingWrite
  split
  · exact ⟨h, rfl⟩
  · rename_i cmd hpending
    obtain ⟨hgone, houtcome, _⟩ := issueWrite_gone h.queued (h.pending cmd hpending)
    split
    · rename_i heq
      rw [heq] at hgone houtcome
      exact ⟨hgone, houtcome⟩
    · rename_i heq
      rw [heq] at hgone houtcome
      obtain ⟨hgone', houtcome'⟩ := completeCommand_gone hgone _ []
      exact ⟨hgone', houtcome'.trans houtcome⟩

/-- Another pending command. -/
lemma Gone.replace (h : Gone id t) (hpending : t.pending = some cmd) {cmd' : OutstandingCommand}
    (hsame : cmd'.transactionID = cmd.transactionID) :
    Gone id { t with pending := some cmd' } := by
  refine ⟨fun other hother => ?_, h.queued⟩
  obtain rfl : cmd' = other := Option.some.inj hother
  rw [hsame]
  exact h.pending cmd hpending

lemma scheduleTimeout_gone (h : Gone id t) (timeoutMs : ℕ) :
    Gone id (t.scheduleTimeout now timeoutMs) ∧
      (t.scheduleTimeout now timeoutMs).outcome id = t.outcome id := by
  unfold scheduleTimeout
  split
  · exact ⟨h, rfl⟩
  · rename_i cmd hpending
    split_ifs
    · exact ⟨h, rfl⟩
    · refine ⟨⟨fun other hother => ?_, h.queued⟩, rfl⟩
      obtain rfl := Option.some.inj hother
      exact h.pending cmd hpending

lemma retryCommand_gone (h : Gone id t) :
    Gone id (t.retryCommand bus) ∧ (t.retryCommand bus).outcome id = t.outcome id := by
  unfold retryCommand
  split
  · exact ⟨h, rfl⟩
  · rename_i cmd hpending
    split_ifs
    · exact ⟨h, rfl⟩
    all_goals
      refine startPendingWrite_gone ⟨fun other hother => ?_, h.queued⟩
      obtain rfl := Option.some.inj hother
      exact h.pending cmd hpending

lemma failAttempt_gone (h : Gone id t) (hpending : t.pending = some cmd) (status : FCPStatus) :
    Gone id (t.failAttempt bus cmd status) ∧
      (t.failAttempt bus cmd status).outcome id = t.outcome id := by
  unfold failAttempt
  split_ifs
  · exact retryCommand_gone (h.replace hpending (by rfl))
  · exact completeCommand_gone h status []

/-- Events of other commands. -/
lemma step_gone (h : Gone id t) (e : ℕ × Event) :
    Gone id (t.step bus e) ∧ (t.step bus e).outcome id = t.outcome id := by
  obtain ⟨now, e⟩ := e
  cases e with
  | response r =>
    simp only [step, onFCPResponse]
    split
    · exact ⟨h, rfl⟩
    · rename_i cmd hpending
      by_cases hdown : t.shuttingDown
      · rw [if_pos hdown]
        exact ⟨h, rfl⟩
      · rw [if_neg hdown]
        split
        · exact ⟨h, rfl⟩
        · split_ifs
          · exact ⟨h, rfl⟩
          · exact ⟨h, rfl⟩
          · exact scheduleTimeout_gone (h.replace hpending (by rfl)) _
          · exact completeCommand_gone (h.replace hpending (by rfl)) _ _
  | writeComplete writeAttempt status =>
    simp only [step, onAsyncWriteComplete]
    split
    · exact ⟨h, rfl⟩
    · rename_i cmd hpending
      split_ifs
      · exact ⟨h, rfl⟩
      · exact ⟨h, rfl⟩
      · exact ⟨h, rfl⟩
      · exact failAttempt_gone h hpending _
      · exact scheduleTimeout_gone (h.replace hpending (by rfl)) _
  | timer epoch =>
    simp only [step, onCommandTimeout]
    split
    · exact ⟨h, rfl⟩
    · rename_i cmd hpending
      split_ifs
      · exact ⟨h, rfl⟩
      · exact failAttempt_gone (h.replace hpending (by rfl)) rfl _

lemma run_gone (h : Gone id t) (events : List (ℕ × Event)) :
    Gone id (run (step bus) t events) ∧ (run (step bus) t events).outcome id = t.outcome id := by
  induction events generalizing t with
  | nil => exact ⟨h, rfl⟩
  | cons e events ih =>
    obtain ⟨hgone, houtcome⟩ := step_gone h e
    obtain ⟨hrun, hsame⟩ := ih hgone
    exact ⟨hrun, hsame.trans houtcome⟩

/-! ### The command itself -/

/-- What a waiting command keeps. -/
structure Kept (t : FCPTransport) (cmd : OutstandingCommand) (t' : FCPTransport)
    (cmd' : OutstandingCommand) : Prop where
  completions : t'.completions = t.completions
  writes : t'.writes = t.writes
  nextWriteAttempt : t'.nextWriteAttempt = t.nextWriteAttempt
  interimTimeoutMs : t'.interimTimeoutMs = t.interimTimeoutMs
  transactionID : cmd'.transactionID = cmd.transactionID
  retriesLeft : cmd'.retriesLeft = cmd.retriesLeft
  accepts : cmd'.accepts = cmd.accepts

lemma Kept.trans {t' t'' : FCPTransport} {cmd' cmd'' : OutstandingCommand} (h : Kept t cmd t' cmd')
    (h' : Kept t' cmd' t'' cmd'') : Kept t cmd t'' cmd'' where
  completions := h'.completions.trans h.completions
  writes := h'.writes.trans h.writes
  nextWriteAttempt := h'.nextWriteAttempt.trans h.nextWriteAttempt
  interimTimeoutMs := h'.interimTimeoutMs.trans h.interimTimeoutMs
  transactionID := h'.transactionID.trans h.transactionID
  retriesLeft := h'.retriesLeft.trans h.retriesLeft
  accepts := h'.accepts.trans h.accepts

lemma Kept.outcome {t' : FCPTransport} {cmd' : OutstandingCommand} (h : Kept t cmd t' cmd') :
    t'.outcome id = t.outcome id := by
  unfold FCPTransport.outcome
  rw [h.completions, h.writes]

lemma Live.awaited (h : Live t cmd attempt) :
    cmd.successfulWriteAttempt.or cmd.activeWriteAttempt = some attempt := by
  cases hsuccessful : cmd.successfulWriteAttempt with
  | none => exact h.active
  | some b => rw [Option.some_or, h.successful b hsuccessful]

/-- A timer is armed for a command whose attempt has arrived. -/
lemma Live.schedule (h : Live t cmd attempt) {cmd' : OutstandingCommand}
    (hsuccessful : cmd'.successfulWriteAttempt = some attempt)
    (hactive : cmd'.activeWriteAttempt = cmd.activeWriteAttempt)
    (hid : cmd'.transactionID = cmd.transactionID) (hretries : cmd'.retriesLeft = cmd.retriesLeft)
    (haccepts : cmd'.accepts = cmd.accepts) (timeoutMs : ℕ) :
    ∃ cmd'', Live (scheduleTimeout { t with pending := some cmd' } now timeoutMs) cmd'' attempt ∧
      Kept t cmd (scheduleTimeout { t with pending := some cmd' } now timeoutMs) cmd'' ∧
      cmd''.WaitsUntil (now + timeoutMs * 1000000) := by
  have hrunning : ¬ t.shuttingDown = true := by simp [h.running]
  simp only [scheduleTimeout, if_neg hrunning]
  refine ⟨_, ⟨h.running, rfl, hactive.trans h.active, fun b hb => ?_, h.current, h.guid,
    fun other hother => ?_⟩, ⟨rfl, rfl, rfl, rfl, hid, hretries, haccepts⟩, rfl⟩
  · exact (Option.some.inj (hsuccessful.symm.trans hb)).symm
  · exact (h.alone other hother).trans_eq hid.symm

lemma Live.not_down (h : Live t cmd attempt) : ¬ t.shuttingDown = true := by simp [h.running]

lemma Live.not_stale (h : Live t cmd attempt) :
    ¬ t.routeRegistry.isCurrent attempt.route = false := by simp [h.current]

lemma Live.step_response (h : Live t cmd attempt) (hr : cmd.accepts attempt r = true) :
    t.step bus (now, .response r) =
      if r.interim then
        scheduleTimeout { t with pending := some { cmd with
          successfulWriteAttempt := some attempt, gotInterim := true } } now t.interimTimeoutMs
      else completeCommand bus { t with pending := some { cmd with
        successfulWriteAttempt := some attempt } } .ok (r.payload.take kAVCFrameMaxSize) := by
  have haccepted : ¬ cmd.accepts attempt r = false := by simp [hr]
  unfold step onFCPResponse
  dsimp only
  rw [h.pending]
  dsimp only
  rw [if_neg h.not_down, h.awaited]
  dsimp only
  rw [if_neg h.not_stale, if_neg haccepted]

lemma Live.interim (h : Live t cmd attempt) (hr : cmd.accepts attempt r = true)
    (hinterim : r.interim = true) :
    ∃ cmd', Live (t.step bus (now, .response r)) cmd' attempt ∧
      Kept t cmd (t.step bus (now, .response r)) cmd' ∧
      cmd'.WaitsUntil (now + t.interimTimeoutMs * 1000000) := by
  rw [h.step_response hr, if_pos hinterim]
  apply h.schedule <;> rfl

lemma Live.step_written (h : Live t cmd attempt) (status : AsyncStatus) :
    t.step bus (now, .writeComplete attempt status) =
      if status ≠ .success then t.failAttempt bus cmd .transportError
      else scheduleTimeout { t with pending := some { cmd with
        successfulWriteAttempt := some attempt } } now t.timeoutMs := by
  have hactive : ¬ cmd.activeWriteAttempt.map FCPWriteAttempt.id ≠ some attempt.id := by
    simp [h.active]
  unfold step onAsyncWriteComplete
  dsimp only
  rw [h.pending]
  dsimp only
  rw [if_neg h.not_down, if_neg hactive, if_neg h.not_stale]

lemma Live.written (h : Live t cmd attempt) :
    ∃ cmd', Live (t.step bus (now, .writeComplete attempt .success)) cmd' attempt ∧
      Kept t cmd (t.step bus (now, .writeComplete attempt .success)) cmd' ∧
      cmd'.WaitsUntil (now + t.timeoutMs * 1000000) := by
  rw [h.step_written, if_neg fun hne => hne rfl]
  apply h.schedule <;> rfl

/-- A command is completed with this status. -/
def Completes (id : ℕ) (t t' : FCPTransport) (status : FCPStatus) (response : List UInt8) : Prop :=
  Gone id t' ∧ t'.outcome id = ((t.outcome id).1 ++ [(status, response)], (t.outcome id).2)

lemma completeCommand_completes (hpending : t.pending = some cmd)
    (halone : ∀ other ∈ t.queued, other.transactionID ≠ cmd.transactionID) (status : FCPStatus)
    (response : List UInt8) :
    Completes cmd.transactionID t (t.completeCommand bus status response) status response := by
  unfold completeCommand
  rw [hpending]
  obtain ⟨hgone, houtcome⟩ := startQueued_gone halone
    (t := t.finish cmd status response) (by simp [finish])
  refine ⟨hgone, houtcome.trans ?_⟩
  simp [outcome, finish]

variable (bus now) in
lemma Live.final (h : Live t cmd attempt) (hr : cmd.accepts attempt r = true)
    (hfinal : r.interim = false) :
    Completes cmd.transactionID t (t.step bus (now, .response r)) .ok
      (r.payload.take kAVCFrameMaxSize) := by
  rw [h.step_response hr, if_neg (by simp [hfinal])]
  exact completeCommand_completes (t := { t with pending := some { cmd with
    successfulWriteAttempt := some attempt } }) rfl h.alone .ok _

/-- The bus has a place for the next write of the command. -/
def Retried (bus : FCPWriteAttempt → ℕ) (t : FCPTransport) (cmd : OutstandingCommand)
    (attempt : FCPWriteAttempt) : Prop :=
  0 < cmd.retriesLeft ∧ bus { id := t.nextWriteAttempt + 1, route := attempt.route } ≠ 0

/-- A command before its write. -/
structure Unwritten (t : FCPTransport) (cmd : OutstandingCommand) (route : DeviceRouteToken) :
    Prop where
  running : t.shuttingDown = false
  pending : t.pending = some cmd
  current : t.routeRegistry.isCurrent route = true
  guid : route.guid = t.guid
  alone : ∀ other ∈ t.queued, other.transactionID ≠ cmd.transactionID

lemma Unwritten.issueWrite_eq {route : DeviceRouteToken} (h : Unwritten t cmd route) :
    t.issueWrite bus cmd =
      let writeAttempt : FCPWriteAttempt := { id := t.nextWriteAttempt + 1, route := route }
      let cmd := { cmd with
        asyncHandle := 0
        activeWriteAttempt := some writeAttempt
        successfulWriteAttempt := none }
      if bus writeAttempt = 0 then
        ({ t with nextWriteAttempt := writeAttempt.id, pending := some cmd }, some .transportError)
      else
        ({ t with
            nextWriteAttempt := writeAttempt.id
            pending := some { cmd with asyncHandle := bus writeAttempt }
            writes := t.writes ++ [(cmd.transactionID, writeAttempt)] }, none) := by
  have hroute : t.routeRegistry.currentRoute t.guid = some route := by
    rw [← h.guid]
    exact (DeviceRegistry.isCurrent_iff.mp h.current).2
  unfold issueWrite
  rw [if_neg (by simp [h.running]), hroute]
  simp [h.current]

lemma Unwritten.refused {route : DeviceRouteToken} (h : Unwritten t cmd route)
    (hbus : bus { id := t.nextWriteAttempt + 1, route := route } = 0) :
    Completes cmd.transactionID t (t.startPendingWrite bus) .transportError [] := by
  unfold startPendingWrite
  rw [h.pending]
  dsimp only
  rw [h.issueWrite_eq]
  dsimp only
  rw [if_pos hbus]
  exact completeCommand_completes (t := { t with
    nextWriteAttempt := t.nextWriteAttempt + 1
    pending := some { cmd with
      asyncHandle := 0
      activeWriteAttempt := some { id := t.nextWriteAttempt + 1, route := route }
      successfulWriteAttempt := none } }) rfl h.alone .transportError []

lemma Unwritten.taken {route : DeviceRouteToken} (h : Unwritten t cmd route)
    (hbus : bus { id := t.nextWriteAttempt + 1, route := route } ≠ 0) :
    ∃ cmd', Live (t.startPendingWrite bus) cmd' { id := t.nextWriteAttempt + 1, route := route } ∧
      cmd'.timeoutToken = cmd.timeoutToken ∧ cmd'.transactionID = cmd.transactionID ∧
      cmd'.accepts = cmd.accepts ∧
      (t.startPendingWrite bus).outcome cmd.transactionID =
        ((t.outcome cmd.transactionID).1, (t.outcome cmd.transactionID).2 + 1) := by
  unfold startPendingWrite
  rw [h.pending]
  dsimp only
  rw [h.issueWrite_eq]
  dsimp only
  rw [if_neg hbus]
  refine ⟨_, ⟨h.running, rfl, rfl, nofun, h.current, h.guid, h.alone⟩, rfl, rfl, rfl, ?_⟩
  simp [outcome]

lemma Live.retry (h : Live t cmd attempt) (hretries : 0 < cmd.retriesLeft) :
    ∃ t' : FCPTransport, Unwritten t' cmd.again attempt.route ∧
      t'.nextWriteAttempt = t.nextWriteAttempt ∧ t'.outcome = t.outcome ∧
      t.failAttempt bus cmd .transportError = t'.startPendingWrite bus := by
  rw [failAttempt, if_pos hretries, retryCommand]
  dsimp only
  rw [if_neg h.not_down]
  refine ⟨_, ?_, ?_, ?_, rfl⟩
  · exact ⟨h.running, rfl, h.current, h.guid, h.alone⟩
  · rfl
  · rfl

variable (now) in
lemma Live.failed (h : Live t cmd attempt) (hlast : ¬ Retried bus t cmd attempt)
    {status : AsyncStatus} (hstatus : status ≠ .success) :
    Completes cmd.transactionID t (t.step bus (now, .writeComplete attempt status))
      .transportError [] := by
  rw [h.step_written, if_pos hstatus]
  by_cases hretries : 0 < cmd.retriesLeft
  · obtain ⟨t', hwrite, hnext, houtcome, heq⟩ := h.retry hretries
    have hrefused : bus { id := t'.nextWriteAttempt + 1, route := attempt.route } = 0 := by
      rw [hnext]
      exact not_not.mp fun hne => hlast ⟨hretries, hne⟩
    have hdone := hwrite.refused hrefused
    rw [Completes, houtcome] at hdone
    rw [heq]
    exact hdone
  · rw [failAttempt, if_neg hretries]
    exact completeCommand_completes h.pending h.alone .transportError []

variable (now) in
lemma Live.retried (h : Live t cmd attempt) (hretried : Retried bus t cmd attempt)
    {status : AsyncStatus} (hstatus : status ≠ .success) :
    ∃ cmd' attempt', attempt'.route = attempt.route ∧
      Live (t.step bus (now, .writeComplete attempt status)) cmd' attempt' ∧
      cmd'.timeoutToken = none ∧ cmd'.transactionID = cmd.transactionID ∧
      cmd'.accepts = cmd.accepts ∧
      (t.step bus (now, .writeComplete attempt status)).outcome cmd.transactionID =
        ((t.outcome cmd.transactionID).1, (t.outcome cmd.transactionID).2 + 1) := by
  rw [h.step_written, if_pos hstatus]
  obtain ⟨t', hwrite, hnext, houtcome, heq⟩ := h.retry hretried.1
  obtain ⟨cmd', hlive, htimer, hid, haccepts, hsame⟩ :=
    hwrite.taken (by rw [hnext]; exact hretried.2)
  rw [houtcome] at hsame
  rw [heq]
  refine ⟨cmd', _, ?_, hlive, htimer, hid, haccepts, hsame⟩
  rfl

/-- Responses that only extend the deadline. -/
lemma Live.interims (h : Live t cmd attempt) {events : List (ℕ × Event)}
    (hall : ∀ e ∈ events, ∃ r, e.2 = .response r ∧ cmd.accepts attempt r = true ∧
      r.interim = true) :
    ∃ cmd', Live (run (step bus) t events) cmd' attempt ∧
      Kept t cmd (run (step bus) t events) cmd' ∧
      ∀ e ∈ events.getLast?, cmd'.WaitsUntil
        (e.1 + t.interimTimeoutMs * 1000000) := by
  induction events using List.reverseRecOn with
  | nil => exact ⟨cmd, h, ⟨rfl, rfl, rfl, rfl, rfl, rfl, rfl⟩, by simp⟩
  | append_singleton events e ih =>
    obtain ⟨cmd', hlive, hkept, _⟩ := ih fun e he => hall e (List.mem_append_left _ he)
    obtain ⟨r, hr, haccepts, hinterim⟩ := hall e (by simp)
    obtain ⟨now, event⟩ := e
    obtain rfl : event = .response r := hr
    rw [← hkept.accepts] at haccepts
    obtain ⟨cmd'', hlive', hkept', hwaits⟩ := hlive.interim haccepts hinterim
    rw [run_append]
    refine ⟨cmd'', hlive', hkept.trans hkept', fun e he => ?_⟩
    rw [hkept.interimTimeoutMs] at hwaits
    rw [List.getLast?_append_of_ne_nil _ (List.cons_ne_nil _ _), List.getLast?_singleton] at he
    rw [← Option.some.inj he]
    exact hwaits

/-! ### Every place of the write completion -/

def Event.isInterim : Event → Bool
  | .response r => r.interim
  | _ => false

/-- The write completion behind the first `i` responses. -/
def arrivals (responses : List Response) (attempt : FCPWriteAttempt) (status : AsyncStatus)
    (i : ℕ) : List Event :=
  (responses.take i).map .response ++
    .writeComplete attempt status :: (responses.drop i).map .response

/-- Events with times that do not go back. -/
structure Dispatched (events : List Event) (timed : List (ℕ × Event)) : Prop where
  events : timed.map Prod.snd = events
  ordered : (timed.map Prod.fst).Pairwise (· ≤ ·)

/-- When the last INTERIM response was dispatched. -/
def lastInterim (timed : List (ℕ × Event)) : Option ℕ :=
  ((timed.filter fun e => e.2.isInterim).getLast?).map Prod.fst

/-- The place of the write completion decides nothing: neither how the command ends and how often it
is written, nor, at any time behind an INTERIM response, the deadline of the command. -/
structure OrderFree (bus : FCPWriteAttempt → ℕ) (t : FCPTransport) (cmd : OutstandingCommand)
    (attempt : FCPWriteAttempt) (status : AsyncStatus) (responses : List Response) : Prop where
  outcome : ∀ i ≤ responses.length, ∀ j ≤ responses.length, ∀ timed timed',
    Dispatched (arrivals responses attempt status i) timed →
      Dispatched (arrivals responses attempt status j) timed' →
      (run (step bus) t timed).outcome cmd.transactionID =
        (run (step bus) t timed').outcome cmd.transactionID
  deadline : ∀ i ≤ responses.length, ∀ timed,
    Dispatched (arrivals responses attempt status i) timed →
      ∀ k, ∀ cmd' ∈ (run (step bus) t (timed.take k)).pending,
        cmd'.transactionID = cmd.transactionID →
        ∀ now ∈ lastInterim (timed.take k), cmd'.WaitsUntil (now + t.interimTimeoutMs * 1000000)

variable {responses : List Response} {status : AsyncStatus} {i : ℕ} {timed : List (ℕ × Event)}

/-- The responses before the write completion, and those behind it. -/
lemma Dispatched.split (h : Dispatched (arrivals responses attempt status i) timed) :
    ∃ before now after, timed = before ++ (now, .writeComplete attempt status) :: after ∧
      before.map Prod.snd = (responses.take i).map .response ∧
      after.map Prod.snd = (responses.drop i).map .response := by
  obtain ⟨before, rest, rfl, hbefore, hrest⟩ := List.map_eq_append_iff.mp h.events
  obtain ⟨⟨now, event⟩, after, rfl, rfl, hafter⟩ := List.map_eq_cons_iff.mp hrest
  exact ⟨before, now, after, rfl, hbefore, hafter⟩

lemma arrivals_length (responses : List Response) (attempt : FCPWriteAttempt)
    (status : AsyncStatus) : arrivals responses attempt status responses.length =
      responses.map .response ++ [.writeComplete attempt status] := by
  rw [arrivals, List.take_length, List.drop_length]
  rfl

/-- Events one after the other at the start of time, and from some event on later. -/
def timedFrom (now : ℕ) (first events : List Event) : List (ℕ × Event) :=
  first.map (fun e => (0, e)) ++ events.map fun e => (now, e)

lemma dispatched_timedFrom (now : ℕ) (first events : List Event) :
    Dispatched (first ++ events) (timedFrom now first events) := by
  refine ⟨?_, ?_⟩
  · simp [timedFrom, Function.comp_def]
  · simp only [timedFrom, List.map_append, List.map_map, Function.comp_def]
    rw [List.pairwise_append]
    refine ⟨?_, ?_, ?_⟩
    · simp [List.pairwise_iff_getElem]
    · simp [List.pairwise_iff_getElem]
    · simp

lemma accepts_congr {attempt' : FCPWriteAttempt} {cmd' : OutstandingCommand}
    (hroute : attempt'.route = attempt.route) (haccepts : cmd'.accepts = cmd.accepts) :
    cmd'.accepts attempt' r = cmd.accepts attempt r := by
  rw [haccepts, OutstandingCommand.accepts, OutstandingCommand.accepts, hroute]

/-- The command waits behind accepted INTERIM responses. -/
lemma Live.waits (h : Live t cmd attempt) (haccepts : ∀ r ∈ responses, cmd.accepts attempt r = true)
    (hinterim : ∀ r ∈ responses, r.interim = true)
    (hevents : timed.map Prod.snd = responses.map .response) :
    ∃ cmd', Live (run (step bus) t timed) cmd' attempt ∧ Kept t cmd (run (step bus) t timed) cmd' ∧
      ∀ now ∈ lastInterim timed, cmd'.WaitsUntil (now + t.interimTimeoutMs * 1000000) := by
  have hall : ∀ e ∈ timed, ∃ r, e.2 = .response r ∧ cmd.accepts attempt r = true ∧
      r.interim = true := by
    intro e he
    have hmem : e.2 ∈ responses.map Event.response := hevents ▸ List.mem_map_of_mem he
    obtain ⟨r, hr, heq⟩ := List.mem_map.mp hmem
    exact ⟨r, heq.symm, haccepts r hr, hinterim r hr⟩
  obtain ⟨cmd', hlive, hkept, hwaits⟩ := h.interims hall
  refine ⟨cmd', hlive, hkept, fun now hnow => ?_⟩
  have hfilter : timed.filter (fun e => e.2.isInterim) = timed := by
    rw [List.filter_eq_self]
    intro e he
    obtain ⟨r, hr, _, hinterim⟩ := hall e he
    rw [hr]
    exact hinterim
  rw [lastInterim, hfilter] at hnow
  obtain ⟨e, he, rfl⟩ := Option.map_eq_some_iff.mp hnow
  exact hwaits e he

variable (bus) in
/-- Once the command has left, nothing happens to it. -/
lemma Completes.run {t' : FCPTransport} {completed : FCPStatus} {response : List UInt8}
    (h : Completes id t t' completed response) (events : List (ℕ × Event)) :
    Completes id t (run (step bus) t' events) completed response := by
  obtain ⟨hgone, houtcome⟩ := run_gone h.1 events
  exact ⟨hgone, houtcome.trans h.2⟩

lemma Completes.congr {t₀ t' : FCPTransport} {completed : FCPStatus} {response : List UInt8}
    (h : Completes id t₀ t' completed response) (hsame : t₀.outcome id = t.outcome id) :
    Completes id t t' completed response := by
  rw [Completes, ← hsame]
  exact h

/-- A failed attempt without a retry ends the command, wherever its completion stands. -/
lemma Live.run_failed (h : Live t cmd attempt) (hstatus : status ≠ .success)
    (haccepts : ∀ r ∈ responses, cmd.accepts attempt r = true)
    (hinterim : ∀ r ∈ responses, r.interim = true) (hlast : ¬ Retried bus t cmd attempt)
    {before : List (ℕ × Event)} (hbefore : before.map Prod.snd = (responses.take i).map .response)
    (after : List (ℕ × Event)) :
    Completes cmd.transactionID t
      (run (step bus) t (before ++ (now, .writeComplete attempt status) :: after))
      .transportError [] := by
  obtain ⟨cmd', hlive, hkept, _⟩ := h.waits
    (fun r hr => haccepts r (List.mem_of_mem_take hr))
    (fun r hr => hinterim r (List.mem_of_mem_take hr)) hbefore
  have hlast' : ¬ Retried bus (run (step bus) t before) cmd' attempt := by
    rw [Retried, hkept.retriesLeft, hkept.nextWriteAttempt]
    exact hlast
  have hdone := hlive.failed now hlast' hstatus
  rw [hkept.transactionID] at hdone
  rw [run_append]
  exact (hdone.congr hkept.outcome).run bus after

variable (bus now) in
/-- A final response ends the command, when INTERIM responses precede it. -/
lemma Live.run_final (h : Live t cmd attempt)
    (haccepts : ∀ r ∈ responses, cmd.accepts attempt r = true)
    (hinterim : ∀ r ∈ responses, r.interim = true) {last : Response}
    (hlast : cmd.accepts attempt last = true) (hfinal : last.interim = false)
    {before : List (ℕ × Event)} (hbefore : before.map Prod.snd = responses.map .response)
    (after : List (ℕ × Event)) :
    Completes cmd.transactionID t (run (step bus) t (before ++ (now, .response last) :: after)) .ok
      (last.payload.take kAVCFrameMaxSize) := by
  obtain ⟨cmd', hlive, hkept, _⟩ := h.waits haccepts hinterim hbefore
  rw [← hkept.accepts] at hlast
  have hdone := hlive.final bus now hlast hfinal
  rw [hkept.transactionID] at hdone
  rw [run_append]
  exact (hdone.congr hkept.outcome).run bus after

lemma lastInterim_none (h : ∀ e ∈ timed, e.2.isInterim = false) (k : ℕ) :
    lastInterim (timed.take k) = none := by
  have hfilter : (timed.take k).filter (fun e => e.2.isInterim) = [] := by
    rw [List.filter_eq_nil_iff]
    intro e he
    simp [h e (List.mem_of_mem_take he)]
  rw [lastInterim, hfilter]
  rfl

/-- No deadline to compare without INTERIM responses. -/
lemma Dispatched.lastInterim_none (h : Dispatched (arrivals responses attempt status i) timed)
    (hfinal : ∀ r ∈ responses, r.interim = false) (k : ℕ) : lastInterim (timed.take k) = none := by
  apply FCPTransport.lastInterim_none
  intro e he
  have hmem : e.2 ∈ arrivals responses attempt status i := h.events ▸ List.mem_map_of_mem he
  rcases List.mem_append.mp hmem with hbefore | hrest
  · obtain ⟨r, hr, heq⟩ := List.mem_map.mp hbefore
    rw [← heq]
    exact hfinal r (List.mem_of_mem_take hr)
  · rcases List.mem_cons.mp hrest with heq | hafter
    · rw [heq]
      rfl
    · obtain ⟨r, hr, heq⟩ := List.mem_map.mp hafter
      rw [← heq]
      exact hfinal r (List.mem_of_mem_drop hr)

/-! ### When the place decides nothing -/

lemma Live.orderFree_nil (h : Live t cmd attempt) : OrderFree bus t cmd attempt status [] := by
  constructor
  · intro i _ j _ timed timed' htimed htimed'
    obtain ⟨before, now, after, rfl, hbefore, hafter⟩ := htimed.split
    obtain ⟨before', now', after', rfl, hbefore', hafter'⟩ := htimed'.split
    simp only [List.take_nil, List.drop_nil, List.map_nil, List.map_eq_nil_iff] at hbefore hafter
    simp only [List.take_nil, List.drop_nil, List.map_nil, List.map_eq_nil_iff] at hbefore' hafter'
    subst hbefore hafter hbefore' hafter'
    by_cases hstatus : status = .success
    · subst hstatus
      obtain ⟨_, _, hkept, _⟩ := h.written
      obtain ⟨_, _, hkept', _⟩ := h.written
      exact hkept.outcome.trans hkept'.outcome.symm
    · have hsame : t.step bus (now, .writeComplete attempt status) =
          t.step bus (now', .writeComplete attempt status) := by
        rw [h.step_written, h.step_written, if_pos hstatus, if_pos hstatus]
      exact congrArg (fun t' : FCPTransport => t'.outcome cmd.transactionID) hsame
  · intro i _ timed htimed k cmd' _ _ now hnow
    rw [htimed.lastInterim_none (by simp)] at hnow
    exact absurd hnow nofun

lemma Live.orderFree_final (h : Live t cmd attempt) {last : Response}
    (haccepts : cmd.accepts attempt last = true) (hfinal : last.interim = false) :
    OrderFree bus t cmd attempt .success [last] := by
  constructor
  · -- the response comes behind the completion or before it
    have hcompletes : ∀ i ≤ [last].length, ∀ timed,
        Dispatched (arrivals [last] attempt .success i) timed →
        Completes cmd.transactionID t (run (step bus) t timed) .ok
          (last.payload.take kAVCFrameMaxSize) := by
      intro i hi timed htimed
      obtain ⟨before, now, after, rfl, hbefore, hafter⟩ := htimed.split
      obtain rfl | rfl : i = 0 ∨ i = 1 := by
        rw [List.length_singleton] at hi
        omega
      · simp only [List.take_zero, List.map_nil, List.map_eq_nil_iff, List.drop_zero,
          List.map_cons] at hbefore hafter
        obtain ⟨⟨now', event⟩, rest, rfl, rfl, -⟩ := List.map_eq_cons_iff.mp hafter
        subst hbefore
        obtain ⟨cmd', hlive, hkept, _⟩ := h.written
        rw [← hkept.accepts] at haccepts
        have hdone := hlive.final bus now' haccepts hfinal
        rw [hkept.transactionID] at hdone
        exact (hdone.congr hkept.outcome).run bus rest
      · simp only [List.take_succ_cons, List.take_zero, List.map_cons, List.map_nil] at hbefore
        obtain ⟨⟨now', event⟩, rest, rfl, rfl, hrest⟩ := List.map_eq_cons_iff.mp hbefore
        obtain rfl := List.map_eq_nil_iff.mp hrest
        exact (h.final bus _ haccepts hfinal).run bus _
    intro i hi j hj timed timed' htimed htimed'
    exact (hcompletes i hi timed htimed).2.trans (hcompletes j hj timed' htimed').2.symm
  · intro i _ timed htimed k cmd' _ _ now hnow
    rw [htimed.lastInterim_none (by simpa using hfinal)] at hnow
    exact absurd hnow nofun

lemma Live.orderFree_failed (h : Live t cmd attempt) (hstatus : status ≠ .success)
    (haccepts : ∀ r ∈ responses, cmd.accepts attempt r = true)
    (hinterim : ∀ r ∈ responses, r.interim = true) (hlast : ¬ Retried bus t cmd attempt) :
    OrderFree bus t cmd attempt status responses := by
  constructor
  · intro i _ j _ timed timed' htimed htimed'
    obtain ⟨before, now, after, rfl, hbefore, _⟩ := htimed.split
    obtain ⟨before', now', after', rfl, hbefore', _⟩ := htimed'.split
    exact (h.run_failed hstatus haccepts hinterim hlast hbefore after).2.trans
      (h.run_failed hstatus haccepts hinterim hlast hbefore' after').2.symm
  · intro i _ timed htimed k cmd' hpending hid now hnow
    obtain ⟨before, now', after, rfl, hbefore, _⟩ := htimed.split
    by_cases hk : k ≤ before.length
    · rw [List.take_append_of_le_length hk] at hpending hnow
      have htaken : (before.take k).map Prod.snd = ((responses.take i).take k).map .response := by
        rw [List.map_take, hbefore]
        simp only [List.map_take]
      obtain ⟨cmd'', hlive, _, hwaits⟩ := h.waits
        (fun r hr => haccepts r (List.mem_of_mem_take (List.mem_of_mem_take hr)))
        (fun r hr => hinterim r (List.mem_of_mem_take (List.mem_of_mem_take hr))) htaken
      obtain rfl : cmd'' = cmd' := Option.some.inj (hlive.pending.symm.trans hpending)
      exact hwaits now hnow
    · obtain ⟨rest, hrest⟩ : ∃ rest, (before ++ (now', .writeComplete attempt status) :: after).take k =
          before ++ (now', .writeComplete attempt status) :: rest := by
        obtain ⟨m, rfl⟩ : ∃ m, k = before.length + (m + 1) := ⟨k - before.length - 1, by omega⟩
        exact ⟨after.take m, by rw [List.take_length_add_append, List.take_succ_cons]⟩
      rw [hrest] at hpending
      exact absurd hid
        ((h.run_failed hstatus haccepts hinterim hlast hbefore rest).1.pending cmd' hpending)

/-! ### When it decides something -/

/-- A successful completion puts the short deadline in the place of the long one. -/
lemma Live.not_orderFree_interim (h : Live t cmd attempt)
    (haccepts : ∀ r ∈ responses, cmd.accepts attempt r = true) {first : Response}
    {rest : List Response} (hresponses : responses = first :: rest)
    (hinterim : first.interim = true) : ¬ OrderFree bus t cmd attempt .success responses := by
  intro hfree
  have hdeadline (now : ℕ) : now + t.timeoutMs * 1000000 = 0 + t.interimTimeoutMs * 1000000 := by
    have htimed : Dispatched (arrivals responses attempt .success 1)
        (timedFrom now [.response first]
          (.writeComplete attempt .success :: rest.map .response)) := by
      have hevents : arrivals responses attempt .success 1 =
          [.response first] ++ .writeComplete attempt .success :: rest.map .response := by
        simp [arrivals, hresponses]
      rw [hevents]
      exact dispatched_timedFrom now _ _
    obtain ⟨cmd₁, hlive₁, hkept₁, _⟩ :=
      h.interim (haccepts first (by simp [hresponses])) hinterim
    obtain ⟨cmd₂, hlive₂, hkept₂, hwaits⟩ := hlive₁.written
    have htimeout : (t.step bus (0, .response first)).timeoutMs = t.timeoutMs := by
      rw [h.step_response (haccepts first (by simp [hresponses])), if_pos hinterim, scheduleTimeout]
      dsimp only
      rw [if_neg h.not_down]
    have hlong := hfree.deadline 1 (by simp [hresponses]) _ htimed 2 cmd₂ hlive₂.pending
      (hkept₁.trans hkept₂).transactionID 0 (by simp [lastInterim, timedFrom, Event.isInterim,
        hinterim])
    rw [htimeout] at hwaits
    exact Option.some.inj (hwaits.symm.trans hlong)
  have hzero := hdeadline 0
  have hone := hdeadline 1
  omega

/-- A failed completion in front of a final response fails or repeats the command. -/
lemma Live.not_orderFree_final (h : Live t cmd attempt) (hstatus : status ≠ .success)
    {last : Response} (haccepts : ∀ r ∈ responses, cmd.accepts attempt r = true)
    (hinterim : ∀ r ∈ responses, r.interim = true) (hlast : cmd.accepts attempt last = true)
    (hfinal : last.interim = false) :
    ¬ OrderFree bus t cmd attempt status (responses ++ [last]) := by
  intro hfree
  -- the completion behind all responses is stale
  have hbefore : (responses.map fun r => ((0 : ℕ), Event.response r)).map Prod.snd =
      responses.map .response := by simp [Function.comp_def]
  have hbehind := h.run_final bus 0 haccepts hinterim hlast hfinal hbefore
    [(0, .writeComplete attempt status)]
  have hbehindEvents : Dispatched
      (arrivals (responses ++ [last]) attempt status (responses ++ [last]).length)
      ((responses.map fun r => ((0 : ℕ), Event.response r)) ++ (0, .response last) ::
        [(0, .writeComplete attempt status)]) := by
    have hevents := dispatched_timedFrom 0
      ((responses ++ [last]).map .response) [.writeComplete attempt status]
    rw [arrivals_length]
    simpa [timedFrom, Function.comp_def] using hevents
  have hfrontEvents : Dispatched (arrivals (responses ++ [last]) attempt status 0)
      ((0, .writeComplete attempt status) ::
        ((responses.map fun r => ((0 : ℕ), Event.response r)) ++ [(0, .response last)])) := by
    have hevents := dispatched_timedFrom 0 [.writeComplete attempt status]
      ((responses ++ [last]).map .response)
    simpa [timedFrom, arrivals, Function.comp_def] using hevents
  have hsame := hfree.outcome _ le_rfl 0 (Nat.zero_le _) _ _ hbehindEvents hfrontEvents
  rw [hbehind.2] at hsame
  by_cases hretried : Retried bus t cmd attempt
  · obtain ⟨cmd', attempt', hroute, hlive, _, hid, hsameAccepts, houtcome⟩ :=
      h.retried 0 hretried hstatus
    have hcongr (r : Response) := accepts_congr (r := r) hroute hsameAccepts
    have hdone := hlive.run_final bus 0 (fun r hr => (hcongr r).trans (haccepts r hr)) hinterim
      ((hcongr last).trans hlast) hfinal hbefore []
    rw [hid] at hdone
    have hwrites := congrArg Prod.snd (hsame.trans hdone.2)
    rw [houtcome] at hwrites
    exact absurd hwrites (by simp)
  · have hdone := (h.failed 0 hretried hstatus).run bus
      ((responses.map fun r => ((0 : ℕ), Event.response r)) ++ [(0, .response last)])
    have hends := congrArg Prod.fst (hsame.trans hdone.2)
    simp at hends

/-- A retry takes the deadline away. -/
lemma Live.not_orderFree_retried (h : Live t cmd attempt) (hstatus : status ≠ .success)
    (haccepts : ∀ r ∈ responses, cmd.accepts attempt r = true)
    (hinterim : ∀ r ∈ responses, r.interim = true) (hsome : responses ≠ [])
    (hretried : Retried bus t cmd attempt) : ¬ OrderFree bus t cmd attempt status responses := by
  intro hfree
  have hbefore : (responses.map fun r => ((0 : ℕ), Event.response r)).map Prod.snd =
      responses.map .response := by simp [Function.comp_def]
  obtain ⟨cmd', hlive, hkept, _⟩ := h.waits haccepts hinterim hbefore
  have hretried' : Retried bus (run (step bus) t (responses.map fun r => (0, .response r))) cmd'
      attempt := by
    rw [Retried, hkept.retriesLeft, hkept.nextWriteAttempt]
    exact hretried
  obtain ⟨cmd'', _, _, hlive', htimer, hid, _⟩ := hlive.retried 0 hretried' hstatus
  have hevents : Dispatched (arrivals responses attempt status responses.length)
      (responses.map (fun r => ((0 : ℕ), Event.response r)) ++
        [(0, .writeComplete attempt status)]) := by
    have hevents := dispatched_timedFrom 0 (responses.map .response) [.writeComplete attempt status]
    rw [arrivals_length]
    simpa [timedFrom, Function.comp_def] using hevents
  obtain ⟨now, hnow⟩ : ∃ now, now ∈ lastInterim (responses.map (fun r => ((0 : ℕ), Event.response r)) ++
      [(0, .writeComplete attempt status)]) := by
    have hfilter : (responses.map fun r => ((0 : ℕ), Event.response r)).filter
        (fun e => e.2.isInterim) = responses.map fun r => (0, .response r) := by
      rw [List.filter_eq_self]
      intro e he
      obtain ⟨r, hr, rfl⟩ := List.mem_map.mp he
      exact hinterim r hr
    obtain ⟨e, he⟩ := Option.isSome_iff_exists.mp (List.getLast?_isSome.mpr
      (by simpa using hsome : responses.map (fun r => ((0 : ℕ), Event.response r)) ≠ []))
    refine ⟨e.1, ?_⟩
    rw [lastInterim, List.filter_append, hfilter, List.filter_cons_of_neg (by simp [Event.isInterim]),
      List.filter_nil, List.append_nil, he]
    rfl
  have hdeadline := hfree.deadline responses.length le_rfl _ hevents (responses.length + 1)
  rw [List.take_of_length_le (by simp)] at hdeadline
  have hwaits := hdeadline cmd'' (by rw [run_append]; exact hlive'.pending)
    (hid.trans hkept.transactionID) now hnow
  rw [OutstandingCommand.WaitsUntil, htimer] at hwaits
  exact absurd hwaits nofun

/-- The place of the write completion decides nothing exactly if there are no responses, or the write
succeeded and no response is INTERIM, or it failed, none is final and it is not retried. -/
theorem orderFree_iff (h : Live t cmd attempt)
    (haccepts : ∀ r ∈ responses, cmd.accepts attempt r = true)
    (hinterims : ∀ r ∈ responses.dropLast, r.interim = true) :
    OrderFree bus t cmd attempt status responses ↔
      responses = [] ∨ (status = .success ∧ ∀ r ∈ responses, r.interim = false) ∨
      (status ≠ .success ∧ (∀ r ∈ responses, r.interim = true) ∧ ¬ Retried bus t cmd attempt) := by
  constructor
  · intro hfree
    rcases responses.eq_nil_or_concat' with rfl | ⟨front, last, rfl⟩
    · exact Or.inl rfl
    · rw [List.dropLast_concat] at hinterims
      obtain ⟨hfront, hlast⟩ := List.forall_mem_append.mp haccepts
      have haccepted := hlast last (List.mem_singleton_self last)
      by_cases hstatus : status = .success
      · subst hstatus
        refine Or.inr (Or.inl ⟨rfl, ?_⟩)
        cases front with
        | nil =>
          intro r hr
          obtain rfl := List.mem_singleton.mp hr
          by_contra hinterim
          exact h.not_orderFree_interim haccepts rfl (Bool.eq_true_of_not_eq_false hinterim) hfree
        | cons first rest =>
          exact absurd hfree (h.not_orderFree_interim haccepts rfl (hinterims first List.mem_cons_self))
      · refine Or.inr (Or.inr ⟨hstatus, ?_⟩)
        by_cases hinterim : last.interim = true
        · have hall : ∀ r ∈ front ++ [last], r.interim = true := by
            refine List.forall_mem_append.mpr ⟨hinterims, fun r hr => ?_⟩
            rw [List.mem_singleton.mp hr]
            exact hinterim
          refine ⟨hall, fun hretried => ?_⟩
          exact h.not_orderFree_retried hstatus haccepts hall (by simp) hretried hfree
        · exact absurd hfree (h.not_orderFree_final hstatus hfront hinterims haccepted
            (Bool.eq_false_of_not_eq_true hinterim))
  · rintro (rfl | ⟨rfl, hfinal⟩ | ⟨hstatus, hinterim, hlast⟩)
    · exact h.orderFree_nil
    · rcases responses.eq_nil_or_concat' with rfl | ⟨front, last, rfl⟩
      · exact h.orderFree_nil
      · rw [List.dropLast_concat] at hinterims
        cases front with
        | nil => exact h.orderFree_final (haccepts last (by simp)) (hfinal last (by simp))
        | cons first rest =>
          have hboth := hinterims first List.mem_cons_self
          rw [hfinal first (by simp)] at hboth
          exact absurd hboth nofun
    · exact h.orderFree_failed hstatus haccepts hinterim hlast

/-- A command written to node 5 of generation 1. -/
def written : FCPWriteAttempt :=
  { id := 1
    route := { guid := 7, deviceIncarnation := 1, routeEpoch := 1, generation := 1, nodeId := 5 } }

def unitInfo : OutstandingCommand :=
  { command := [1, 0xFF, 0x30], transactionID := 1, retriesLeft := 0
    activeWriteAttempt := some written }

def waiting : FCPTransport where
  guid := 7
  routeRegistry := { devicesByGuid := [{
    instanceId := 1, guid := 7, deviceIncarnation := 1, routeEpoch := 1, gen := 1, nodeId := 5 }] }
  nextWriteAttempt := 1
  pending := some unitInfo
  writes := [(1, written)]

def answer (ctype : UInt8) : Response :=
  { srcNodeID := 5, generation := 1, payload := [ctype, 0xFF, 0x30, 7] }

lemma waiting_live : Live waiting unitInfo written :=
  ⟨rfl, rfl, rfl, nofun, by decide, rfl, nofun⟩

theorem stable_orderFree : OrderFree (fun _ => 1) waiting unitInfo written .success [answer 0x0C] :=
  (orderFree_iff waiting_live (by decide) (by decide)).mpr (Or.inr (Or.inl ⟨rfl, by decide⟩))

/-- An INTERIM response in front of the completion of its write: the command waits two seconds and
not ten. -/
theorem not_interim_orderFree :
    ¬ OrderFree (fun _ => 1) waiting unitInfo written .success [answer 0x0F] ∧
      ((run (step fun _ => 1) waiting [(0, .response (answer 0x0F)),
        (1, .writeComplete written .success)]).pending.bind (·.timeoutToken)).map Timer.deadline =
          some 2000000001 := by
  constructor
  · exact waiting_live.not_orderFree_interim (by decide) rfl (by decide)
  · decide

end FCPTransport

end ASFireWire.AVC
