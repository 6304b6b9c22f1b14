import ASFireWire.LoginSession

/-! The lives of an SBP-2 session: before its release it is never in the middle of a logout, and
after it the logout is under its timer until the session reports its end. -/
namespace ASFireWire.SBP2

open ASFireWire.Async

namespace LoginSession

/-! ### Before the release -/

/-- A session of the registry: it has no logout callback, and none of its calls logs out. -/
structure Calm (s : LoginSession) : Prop where
  notOut : s.state ≠ .loggingOut
  quiet : s.logoutCallback = false
  logins : ∀ report ∈ s.reports, ∃ status, report = .login status

variable {s t : LoginSession}

lemma Calm.same (h : s.Calm) (hstate : t.state ≠ .loggingOut)
    (hcallback : t.logoutCallback = s.logoutCallback) (hreports : t.reports = s.reports) :
    t.Calm := by
  refine ⟨hstate, hcallback.trans h.quiet, fun report hmem => ?_⟩
  rw [hreports] at hmem
  exact h.logins report hmem

lemma Calm.setState (h : s.Calm) {state : LoginState} (hstate : state ≠ .loggingOut) :
    (s.setState state).Calm := ⟨hstate, h.quiet, h.logins⟩

lemma Calm.reportLogin (h : s.Calm) (status : ℤ) : (s.reportLogin status).Calm := by
  unfold LoginSession.reportLogin
  split
  · refine ⟨h.notOut, h.quiet, fun report hmem => ?_⟩
    rcases List.mem_append.mp hmem with hold | hnew
    · exact h.logins report hold
    · exact ⟨status, List.mem_singleton.mp hnew⟩
  · exact h

lemma Calm.retryLogin (h : s.Calm) : s.retryLogin.Calm := by
  unfold LoginSession.retryLogin
  split
  · exact ⟨h.notOut, h.quiet, h.logins⟩
  · exact (h.setState (by decide)).reportLogin _

lemma Calm.onWriteComplete (h : s.Calm) (write : ManagementWrite) (status : AsyncStatus) :
    (s.onWriteComplete write status).Calm := by
  have hcancel : s.cancelManagementTimer.Calm := ⟨h.notOut, h.quiet, h.logins⟩
  unfold LoginSession.onWriteComplete
  split
  · unfold onLoginWriteComplete
    split
    · exact h
    · split
      · exact hcancel.retryLogin
      · exact hcancel.same hcancel.notOut rfl rfl
  · unfold onReconnectWriteComplete
    split
    · exact h
    · split
      · exact ⟨h.notOut, h.quiet, h.logins⟩
      · exact ⟨h.notOut, h.quiet, h.logins⟩
  · have hsame : s.onLogoutWriteComplete write.generation status = s :=
      if_pos (Or.inr h.notOut)
    rw [hsame]
    exact h

lemma Calm.writeManagement (h : s.Calm) (orb : ManagementORB) (answer : WriteAnswer) :
    (s.writeManagement orb answer).Calm := by
  unfold LoginSession.writeManagement
  cases answer with
  | refused => exact h.same h.notOut rfl rfl
  | pending => exact h.same h.notOut rfl rfl
  | immediate status handle =>
    have hnoted : Calm { s with
        offered := s.offered || orb ≠ .logout && WriteAnswer.immediate status handle ≠ .refused
        logoutAttempted := s.logoutAttempted || orb = .logout } := h.same h.notOut rfl rfl
    exact hnoted.onWriteComplete _ _

lemma Calm.login (h : s.Calm) (answer : BusAnswer) : (s.login answer).1.Calm := by
  unfold LoginSession.login
  split
  · exact h
  · split
    · exact h
    · split
      · exact h.setState (by decide)
      · have hstarted : Calm { s with
            resources := true, state := .loggingIn, loginGeneration := answer.generation % 2 ^ 16
            loginNodeID := s.targetInfo.targetNodeId } := ⟨by simp, h.quiet, h.logins⟩
        have hwritten := hstarted.writeManagement .login answer.written
        dsimp only
        split
        · exact hwritten.setState (by decide)
        · exact ⟨hwritten.notOut, hwritten.quiet, hwritten.logins⟩

lemma Calm.reconnect (h : s.Calm) (answer : BusAnswer) : (s.reconnect answer).1.Calm := by
  unfold LoginSession.reconnect
  split
  · exact h
  · dsimp only
    split
    · exact ⟨by simp [LoginSession.setState], h.quiet, h.logins⟩
    · have hstarted : Calm { s with
          resources := true, state := .reconnecting, loginGeneration := answer.generation % 2 ^ 16
          loginNodeID := s.targetInfo.targetNodeId } := ⟨by simp, h.quiet, h.logins⟩
      have hwritten := hstarted.writeManagement .reconnect answer.written
      split
      · exact ⟨hwritten.notOut, hwritten.quiet, hwritten.logins⟩
      · exact hwritten

lemma Calm.handleBusReset (h : s.Calm) (newGeneration : ℕ) :
    (s.handleBusReset newGeneration).Calm := by
  unfold LoginSession.handleBusReset
  split
  · exact ⟨by simp [LoginSession.setState, arm], h.quiet, h.logins⟩
  · exact ⟨by simp [LoginSession.setState], h.quiet, h.logins⟩
  · exact ⟨by simp [LoginSession.setState, arm], h.quiet, h.logins⟩
  · exact ⟨by simp [LoginSession.setState], h.quiet, h.logins⟩
  · exact ⟨h.notOut, h.quiet, h.logins⟩
  · exact h

lemma Calm.loseSession (h : s.Calm) (answer : BusAnswer) : (s.loseSession answer).Calm :=
  ((h.reportLogin _).setState (by decide)).login answer

lemma Calm.onManagementTimer (h : s.Calm) (answer : BusAnswer) :
    (s.onManagementTimer answer).Calm := by
  unfold LoginSession.onManagementTimer
  split
  · exact h
  · have hcancel : s.cancelManagementTimer.Calm := ⟨h.notOut, h.quiet, h.logins⟩
    dsimp only
    split
    · unfold onLoginTimeout
      split
      · exact hcancel
      · split
        · have hidle : Calm ({ s.cancelManagementTimer with
              loginRetryCount := s.cancelManagementTimer.loginRetryCount + 1 }.setState .idle) :=
            hcancel.same (by simp [LoginSession.setState]) rfl rfl
          exact hidle.login answer
        · exact (hcancel.setState (by decide)).reportLogin _
    · have hidle : Calm { s.cancelManagementTimer with
          loginGeneration := answer.generation % 2 ^ 16
          loginNodeID := s.cancelManagementTimer.targetInfo.targetNodeId, state := .idle } :=
        hcancel.same (by simp) rfl rfl
      exact hidle.login answer
    · exact hcancel.login answer
    · unfold onReconnectTimeout
      split
      · exact hcancel
      · exact hcancel.loseSession answer
    · exact hcancel.reconnect answer
    · have hsame : s.cancelManagementTimer.onLogoutTimeout = s.cancelManagementTimer :=
        if_pos h.notOut
      rw [hsame]
      exact hcancel

lemma Calm.onStatusBlock (h : s.Calm) (sbpStatus : ℕ) (response : Option LoginResponse)
    (answer : BusAnswer) : (s.onStatusBlock sbpStatus response answer).Calm := by
  have hcancel : s.cancelManagementTimer.Calm := ⟨h.notOut, h.quiet, h.logins⟩
  unfold LoginSession.onStatusBlock
  split
  · unfold completeLogin
    split
    · exact hcancel.retryLogin
    · split
      · exact hcancel.retryLogin
      · rename_i response
        have hin : Calm { s.cancelManagementTimer with
            loginID := response.loginID, reconnectHold := response.reconnectHold
            loginRetryCount := 0, state := .loggedIn
            boundGeneration := some s.cancelManagementTimer.loginGeneration } :=
          hcancel.same (by simp) rfl rfl
        exact hin.reportLogin 0
  · unfold completeReconnect
    split
    · exact hcancel.loseSession answer
    · have hin : Calm { s.cancelManagementTimer with
          state := .loggedIn
          boundGeneration := some s.cancelManagementTimer.loginGeneration } :=
        hcancel.same (by simp) rfl rfl
      exact hin.reportLogin 0
  · rename_i hstate
    exact absurd hstate h.notOut
  · exact h

/-! ### After the release -/

/-- A session that was released and is to be logged out. -/
structure Due (s : LoginSession) : Prop where
  state : s.state = .loggedIn ∨ s.state = .suspended
  callback : s.logoutCallback = true
  reports : s.reports = []

/-- The logout of a released session is in progress, under the logout timer. -/
structure Retired (s : LoginSession) : Prop where
  state : s.state = .loggingOut
  timer : s.managementTimer = some .logoutTimeout
  callback : s.logoutCallback = true
  attempted : s.logoutAttempted = true
  reports : s.reports = []

/-- The session has reported the end of its logout. -/
structure Ended (s : LoginSession) : Prop where
  attempted : s.logoutAttempted = true
  reports : ∃ status, s.reports = [.logout status]

lemma ended_endLogout (hcallback : s.logoutCallback = true) (hattempted : s.logoutAttempted = true)
    (hreports : s.reports = []) (status : ℤ) : (s.endLogout status).Ended := by
  have hreported : s.endLogout status = { { s with loginID := 0 }.setState .idle with
      reports := s.reports ++ [.logout status] } := if_pos hcallback
  rw [hreported]
  exact ⟨hattempted, status, by simp [hreports]⟩

lemma Retired.onWriteComplete (h : s.Retired) (write : ManagementWrite) (status : AsyncStatus) :
    (s.onWriteComplete write status).Retired ∨ (s.onWriteComplete write status).Ended := by
  have hstate := h.state
  unfold LoginSession.onWriteComplete
  split
  · have hsame : s.onLoginWriteComplete write.generation status = s :=
      if_pos (Or.inr (by simp [hstate]))
    rw [hsame]
    exact Or.inl h
  · have hsame : s.onReconnectWriteComplete write.generation status = s :=
      if_pos (Or.inr (by simp [hstate]))
    rw [hsame]
    exact Or.inl h
  · unfold onLogoutWriteComplete
    split
    · exact Or.inl h
    · split
      · have hended : (s.cancelManagementTimer.endLogout (-1)).Ended :=
          ended_endLogout (s := s.cancelManagementTimer) h.callback h.attempted h.reports _
        exact Or.inr hended
      · exact Or.inl ⟨hstate, rfl, h.callback, h.attempted, h.reports⟩

lemma Retired.onStatusBlock (h : s.Retired) (sbpStatus : ℕ) (response : Option LoginResponse)
    (answer : BusAnswer) : (s.onStatusBlock sbpStatus response answer).Ended := by
  have hended : (s.cancelManagementTimer.endLogout 0).Ended :=
    ended_endLogout (s := s.cancelManagementTimer) h.callback h.attempted h.reports 0
  unfold LoginSession.onStatusBlock
  rw [h.state]
  exact hended

lemma Retired.onManagementTimer (h : s.Retired) (answer : BusAnswer) :
    (s.onManagementTimer answer).Ended := by
  unfold LoginSession.onManagementTimer
  rw [h.timer]
  have hout : s.cancelManagementTimer.onLogoutTimeout = s.cancelManagementTimer.endLogout (-2) :=
    if_neg (not_not.mpr h.state)
  have hended : (s.cancelManagementTimer.endLogout (-2)).Ended :=
    ended_endLogout (s := s.cancelManagementTimer) h.callback h.attempted h.reports (-2)
  dsimp only
  rw [hout]
  exact hended

/-- What `Logout` leaves behind when it is rejected. -/
structure Rejected (s : LoginSession) : Prop where
  attempted : s.logoutAttempted = true
  reports : s.reports = []

/-- The completion of a logout write that runs before `WriteBlock` returns. -/
lemma onWriteComplete_logout (hstate : s.state = .loggingOut) {generation : ℕ}
    (hgeneration : generation = s.loginGeneration) (status : AsyncStatus) :
    s.onWriteComplete ⟨.logout, generation⟩ status =
      if status ≠ .success then s.cancelManagementTimer.endLogout (-1)
      else s.arm .logoutTimeout := by
  change s.onLogoutWriteComplete generation status = _
  unfold onLogoutWriteComplete
  rw [if_neg]
  simp [hstate, hgeneration]

/-- `Logout` of a released session puts it under the timer, or has ended already, or is rejected. -/
lemma Due.logout (h : s.Due) (answer : BusAnswer) :
    (s.logout answer).1.Retired ∧ (s.logout answer).2 = true ∨ (s.logout answer).1.Ended ∨
      (s.logout answer).1.Rejected ∧ (s.logout answer).2 = false := by
  have hallowed : ¬ (s.state ≠ .loggedIn ∧ s.state ≠ .suspended) := by
    rintro ⟨hin, hsuspended⟩
    rcases h.state with hstate | hstate
    · exact hin hstate
    · exact hsuspended hstate
  unfold LoginSession.logout
  rw [if_neg hallowed]
  dsimp only
  unfold writeManagement
  cases answer.written with
  | refused => exact Or.inr (Or.inr ⟨⟨by simp [WriteAnswer.handle, setState], h.reports⟩, rfl⟩)
  | pending =>
    exact Or.inl ⟨⟨rfl, rfl, h.callback, by simp [WriteAnswer.handle, arm], h.reports⟩, rfl⟩
  | immediate status handle =>
    dsimp only
    generalize ht : ({ s with
      state := .loggingOut, boundGeneration := none
      offered := s.offered ||
        ManagementORB.logout ≠ .logout && WriteAnswer.immediate status handle ≠ .refused
      logoutAttempted := s.logoutAttempted || ManagementORB.logout = .logout } : LoginSession) = t
    have hstate : t.state = .loggingOut := by rw [← ht]
    have hcallback : t.logoutCallback = true := ht ▸ h.callback
    have hreports : t.reports = [] := ht ▸ h.reports
    have hattempted : t.logoutAttempted = true := by rw [← ht]; simp
    have hgeneration : s.loginGeneration = t.loginGeneration := by rw [← ht]
    rw [onWriteComplete_logout hstate hgeneration]
    by_cases hstatus : status ≠ .success
    · rw [if_pos hstatus]
      obtain ⟨hended, reported, hreported⟩ :=
        ended_endLogout (s := t.cancelManagementTimer) hcallback hattempted hreports (-1)
      refine Or.inr (Or.inl ?_)
      cases handle with
      | false => exact ⟨hended, reported, hreported⟩
      | true => exact ⟨hended, reported, hreported⟩
    · rw [if_neg hstatus]
      cases handle with
      | false => exact Or.inr (Or.inr ⟨⟨hattempted, hreports⟩, rfl⟩)
      | true => exact Or.inl ⟨⟨hstate, rfl, hcallback, hattempted, hreports⟩, rfl⟩

end LoginSession

end ASFireWire.SBP2
