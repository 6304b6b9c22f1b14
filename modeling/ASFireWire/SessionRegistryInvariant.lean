import ASFireWire.SessionLifecycles
import ASFireWire.SessionRegistry

/-! What the registry of SBP-2 sessions keeps: a target has one session at most, a handle is given
once, and a released session is logged out under its timer. -/
namespace ASFireWire.SBP2

open ASFireWire.Async
open LoginSession (Calm Due Retired Ended Rejected)

namespace SessionRegistry

variable (g : SessionRegistry)

/-- Places that have the handle `h`. -/
def places (h : ℕ) : ℕ :=
  (g.sessions.map (·.handle)).count h +
    ((g.retiringSessions.map (·.handle)).count h + (g.departed.map (·.handle)).count h)

/-- Sessions for a target, live or retiring. -/
def holders (target : ℕ × ℕ) : ℕ :=
  (g.sessions.map fun r => (r.guid, r.romOffset)).count target +
    (g.retiringSessions.map fun r => (r.guid, r.romOffset)).count target

/-- What the registry keeps; `E` are the retiring sessions that are not under their timer yet. -/
structure Lawful (E : ℕ → LoginSession → Prop) : Prop where
  places : ∀ h, g.places h ≤ 1
  fresh : ∀ h, g.nextHandle ≤ h → g.places h = 0
  holders : ∀ target, g.holders target ≤ 1
  live : ∀ r ∈ g.sessions, r.session.Calm ∧ r.session.reports = []
  retired : ∀ r ∈ g.retiringSessions, r.session.Retired ∨ E r.handle r.session
  loggedOut : ∀ d ∈ g.departed, d.accepted → d.logoutAttempted

/-- All are under their timers. -/
def NoneDue (_ : ℕ) (_ : LoginSession) : Prop := False

variable {g} {E E' : ℕ → LoginSession → Prop}

lemma count_handle_pos {r : SessionRecord} (hr : r ∈ g.sessions) :
    0 < (g.sessions.map (·.handle)).count r.handle :=
  List.count_pos_iff.mpr (List.mem_map_of_mem hr)

lemma count_retiring_pos {r : RetiringSession} (hr : r ∈ g.retiringSessions) :
    0 < (g.retiringSessions.map (·.handle)).count r.handle :=
  List.count_pos_iff.mpr (List.mem_map_of_mem hr)

lemma Lawful.weaken (h : g.Lawful E)
    (hE : ∀ r ∈ g.retiringSessions, E r.handle r.session → E' r.handle r.session) : g.Lawful E' :=
  ⟨h.places, h.fresh, h.holders, h.live, fun r hr => (h.retired r hr).imp_right (hE r hr),
    h.loggedOut⟩

lemma Lawful.unique (h : g.Lawful E) {r r' : SessionRecord} (hr : r ∈ g.sessions)
    (hr' : r' ∈ g.sessions) (heq : r.handle = r'.handle) : r = r' := by
  have hnodup : (g.sessions.map (·.handle)).Nodup := by
    refine List.nodup_iff_count_le_one.mpr fun k => ?_
    have hplaces := h.places k
    unfold SessionRegistry.places at hplaces
    omega
  exact List.inj_on_of_nodup_map hnodup hr hr' heq

/-- A handle is not at two places. -/
lemma Lawful.not_both (h : g.Lawful E) {r : SessionRecord} (hr : r ∈ g.sessions)
    {r' : RetiringSession} (hr' : r' ∈ g.retiringSessions) : r.handle ≠ r'.handle := by
  intro heq
  have hplaces := h.places r.handle
  have hlive := count_handle_pos hr
  have hretiring := count_retiring_pos hr'
  rw [← heq] at hretiring
  unfold SessionRegistry.places at hplaces
  omega

lemma places_eraseSession (handle h : ℕ) : (g.eraseSession handle).places h = g.places h := by
  have hsplit := KeyedLists.count_map_erase (·.handle) handle g.sessions (·.handle) h
  have hdeparted : ((g.sessions.filter (·.handle = handle)).map fun r =>
      departure r.handle r.session).map (·.handle) =
        (g.sessions.filter (·.handle = handle)).map (·.handle) := by
    rw [List.map_map]
    rfl
  simp only [places, eraseSession, List.map_append, List.count_append, hdeparted]
  omega

lemma places_eraseRetired (handle h : ℕ) : (g.eraseRetired handle).places h = g.places h := by
  have hsplit := KeyedLists.count_map_erase (·.handle) handle g.retiringSessions (·.handle) h
  have hdeparted : ((g.retiringSessions.filter (·.handle = handle)).map fun r =>
      departure r.handle r.session).map (·.handle) =
        (g.retiringSessions.filter (·.handle = handle)).map (·.handle) := by
    rw [List.map_map]
    rfl
  simp only [places, eraseRetired, List.map_append, List.count_append, hdeparted]
  omega

/-- What does not read the sessions does not see them replaced. -/
lemma map_putSession {β : Type*} (f : SessionRecord → β) (e : RetiringSession → β)
    (hf : ∀ r s, f { r with session := s } = f r) (he : ∀ r s, e { r with session := s } = e r)
    (handle : ℕ) (session : LoginSession) :
    (g.putSession handle session).sessions.map f = g.sessions.map f ∧
      (g.putSession handle session).retiringSessions.map e = g.retiringSessions.map e :=
  ⟨KeyedLists.map_modify f fun r => hf r session, KeyedLists.map_modify e fun r => he r session⟩

lemma places_putSession (handle h : ℕ) (session : LoginSession) :
    (g.putSession handle session).places h = g.places h := by
  obtain ⟨hsessions, hretiring⟩ := map_putSession (g := g) (·.handle) (·.handle)
    (fun _ _ => rfl) (fun _ _ => rfl) handle session
  unfold places
  rw [hsessions, hretiring]
  rfl

lemma holders_putSession (handle : ℕ) (session : LoginSession) (target : ℕ × ℕ) :
    (g.putSession handle session).holders target = g.holders target := by
  obtain ⟨hsessions, hretiring⟩ := map_putSession (g := g) (fun r => (r.guid, r.romOffset))
    (fun r => (r.guid, r.romOffset)) (fun _ _ => rfl) (fun _ _ => rfl) handle session
  unfold holders
  rw [hsessions, hretiring]

/-- A record that moves takes its handle and its target along. -/
lemma count_retire {β : Type*} [BEq β] {r : SessionRecord} (hr : r ∈ g.sessions)
    (f : SessionRecord → β) (b : β) :
    ((KeyedLists.erase (·.handle) r.handle g.sessions).map f).count b + [f r].count b ≤
      (g.sessions.map f).count b := by
  have hsplit := KeyedLists.count_map_erase (·.handle) r.handle g.sessions f b
  have hsub : [f r].Sublist ((g.sessions.filter (·.handle = r.handle)).map f) := by
    refine List.singleton_sublist.mpr (List.mem_map_of_mem (List.mem_filter.mpr ⟨hr, ?_⟩))
    exact decide_eq_true rfl
  have hle := hsub.count_le b
  omega

lemma Lawful.eraseSession (h : g.Lawful E) {handle : ℕ}
    (hout : ∀ r ∈ g.sessions, r.handle = handle → r.session.accepted → r.session.logoutAttempted) :
    (g.eraseSession handle).Lawful E := by
  refine ⟨fun k => (places_eraseSession handle k).trans_le (h.places k),
    fun k hk => (places_eraseSession handle k).trans (h.fresh k hk), fun target => ?_,
    fun r hr => h.live r (KeyedLists.mem_erase.mp hr).1, h.retired, fun d hd => ?_⟩
  · have hsplit := KeyedLists.count_map_erase (·.handle) handle g.sessions
      (fun r => (r.guid, r.romOffset)) target
    have hholders := h.holders target
    simp only [SessionRegistry.holders, SessionRegistry.eraseSession] at hholders ⊢
    omega
  · rcases List.mem_append.mp hd with hold | hnew
    · exact h.loggedOut d hold
    · obtain ⟨r, hr, rfl⟩ := List.mem_map.mp hnew
      obtain ⟨hmem, hhandle⟩ := List.mem_filter.mp hr
      exact hout r hmem (of_decide_eq_true hhandle)

lemma Lawful.eraseRetired (h : g.Lawful E) {handle : ℕ}
    (hE : ∀ k s, k ≠ handle → E k s → E' k s)
    (hout : ∀ r ∈ g.retiringSessions, r.handle = handle → r.session.accepted →
      r.session.logoutAttempted) :
    (g.eraseRetired handle).Lawful E' := by
  refine ⟨fun k => (places_eraseRetired handle k).trans_le (h.places k),
    fun k hk => (places_eraseRetired handle k).trans (h.fresh k hk), fun target => ?_, h.live,
    fun r hr => ?_, fun d hd => ?_⟩
  · have hsplit := KeyedLists.count_map_erase (·.handle) handle g.retiringSessions
      (fun r => (r.guid, r.romOffset)) target
    have hholders := h.holders target
    simp only [SessionRegistry.holders, SessionRegistry.eraseRetired] at hholders ⊢
    omega
  · obtain ⟨hmem, hne⟩ := KeyedLists.mem_erase.mp hr
    exact (h.retired r hmem).imp_right (hE _ _ hne)
  · rcases List.mem_append.mp hd with hold | hnew
    · exact h.loggedOut d hold
    · obtain ⟨r, hr, rfl⟩ := List.mem_map.mp hnew
      obtain ⟨hmem, hhandle⟩ := List.mem_filter.mp hr
      exact hout r hmem (of_decide_eq_true hhandle)

lemma Lawful.retire (h : g.Lawful E) {r : SessionRecord} (hr : r ∈ g.sessions)
    (hE : ∀ k s, E k s → E' k s) (hdue : E' r.handle { r.session with logoutCallback := true }) :
    (g.retire r).Lawful E' := by
  have hplaces : ∀ k, (g.retire r).places k ≤ g.places k := by
    intro k
    have hmove := count_retire hr (·.handle) k
    simp only [SessionRegistry.places, SessionRegistry.retire, List.map_append, List.map_cons,
      List.map_nil, List.count_append] at hmove ⊢
    omega
  refine ⟨fun k => (hplaces k).trans (h.places k), fun k hk => ?_, fun target => ?_,
    fun r' hr' => h.live r' (KeyedLists.mem_erase.mp hr').1, fun r' hr' => ?_, h.loggedOut⟩
  · have hzero := h.fresh k hk
    have hle := hplaces k
    omega
  · have hmove := count_retire hr (fun r => (r.guid, r.romOffset)) target
    have hholders := h.holders target
    simp only [SessionRegistry.holders, SessionRegistry.retire, List.map_append, List.map_cons,
      List.map_nil, List.count_append] at hmove hholders ⊢
    omega
  · rcases List.mem_append.mp hr' with hold | hnew
    · exact (h.retired r' hold).imp_right (hE _ _)
    · rw [List.mem_singleton.mp hnew]
      exact Or.inr hdue

/-- Another session for a live record. -/
lemma Lawful.putLive (h : g.Lawful E) {handle : ℕ} {session : LoginSession}
    (hlive : ∀ r ∈ g.retiringSessions, r.handle ≠ handle) (hcalm : session.Calm)
    (hreports : session.reports = []) : (g.putSession handle session).Lawful E := by
  refine ⟨fun k => (places_putSession handle k session).trans_le (h.places k),
    fun k hk => (places_putSession handle k session).trans (h.fresh k hk),
    fun target => (holders_putSession handle session target).trans_le (h.holders target),
    fun r hr => ?_, fun r hr => ?_, h.loggedOut⟩
  · obtain ⟨x, hx, rfl⟩ := KeyedLists.mem_modify.mp hr
    split_ifs
    · exact ⟨hcalm, hreports⟩
    · exact h.live x hx
  · obtain ⟨x, hx, rfl⟩ := KeyedLists.mem_modify.mp hr
    rw [if_neg (hlive x hx)]
    exact h.retired x hx

/-- Another session for a retiring one. -/
lemma Lawful.putRetired (h : g.Lawful E) {handle : ℕ} {session : LoginSession}
    (hretiring : ∀ r ∈ g.sessions, r.handle ≠ handle) (hE : ∀ k s, k ≠ handle → E k s → E' k s)
    (hsession : session.Retired ∨ E' handle session) : (g.putSession handle session).Lawful E' := by
  refine ⟨fun k => (places_putSession handle k session).trans_le (h.places k),
    fun k hk => (places_putSession handle k session).trans (h.fresh k hk),
    fun target => (holders_putSession handle session target).trans_le (h.holders target),
    fun r hr => ?_, fun r hr => ?_, h.loggedOut⟩
  · obtain ⟨x, hx, rfl⟩ := KeyedLists.mem_modify.mp hr
    rw [if_neg (hretiring x hx)]
    exact h.live x hx
  · obtain ⟨x, hx, rfl⟩ := KeyedLists.mem_modify.mp hr
    by_cases hk : x.handle = handle
    · rw [if_pos hk]
      change session.Retired ∨ E' x.handle session
      rw [hk]
      exact hsession
    · rw [if_neg hk]
      exact (h.retired x hx).imp_right (hE _ _ hk)

lemma Lawful.loginReported (h : g.Lawful E) (handle : ℕ) (status : ℤ) :
    (g.loginReported handle status).Lawful E := by
  unfold SessionRegistry.loginReported
  split
  · exact h
  · have hmap : ∀ {β : Type} (f : SessionRecord → β),
        (∀ r : SessionRecord, f { r with lastError := status } = f r) →
        (KeyedLists.modify (·.handle) handle
          (fun r : SessionRecord => { r with lastError := status }) g.sessions).map f =
            g.sessions.map f := fun f hf => KeyedLists.map_modify f hf
    refine ⟨fun k => ?_, fun k hk => ?_, fun target => ?_, fun r hr => ?_, h.retired, h.loggedOut⟩
    · have hplaces := h.places k
      unfold SessionRegistry.places at hplaces ⊢
      rw [hmap _ fun _ => rfl]
      exact hplaces
    · have hfresh := h.fresh k hk
      unfold SessionRegistry.places at hfresh ⊢
      rw [hmap _ fun _ => rfl]
      exact hfresh
    · have hholders := h.holders target
      unfold SessionRegistry.holders at hholders ⊢
      rw [hmap _ fun _ => rfl]
      exact hholders
    · obtain ⟨x, hx, rfl⟩ := KeyedLists.mem_modify.mp hr
      split_ifs
      · exact h.live x hx
      · exact h.live x hx

/-! ### Calls of a session -/

lemma findSession_live {handle : ℕ} {r : SessionRecord} (hr : g.findByHandle handle = some r) :
    g.findSession handle = some (r.guid, r.session) := by
  simp [findSession, hr]

lemma findSession_retiring {handle : ℕ} (hlive : g.findByHandle handle = none)
    {r : RetiringSession} (hr : g.findRetiring handle = some r) :
    g.findSession handle = some (r.guid, r.session) := by
  simp [findSession, hlive, hr]

lemma findByHandle_mem {handle : ℕ} {r : SessionRecord} (hr : g.findByHandle handle = some r) :
    r ∈ g.sessions ∧ r.handle = handle :=
  ⟨KeyedLists.mem_of_lookup hr, KeyedLists.key_of_lookup hr⟩

lemma findRetiring_mem {handle : ℕ} {r : RetiringSession} (hr : g.findRetiring handle = some r) :
    r ∈ g.retiringSessions ∧ r.handle = handle :=
  ⟨KeyedLists.mem_of_lookup hr, KeyedLists.key_of_lookup hr⟩

lemma findRetiring_none {handle : ℕ} (h : g.findRetiring handle = none) :
    ∀ r ∈ g.retiringSessions, r.handle ≠ handle := KeyedLists.lookup_eq_none.mp h

/-- A call of a live session reports logins only. -/
lemma Lawful.performLive (h : g.Lawful E) {handle : ℕ} {r : SessionRecord}
    (hr : g.findByHandle handle = some r) {call : LoginSession → LoginSession}
    (hcall : (call r.session).Calm) : (g.perform handle call).Lawful E := by
  obtain ⟨hmem, hhandle⟩ := findByHandle_mem hr
  have hput : (g.putSession handle { call r.session with reports := [] }).Lawful E := by
    refine h.putLive (fun r' hr' heq => ?_) ⟨hcall.notOut, hcall.quiet, by simp⟩ rfl
    exact h.not_both hmem hr' (hhandle.trans heq.symm)
  have hfold : ∀ (reports : List SessionReport),
      (∀ report ∈ reports, ∃ status, report = .login status) → ∀ g' : SessionRegistry,
        g'.Lawful E → (reports.foldl (report handle r.guid) g').Lawful E := by
    intro reports
    induction reports with
    | nil => exact fun _ g' hg' => hg'
    | cons first rest ih =>
      intro hlogins g' hg'
      obtain ⟨status, rfl⟩ := hlogins first List.mem_cons_self
      exact ih (fun report hreport => hlogins report (List.mem_cons_of_mem _ hreport)) _
        (hg'.loginReported handle status)
  unfold perform
  rw [findSession_live hr]
  exact hfold _ hcall.logins _ hput

lemma Lawful.logoutReported (h : g.Lawful E) {handle : ℕ} (guid : ℕ)
    (hlive : ∀ r ∈ g.sessions, r.handle ≠ handle) (hE : ∀ k s, k ≠ handle → E k s → E' k s)
    (hout : ∀ r ∈ g.retiringSessions, r.handle = handle → r.session.accepted →
      r.session.logoutAttempted) :
    (g.logoutReported handle guid).Lawful E' := by
  have hnone : (g.eraseSession handle).Lawful E :=
    h.eraseSession fun r hr heq => absurd heq (hlive r hr)
  have hgone := hnone.eraseRetired hE hout
  exact ⟨hgone.places, hgone.fresh, hgone.holders, hgone.live, hgone.retired, hgone.loggedOut⟩

/-- After a call, a retiring session is under its timer, or has reported its end and is gone. -/
lemma Lawful.performRetiring (h : g.Lawful E) {handle : ℕ} {r : RetiringSession}
    (hr : g.findRetiring handle = some r) (hE : ∀ k s, k ≠ handle → E k s → E' k s)
    {call : LoginSession → LoginSession}
    (hcall : (call r.session).Retired ∨ (call r.session).Ended) :
    (g.perform handle call).Lawful E' := by
  obtain ⟨hmem, hhandle⟩ := findRetiring_mem hr
  have hnone : ∀ r' ∈ g.sessions, r'.handle ≠ handle := by
    intro r' hr' heq
    exact h.not_both hr' hmem (heq.trans hhandle.symm)
  have hfind : g.findSession handle = some (r.guid, r.session) :=
    findSession_retiring (KeyedLists.lookup_eq_none.mpr hnone) hr
  unfold perform
  rw [hfind]
  dsimp only
  rcases hcall with hretired | ⟨hattempted, status, hreports⟩
  · rw [hretired.reports]
    refine h.putRetired hnone hE (Or.inl ?_)
    exact ⟨hretired.state, hretired.timer, hretired.callback, hretired.attempted, rfl⟩
  · rw [hreports]
    let F : ℕ → LoginSession → Prop := fun k s => E k s ∨ k = handle ∧ s.logoutAttempted = true
    have hput : (g.putSession handle { call r.session with reports := [] }).Lawful F :=
      h.putRetired hnone (fun k s _ hk => Or.inl hk) (Or.inr (Or.inr ⟨rfl, hattempted⟩))
    refine hput.logoutReported r.guid (fun r' hr' => ?_) (fun k s hk hF => ?_)
      fun r' hr' heq _ => ?_
    · obtain ⟨x, hx, rfl⟩ := KeyedLists.mem_modify.mp hr'
      rw [if_neg (hnone x hx)]
      exact hnone x hx
    · rcases hF with hE' | ⟨heq, -⟩
      · exact hE k s hk hE'
      · exact absurd heq hk
    · obtain ⟨x, hx, rfl⟩ := KeyedLists.mem_modify.mp hr'
      by_cases hx' : x.handle = handle
      · rw [if_pos hx']
        exact hattempted
      · rw [if_neg hx'] at heq
        exact absurd heq hx'

/-- A call that keeps live sessions calm and ends retiring ones or leaves them under their timer. -/
lemma Lawful.perform (h : g.Lawful NoneDue) (handle : ℕ) {call : LoginSession → LoginSession}
    (hcalm : ∀ s : LoginSession, s.Calm → s.reports = [] → (call s).Calm)
    (hretired : ∀ s : LoginSession, s.Retired → (call s).Retired ∨ (call s).Ended) :
    (g.perform handle call).Lawful NoneDue := by
  cases hlive : g.findByHandle handle with
  | some r =>
    have hr := h.live r (findByHandle_mem hlive).1
    exact h.performLive hlive (hcalm _ hr.1 hr.2)
  | none =>
    cases hretiring : g.findRetiring handle with
    | some r =>
      have hr := (h.retired r (findRetiring_mem hretiring).1).resolve_right id
      exact h.performRetiring hretiring (fun k s _ hk => hk) (hretired _ hr)
    | none =>
      have hnone : g.perform handle call = g := by
        simp [SessionRegistry.perform, findSession, hlive, hretiring]
      rw [hnone]
      exact h

/-! ### Releases -/

/-- The sessions with these handles were released and are to be logged out. -/
def DueIn (due : List ℕ) (handle : ℕ) (s : LoginSession) : Prop := handle ∈ due ∧ s.Due

lemma logsOut_iff {s : LoginSession} :
    logsOut s = true ↔ s.state = .loggedIn ∨ s.state = .suspended := by
  simp [logsOut]

/-- A released session that is dropped was not accepted by its target. -/
def Droppable (s : LoginSession) : Prop := s.accepted = true → logsOut s = true

lemma Lawful.detach {due : List ℕ} (h : g.Lawful (DueIn due)) {r : SessionRecord}
    (hr : r ∈ g.sessions) (hdrop : Droppable r.session) :
    (g.detach r).Lawful (DueIn (if logsOut r.session then r.handle :: due else due)) := by
  obtain ⟨hcalm, hreports⟩ := h.live r hr
  unfold SessionRegistry.detach
  cases hout : logsOut r.session with
  | true =>
    refine h.retire hr (fun k s hk => ⟨List.mem_cons_of_mem _ hk.1, hk.2⟩) ?_
    exact ⟨List.mem_cons_self, logsOut_iff.mp hout, rfl, hreports⟩
  | false =>
    have hnot : decide (r.session.state = .loggingOut) = false := decide_eq_false hcalm.notOut
    rw [hnot]
    refine h.eraseSession fun r' hr' heq haccepted => ?_
    rw [h.unique hr' hr heq] at haccepted
    have hlogs := hdrop haccepted
    rw [hout] at hlogs
    cases hlogs

/-- A rejected logout leaves the session to be erased. -/
lemma Lawful.performRejected (h : g.Lawful E) {handle : ℕ} {r : RetiringSession}
    (hr : g.findRetiring handle = some r) (call : LoginSession → LoginSession)
    (hcall : (call r.session).Rejected) :
    (g.perform handle call).Lawful fun k s =>
      k ≠ handle ∧ E k s ∨ k = handle ∧ s.logoutAttempted = true := by
  obtain ⟨hmem, hhandle⟩ := findRetiring_mem hr
  have hnone : ∀ r' ∈ g.sessions, r'.handle ≠ handle := by
    intro r' hr' heq
    exact h.not_both hr' hmem (heq.trans hhandle.symm)
  have hfind : g.findSession handle = some (r.guid, r.session) :=
    findSession_retiring (KeyedLists.lookup_eq_none.mpr hnone) hr
  unfold SessionRegistry.perform
  rw [hfind]
  dsimp only
  rw [hcall.reports]
  exact h.putRetired hnone (fun k s hne hk => Or.inl ⟨hne, hk⟩)
    (Or.inr (Or.inr ⟨rfl, hcall.attempted⟩))

lemma Lawful.logoutRetired {due : List ℕ} {handle : ℕ} (h : g.Lawful (DueIn (handle :: due)))
    (hfresh : handle ∉ due) (answer : BusAnswer) :
    (g.logoutRetired handle answer).Lawful (DueIn due) := by
  have hE : ∀ k s, k ≠ handle → DueIn (handle :: due) k s → DueIn due k s := by
    intro k s hne hk
    exact ⟨(List.mem_cons.mp hk.1).resolve_left hne, hk.2⟩
  unfold SessionRegistry.logoutRetired
  split
  · rename_i hnone
    exact h.weaken fun r hr => hE _ _ (findRetiring_none hnone r hr)
  · rename_i r hr
    dsimp only
    have hgone : ∀ g' : SessionRegistry, g'.Lawful (DueIn due) →
        (if (r.session.logout answer).2 then g' else g'.eraseRetired handle).Lawful
          (DueIn due) := by
      intro g' hg'
      split
      · exact hg'
      · refine hg'.eraseRetired (fun k s _ hk => hk) fun r' hr' heq _ => ?_
        rcases hg'.retired r' hr' with hretired | hdue
        · exact hretired.attempted
        · rw [heq] at hdue
          exact absurd hdue.1 hfresh
    rcases h.retired r (findRetiring_mem hr).1 with hretired | hdue
    · have hsame : (r.session.logout answer).1 = r.session := by
        unfold LoginSession.logout
        rw [if_pos]
        simp [hretired.state]
      refine hgone _ (h.performRetiring hr hE (Or.inl ?_))
      rw [hsame]
      exact hretired
    · rcases hdue.2.logout answer with ⟨hunder, -⟩ | hended | ⟨hrejected, hfalse⟩
      · exact hgone _ (h.performRetiring hr hE (Or.inl hunder))
      · exact hgone _ (h.performRetiring hr hE (Or.inr hended))
      · have hput := h.performRejected hr (fun s => (s.logout answer).1) hrejected
        rw [hfalse]
        refine hput.eraseRetired (fun k s hne hk => ?_) fun r' hr' heq _ => ?_
        · rcases hk with ⟨-, hk⟩ | ⟨heq, -⟩
          · exact hE k s hne hk
          · exact absurd heq hne
        · rcases hput.retired r' hr' with hretired | ⟨hne, -⟩ | ⟨-, hattempted⟩
          · exact hretired.attempted
          · exact absurd heq hne
          · exact hattempted

lemma lawful_dueIn_nil : g.Lawful (DueIn []) ↔ g.Lawful NoneDue := by
  constructor
  · intro h
    exact h.weaken fun r _ hdue => absurd hdue.1 List.not_mem_nil
  · intro h
    exact h.weaken fun r _ hnone => hnone.elim

lemma Lawful.releaseSession (h : g.Lawful NoneDue) (owner handle : ℕ) (answer : BusAnswer)
    (hdrop : ∀ r ∈ g.findByHandleForOwner owner handle, Droppable r.session) :
    (g.releaseSession owner handle answer).1.Lawful NoneDue := by
  unfold SessionRegistry.releaseSession
  split
  · exact h
  · rename_i r hr
    have hfound : g.findByHandle handle = some r := by
      obtain ⟨hfound, -⟩ := Option.filter_eq_some_iff.mp hr
      exact hfound
    obtain ⟨hmem, hhandle⟩ := findByHandle_mem hfound
    have hdetached := (lawful_dueIn_nil.mpr h).detach hmem (hdrop r hr)
    refine lawful_dueIn_nil.mp ?_
    dsimp only
    cases hout : logsOut r.session with
    | true =>
      rw [hout, if_pos rfl, hhandle] at hdetached
      exact hdetached.logoutRetired List.not_mem_nil answer
    | false =>
      rw [hout] at hdetached
      exact hdetached

/-- The records of an owner are taken out one after the other. -/
lemma Lawful.detachAll {records : List SessionRecord} {due : List ℕ} (h : g.Lawful (DueIn due))
    (hmem : ∀ r ∈ records, r ∈ g.sessions) (hnodup : (records.map (·.handle)).Nodup)
    (hdrop : ∀ r ∈ records, Droppable r.session) :
    ∃ due', (records.foldl SessionRegistry.detach g).Lawful (DueIn due') ∧
      due'.Perm (((records.filter (logsOut ·.session)).map (·.handle)) ++ due) := by
  induction records generalizing g due with
  | nil => exact ⟨due, h, List.Perm.refl _⟩
  | cons r records ih =>
    rw [List.map_cons, List.nodup_cons] at hnodup
    have hdetached := h.detach (hmem r List.mem_cons_self) (hdrop r List.mem_cons_self)
    have hsessions : (g.detach r).sessions = KeyedLists.erase (·.handle) r.handle g.sessions := by
      unfold SessionRegistry.detach
      split
      · rfl
      · rfl
    obtain ⟨due', hlawful, hperm⟩ := ih hdetached (fun r' hr' => by
        rw [hsessions, KeyedLists.mem_erase]
        refine ⟨hmem r' (List.mem_cons_of_mem r hr'), fun heq => hnodup.1 ?_⟩
        rw [← heq]
        exact List.mem_map_of_mem hr') hnodup.2
      fun r' hr' => hdrop r' (List.mem_cons_of_mem r hr')
    refine ⟨due', hlawful, hperm.trans ?_⟩
    cases hout : logsOut r.session with
    | true =>
      have hfilter : (r :: records).filter (logsOut ·.session) =
          r :: records.filter (logsOut ·.session) := List.filter_cons_of_pos hout
      rw [hfilter, if_pos rfl]
      exact List.perm_middle
    | false =>
      have hfilter : (r :: records).filter (logsOut ·.session) =
          records.filter (logsOut ·.session) := List.filter_cons_of_neg (by simp [hout])
      rw [hfilter]
      exact List.Perm.refl _

lemma Lawful.logoutAll {handles due : List ℕ} (h : g.Lawful (DueIn (handles ++ due)))
    (hnodup : (handles ++ due).Nodup) (answers : ℕ → BusAnswer) :
    (handles.foldl (fun g handle => g.logoutRetired handle (answers handle)) g).Lawful
      (DueIn due) := by
  induction handles generalizing g with
  | nil => exact h
  | cons handle handles ih =>
    rw [List.cons_append, List.nodup_cons] at hnodup
    exact ih (h.logoutRetired hnodup.1 (answers handle)) hnodup.2

lemma Lawful.releaseOwner (h : g.Lawful NoneDue) (owner : ℕ) (answers : ℕ → BusAnswer)
    (hdrop : ∀ r ∈ g.sessions, r.owner = owner → Droppable r.session) :
    (g.releaseOwner owner answers).Lawful NoneDue := by
  have hhandles : (g.sessions.map (·.handle)).Nodup := by
    refine List.nodup_iff_count_le_one.mpr fun k => ?_
    have hplaces := h.places k
    unfold SessionRegistry.places at hplaces
    omega
  have hnodup : ((g.sessions.filter (·.owner = owner)).map (·.handle)).Nodup :=
    hhandles.sublist (List.filter_sublist.map _)
  obtain ⟨due, hdetached, hperm⟩ := (lawful_dueIn_nil.mpr h).detachAll
    (fun r hr => (List.mem_filter.mp hr).1) hnodup fun r hr => by
      obtain ⟨hmem, howner⟩ := List.mem_filter.mp hr
      exact hdrop r hmem (of_decide_eq_true howner)
  rw [List.append_nil] at hperm
  refine lawful_dueIn_nil.mp (Lawful.logoutAll ?_ ?_ answers)
  · rw [List.append_nil]
    exact hdetached.weaken fun r _ hdue => ⟨hperm.mem_iff.mp hdue.1, hdue.2⟩
  · rw [List.append_nil]
    exact hnodup.sublist (List.filter_sublist.map _)

/-! ### Steps -/

lemma holders_eq_zero {guid romOffset : ℕ} (h : g.hasSessionForTarget guid romOffset = false) :
    g.holders (guid, romOffset) = 0 := by
  simp only [hasSessionForTarget, Bool.or_eq_false_iff, List.any_eq_false, Bool.and_eq_true,
    decide_eq_true_eq] at h
  have hlive : (g.sessions.map fun r => (r.guid, r.romOffset)).count (guid, romOffset) = 0 := by
    refine List.count_eq_zero.mpr fun hmem => ?_
    obtain ⟨r, hr, heq⟩ := List.mem_map.mp hmem
    exact h.1 r hr (Prod.mk.inj heq)
  have hretiring : (g.retiringSessions.map fun r => (r.guid, r.romOffset)).count
      (guid, romOffset) = 0 := by
    refine List.count_eq_zero.mpr fun hmem => ?_
    obtain ⟨r, hr, heq⟩ := List.mem_map.mp hmem
    exact h.2 r hr (Prod.mk.inj heq)
  unfold holders
  omega

lemma Lawful.createSession (h : g.Lawful NoneDue) (owner guid romOffset : ℕ)
    (route : Option SessionRoute) (unit : Option SBP2Unit) :
    (g.createSession owner guid romOffset route unit).1.Lawful NoneDue := by
  unfold SessionRegistry.createSession
  split
  · exact h
  split
  · exact h
  split
  · exact h
  split
  · exact h
  dsimp only
  split
  · exact h
  split
  · exact h
  · rename_i htarget
    have hzero := holders_eq_zero (Bool.eq_false_iff.mpr htarget)
    have hnew := h.fresh g.nextHandle le_rfl
    refine ⟨fun k => ?_, fun k hk => ?_, fun target => ?_, fun r hr => ?_, h.retired, h.loggedOut⟩
    · have hplaces := h.places k
      by_cases heq : g.nextHandle = k
      · subst heq
        simp only [SessionRegistry.places, List.map_append, List.map_cons, List.map_nil,
          List.count_append, List.count_singleton_self] at hnew ⊢
        omega
      · simp only [SessionRegistry.places, List.map_append, List.map_cons, List.map_nil,
          List.count_append, List.count_singleton, beq_iff_eq, if_neg heq] at hplaces ⊢
        omega
    · change g.nextHandle + 1 ≤ k at hk
      have hfresh := h.fresh k (by omega)
      have hne : g.nextHandle ≠ k := by omega
      simp only [SessionRegistry.places, List.map_append, List.map_cons, List.map_nil,
        List.count_append, List.count_singleton, beq_iff_eq, if_neg hne] at hfresh ⊢
      omega
    · have hholders := h.holders target
      by_cases heq : (guid, romOffset) = target
      · subst heq
        simp only [SessionRegistry.holders, List.map_append, List.map_cons, List.map_nil,
          List.count_append, List.count_singleton_self] at hzero ⊢
        omega
      · simp only [SessionRegistry.holders, List.map_append, List.map_cons, List.map_nil,
          List.count_append, List.count_singleton, beq_iff_eq, if_neg heq] at hholders ⊢
        omega
    · rcases List.mem_append.mp hr with hold | hadded
      · exact h.live r hold
      · rw [List.mem_singleton.mp hadded]
        exact ⟨⟨by simp [LoginSession.configure], rfl, by simp [LoginSession.configure]⟩, rfl⟩

lemma Lawful.startLogin (h : g.Lawful NoneDue) (owner handle : ℕ) (isCurrent : Bool)
    (answer : BusAnswer) : (g.startLogin owner handle isCurrent answer).1.Lawful NoneDue := by
  unfold SessionRegistry.startLogin
  split
  · exact h
  · rename_i r hr
    split
    · exact h
    split
    · exact h
    · obtain ⟨hfound, -⟩ := Option.filter_eq_some_iff.mp hr
      have hcalm := (h.live r (findByHandle_mem hfound).1).1
      have hset : Calm { r.session with loginCallback := true } := hcalm.same hcalm.notOut rfl rfl
      exact h.performLive hfound (hset.login answer)

/-- New sessions in the records, live and retiring. -/
lemma Lawful.remap (h : g.Lawful NoneDue) (live : SessionRecord → SessionRecord)
    (retiring : RetiringSession → RetiringSession)
    (hlive : ∀ r, (live r).handle = r.handle ∧ (live r).guid = r.guid ∧
      (live r).romOffset = r.romOffset)
    (hretiring : ∀ r, (retiring r).handle = r.handle ∧ (retiring r).guid = r.guid ∧
      (retiring r).romOffset = r.romOffset)
    (hcalm : ∀ r : SessionRecord, r.session.Calm → r.session.reports = [] →
      (live r).session.Calm ∧ (live r).session.reports = [])
    (hretired : ∀ r : RetiringSession, r.session.Retired → (retiring r).session.Retired) :
    Lawful { g with
      sessions := g.sessions.map live
      retiringSessions := g.retiringSessions.map retiring } NoneDue := by
  have hplaces : ∀ k, SessionRegistry.places { g with
      sessions := g.sessions.map live
      retiringSessions := g.retiringSessions.map retiring } k = g.places k := by
    intro k
    simp only [SessionRegistry.places, List.map_map, Function.comp_def, (hlive _).1,
      (hretiring _).1]
  refine ⟨fun k => (hplaces k).trans_le (h.places k),
    fun k hk => (hplaces k).trans (h.fresh k hk), fun target => ?_, fun r hr => ?_,
    fun r hr => Or.inl ?_, h.loggedOut⟩
  · have hholders := h.holders target
    simp only [SessionRegistry.holders, List.map_map, Function.comp_def, (hlive _).2.1,
      (hlive _).2.2, (hretiring _).2.1, (hretiring _).2.2] at hholders ⊢
    exact hholders
  · obtain ⟨x, hx, rfl⟩ := List.mem_map.mp hr
    exact hcalm x (h.live x hx).1 (h.live x hx).2
  · obtain ⟨x, hx, rfl⟩ := List.mem_map.mp hr
    exact hretired x ((h.retired x hx).resolve_right id)

lemma reports_handleBusReset (s : LoginSession) (newGeneration : ℕ) :
    (s.handleBusReset newGeneration).reports = s.reports := by
  unfold LoginSession.handleBusReset
  split <;> rfl

lemma Lawful.onBusReset (h : g.Lawful NoneDue) (newGeneration : ℕ) :
    (g.onBusReset newGeneration).Lawful NoneDue := by
  have hmapped := h.remap
    (fun r => { r with session := r.session.handleBusReset newGeneration }) id (fun _ => ⟨rfl, rfl, rfl⟩) (fun _ => ⟨rfl, rfl, rfl⟩)
    (fun r hcalm hreports => ⟨hcalm.handleBusReset newGeneration,
      (reports_handleBusReset _ _).trans hreports⟩) fun _ hretired => hretired
  rw [List.map_id] at hmapped
  exact hmapped

lemma Lawful.changeGeneration (h : g.Lawful NoneDue) : g.changeGeneration.Lawful NoneDue :=
  h.remap _ _ (fun _ => ⟨rfl, rfl, rfl⟩) (fun _ => ⟨rfl, rfl, rfl⟩)
    (fun _ hcalm hreports => ⟨hcalm.same hcalm.notOut rfl rfl, hreports⟩) fun _ hretired =>
      ⟨hretired.state, hretired.timer, hretired.callback, hretired.attempted, hretired.reports⟩

/-- A session that logs out does not reconnect. -/
lemma reconnect_retired {s : LoginSession} (h : s.Retired) (answer : BusAnswer) :
    (s.reconnect answer).1 = s := by
  unfold LoginSession.reconnect
  rw [if_pos]
  simp [h.state]

lemma refreshRecord_getD (gen : ℕ) (routes : ℕ → Option SessionRoute)
    (units : ℕ → ℕ → Option SBP2Unit) (r : SessionRecord) :
    ((refreshRecord gen routes units r).getD r).handle = r.handle ∧
      ((refreshRecord gen routes units r).getD r).owner = r.owner ∧
      ((refreshRecord gen routes units r).getD r).guid = r.guid ∧
      ((refreshRecord gen routes units r).getD r).romOffset = r.romOffset ∧
      ∃ info configured, ((refreshRecord gen routes units r).getD r).session =
        { r.session with targetInfo := info, configured := configured } := by
  unfold refreshRecord
  split
  · split
    · exact ⟨rfl, rfl, rfl, rfl, _, _, rfl⟩
    · exact ⟨rfl, rfl, rfl, rfl, _, _, rfl⟩
  · exact ⟨rfl, rfl, rfl, rfl, _, _, rfl⟩

lemma Lawful.refreshTargets (h : g.Lawful NoneDue) (gen : ℕ) (routes : ℕ → Option SessionRoute)
    (units : ℕ → ℕ → Option SBP2Unit) (answers : ℕ → BusAnswer) :
    (g.refreshTargets gen routes units answers).Lawful NoneDue := by
  have hfold : ∀ (handles : List ℕ) (g : SessionRegistry), g.Lawful NoneDue →
      (handles.foldl (fun g handle => g.perform handle fun s => (s.reconnect (answers handle)).1)
        g).Lawful NoneDue := by
    intro handles
    induction handles with
    | nil => exact fun g hg => hg
    | cons handle handles ih =>
      intro g hg
      refine ih _ (hg.perform handle (fun s hcalm _ => hcalm.reconnect _) fun s hretired => ?_)
      rw [reconnect_retired hretired]
      exact Or.inl hretired
  have hmapped := h.remap (fun r => (refreshRecord gen routes units r).getD r) id
    (fun r => by
      obtain ⟨hhandle, -, hguid, hrom, -⟩ := refreshRecord_getD gen routes units r
      exact ⟨hhandle, hguid, hrom⟩) (fun _ => ⟨rfl, rfl, rfl⟩)
    (fun r hcalm hreports => by
      obtain ⟨-, -, -, -, info, configured, hsession⟩ := refreshRecord_getD gen routes units r
      rw [hsession]
      exact ⟨hcalm.same hcalm.notOut rfl rfl, hreports⟩) fun _ hretired => hretired
  rw [List.map_id] at hmapped
  exact hfold _ _ hmapped

/-- Releases drop no session that its target has accepted in the present generation. -/
def Kept (g : SessionRegistry) : RegistryEvent → Prop
  | .releaseSession owner handle _ =>
    ∀ r ∈ g.findByHandleForOwner owner handle, Droppable r.session
  | .releaseOwner owner _ => ∀ r ∈ g.sessions, r.owner = owner → Droppable r.session
  | _ => True

theorem Lawful.step (h : g.Lawful NoneDue) {e : RegistryEvent} (hkept : g.Kept e) :
    (g.step e).Lawful NoneDue := by
  cases e with
  | createSession owner guid romOffset route unit => exact h.createSession owner guid romOffset _ _
  | startLogin owner handle isCurrent answer => exact h.startLogin owner handle isCurrent answer
  | releaseSession owner handle answer => exact h.releaseSession owner handle answer hkept
  | releaseOwner owner answers => exact h.releaseOwner owner answers hkept
  | generationChanged => exact h.changeGeneration
  | onBusReset newGeneration => exact h.onBusReset newGeneration
  | refreshTargets gen routes units answers => exact h.refreshTargets gen routes units answers
  | writeCompleted handle write status =>
    refine h.perform handle (fun s hcalm _ => ?_) fun s hretired => ?_
    · split
      · have hleft : Calm { s with writes := s.writes.erase write } :=
          hcalm.same hcalm.notOut rfl rfl
        exact hleft.onWriteComplete write status
      · exact hcalm
    · split
      · have hleft : Retired { s with writes := s.writes.erase write } :=
          ⟨hretired.state, hretired.timer, hretired.callback, hretired.attempted, hretired.reports⟩
        exact hleft.onWriteComplete write status
      · exact Or.inl hretired
  | statusBlock handle sbpStatus response answer =>
    refine h.perform handle (fun s hcalm _ => ?_) fun s hretired => ?_
    · split
      · exact hcalm.onStatusBlock sbpStatus response answer
      · exact hcalm
    · split
      · exact Or.inr (hretired.onStatusBlock sbpStatus response answer)
      · exact Or.inl hretired
  | managementTimer handle answer =>
    exact h.perform handle (fun s hcalm _ => hcalm.onManagementTimer answer) fun s hretired =>
      Or.inr (hretired.onManagementTimer answer)
  | targetAccepts handle =>
    refine h.perform handle (fun s hcalm _ => ?_) fun s hretired => ?_
    · split
      · exact hcalm.same hcalm.notOut rfl rfl
      · exact hcalm
    · split
      · exact Or.inl ⟨hretired.state, hretired.timer, hretired.callback, hretired.attempted,
          hretired.reports⟩
      · exact Or.inl hretired

end SessionRegistry

end ASFireWire.SBP2
