import ASFireWire.Runs
import ASFireWire.SessionOwners

/-! Runs of the registry of SBP-2 sessions. -/
namespace ASFireWire.SBP2

namespace SessionRegistry

variable {g : SessionRegistry}

/-- What is promised of the registry: one session for a target, no handle given twice, owners kept
apart, released sessions logging out until their timer or their end takes them away, and no login
left behind that the target has accepted in its generation. -/
structure Sound (g : SessionRegistry) : Prop where
  exclusive : ((g.sessions.map fun r => (r.guid, r.romOffset)) ++
    g.retiringSessions.map fun r => (r.guid, r.romOffset)).Nodup
  handles : (g.sessions.map (·.handle) ++ (g.retiringSessions.map (·.handle) ++
    g.departed.map (·.handle))).Nodup
  unused : ∀ handle ∈ g.sessions.map (·.handle) ++ (g.retiringSessions.map (·.handle) ++
    g.departed.map (·.handle)), handle < g.nextHandle
  apart : ∀ e owner, callerOf e = some owner → (g.step e).others owner = g.others owner
  retiring : ∀ r ∈ g.retiringSessions, r.session.state = .loggingOut ∧
    (r.session.managementTimer.isSome ∨ ∃ write ∈ r.session.writes, write.orb = .logout) ∧
      r.session.reports = []
  expires : ∀ r ∈ g.retiringSessions, ∀ answer,
    ∀ r' ∈ (g.step (.managementTimer r.handle answer)).retiringSessions, r'.handle ≠ r.handle
  loggedOut : ∀ d ∈ g.departed, d.accepted → d.logoutAttempted

lemma count_places (h : ℕ) : (g.sessions.map (·.handle) ++ (g.retiringSessions.map (·.handle) ++
    g.departed.map (·.handle))).count h = g.places h := by
  rw [List.count_append, List.count_append]
  rfl

/-- The timer of a retiring session takes it away. -/
lemma Lawful.expires (h : g.Lawful NoneDue) {r : RetiringSession} (hr : r ∈ g.retiringSessions)
    (answer : BusAnswer) {r' : RetiringSession}
    (hr' : r' ∈ (g.step (.managementTimer r.handle answer)).retiringSessions) :
    r'.handle ≠ r.handle := by
  have hlive : g.findByHandle r.handle = none := by
    refine KeyedLists.lookup_eq_none.mpr fun x hx heq => h.not_both hx hr heq
  cases hfind : g.findRetiring r.handle with
  | none => exact absurd rfl (findRetiring_none hfind r hr)
  | some x =>
    have hx := (h.retired x (findRetiring_mem hfind).1).resolve_right id
    obtain ⟨-, status, hreports⟩ := hx.onManagementTimer answer
    change r' ∈ (g.perform r.handle fun s => s.onManagementTimer answer).retiringSessions at hr'
    unfold SessionRegistry.perform at hr'
    rw [findSession_retiring hlive hfind] at hr'
    dsimp only at hr'
    rw [hreports] at hr'
    exact (KeyedLists.mem_erase.mp hr').2

theorem Lawful.sound (h : g.Lawful NoneDue) : g.Sound := by
  refine ⟨List.nodup_iff_count_le_one.mpr fun target => ?_,
    List.nodup_iff_count_le_one.mpr fun k => ?_, fun k hk => ?_,
    fun e owner he => h.others_step he, fun r hr => ?_, fun r hr answer r' hr' =>
      h.expires hr answer hr', h.loggedOut⟩
  · rw [List.count_append]
    exact h.holders target
  · rw [count_places]
    exact h.places k
  · by_contra hle
    have hpos := List.count_pos_iff.mpr hk
    rw [count_places, h.fresh k (Nat.le_of_not_lt hle)] at hpos
    exact absurd hpos (Nat.lt_irrefl 0)
  · have hretired := (h.retired r hr).resolve_right id
    exact ⟨hretired.state, Or.inl (by rw [hretired.timer]; rfl), hretired.reports⟩

lemma lawful_initial : Lawful ({} : SessionRegistry) NoneDue :=
  ⟨fun _ => Nat.zero_le _, fun _ _ => rfl, fun _ => Nat.zero_le _, by simp, by simp, by simp⟩

instance (session : LoginSession) : Decidable (Droppable session) :=
  inferInstanceAs (Decidable (_ → _))

instance (g : SessionRegistry) (e : RegistryEvent) : Decidable (g.Kept e) := by
  unfold Kept
  split
  · infer_instance
  · infer_instance
  · infer_instance

/-- As long as no release drops a session that its target has accepted in the present generation,
the registry keeps what is promised of it in every state of the run. -/
theorem registry_sound {events : List RegistryEvent} (hkept : Runs.Meets step Kept {} events) (n : ℕ) :
    Sound (Runs.run step {} (events.take n)) := by
  have hprefix := hkept.take n
  have hstep : ∀ (g : SessionRegistry) (e : RegistryEvent), g.Lawful NoneDue → g.Kept e →
      (g.step e).Lawful NoneDue := fun g e h hk => h.step hk
  exact (Runs.invariant_run_of_meets hstep lawful_initial hprefix).sound

/-- A unit with a management agent, and its device's route in a generation. -/
def scanner : SBP2Unit := { managementAgentOffset := some 0x4000, deviceNodeId := some 2 }

def scannerRoute (generation : ℕ) : SessionRoute :=
  { generation := generation, deviceIncarnation := 1, nodeId := 2 }

/-- A session is created and logs in. -/
def loggedInScanner : List RegistryEvent :=
  [.createSession 1 0xABCD 20 (some (scannerRoute 0)) (some scanner), .startLogin 1 1 true {},
    .writeCompleted 1 ⟨.login, 0⟩ .success, .targetAccepts 1, .statusBlock 1 0 (some ⟨7, 2⟩) {}]

/-- It is released, and its logout times out. -/
def releasedScanner : List RegistryEvent :=
  loggedInScanner ++ [.releaseSession 1 1 {}, .managementTimer 1 {}]

theorem registry_sound_releasedScanner : Sound (Runs.run step {} (releasedScanner.take 7)) :=
  registry_sound (by decide) 7

/-- It is released after a bus reset, when the target has accepted the reconnect and the status
block is still to come. -/
def releasedReconnect : List RegistryEvent :=
  loggedInScanner ++ [.generationChanged, .onBusReset 1,
    .refreshTargets 1 (fun _ => some (scannerRoute 1)) (fun _ _ => some scanner)
      fun _ => { generation := 1 },
    .writeCompleted 1 ⟨.reconnect, 1⟩ .success, .targetAccepts 1, .releaseSession 1 1 {}]

theorem not_sound_releasedReconnect : ¬ Sound (Runs.run step {} releasedReconnect) := by
  intro h
  have hout := h.loggedOut ⟨1, true, false⟩ (by decide) rfl
  cases hout

end SessionRegistry

end ASFireWire.SBP2
