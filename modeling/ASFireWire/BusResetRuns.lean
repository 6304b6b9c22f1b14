import ASFireWire.BusResetEffects
import ASFireWire.EventLog
import ASFireWire.Runs

/-! Runs of the bus-reset coordinator: how long software resets stay away from the last accepted
Self-ID completion, and whether the transmit contexts are quiet when a generation is accepted. -/
namespace ASFireWire.BusReset

open EventLog Runs

def Action.timestamp? : Action → Option ℕ
  | .irq _ _ _ timestamp => some timestamp
  | _ => none

def Action.answers? : Action → Option Answers
  | .pass answers => some answers
  | _ => none

/-- Interrupts carry non-decreasing time-stamps. -/
def Coordinator.Monotonic (c : Coordinator) (x : Action) : Prop :=
  ∀ timestamp ∈ x.timestamp?, c.lastIrqNs ≤ timestamp

/-- The action is a pass that accepts a late completion. -/
def Coordinator.LateAccept (c : Coordinator) (x : Action) : Prop :=
  ∃ answers ∈ x.answers?, c.running.isSome = true ∧ AcceptsLate c answers

instance (c : Coordinator) (x : Action) : Decidable (c.Monotonic x) :=
  inferInstanceAs (Decidable (∀ _ ∈ x.timestamp?, _))

instance (c : Coordinator) (x : Action) : Decidable (c.LateAccept x) :=
  inferInstanceAs (Decidable (∃ _ ∈ x.answers?, _))

/-! ### The software reset holdoff -/

def Call.acceptedTime? : Call → Option ℕ
  | .selfIDAccepted _ completionTime => some completionTime
  | _ => none

/-- The completion time of the most recently accepted Self-ID capture. -/
def lastAccepted (log : List Call) : Option ℕ := log.findSome? Call.acceptedTime?

lemma lastAccepted_cons {x : Call} {log : List Call} (h : x.acceptedTime? = none) :
    lastAccepted (x :: log) = lastAccepted log := by
  simp [lastAccepted, h]

/-- Calls the holdoff does not look at. -/
def Call.Quiet (x : Call) : Prop :=
  x.acceptedTime? = none ∧ ∀ s t, x ≠ .initiateBusReset s t

lemma Call.Minor.quiet {x : Call} (h : x.Minor) : x.Quiet := by
  refine ⟨?_, fun s t hx => ?_⟩
  · cases x <;> first | rfl | exact absurd h id
  · rw [hx] at h
    exact h

lemma Call.Rearms.quiet {x : Call} (h : x.Rearms) : x.Quiet := by
  rcases h with h | rfl | ⟨generation, rfl⟩
  · exact h.quiet
  · exact ⟨rfl, by simp⟩
  · exact ⟨rfl, by simp⟩

lemma stopFlushCalls_quiet {v : View} {new : List Call} (hnew : ∀ x ∈ new, x.Minor) (g : ℕ) :
    ∀ x ∈ v.stopFlushCalls new g, x.Quiet := by
  intro x hx
  unfold View.stopFlushCalls at hx
  split at hx
  · simp at hx
  · simp only [List.mem_cons] at hx
    rcases hx with rfl | rfl | rfl | hx
    · exact ⟨rfl, by simp⟩
    · exact ⟨rfl, by simp⟩
    · exact ⟨rfl, by simp⟩
    · exact (hnew x hx).quiet

def RespectsHoldoff (x : Call) (older : List Call) : Prop :=
  ∀ shortReset t, x = .initiateBusReset shortReset t → ∀ accepted,
    lastAccepted older = some accepted → accepted + kRepeatedResetHoldoffNs ≤ t

/-- A completion accepted at `t` is covered: the holdoff runs from it, and no older completion is
latched. -/
structure View.Covers (v : View) (t : ℕ) : Prop where
  stamped : t ≤ v.lastIrqNs
  armed : t + kRepeatedResetHoldoffNs ≤ v.blockedUntilNs
  complete : v.latch.complete = true → t ≤ v.latch.completeTimeNs
  sticky : v.latch.stickyComplete = true → t ≤ v.latch.stickyCompleteTimeNs

structure Holdoff (v : View) (log : List Call) : Prop where
  respected : Throughout RespectsHoldoff log
  covered : ∀ t, lastAccepted log = some t → v.Covers t
  complete_le : v.latch.complete = true → v.latch.completeTimeNs ≤ v.lastIrqNs
  sticky_le : v.latch.stickyComplete = true → v.latch.stickyCompleteTimeNs ≤ v.lastIrqNs

namespace Holdoff

variable {v v' : View} {log new : List Call} {p : Prop}

/-- A view change that keeps what the holdoff depends on. -/
lemma of_view (h : Holdoff v log) (hlatch : v'.latch = v.latch ∨ v'.latch = {})
    (hblocked : v'.blockedUntilNs = v.blockedUntilNs) (hirq : v'.lastIrqNs = v.lastIrqNs) :
    Holdoff v' log := by
  rcases hlatch with hlatch | hlatch
  · refine ⟨h.respected, fun t ht => ?_, ?_, ?_⟩
    · obtain ⟨h₁, h₂, h₃, h₄⟩ := h.covered t ht
      exact ⟨by rwa [hirq], by rwa [hblocked], by rwa [hlatch], by rwa [hlatch]⟩
    · rw [hlatch, hirq]
      exact h.complete_le
    · rw [hlatch, hirq]
      exact h.sticky_le
  · refine ⟨h.respected, fun t ht => ?_, by simp [hlatch], by simp [hlatch]⟩
    obtain ⟨h₁, h₂, -, -⟩ := h.covered t ht
    exact ⟨by rwa [hirq], by rwa [hblocked], by simp [hlatch], by simp [hlatch]⟩

/-- Calls that accept nothing and reset the bus only past the holdoff. -/
lemma extend (h : Holdoff v log) (haccept : ∀ x ∈ new, x.acceptedTime? = none)
    (hreset : ∀ x ∈ new, ∀ s t, x = .initiateBusReset s t → v.Unblocked ∧ t = v.now) :
    Holdoff v (new ++ log) := by
  have hextend := h.respected.extend (Q := fun l => lastAccepted l = lastAccepted log) rfl
    fun x (hx : x ∈ new) older hold => by
      refine ⟨fun s t hinit accepted haccepted => ?_, ?_⟩
      · obtain ⟨hunblocked, rfl⟩ := hreset x hx s t hinit
        have harmed := (h.covered accepted (hold ▸ haccepted)).armed
        by_contra hlt
        have hholdoff : 0 < kRepeatedResetHoldoffNs := by decide
        exact hunblocked ⟨by omega, by omega⟩
      · rw [lastAccepted_cons (haccept x hx), hold]
  refine ⟨hextend.1, fun t ht => h.covered t ?_, h.complete_le, h.sticky_le⟩
  rwa [← hextend.2]

lemma extend_quiet (h : Holdoff v log) (hnew : ∀ x ∈ new, x.Quiet) : Holdoff v (new ++ log) :=
  h.extend (fun x hx => (hnew x hx).1) fun x hx s t hinit => absurd hinit ((hnew x hx).2 s t)

lemma extend_minor (h : Holdoff v log) (hnew : ∀ x ∈ new, x.Minor) : Holdoff v (new ++ log) :=
  h.extend_quiet fun x hx => (hnew x hx).quiet

lemma extend_issues (h : Holdoff v log) (hnew : ∀ x ∈ new, v.Issues x) :
    Holdoff v (new ++ log) := by
  refine h.extend (fun x hx => ?_) fun x hx s t hinit => ?_
  · rcases hnew x hx with hminor | ⟨-, s, rfl⟩
    · exact hminor.quiet.1
    · rfl
  · rcases hnew x hx with hminor | ⟨hunblocked, s', hs'⟩
    · exact absurd hinit (hminor.quiet.2 s t)
    · rw [hs'] at hinit
      exact ⟨hunblocked, (Call.initiateBusReset.inj hinit).2.symm⟩

lemma completionTime_le (h : Holdoff v log)
    (hlatch : v.latch.complete = true ∨ v.latch.stickyComplete = true) :
    v.latch.completionTime ≤ v.lastIrqNs := by
  unfold SelfIDLatchState.completionTime
  split
  · next hc => exact h.complete_le hc
  · next hc => exact h.sticky_le (hlatch.resolve_left hc)

lemma le_completionTime (h : Holdoff v log)
    (hlatch : v.latch.complete = true ∨ v.latch.stickyComplete = true) {t : ℕ}
    (ht : lastAccepted log = some t) : t ≤ v.latch.completionTime := by
  unfold SelfIDLatchState.completionTime
  split
  · next hc => exact (h.covered t ht).complete hc
  · next hc => exact (h.covered t ht).sticky (hlatch.resolve_left hc)

/-- Consuming a completion arms the holdoff from its own time, which no accepted one exceeds. -/
lemma consume (h : Holdoff v log)
    (hlatch : v.latch.complete = true ∨ v.latch.stickyComplete = true) (s : State) :
    Holdoff { v with
      state := s
      latch := {}
      blockedUntilNs := v.latch.completionTime + kRepeatedResetHoldoffNs } log where
  respected := h.respected
  covered t ht := {
    stamped := (h.covered t ht).stamped
    armed := Nat.add_le_add_right (h.le_completionTime hlatch ht) _
    complete := by simp
    sticky := by simp }
  complete_le := by simp
  sticky_le := by simp

/-- Accepting the consumed completion, now that the holdoff runs from it. -/
lemma accept (h : Holdoff v log) (generation : ℕ) {t : ℕ} (hstamped : t ≤ v.lastIrqNs)
    (harmed : t + kRepeatedResetHoldoffNs ≤ v.blockedUntilNs) (hempty : v.latch = {}) :
    Holdoff v (.selfIDAccepted generation t :: log) where
  respected := ⟨by simp [RespectsHoldoff], h.respected⟩
  covered t' ht' := by
    have ht : t' = t := (Option.some.inj ht').symm
    subst ht
    exact ⟨hstamped, harmed, by simp [hempty], by simp [hempty]⟩
  complete_le := h.complete_le
  sticky_le := h.sticky_le

lemma effect (hlate : p → False) (h : Holdoff v log) (heff : Effect p v v' new) :
    Holdoff v' (new ++ log) := by
  cases heff with
  | edge hnew => exact (h.extend_minor hnew).of_view (.inr rfl) rfl rfl
  | lateAccepted _ hp _ _ => exact (hlate hp).elim
  | idle _ hlatch hnew => exact (h.extend_issues hnew).of_view hlatch rfl rfl
  | armed _ hnew => exact (h.extend_minor hnew).of_view (.inl rfl) rfl rfl
  | accepted _ hlatch hnew generation =>
    have hconsume := h.consume hlatch .quiescingAT
    have haccept := hconsume.accept generation (h.completionTime_le hlatch) le_rfl rfl
    rw [List.append_assoc]
    exact haccept.extend_minor hnew
  | undecoded _ hlatch hnew => exact (h.consume hlatch .quiescingAT).extend_minor hnew
  | timedOut _ hnew => exact (h.extend_minor hnew).of_view (.inr rfl) rfl rfl
  | quiesced _ hnew g =>
    have hread : Call.Quiet (.readATContexts true) := ⟨rfl, by simp⟩
    have hquiet := List.forall_mem_cons.mpr ⟨hread, stopFlushCalls_quiet (v := v) hnew g⟩
    exact (h.extend_quiet hquiet).of_view (.inl rfl) rfl rfl
  | active _ hnew g =>
    have hread : Call.Quiet (.readATContexts false) := ⟨rfl, by simp⟩
    have hquiet := List.forall_mem_cons.mpr ⟨hread, stopFlushCalls_quiet (v := v) hnew g⟩
    exact (h.extend_quiet hquiet).of_view (.inl rfl) rfl rfl
  | restored _ hnew => exact (h.extend_minor hnew).of_view (.inl rfl) rfl rfl
  | cleared _ hclear =>
    refine (h.extend_quiet fun x hx => ?_).of_view (.inl rfl) rfl rfl
    rcases hclear with rfl | rfl
    · simp only [List.nil_append, List.mem_cons, List.not_mem_nil, or_false] at hx
      rcases hx with rfl | rfl <;> exact ⟨rfl, by simp⟩
    · simp only [List.cons_append, List.nil_append, List.mem_cons, List.not_mem_nil, or_false] at hx
      rcases hx with rfl | rfl | rfl <;> exact ⟨rfl, by simp⟩
  | unclear _ =>
    refine h.extend_quiet fun x hx => ?_
    rw [List.mem_singleton.mp hx]
    exact ⟨rfl, by simp⟩
  | rearmed _ hnew =>
    exact (h.extend_quiet fun x hx => (hnew x hx).quiet).of_view (.inl rfl) rfl rfl
  | completed _ hnew =>
    have hidle : Holdoff { v with state := .idle } log := h.of_view (.inl rfl) rfl rfl
    exact hidle.extend_issues hnew
  | waits => exact h

lemma irq (h : Holdoff v log) {complete sticky : Bool} {timestamp : ℕ}
    (hmono : v.lastIrqNs ≤ timestamp) :
    Holdoff { v with
      latch := v.latch.latched complete sticky timestamp
      lastIrqNs := timestamp } log := by
  have hcomplete := h.complete_le
  have hsticky := h.sticky_le
  refine ⟨h.respected, fun t ht => ?_, ?_, ?_⟩
  · obtain ⟨h₁, h₂, h₃, h₄⟩ := h.covered t ht
    refine ⟨h₁.trans hmono, h₂, ?_, ?_⟩
    · cases complete <;> cases sticky <;> simp only [SelfIDLatchState.latched] <;> grind
    · cases complete <;> cases sticky <;> simp only [SelfIDLatchState.latched] <;> grind
  · cases complete <;> cases sticky <;> simp only [SelfIDLatchState.latched] <;> grind
  · cases complete <;> cases sticky <;> simp only [SelfIDLatchState.latched] <;> grind

end Holdoff

lemma holdoff_initial (deps : Dependencies) : Holdoff (initial deps).view (initial deps).calls := by
  have hlog : lastAccepted (initial deps).calls = none ∧
      Throughout RespectsHoldoff (initial deps).calls := by
    unfold initial Coordinator.callWhen
    split
    · exact ⟨rfl, by simp [RespectsHoldoff], trivial⟩
    · exact ⟨rfl, trivial⟩
  have hlatch : (initial deps).view.latch = {} := by
    unfold initial Coordinator.callWhen
    split <;> rfl
  exact ⟨hlog.2, by simp [hlog.1], by simp [hlatch], by simp [hlatch]⟩

lemma holdoff_step {c : Coordinator} {x : Action} (hmono : c.Monotonic x) (hlate : ¬c.LateAccept x)
    (h : Holdoff c.view c.calls) : Holdoff (step c x).view (step c x).calls := by
  refine step_rule (I := Holdoff) (L := fun _ => False) ?_ ?_ ?_ ?_ h
  · intro v log ns h
    exact h.of_view (.inl rfl) rfl rfl
  · rintro b s s' t rfl h
    exact h.irq (hmono t rfl)
  · intro p v v' new log hp h heff
    exact h.effect hp heff
  · rintro a rfl hrun haccept
    exact hlate ⟨a, rfl, hrun, haccept⟩

/-- In every run in which no late Self-ID completion is accepted, no software reset is initiated
less than the holdoff after the most recently accepted completion. -/
theorem softwareResets_respect_holdoff (deps : Dependencies) (actions : List Action)
    (hmeets : Meets step (fun c x => c.Monotonic x ∧ ¬c.LateAccept x) (initial deps) actions)
    (newer older : List Call) (shortReset : Bool) (t accepted : ℕ)
    (hcalls : (run step (initial deps) actions).calls =
      newer ++ .initiateBusReset shortReset t :: older)
    (haccepted : lastAccepted older = some accepted) : accepted + kRepeatedResetHoldoffNs ≤ t := by
  have hrun := invariant_run_of_meets (I := fun c : Coordinator => Holdoff c.view c.calls)
    (C := fun (c : Coordinator) x => c.Monotonic x ∧ ¬c.LateAccept x)
    (fun c x h hx => holdoff_step hx.1 hx.2 h) (holdoff_initial deps) hmeets
  exact throughout_iff.mp hrun.respected newer _ older hcalls shortReset t rfl accepted haccepted

/-- Answers of a healthy controller: a valid node ID, quiet transmit contexts, and a capture of
`generation`. -/
def healthy (generation : ℕ) : Answers where
  nodeID := some 0x80000001
  nodeIDRoot := some 0x80000001
  atContexts := some (0, 0)
  decode := some (.ok { generation := generation })
  topology := some (.ok {})

/-- A reset edge, its Self-ID completion and the cycle that follows. -/
def ordinaryCycle : List Action :=
  [.elapse 1000, .irq true false false 1000, .runStateMachine, .pass (healthy 1), .pass (healthy 1),
    .elapse 1000, .irq false true true 2000, .deferredRun] ++ List.replicate 6 (.pass (healthy 1))

/-- A user reset asked for and dispatched `ns` later. -/
def userReset (ns : ℕ) : List Action :=
  [.elapse ns, .requestUserReset true "UserClient-initiated", .runStateMachine, .pass (healthy 1)]

theorem userReset_after_holdoff : 2000 + kRepeatedResetHoldoffNs ≤ 2000002000 :=
  softwareResets_respect_holdoff {} (ordinaryCycle ++ userReset 2000000000) (by decide +kernel)
    [] (run step (initial {}) ordinaryCycle).calls true _ _ (by decide +kernel) (by decide +kernel)

/-- A completion of a new generation that arrives with the coordinator idle. -/
def lateCompletion : List Action :=
  [.elapse 3000000000, .irq false true true 3000002000, .runStateMachine] ++
    List.replicate 6 (.pass (healthy 2))

/-- A user reset one microsecond after a late completion is initiated at once. -/
theorem userReset_after_lateCompletion :
    Meets step (fun c x => c.Monotonic x) (initial {})
      (ordinaryCycle ++ lateCompletion ++ userReset 1000) ∧
    ¬∀ newer older shortReset t accepted,
      (run step (initial {}) (ordinaryCycle ++ lateCompletion ++ userReset 1000)).calls =
        newer ++ .initiateBusReset shortReset t :: older →
      lastAccepted older = some accepted → accepted + kRepeatedResetHoldoffNs ≤ t := by
  refine ⟨by decide +kernel, fun h => ?_⟩
  have hearly := h [] (run step (initial {}) (ordinaryCycle ++ lateCompletion)).calls true
    3000003000 3000002000 (by decide +kernel) (by decide +kernel)
  exact absurd hearly (by decide)

/-! ### Quiet transmit contexts -/

def Call.Accepts : Call → Prop
  | .selfIDAccepted _ _ => True
  | _ => False

/-- The calls of `StopFlushAT`, newest first. -/
def stopFlushed (nextGeneration : ℕ) : List Call :=
  [.flushATContexts, .stopATContextsOnly, .onBusResetBegin nextGeneration]

/-- The transmit contexts have been stopped and flushed since the last accepted generation. -/
def Flushed (log : List Call) : Prop :=
  ∃ newer g older, log = newer ++ stopFlushed g ++ older ∧ ∀ x ∈ newer, ¬x.Accepts

/-- They have also been read inactive after that. -/
def Drained (log : List Call) : Prop :=
  ∃ newer g older, log = newer ++ stopFlushed g ++ older ∧ (∀ x ∈ newer, ¬x.Accepts) ∧
    .readATContexts true ∈ newer

def Call.RearmsContexts (x : Call) : Prop :=
  x = .rearmATContexts ∨ ∃ generation, x = .onBusResetComplete generation

/-- Rearming finds the contexts flushed, clearing the reset event finds them drained. -/
def Settles (x : Call) (older : List Call) : Prop :=
  (x.RearmsContexts → Flushed older) ∧ (x = .clearBusReset → Drained older)

variable {log new : List Call} {v v' : View} {p : Prop}

lemma flushed_stopFlushed (g : ℕ) (log : List Call) : Flushed (stopFlushed g ++ log) :=
  ⟨[], g, log, rfl, by simp⟩

lemma Flushed.cons (h : Flushed log) {x : Call} (hx : ¬x.Accepts) : Flushed (x :: log) := by
  obtain ⟨newer, g, older, rfl, hnewer⟩ := h
  exact ⟨x :: newer, g, older, rfl, List.forall_mem_cons.mpr ⟨hx, hnewer⟩⟩

lemma Drained.cons (h : Drained log) {x : Call} (hx : ¬x.Accepts) : Drained (x :: log) := by
  obtain ⟨newer, g, older, rfl, hnewer, hread⟩ := h
  exact ⟨x :: newer, g, older, rfl, List.forall_mem_cons.mpr ⟨hx, hnewer⟩,
    List.mem_cons_of_mem x hread⟩

lemma Flushed.drained (h : Flushed log) : Drained (.readATContexts true :: log) := by
  obtain ⟨newer, g, older, rfl, hnewer⟩ := h
  exact ⟨.readATContexts true :: newer, g, older, rfl, List.forall_mem_cons.mpr ⟨id, hnewer⟩,
    List.mem_cons_self⟩

lemma Drained.flushed (h : Drained log) : Flushed log := by
  obtain ⟨newer, g, older, rfl, hnewer, -⟩ := h
  exact ⟨newer, g, older, rfl, hnewer⟩

/-- A generation accepted before the flush stays behind it. -/
lemma Flushed.split (h : Flushed log) {mid older : List Call} {x : Call} (hx : x.Accepts)
    (hlog : log = mid ++ x :: older) : ∃ g, stopFlushed g <:+: mid := by
  obtain ⟨newer, g, rest, rfl, hnewer⟩ := h
  rw [List.append_assoc] at hlog
  rcases List.append_eq_append_iff.mp hlog with ⟨between, hmid, hrest⟩ | ⟨between, hnew, hrest⟩
  · have hsplit : ∃ tail, between = stopFlushed g ++ tail := by
      rcases List.append_eq_append_iff.mp hrest with ⟨tail, hbetween, -⟩ | ⟨tail, hflush, htail⟩
      · exact ⟨tail, hbetween⟩
      · cases tail with
        | nil => exact ⟨[], by rw [hflush, List.append_nil, List.append_nil]⟩
        | cons y tail =>
          have hmem : x ∈ stopFlushed g := by
            rw [hflush, (List.cons.inj htail).1]
            simp
          simp only [stopFlushed, List.mem_cons, List.not_mem_nil, or_false] at hmem
          rcases hmem with rfl | rfl | rfl <;> exact hx.elim
    obtain ⟨tail, rfl⟩ := hsplit
    exact ⟨g, newer, tail, by rw [hmid, List.append_assoc]⟩
  · cases between with
    | nil =>
      rw [(List.cons.inj hrest).1] at hx
      exact hx.elim
    | cons y between =>
      have hmem : x ∈ newer := by
        rw [hnew, (List.cons.inj hrest).1]
        simp
      exact absurd hx (hnewer x hmem)

lemma Call.Minor.settles {x : Call} (h : x.Minor) (older : List Call) :
    ¬x.Accepts ∧ Settles x older := by
  cases x <;> first | exact absurd h id | simp [Accepts, Settles, RearmsContexts]

lemma settles_issued {x : Call} (h : v.Issues x) (older : List Call) : Settles x older := by
  rcases h with h | ⟨-, s, rfl⟩
  · exact (h.settles older).2
  · simp [Settles, Call.RearmsContexts]

lemma settles_readATContexts (inactive : Bool) (older : List Call) :
    Settles (.readATContexts inactive) older := by simp [Settles, Call.RearmsContexts]

lemma settles_accepted (g t : ℕ) (older : List Call) : Settles (.selfIDAccepted g t) older := by
  simp [Settles, Call.RearmsContexts]

lemma throughout_stopFlushCalls (h : Throughout Settles log) (hnew : ∀ x ∈ new, x.Minor) (g : ℕ) :
    Throughout Settles (v.stopFlushCalls new g ++ log) := by
  unfold View.stopFlushCalls
  split
  · exact h
  · have hminor := (h.extend (Q := fun _ => True) trivial
      fun x hx older _ => ⟨((hnew x hx).settles older).2, trivial⟩).1
    refine ⟨?_, ?_, ?_, hminor⟩ <;> simp [Settles, Call.RearmsContexts]

/-- Where in the reset cycle the contexts are known flushed, and where they are still to be. -/
def Phase (v : View) (log : List Call) : Prop :=
  match v.state with
  | .idle | .complete => True
  | .detecting | .waitingSelfID => v.stopFlushIssued = false
  | .quiescingAT => v.stopFlushIssued = true → Flushed log
  | .restoringConfigROM | .clearingBusReset => Drained log
  | .rearming => Flushed log

structure Quiescence (v : View) (log : List Call) : Prop where
  settled : Throughout Settles log
  phase : Phase v log

namespace Quiescence

lemma extend_minor (h : Throughout Settles log) (hnew : ∀ x ∈ new, x.Minor) :
    Throughout Settles (new ++ log) :=
  (h.extend (Q := fun _ => True) trivial
    fun x hx older _ => ⟨((hnew x hx).settles older).2, trivial⟩).1

lemma extend_issues (h : Throughout Settles log) (hnew : ∀ x ∈ new, v.Issues x) :
    Throughout Settles (new ++ log) :=
  (h.extend (Q := fun _ => True) trivial
    fun x hx older _ => ⟨settles_issued (hnew x hx) older, trivial⟩).1

/-- After a stop-flush pass the contexts are flushed, whichever pass of the cycle made it. -/
lemma flushed_stopFlushCalls (hflushed : v.stopFlushIssued = true → Flushed log) (g : ℕ) :
    Flushed (v.stopFlushCalls new g ++ log) := by
  unfold View.stopFlushCalls
  split
  · next hflag => exact hflushed hflag
  · exact flushed_stopFlushed g (new ++ log)

lemma effect (hlate : p → v.stopFlushIssued = false) (h : Quiescence v log)
    (heff : Effect p v v' new) : Quiescence v' (new ++ log) := by
  obtain ⟨hsettled, hphase⟩ := h
  unfold Phase at hphase
  cases heff with
  | edge hnew => exact ⟨extend_minor hsettled hnew, rfl⟩
  | lateAccepted hstate hp hnew g =>
    rw [List.append_assoc]
    refine ⟨extend_minor ⟨settles_accepted _ _ _, hsettled⟩ hnew, fun hflag => ?_⟩
    exact absurd ((hlate hp).symm.trans hflag) (by decide)
  | idle hstate hlatch hnew =>
    exact ⟨extend_issues hsettled hnew, by simp [Phase, hstate]⟩
  | armed hstate hnew =>
    rw [hstate] at hphase
    exact ⟨extend_minor hsettled hnew, hphase⟩
  | accepted hstate hlatch hnew g =>
    rw [hstate] at hphase
    rw [List.append_assoc]
    refine ⟨extend_minor ⟨settles_accepted _ _ _, hsettled⟩ hnew, fun hflag => ?_⟩
    exact absurd (hphase.symm.trans hflag) (by decide)
  | undecoded hstate hlatch hnew =>
    rw [hstate] at hphase
    refine ⟨extend_minor hsettled hnew, fun hflag => ?_⟩
    exact absurd (hphase.symm.trans hflag) (by decide)
  | timedOut hstate hnew =>
    rw [hstate] at hphase
    refine ⟨extend_minor hsettled hnew, fun hflag => ?_⟩
    exact absurd (hphase.symm.trans hflag) (by decide)
  | quiesced hstate hnew g =>
    rw [hstate] at hphase
    exact ⟨⟨settles_readATContexts _ _, throughout_stopFlushCalls hsettled hnew g⟩,
      (flushed_stopFlushCalls hphase g).drained⟩
  | active hstate hnew g =>
    rw [hstate] at hphase
    refine ⟨⟨settles_readATContexts _ _, throughout_stopFlushCalls hsettled hnew g⟩, ?_⟩
    simp only [Phase, hstate]
    exact fun _ => (flushed_stopFlushCalls hphase g).cons id
  | restored hstate hnew =>
    rw [hstate] at hphase
    obtain ⟨hthroughout, hdrained⟩ := hsettled.extend (Q := Drained) hphase
      fun x hx older hold => ⟨((hnew x hx).settles older).2, hold.cons ((hnew x hx).settles older).1⟩
    exact ⟨hthroughout, hdrained⟩
  | cleared hstate hclear =>
    rw [hstate] at hphase
    have hdrained : Drained (.readATContexts true :: log) := hphase.cons id
    have hread : Throughout Settles (.readATContexts true :: log) :=
      ⟨settles_readATContexts _ _, hsettled⟩
    have hunmask (older : List Call) : Settles .unmaskBusReset older := by
      simp [Settles, Call.RearmsContexts]
    rcases hclear with rfl | rfl
    · exact ⟨⟨hunmask _, hread⟩, (hdrained.cons id).flushed⟩
    · refine ⟨⟨hunmask _, ?_, hread⟩, ((hdrained.cons id).cons id).flushed⟩
      exact ⟨by simp [Call.RearmsContexts], fun _ => hdrained⟩
  | unclear hstate =>
    rw [hstate] at hphase
    refine ⟨⟨settles_readATContexts _ _, hsettled⟩, ?_⟩
    simp only [Phase, hstate]
    exact hphase.cons id
  | rearmed hstate hnew =>
    rw [hstate] at hphase
    refine ⟨(hsettled.extend (Q := Flushed) hphase fun x hx older hold => ?_).1, trivial⟩
    rcases hnew x hx with hminor | rfl | ⟨g, rfl⟩
    · exact ⟨(hminor.settles older).2, hold.cons (hminor.settles older).1⟩
    · exact ⟨⟨fun _ => hold, by simp⟩, hold.cons id⟩
    · exact ⟨⟨fun _ => hold, by simp⟩, hold.cons id⟩
  | completed hstate hnew => exact ⟨extend_issues hsettled hnew, trivial⟩
  | waits => exact ⟨hsettled, hphase⟩

end Quiescence

lemma quiescence_initial (deps : Dependencies) :
    Quiescence (initial deps).view (initial deps).calls := by
  unfold initial Coordinator.callWhen
  split
  · exact ⟨⟨by simp [Settles, Call.RearmsContexts], trivial⟩, trivial⟩
  · exact ⟨trivial, trivial⟩

lemma quiescence_step {c : Coordinator} {x : Action}
    (hlate : c.LateAccept x → c.stopFlushIssued = false) (h : Quiescence c.view c.calls) :
    Quiescence (step c x).view (step c x).calls := by
  refine step_rule (I := Quiescence) (L := fun v => v.stopFlushIssued = false) ?_ ?_ ?_ ?_ h
  · intro v log ns h
    exact ⟨h.settled, h.phase⟩
  · intro b s s' t _ h
    exact ⟨h.settled, h.phase⟩
  · intro p v v' new log hp h heff
    exact h.effect hp heff
  · rintro a rfl hrun haccept
    exact hlate ⟨a, rfl, hrun, haccept⟩

/-- In every run in which no late completion is accepted while the cycle's stop-flush still counts
as issued, the transmit contexts are stopped and flushed between an accepted generation and any
later rearming, and the bus reset event is cleared only after both were then read inactive. -/
theorem accepted_generations_quiesce (deps : Dependencies) (actions : List Action)
    (hmeets : Meets step (fun c x => c.LateAccept x → c.stopFlushIssued = false) (initial deps)
      actions) :
    (∀ newer x mid generation t older, x.RearmsContexts →
      (run step (initial deps) actions).calls =
        newer ++ x :: (mid ++ .selfIDAccepted generation t :: older) →
      ∃ g, stopFlushed g <:+: mid) ∧
    ∀ newer older, (run step (initial deps) actions).calls = newer ++ .clearBusReset :: older →
      Drained older := by
  have hrun := invariant_run_of_meets (I := fun c : Coordinator => Quiescence c.view c.calls)
    (C := fun (c : Coordinator) x => c.LateAccept x → c.stopFlushIssued = false)
    (fun c x h hx => quiescence_step hx h) (quiescence_initial deps) hmeets
  have hsettled := throughout_iff.mp hrun.settled
  refine ⟨fun newer x mid generation t older hx hcalls => ?_, fun newer older hcalls => ?_⟩
  · exact ((hsettled newer x _ hcalls).1 hx).split (x := .selfIDAccepted generation t) trivial rfl
  · exact (hsettled newer _ older hcalls).2 rfl

theorem ordinaryCycle_quiesces : Drained
    ((run step (initial {}) ordinaryCycle).calls.drop 5) :=
  (accepted_generations_quiesce {} ordinaryCycle (by decide +kernel)).2
    ((run step (initial {}) ordinaryCycle).calls.take 4) _ (by decide +kernel)

/-- A late completion is followed by rearming with nothing flushed in between. -/
theorem lateCompletion_rearms_unflushed :
    ¬∀ newer x mid generation t older, x.RearmsContexts →
      (run step (initial {}) (ordinaryCycle ++ lateCompletion)).calls =
        newer ++ x :: (mid ++ .selfIDAccepted generation t :: older) →
      ∃ g, stopFlushed g <:+: mid := by
  intro h
  have hflush := h [.onBusResetComplete 2] .rearmATContexts
    (((run step (initial {}) (ordinaryCycle ++ lateCompletion)).calls.drop 2).take 9) 2 3000002000
    (run step (initial {}) ordinaryCycle).calls (.inl rfl) (by decide +kernel)
  obtain ⟨g, hinfix⟩ := hflush
  have hmem : Call.flushATContexts ∈
      ((run step (initial {}) (ordinaryCycle ++ lateCompletion)).calls.drop 2).take 9 :=
    hinfix.subset (by simp [stopFlushed])
  exact absurd hmem (by decide +kernel)

end ASFireWire.BusReset
