import ASFireWire.ClockRequestRuns
import ASFireWire.RestartLifecycles

/-! The restart machine at rest between operations, in every run of calls on a GUID. -/
namespace ASFireWire.Duplex

open Programs
open DuplexWorld (deviceGone deviceThere)

/-- What a thread knows of the stored session. -/
def heldFields (session : Option DuplexRestartSession) (custody : Custody) : HeldFields :=
  if custody.holds then some (session.map (·.progressFields)) else none

/-- `stops` are the calls of `StopStreaming`. -/
structure LifecycleWorld where
  base : DuplexWorld := {}
  stops : ℕ → Bool := fun _ => false

namespace LifecycleWorld

variable {w : LifecycleWorld} {i : ℕ}

def program (w : LifecycleWorld) (i : ℕ) : Op Next := (w.base.threads i).program

def step (w : LifecycleWorld) (e : DuplexEvent) : LifecycleWorld :=
  let base := w.base.step e
  match e with
  | .call call => { base := base, stops := Function.update w.stops w.base.calls call.isStop }
  | _ => { w with base := base }

/-- No operation is about to attempt a refused transition, and while none has the GUID the stored
session is idle or failed without progress, or running. -/
structure Proper (w : LifecycleWorld) : Prop where
  legal : ∀ i source target next, w.program i ≠ .act (.illegalTransition source target) next
  resting : w.base.shared.gate.active = false → ∀ session, w.base.shared.session = some session →
    session.progressFields.AtRest

/-- No teardown; a session is erased only between operations; and a stop finds the device exactly
where a session is stored. -/
def Allowed (w : LifecycleWorld) : DuplexEvent → Prop
  | .call _ => True
  | .run i answers => w.stops i = true → ∀ next, w.program i = .act .requireDuplexRecord next →
      (answers .requireDuplexRecord).isSome = w.base.shared.session.isSome
  | .clearSession => w.base.shared.gate.active = false
  | .teardown => False

/-- What every allowed step keeps. -/
structure Lawful (w : LifecycleWorld) : Prop where
  keeps : ∀ i, Follows custody Custody.End (w.base.threads i).custody (w.base.threads i).program
  unborn : ∀ i, w.base.calls ≤ i → w.base.threads i = {}
  cancel : w.base.shared.cancel = false
  gated : Gated w.base.shared.gate.active none w.base.threads
  follows : ∀ i, Follows (lifecycles (w.stops i)) EndsResting
    (heldFields w.base.shared.session (w.base.threads i).custody) (w.base.threads i).program
  resting : w.base.shared.gate.active = false →
    Stored.AtRest (w.base.shared.session.map (·.progressFields))

lemma Lawful.proper (h : Lawful w) : Proper w where
  legal i source target next hi := by
    have hfollows := h.follows i
    have hi' : (w.base.threads i).program = .act (.illegalTransition source target) next := hi
    rw [hi'] at hfollows
    exact hfollows.1
  resting hactive session hsession := h.resting hactive _ (by rw [hsession]; rfl)

/-! ### One action -/

/-- The broker leaves lifecycle, phase and progress of the stored session alone. -/
lemma perform_progressFields {s : SharedState} {a : CoordinatorAction}
    (ha : ∀ session, a ≠ .storeSession session) (answers : ∀ a, Answer a) :
    (s.perform answers a).1.session.map (·.progressFields) =
      s.session.map (·.progressFields) := by
  cases a with
  | storeSession session => exact absurd rfl (ha session)
  | submitClockRequest desiredClock reason =>
    dsimp only [SharedState.perform]
    rcases s.submitClockRequest_cases desiredClock reason with
      ⟨-, hs⟩ | ⟨-, -, hs⟩ | ⟨-, -, hs⟩
    · rw [hs]
    · rw [hs]
      cases s.session <;> rfl
    · rw [hs]
  | tryConsumePending =>
    simp only [SharedState.perform, SharedState.tryConsumePending]
    cases s.pending <;> cases s.session <;> rfl
  | complete completion =>
    dsimp only [SharedState.perform, SharedState.complete]
    cases s.session <;> rfl
  | tryTakeCompleted token =>
    simp only [SharedState.perform, SharedState.tryTakeCompleted]
    split
    · rfl
    · rfl
  | _ => rfl

lemma heldFields_some {session : Option DuplexRestartSession} {g : Custody} {stored : Stored}
    (h : heldFields session g = some stored) :
    g.holds = true ∧ session.map (·.progressFields) = stored := by
  unfold heldFields at h
  split_ifs at h with hholds
  · exact ⟨hholds, Option.some.inj h⟩

/-- What a thread knows stays as it is while neither its claim nor the stored fields change. -/
lemma heldFields_congr {session session' : Option DuplexRestartSession} {g g' : Custody}
    (hholds : g'.holds = g.holds)
    (hsession : session'.map (·.progressFields) = session.map (·.progressFields)) :
    heldFields session' g' = heldFields session g := by
  unfold heldFields
  rw [hholds, hsession]

/-- What a thread knows after an action follows from what it knew. -/
lemma heldFields_follow {s : SharedState} {g : Custody} (stop : Bool) {a : CoordinatorAction}
    (answers : ∀ a, Answer a) (hallow : g.Allow a) (hcancel : s.cancel = false)
    (hrest : s.gate.active = false → Stored.AtRest (s.session.map (·.progressFields)))
    (hrecord : stop = true → a = .requireDuplexRecord →
      (answers .requireDuplexRecord).isSome = s.session.isSome) :
    (lifecycles stop).follow (heldFields s.session g) a (s.perform answers a).2
      (heldFields (s.perform answers a).1.session (g.next a (s.perform answers a).2)) := by
  cases a with
  | acquire =>
    cases hactive : s.gate.active with
    | true =>
      simp only [SharedState.perform, hactive, Bool.not_true]
      exact rfl
    | false =>
      simp only [SharedState.perform, hactive, Bool.not_false]
      exact ⟨_, hrest hactive, rfl⟩
  | submitClockRequest desiredClock reason =>
    have hfields := perform_progressFields (s := s)
      (a := .submitClockRequest desiredClock reason) (fun _ h => by cases h) answers
    dsimp only [SharedState.perform] at hfields ⊢
    rcases s.submitClockRequest_cases desiredClock reason with
      ⟨-, hs⟩ | ⟨-, -, hs⟩ | ⟨-, hactive, hs⟩
    · rw [hs] at hfields ⊢
      exact rfl
    · rw [hs] at hfields ⊢
      refine heldFields_congr ?_ hfields
      cases s.pending <;> rfl
    · rw [hs] at hfields ⊢
      exact ⟨_, hrest hactive, rfl⟩
  | release => exact rfl
  | loadSession forUpdate =>
    refine ⟨fun stored h => ?_, rfl⟩
    obtain ⟨-, rfl⟩ := heldFields_some h
    simp only [SharedState.perform]
    cases s.session <;> rfl
  | getSession forUpdate =>
    refine ⟨fun stored h => ?_, rfl⟩
    obtain ⟨-, rfl⟩ := heldFields_some h
    rfl
  | storeSession session =>
    have hholds : g.holds = true := hallow
    have hbefore : heldFields s.session g = some (s.session.map (·.progressFields)) := if_pos hholds
    rw [hbefore]
    exact if_pos hholds
  | teardownRequested => exact ⟨hcancel, rfl⟩
  | requireDuplexRecord =>
    refine ⟨fun hstop stored h => ?_, rfl⟩
    obtain ⟨-, rfl⟩ := heldFields_some h
    rw [Option.isSome_map]
    exact hrecord hstop rfl
  | tryConsumePending =>
    have hfields := perform_progressFields (s := s) (a := .tryConsumePending)
      (fun _ h => by cases h) answers
    refine heldFields_congr ?_ hfields
    cases (s.perform answers .tryConsumePending).2 <;> rfl
  | complete completion =>
    exact heldFields_congr rfl (perform_progressFields (s := s) (a := .complete completion)
      (fun _ h => by cases h) answers)
  | tryTakeCompleted token =>
    exact heldFields_congr rfl (perform_progressFields (s := s) (a := .tryTakeCompleted token)
      (fun _ h => by cases h) answers)
  | _ => exact rfl

lemma active_of_perform {s : SharedState} {a : CoordinatorAction} {answers : ∀ a, Answer a}
    (ha : a ≠ .release) (h : (s.perform answers a).1.gate.active = false) :
    s.gate.active = false := by
  cases a with
  | release => exact absurd rfl ha
  | acquire => cases h
  | submitClockRequest desiredClock reason =>
    dsimp only [SharedState.perform] at h
    rcases s.submitClockRequest_cases desiredClock reason with
      ⟨-, hs⟩ | ⟨-, hactive, hs⟩ | ⟨-, hactive, -⟩
    · rwa [hs] at h
    · rw [hs] at h
      exact h
    · exact hactive
  | tryConsumePending =>
    simp only [SharedState.perform, SharedState.tryConsumePending] at h
    revert h
    split <;> exact id
  | tryTakeCompleted token =>
    simp only [SharedState.perform, SharedState.tryTakeCompleted] at h
    revert h
    split <;> exact id
  | _ => exact h

/-! ### One step -/

lemma Lawful.act (h : Lawful w) {a : CoordinatorAction} {next : Answer a → Op Next}
    {answers : ∀ a, Answer a} (hi : w.program i = .act a next)
    (hallowed : w.Allowed (.run i answers)) : Lawful (w.step (.run i answers)) := by
  have hi' : (w.base.threads i).program = .act a next := hi
  have hcustody := h.keeps i
  have hlife := h.follows i
  rw [hi'] at hcustody hlife
  have hfollow := heldFields_follow (w.stops i) answers hcustody.1 h.cancel
    h.resting fun hstop ha => by
      subst ha
      exact hallowed hstop next hi
  have hbase : w.base.step (.run i answers) = w.base.act i answers a next := by
    simp only [DuplexWorld.step, hi']
  have hstep : w.step (.run i answers) = { w with base := w.base.act i answers a next } := by
    simp only [step, hbase]
  rw [hstep]
  have hmine : (w.base.act i answers a next).threads i =
      ⟨next (w.base.shared.perform answers a).2,
        (w.base.threads i).custody.next a (w.base.shared.perform answers a).2⟩ :=
    Function.update_self ..
  have hother {j : ℕ} (hj : j ≠ i) :
      (w.base.act i answers a next).threads j = w.base.threads j := Function.update_of_ne hj _ _
  constructor
  · intro j
    by_cases hj : j = i
    · dsimp only
      rw [hj, hmine]
      exact hcustody.2 _ _ rfl
    · dsimp only
      rw [hother hj]
      exact h.keeps j
  · intro j hj
    dsimp only
    rw [hother fun hji => ?_]
    · exact h.unborn j hj
    · rw [← hji, h.unborn j hj] at hi'
      cases hi'
  · exact (DuplexWorld.cancel_perform w.base.shared answers a).trans h.cancel
  · exact DuplexWorld.Gated.act h.gated hcustody.1 answers _
  · intro j
    by_cases hj : j = i
    · dsimp only
      rw [hj, hmine]
      exact hlife.2 _ _ hfollow
    · dsimp only
      rw [hother hj]
      have hsame : heldFields (w.base.shared.perform answers a).1.session
          (w.base.threads j).custody = heldFields w.base.shared.session
            (w.base.threads j).custody := by
        by_cases hstores : ∃ session, a = .storeSession session
        · obtain ⟨session, rfl⟩ := hstores
          have hnot : (w.base.threads j).custody.holds = false := by
            rw [Bool.eq_false_iff]
            exact fun hholds => hj (h.gated.holder j i hholds hcustody.1)
          unfold heldFields
          rw [hnot]
          rfl
        · exact heldFields_congr rfl
            (perform_progressFields (fun session ha => hstores ⟨session, ha⟩) answers)
      exact hsame ▸ h.follows j
  · intro hactive
    by_cases ha : a = .release
    · subst ha
      exact hlife.1 _ (if_pos hcustody.1.1)
    · have hbefore := active_of_perform ha hactive
      dsimp only [DuplexWorld.act]
      rw [perform_progressFields ?_ answers]
      · exact h.resting hbefore
      · rintro session rfl
        have hset := h.gated.active.mpr ⟨i, hcustody.1⟩
        rw [hbefore] at hset
        cases hset

/-- A thread is given another program. -/
lemma Lawful.moves (h : Lawful w) {w' : LifecycleWorld} {t : Thread}
    (hshared : w'.base.shared = w.base.shared)
    (hthreads : w'.base.threads = Function.update w.base.threads i t)
    (hstops : ∀ j, j ≠ i → w'.stops j = w.stops j)
    (hholds : t.custody.holds = (w.base.threads i).custody.holds)
    (hcalls : w.base.calls ≤ w'.base.calls) (hi : i < w'.base.calls)
    (hcustody : Follows custody Custody.End t.custody t.program)
    (hfollows : Follows (lifecycles (w'.stops i)) EndsResting
      (heldFields w.base.shared.session t.custody) t.program) : Lawful w' := by
  have hmine : w'.base.threads i = t := by rw [hthreads, Function.update_self]
  have hother {j : ℕ} (hj : j ≠ i) : w'.base.threads j = w.base.threads j := by
    rw [hthreads, Function.update_of_ne hj]
  constructor
  · intro j
    by_cases hj : j = i
    · rw [hj, hmine]
      exact hcustody
    · rw [hother hj]
      exact h.keeps j
  · intro j hj
    rw [hother (by omega)]
    exact h.unborn j (by omega)
  · rw [hshared]
    exact h.cancel
  · rw [hshared, hthreads]
    exact DuplexWorld.Gated.moves h.gated hholds id fun hsome => absurd rfl hsome
  · intro j
    rw [hshared]
    by_cases hj : j = i
    · rw [hj, hmine]
      exact hfollows
    · rw [hother hj, hstops j hj]
      exact h.follows j
  · rw [hshared]
    exact h.resting

lemma Lawful.step (h : Lawful w) {e : DuplexEvent} (hallowed : w.Allowed e) :
    Lawful (w.step e) := by
  cases e with
  | call call =>
    have hidle := h.unborn w.base.calls le_rfl
    have hstop : (w.step (.call call)).stops w.base.calls = call.isStop :=
      Function.update_self ..
    refine h.moves (i := w.base.calls) (t := ⟨call.program, {}⟩) rfl rfl
      (fun j hj => Function.update_of_ne hj ..) ?_ (Nat.le_succ _) (Nat.lt_succ_self _)
      (custody_call call) ?_
    · rw [hidle]
    · rw [hstop]
      exact life_call call
  | run i answers =>
    cases hi : w.program i with
    | act a next => exact h.act hi hallowed
    | done next =>
      have hi' : (w.base.threads i).program = .done next := hi
      cases hp : next.program with
      | none =>
        have hbase : w.base.step (.run i answers) = w.base := by
          simp only [DuplexWorld.step, hi', hp]
        have hstep : w.step (.run i answers) = w := by
          simp only [LifecycleWorld.step, hbase]
        rwa [hstep]
      | some p =>
        have hbase : w.base.step (.run i answers) = { w.base with
            threads := Function.update w.base.threads i ⟨p, (w.base.threads i).custody⟩ } := by
          simp only [DuplexWorld.step, hi', hp]
        have hend := h.keeps i
        have hrest := h.follows i
        rw [hi'] at hend hrest
        have hborn : i < w.base.calls := by
          by_contra hborn
          rw [h.unborn i (not_lt.mp hborn)] at hi'
          cases hi'
          cases hp
        refine h.moves (i := i) (t := ⟨p, (w.base.threads i).custody⟩) ?_ ?_ (fun _ _ => rfl) rfl
          ?_ ?_ (custody_next hend hp) (life_next hrest hp)
        · exact (congrArg DuplexWorld.shared hbase :)
        · exact (congrArg DuplexWorld.threads hbase :)
        · exact (congrArg DuplexWorld.calls hbase :).ge
        · exact hborn.trans_eq (congrArg DuplexWorld.calls hbase :).symm
  | clearSession =>
    have hfree (j : ℕ) : (w.base.threads j).custody.holds = false := by
      rw [Bool.eq_false_iff]
      intro hholds
      have hset := h.gated.active.mpr ⟨j, hholds⟩
      rw [show w.base.shared.gate.active = false from hallowed] at hset
      cases hset
    exact {
      keeps := h.keeps
      unborn := h.unborn
      cancel := h.cancel
      gated := {
        active := iff_of_false Bool.false_ne_true (by
          rintro ⟨j, hj⟩
          have hj' : (w.base.threads j).custody.holds = true := hj
          rw [hfree j] at hj'
          cases hj')
        holder := h.gated.holder
        drained := fun hsome => absurd rfl hsome }
      follows := fun j => by
        have hfollows := h.follows j
        unfold heldFields at hfollows ⊢
        have hnot : ((w.step .clearSession).base.threads j).custody.holds = false := hfree j
        rw [hfree j] at hfollows
        rw [hnot]
        exact hfollows
      resting := fun _ _ hsession => by cases hsession }
  | teardown => exact hallowed.elim

lemma lawful_initial : Lawful {} where
  keeps _ := rfl
  unborn _ _ := rfl
  cancel := rfl
  gated := DuplexWorld.orderly_initial.gated
  follows _ := fun h => by cases h
  resting _ _ hsession := by cases hsession

/-- The restart machine attempts no refused transition and is at rest whenever no operation has the
GUID, in every run of calls in which every stop finds the device exactly where a session is stored. -/
theorem proper_run (events : List DuplexEvent)
    (hmeets : Runs.Meets step Allowed ({} : LifecycleWorld) events) :
    Proper (Runs.run step {} events) :=
  (Runs.invariant_run_of_meets (I := Lawful) (fun _ _ h hallowed => h.step hallowed) lawful_initial
    hmeets).proper

/-- The program's next action looks for the device. -/
def looksUp : Op Next → Bool
  | .act .requireDuplexRecord _ => true
  | _ => false

lemma allowed_elsewhere {answers : ∀ a, Answer a} (h : looksUp (w.program i) = false) :
    w.Allowed (.run i answers) := by
  intro _ next hi
  rw [hi] at h
  cases h

/-- A stop of a stream that was never started, and no device. -/
def stopOfNothing : List DuplexEvent :=
  .call .stopStreaming :: List.replicate 14 (.run 0 deviceGone)

theorem proper_stopOfNothing :
    Proper (Runs.run step {} stopOfNothing) ∧
      (Runs.run step {} stopOfNothing).base.shared.gate.active = false ∧
      (Runs.run step {} stopOfNothing).base.shared.session.isSome = true :=
  ⟨proper_run _ ⟨trivial, allowed_elsewhere (by decide), allowed_elsewhere (by decide),
    allowed_elsewhere (by decide), allowed_elsewhere (by decide), allowed_elsewhere (by decide),
    allowed_elsewhere (by decide), allowed_elsewhere (by decide), fun _ _ _ => rfl,
    allowed_elsewhere (by decide), allowed_elsewhere (by decide), allowed_elsewhere (by decide),
    allowed_elsewhere (by decide), allowed_elsewhere (by decide), allowed_elsewhere (by decide),
    trivial⟩, by decide, by decide⟩

/-- Everything is there but the IRM. -/
def irmGone : ∀ a, Answer a
  | .irmClient => false
  | a => deviceThere a

/-- A stop of a stream that was never started is about to attempt idle to stopping; and a stop of a
failed one that finds no device leaves it failed and in phase idle. -/
theorem not_proper_stop :
    ¬ Proper (Runs.run step {}
      (.call .stopStreaming :: List.replicate 10 (.run 0 deviceThere))) ∧
    ¬ Proper (Runs.run step {} (.call .startStreaming :: List.replicate 19 (.run 0 irmGone) ++
      .call .stopStreaming :: List.replicate 13 (.run 1 deviceGone))) := by
  constructor
  · exact fun hproper => hproper.legal 0 _ _ _ rfl
  · intro hproper
    have hrest := hproper.resting (by decide) _ rfl
    revert hrest
    decide

end LifecycleWorld

end ASFireWire.Duplex
