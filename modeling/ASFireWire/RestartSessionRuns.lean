import ASFireWire.ClockRequestRuns
import ASFireWire.RestartSessionCopies

/-! The stored session under operations that write copies of it back, producers that change it under
the lock, and removals that erase it. -/
namespace ASFireWire.Duplex

open Programs
open DuplexWorld (deviceGone deviceThere)

/-! ### What a program still does with its copy -/

/-- Whether the thread gives up the copy it has. -/
def refreshes : CoordinatorAction → Bool
  | .loadSession forUpdate | .getSession forUpdate => forUpdate
  | .acquire | .submitClockRequest _ _ | .tryConsumePending | .complete _ => true
  | _ => false

def storesOrReleases : CoordinatorAction → Bool
  | .storeSession _ | .release => true
  | _ => false

def anyAnswer (a : CoordinatorAction) (_ : Answer a) : Prop := True

/-- Before the program stores a session it loads one again. -/
def Reloads (p : Op Next) : Prop := First anyAnswer refreshes stores (fun _ => True) p

/-- Before the program stores a session or releases the GUID it takes the pending request. -/
def ConsumesFirst (p : Op Next) : Prop :=
  First anyAnswer drains storesOrReleases (fun next => next = .drainPending) p

/-- The operation stores no session any more. -/
def NoStore (p : Op Next) : Prop :=
  First anyAnswer (fun _ => false) stores (fun next => next.program = none) p

lemma next_refreshes {a : CoordinatorAction} (ha : refreshes a = true) (g g' : CopyFields)
    (r : Answer a) : g.next a r = g'.next a r := by
  cases a with
  | loadSession forUpdate =>
    cases forUpdate with
    | true => rfl
    | false => cases ha
  | getSession forUpdate =>
    cases forUpdate with
    | true => rfl
    | false => cases ha
  | _ => first | rfl | cases ha

lemma next_not_refreshes {a : CoordinatorAction} (ha : refreshes a = false) (g : CopyFields)
    (r : Answer a) : g.next a r = g := by
  cases a with
  | loadSession forUpdate =>
    cases forUpdate with
    | true => cases ha
    | false => rfl
  | getSession forUpdate =>
    cases forUpdate with
    | true => cases ha
    | false => rfl
  | _ => first | rfl | cases ha

lemma refreshes_of_stores {a : CoordinatorAction} (ha : stores a = true) : refreshes a = false := by
  cases a <;> first | rfl | cases ha

/-- What the thread copied before does not matter to a program that loads again. -/
lemma Reloads.copied {p : Op Next} (h : Reloads p) {g : CopyFields}
    (hp : Follows copies (fun _ _ => True) g p) (g' : CopyFields) :
    Follows copies (fun _ _ => True) g' p := by
  induction p generalizing g g' with
  | done next => trivial
  | act a next ih =>
    obtain ⟨hallow, hnext⟩ := hp
    rcases first_act.mp h with hfresh | ⟨hstores, hlater⟩
    · have hnot : stores a = false := by
        by_contra hstores
        rw [refreshes_of_stores (by simpa using hstores)] at hfresh
        cases hfresh
      refine ⟨copies_allow hnot g', ?_⟩
      rintro r g'' rfl
      rw [next_refreshes hfresh g' g]
      exact hnext r _ rfl
    · refine ⟨copies_allow hstores g', ?_⟩
      rintro r g'' rfl
      exact ih r (hlater r trivial) (hnext r _ rfl) _

/-! ### Runs -/

/-- The fields after what the broker does to them in an action. -/
def BrokerFields.after (fields : BrokerFields) : (a : CoordinatorAction) → Answer a → BrokerFields
  | .submitClockRequest desiredClock reason, .queued _ _ =>
    { fields with
      pendingClock := desiredClock
      pendingReason := reason
      hasPendingClockRequest := true }
  | .tryConsumePending, some _ =>
    { fields with
      pendingClock := {}
      pendingReason := .initialStart
      hasPendingClockRequest := false }
  | .complete completion, _ => { fields with lastClockCompletion := some completion }
  | _, _ => fields

/-- `erases` counts the erased sessions, and `born` how many there were when a call started;
`writer` stored the session last, and `latest` are its fields with all updates made to them. -/
structure SessionWorld where
  base : DuplexWorld := {}
  erases : ℕ := 0
  born : ℕ → ℕ := fun _ => 0
  writer : ℕ := 0
  latest : Option BrokerFields := none

namespace SessionWorld

variable {w : SessionWorld} {i : ℕ}

def program (w : SessionWorld) (i : ℕ) : Op Next := (w.base.threads i).program

def Holds (w : SessionWorld) (i : ℕ) : Prop := (w.base.threads i).custody.holds = true

def session (w : SessionWorld) : Option DuplexRestartSession := w.base.shared.session

def writerAfter (w : SessionWorld) (i : ℕ) : ℕ :=
  match w.program i with
  | .act (.storeSession _) _ => i
  | _ => w.writer

def latestAfter (w : SessionWorld) (i : ℕ) (answers : ∀ a, Answer a) : Option BrokerFields :=
  match w.program i with
  | .act (.storeSession session) _ => some (w.latest.getD session.brokerFields)
  | .act a _ => w.latest.map (·.after a (w.base.shared.perform answers a).2)
  | .done _ => w.latest

def step (w : SessionWorld) (e : DuplexEvent) : SessionWorld :=
  let base := w.base.step e
  match e with
  | .call _ => { w with base := base, born := Function.update w.born w.base.calls w.erases }
  | .run i answers =>
    { w with base := base, writer := w.writerAfter i, latest := w.latestAfter i answers }
  | .clearSession => { w with base := base, erases := w.erases + 1, latest := none }
  | .teardown => { w with base := base }

/-- One operation at a time has the GUID, and what releases or stores is one that has it; a stored
session was stored by an operation that started after the last erase; its broker fields are those
with every update; and its mark says whether a request is pending. -/
structure Consistent (w : SessionWorld) : Prop where
  claimed : w.base.shared.gate.active = true ↔ ∃ i, w.Holds i
  alone : ∀ i j, w.Holds i → w.Holds j → i = j
  inside : ∀ i a next, w.program i = .act a next → storesOrReleases a = true → w.Holds i
  notRevived : w.session.isSome = true → w.born w.writer = w.erases
  kept : w.session.map (·.brokerFields) = w.latest
  marked : ∀ session, w.session = some session →
    session.hasPendingClockRequest = w.base.shared.pending.isSome

/-- The action queues a request. -/
def Queues (s : SharedState) : CoordinatorAction → Prop
  | .submitClockRequest _ _ => s.gate.active = true ∧ s.gate.stopRequested = false
  | _ => False

/-- The action changes the broker's fields of a stored session. -/
def Updates (s : SharedState) (a : CoordinatorAction) : Prop :=
  s.session.isSome = true ∧ (Queues s a ∨ (a = .tryConsumePending ∧ s.pending.isSome = true) ∨
    ∃ completion, a = .complete completion)

/-- The stored session is changed only while the operation that has the GUID has no copy to write
back; a request is queued where no session is stored only behind an operation that takes it before
it stores one; and a session is erased only while no operation has the GUID or goes on to store. -/
def Allowed (w : SessionWorld) : DuplexEvent → Prop
  | .call _ | .teardown => True
  | .run i _ => ∀ a next, w.program i = .act a next →
      (Updates w.base.shared a → ∀ j, j ≠ i → w.Holds j → Reloads (w.program j)) ∧
      (Queues w.base.shared a → w.session = none → ∀ j, w.Holds j → ConsumesFirst (w.program j))
  | .clearSession => ∀ j, ¬ w.Holds j ∧ NoStore (w.program j)

/-- A thread's copy, if it may still write it back. -/
def CopyOf (session : Option DuplexRestartSession) (t : Thread) : Prop :=
  ∃ g, Follows copies (fun _ _ => True) g t.program ∧
    (t.custody.holds = true → g = none ∨ g = some (session.getD {}).brokerFields)

/-- What every allowed step keeps. -/
structure Sound (w : SessionWorld) : Prop where
  follows : ∀ i, Follows custody Custody.End (w.base.threads i).custody (w.base.threads i).program
  unborn : ∀ i, w.base.calls ≤ i → w.base.threads i = {}
  gated : Gated w.base.shared.gate.active none w.base.threads
  copied : ∀ i, CopyOf w.session (w.base.threads i)
  empty : w.session = none → w.base.shared.pending.isSome = true →
    ∃ i, w.Holds i ∧ ConsumesFirst (w.program i)
  marked : ∀ session, w.session = some session →
    session.hasPendingClockRequest = w.base.shared.pending.isSome
  kept : w.session.map (·.brokerFields) = w.latest
  fresh : ∀ i, w.born i = w.erases ∨ NoStore (w.program i)
  notRevived : w.session.isSome = true → w.born w.writer = w.erases

lemma Sound.consistent (h : Sound w) : Consistent w where
  claimed := h.gated.active
  alone := h.gated.holder
  inside i a next hi ha := by
    have hfollows := h.follows i
    have hi' : (w.base.threads i).program = .act a next := hi
    rw [hi'] at hfollows
    cases a with
    | storeSession session => exact hfollows.1
    | release => exact hfollows.1.1
    | _ => cases ha
  notRevived := h.notRevived
  kept := h.kept
  marked := h.marked

/-! ### One action on the shared state -/

lemma perform_not_queues {s : SharedState} {a : CoordinatorAction} (ha : ¬ Queues s a)
    (answers : ∀ a, Answer a) (h : (s.perform answers a).1.pending.isSome = true) :
    s.pending.isSome = true ∧ drains a = false := by
  cases a with
  | submitClockRequest desiredClock reason =>
    refine ⟨?_, rfl⟩
    dsimp only [SharedState.perform] at h
    rcases s.submitClockRequest_cases desiredClock reason with
      ⟨-, hs⟩ | ⟨hstop, hactive, -⟩ | ⟨-, -, hs⟩
    · rwa [hs] at h
    · exact absurd ⟨hactive, hstop⟩ ha
    · rwa [hs] at h
  | tryConsumePending =>
    simp only [SharedState.perform, SharedState.tryConsumePending] at h
    cases hp : s.pending with
    | none => simp [hp] at h
    | some request => simp [hp] at h
  | tryTakeCompleted token =>
    simp only [SharedState.perform, SharedState.tryTakeCompleted] at h
    refine ⟨?_, rfl⟩
    revert h
    split <;> exact id
  | _ => exact ⟨h, rfl⟩

lemma perform_not_updates {s : SharedState} {a : CoordinatorAction} (ha : ¬ Updates s a)
    (hstores : stores a = false) (answers : ∀ a, Answer a) :
    (s.perform answers a).1.session = s.session := by
  have hnone (hchange : Queues s a ∨ (a = .tryConsumePending ∧ s.pending.isSome = true) ∨
      ∃ completion, a = .complete completion) : s.session = none := by
    by_contra hsome
    exact ha ⟨Option.isSome_iff_ne_none.mpr hsome, hchange⟩
  cases a with
  | storeSession session => cases hstores
  | submitClockRequest desiredClock reason =>
    dsimp only [SharedState.perform]
    rcases s.submitClockRequest_cases desiredClock reason with
      ⟨-, hs⟩ | ⟨hstop, hactive, hs⟩ | ⟨-, -, hs⟩
    · rw [hs]
    · rw [hs]
      dsimp only [SharedState.queuePending]
      rw [hnone (.inl ⟨hactive, hstop⟩)]
      rfl
    · rw [hs]
  | tryConsumePending =>
    simp only [SharedState.perform, SharedState.tryConsumePending]
    cases hp : s.pending with
    | none => rfl
    | some request =>
      dsimp only
      rw [hnone (.inr (.inl ⟨rfl, by rw [hp]; rfl⟩))]
      rfl
  | complete completion =>
    dsimp only [SharedState.perform, SharedState.complete]
    rw [hnone (.inr (.inr ⟨completion, rfl⟩))]
    rfl
  | tryTakeCompleted token =>
    simp only [SharedState.perform, SharedState.tryTakeCompleted]
    split <;> rfl
  | _ => rfl

/-- The broker's fields of the stored session change as the broker changes them. -/
lemma perform_fields {s : SharedState} {a : CoordinatorAction} (hstores : stores a = false)
    (answers : ∀ a, Answer a) : (s.perform answers a).1.session.map (·.brokerFields) =
      (s.session.map (·.brokerFields)).map (·.after a (s.perform answers a).2) := by
  cases a with
  | storeSession session => cases hstores
  | submitClockRequest desiredClock reason =>
    dsimp only [SharedState.perform]
    rcases s.submitClockRequest_cases desiredClock reason with
      ⟨-, hs⟩ | ⟨-, -, hs⟩ | ⟨-, -, hs⟩ <;> rw [hs] <;> cases s.session <;> rfl
  | tryConsumePending =>
    simp only [SharedState.perform, SharedState.tryConsumePending]
    cases s.pending <;> cases s.session <;> rfl
  | complete completion =>
    dsimp only [SharedState.perform, SharedState.complete]
    cases s.session <;> rfl
  | tryTakeCompleted token =>
    simp only [SharedState.perform, SharedState.tryTakeCompleted]
    split <;> cases s.session <;> rfl
  | _ => cases hs : s.session <;> simp only [SharedState.perform, hs] <;> rfl

lemma perform_isSome {s : SharedState} {a : CoordinatorAction} (hstores : stores a = false)
    (answers : ∀ a, Answer a) : (s.perform answers a).1.session.isSome = s.session.isSome := by
  have hfields := congrArg Option.isSome (perform_fields (s := s) hstores answers)
  simpa only [Option.isSome_map] using hfields

lemma perform_marked {s : SharedState} {a : CoordinatorAction} (hstores : stores a = false)
    (answers : ∀ a, Answer a)
    (h : ∀ session, s.session = some session →
      session.hasPendingClockRequest = s.pending.isSome)
    (session : DuplexRestartSession) (hs' : (s.perform answers a).1.session = some session) :
    session.hasPendingClockRequest = (s.perform answers a).1.pending.isSome := by
  cases a with
  | storeSession session => cases hstores
  | submitClockRequest desiredClock reason =>
    dsimp only [SharedState.perform] at hs' ⊢
    rcases s.submitClockRequest_cases desiredClock reason with
      ⟨-, hs⟩ | ⟨-, -, hs⟩ | ⟨-, -, hs⟩
    · rw [hs] at hs' ⊢
      exact h session hs'
    · rw [hs] at hs' ⊢
      obtain ⟨old, -, rfl⟩ := Option.map_eq_some_iff.mp hs'
      rfl
    · rw [hs] at hs' ⊢
      exact h session hs'
  | tryConsumePending =>
    simp only [SharedState.perform, SharedState.tryConsumePending] at hs' ⊢
    cases hp : s.pending with
    | none =>
      rw [hp] at hs'
      exact (h session hs').trans (by rw [hp])
    | some request =>
      rw [hp] at hs'
      obtain ⟨old, -, rfl⟩ := Option.map_eq_some_iff.mp hs'
      rfl
  | complete completion =>
    obtain ⟨old, hold, rfl⟩ := Option.map_eq_some_iff.mp hs'
    exact h old hold
  | tryTakeCompleted token =>
    simp only [SharedState.perform, SharedState.tryTakeCompleted] at hs' ⊢
    revert hs'
    split <;> exact h session
  | _ => exact h session hs'

/-! ### One step -/

lemma Sound.allow (h : Sound w) {a : CoordinatorAction} {next : Answer a → Op Next}
    (hi : w.program i = .act a next) : (w.base.threads i).custody.Allow a ∧
      ∀ r, Follows custody Custody.End ((w.base.threads i).custody.next a r) (next r) := by
  have hfollows := h.follows i
  have hi' : (w.base.threads i).program = .act a next := hi
  rw [hi'] at hfollows
  exact ⟨hfollows.1, fun r => hfollows.2 r _ rfl⟩

/-- The copy of a thread that does not move. -/
lemma Sound.copied_other (h : Sound w) {session : Option DuplexRestartSession} {j : ℕ}
    (hsame : w.Holds j → session = w.session ∨ Reloads (w.program j)) :
    CopyOf session (w.base.threads j) := by
  obtain ⟨g, hg, hcopy⟩ := h.copied j
  by_cases hholds : w.Holds j
  · rcases hsame hholds with rfl | hreloads
    · exact ⟨g, hg, hcopy⟩
    · exact ⟨none, hreloads.copied hg none, fun _ => .inl rfl⟩
  · exact ⟨g, hg, fun hset => absurd hset hholds⟩

/-- A copy that is loaded is a copy of the stored session. -/
lemma next_refreshes_perform {s : SharedState} {a : CoordinatorAction} (ha : refreshes a = true)
    (answers : ∀ a, Answer a) (g : CopyFields) :
    g.next a (s.perform answers a).2 = none ∨
      (g.next a (s.perform answers a).2 = some (s.session.getD {}).brokerFields ∧
        (s.perform answers a).1 = s) := by
  cases a with
  | loadSession forUpdate =>
    cases forUpdate with
    | true => exact .inr ⟨rfl, rfl⟩
    | false => cases ha
  | getSession forUpdate =>
    cases forUpdate with
    | true =>
      cases hs : s.session with
      | none => exact .inl (by simp [SharedState.perform, CopyFields.next, hs])
      | some session => exact .inr ⟨by simp [SharedState.perform, CopyFields.next, hs], rfl⟩
    | false => cases ha
  | _ => first | exact .inl rfl | cases ha

lemma not_updates_of_not_refreshes {s : SharedState} {a : CoordinatorAction}
    (ha : refreshes a = false) : ¬ Updates s a := by
  rintro ⟨-, hqueues | ⟨rfl, -⟩ | ⟨completion, rfl⟩⟩
  · cases a with
    | submitClockRequest desiredClock reason => cases ha
    | _ => exact hqueues.elim
  · cases ha
  · cases ha

lemma holds_next_of_not_refreshes {a : CoordinatorAction} (ha : refreshes a = false) (g : Custody)
    (r : Answer a) (h : (g.next a r).holds = true) : g.holds = true := by
  cases a <;> first | exact h | exact absurd h Bool.false_ne_true | cases ha

/-- The copy of the thread that acts. -/
lemma Sound.copied_act (h : Sound w) {a : CoordinatorAction} {next : Answer a → Op Next}
    (hi : w.program i = .act a next) (answers : ∀ a, Answer a) :
    CopyOf (w.base.shared.perform answers a).1.session
      ⟨next (w.base.shared.perform answers a).2,
        (w.base.threads i).custody.next a (w.base.shared.perform answers a).2⟩ := by
  obtain ⟨g, hg, hcopy⟩ := h.copied i
  have hi' : (w.base.threads i).program = .act a next := hi
  rw [hi'] at hg
  refine ⟨_, hg.2 _ _ rfl, fun hholds => ?_⟩
  cases ha : refreshes a with
  | true =>
    rcases next_refreshes_perform (s := w.base.shared) ha answers g with hnone | ⟨hsome, hsame⟩
    · exact .inl hnone
    · rw [hsame]
      exact .inr hsome
  | false =>
    rw [next_not_refreshes ha]
    cases hstores : stores a with
    | true =>
      cases a with
      | storeSession session => exact .inr hg.1
      | _ => cases hstores
    | false =>
      rw [perform_not_updates (not_updates_of_not_refreshes ha) hstores]
      exact hcopy (holds_next_of_not_refreshes ha _ _ hholds)

/-- What the thread that has the GUID stores has the broker's fields of the stored session. -/
lemma Sound.store (h : Sound w) {session : DuplexRestartSession} {next : Unit → Op Next}
    (hi : w.program i = .act (.storeSession session) next) :
    session.brokerFields = (w.session.getD {}).brokerFields := by
  obtain ⟨g, hg, hcopy⟩ := h.copied i
  have hi' : (w.base.threads i).program = .act (.storeSession session) next := hi
  rw [hi'] at hg
  have hholds : w.Holds i := (h.allow hi).1
  have hg' : g = some session.brokerFields := hg.1
  rcases hcopy hholds with hnone | hsome
  · rw [hnone] at hg'
    cases hg'
  · rw [hsome] at hg'
    exact (Option.some.inj hg').symm

/-- Where no session is stored the thread stores one without the mark, and none is pending. -/
lemma Sound.store_empty (h : Sound w) {session : DuplexRestartSession} {next : Unit → Op Next}
    (hi : w.program i = .act (.storeSession session) next) (hempty : w.session = none) :
    w.base.shared.pending.isSome = false := by
  by_contra hpending
  obtain ⟨j, hj, hfirst⟩ := h.empty hempty ((Bool.not_eq_false _).mp hpending)
  have hji : j = i := h.gated.holder j i hj (h.allow hi).1
  subst hji
  rw [hi] at hfirst
  rcases first_act.mp hfirst with hdrains | ⟨hbefore, -⟩
  · cases hdrains
  · cases hbefore

lemma Sound.store_marked (h : Sound w) {session : DuplexRestartSession} {next : Unit → Op Next}
    (hi : w.program i = .act (.storeSession session) next) :
    session.hasPendingClockRequest = w.base.shared.pending.isSome := by
  have hfields := congrArg BrokerFields.hasPendingClockRequest (h.store hi)
  cases hs : w.session with
  | none =>
    rw [hs] at hfields
    rw [h.store_empty hi hs]
    exact hfields
  | some old =>
    rw [hs] at hfields
    exact hfields.trans (h.marked old hs)

lemma writerAfter_of_not_stores {a : CoordinatorAction} {next : Answer a → Op Next}
    (hi : w.program i = .act a next) (hstores : stores a = false) : w.writerAfter i = w.writer := by
  unfold writerAfter
  rw [hi]
  cases a <;> first | rfl | cases hstores

lemma latestAfter_of_not_stores {a : CoordinatorAction} {next : Answer a → Op Next}
    (hi : w.program i = .act a next) (hstores : stores a = false) (answers : ∀ a, Answer a) :
    w.latestAfter i answers =
      w.latest.map (·.after a (w.base.shared.perform answers a).2) := by
  unfold latestAfter
  rw [hi]
  cases a <;> first | rfl | cases hstores

lemma holds_next {a : CoordinatorAction} (ha : releases a = false) {g : Custody} (r : Answer a)
    (h : g.holds = true) : (g.next a r).holds = true := by
  cases a with
  | acquire => cases r <;> first | exact h | rfl
  | submitClockRequest desiredClock reason =>
    cases r with
    | refused => exact h
    | launched token => rfl
    | queued token superseded => cases superseded <;> exact h
  | tryConsumePending => cases r <;> exact h
  | release => cases ha
  | _ => exact h

lemma ConsumesFirst.not_releases {a : CoordinatorAction} {next : Answer a → Op Next}
    (h : ConsumesFirst (.act a next)) : releases a = false := by
  rcases first_act.mp h with hdrains | ⟨hbefore, -⟩
  · cases a <;> first | rfl | cases hdrains
  · cases a <;> first | rfl | cases hbefore

/-- Who takes the pending request where no session is stored. -/
lemma Sound.empty_act (h : Sound w) {a : CoordinatorAction} {next : Answer a → Op Next}
    {answers : ∀ a, Answer a} (hi : w.program i = .act a next)
    (hqueues : Queues w.base.shared a → w.session = none → ∀ j, w.Holds j →
      ConsumesFirst (w.program j))
    (hnone : (w.base.shared.perform answers a).1.session = none)
    (hpending : (w.base.shared.perform answers a).1.pending.isSome = true) :
    ∃ j, w.Holds j ∧ (j ≠ i ∧ ConsumesFirst (w.program j) ∨ j = i ∧ releases a = false ∧
      ConsumesFirst (next (w.base.shared.perform answers a).2)) := by
  have hstores : stores a = false := by
    cases a <;> first | rfl | cases hnone
  have hempty : w.session = none := by
    have hsame := perform_isSome (s := w.base.shared) hstores answers
    rw [hnone] at hsame
    exact Option.isNone_iff_eq_none.mp (by rw [← Option.not_isSome]; exact congrArg not hsame.symm)
  by_cases hqueue : Queues w.base.shared a
  · obtain ⟨j, hj⟩ : ∃ j, w.Holds j := by
      apply h.gated.active.mp
      cases a with
      | submitClockRequest desiredClock reason => exact hqueue.1
      | _ => exact hqueue.elim
    refine ⟨j, hj, .inl ⟨?_, hqueues hqueue hempty j hj⟩⟩
    rintro rfl
    have hallow := (h.allow hi).1
    cases a with
    | submitClockRequest desiredClock reason => exact Bool.false_ne_true (hallow.1.symm.trans hj)
    | _ => exact hqueue.elim
  · obtain ⟨hbefore, hdrains⟩ := perform_not_queues hqueue answers hpending
    obtain ⟨j, hj, hfirst⟩ := h.empty hempty hbefore
    refine ⟨j, hj, ?_⟩
    by_cases hji : j = i
    · subst hji
      rw [hi] at hfirst
      exact .inr ⟨rfl, ConsumesFirst.not_releases hfirst, First.after hfirst hdrains trivial⟩
    · exact .inl ⟨hji, hfirst⟩

lemma Sound.act (h : Sound w) {a : CoordinatorAction} {next : Answer a → Op Next}
    {answers : ∀ a, Answer a} (hi : w.program i = .act a next)
    (hallowed : w.Allowed (.run i answers)) : Sound (w.step (.run i answers)) := by
  obtain ⟨hallow, hfollows⟩ := h.allow hi
  obtain ⟨hupdates, hqueues⟩ := hallowed a next hi
  have hbase : w.base.step (.run i answers) = w.base.act i answers a next := by
    have hi' : (w.base.threads i).program = .act a next := hi
    simp only [DuplexWorld.step, hi']
  have hborn : (w.step (.run i answers)).born = w.born := rfl
  have herases : (w.step (.run i answers)).erases = w.erases := rfl
  have hwriter : (w.step (.run i answers)).writer = w.writerAfter i := rfl
  have hlatest : (w.step (.run i answers)).latest = w.latestAfter i answers := rfl
  have hshared : (w.step (.run i answers)).base.shared = (w.base.shared.perform answers a).1 :=
    congrArg DuplexWorld.shared hbase
  have hthreads : (w.step (.run i answers)).base.threads = Function.update w.base.threads i
      ⟨next (w.base.shared.perform answers a).2,
        (w.base.threads i).custody.next a (w.base.shared.perform answers a).2⟩ :=
    congrArg DuplexWorld.threads hbase
  have hcalls : (w.step (.run i answers)).base.calls = w.base.calls :=
    (congrArg DuplexWorld.calls hbase :)
  generalize w.step (.run i answers) = w' at *
  have hmine : w'.base.threads i = ⟨next (w.base.shared.perform answers a).2,
      (w.base.threads i).custody.next a (w.base.shared.perform answers a).2⟩ := by
    rw [hthreads, Function.update_self]
  have hother {j : ℕ} (hj : j ≠ i) : w'.base.threads j = w.base.threads j := by
    rw [hthreads, Function.update_of_ne hj]
  constructor
  · intro j
    by_cases hj : j = i
    · rw [hj, hmine]
      exact hfollows _
    · rw [hother hj]
      exact h.follows j
  · intro j hj
    rw [hcalls] at hj
    rw [hother fun hji => ?_]
    · exact h.unborn j hj
    · have hidle : w.program i = .done (.returned .success) := by
        unfold program
        rw [← hji, h.unborn j hj]
      rw [hi] at hidle
      cases hidle
  · rw [hshared, hthreads]
    exact DuplexWorld.Gated.act h.gated hallow answers _
  · intro j
    unfold session
    rw [hshared]
    by_cases hj : j = i
    · rw [hj, hmine]
      exact h.copied_act hi answers
    · rw [hother hj]
      apply h.copied_other
      intro hholds
      by_cases hchange : Updates w.base.shared a
      · exact .inr (hupdates hchange j hj hholds)
      · cases hstores : stores a with
        | true =>
          cases a with
          | storeSession session => exact absurd (h.gated.holder j i hholds hallow) hj
          | _ => cases hstores
        | false => exact .inl (perform_not_updates hchange hstores answers)
  · unfold session Holds program
    rw [hshared]
    intro hnone hpending
    obtain ⟨j, hj, ⟨hji, hfirst⟩ | ⟨hji, hreleases, hfirst⟩⟩ :=
      h.empty_act hi hqueues hnone hpending
    · refine ⟨j, ?_⟩
      rw [hother hji]
      exact ⟨hj, hfirst⟩
    · refine ⟨i, ?_⟩
      rw [hmine]
      exact ⟨holds_next hreleases _ (hji ▸ hj), hfirst⟩
  · unfold session
    rw [hshared]
    cases hstores : stores a with
    | true =>
      cases a with
      | storeSession session =>
        rintro stored ⟨⟩
        exact h.store_marked hi
      | _ => cases hstores
    | false => exact perform_marked hstores answers h.marked
  · unfold session
    rw [hshared, hlatest]
    cases hstores : stores a with
    | true =>
      cases a with
      | storeSession session =>
        have hfields := h.store hi
        unfold latestAfter
        rw [hi]
        dsimp only
        rw [← h.kept]
        cases hs : w.session with
        | none => rfl
        | some old =>
          rw [hs] at hfields
          exact congrArg some hfields
      | _ => cases hstores
    | false =>
      rw [latestAfter_of_not_stores hi hstores, ← h.kept]
      exact perform_fields hstores answers
  · intro j
    unfold program
    rw [hborn, herases]
    by_cases hj : j = i
    · subst hj
      rw [hmine]
      refine (h.fresh j).imp id fun hnone => ?_
      rw [hi] at hnone
      exact First.after hnone rfl trivial
    · rw [hother hj]
      exact h.fresh j
  · unfold session
    rw [hshared, hborn, herases, hwriter]
    intro hsome
    cases hstores : stores a with
    | true =>
      have hwriter : w.writerAfter i = i := by
        unfold writerAfter
        rw [hi]
        cases a <;> first | rfl | cases hstores
      rw [hwriter]
      refine (h.fresh i).resolve_right fun hnone => ?_
      rw [hi] at hnone
      rcases first_act.mp hnone with hwanted | ⟨hbefore, -⟩
      · cases hwanted
      · rw [hstores] at hbefore
        cases hbefore
    | false =>
      rw [writerAfter_of_not_stores hi hstores]
      exact h.notRevived ((perform_isSome hstores answers).symm.trans hsome)

/-- A thread is given another program that does what is left to it. -/
lemma Sound.moves (h : Sound w) {w' : SessionWorld} {t : Thread}
    (hshared : w'.base.shared = w.base.shared)
    (hthreads : w'.base.threads = Function.update w.base.threads i t)
    (hcustody : t.custody.holds = (w.base.threads i).custody.holds)
    (hcalls : w.base.calls ≤ w'.base.calls) (hi : i < w'.base.calls) (hlatest : w'.latest = w.latest) (herases : w'.erases = w.erases)
    (hfollows : Follows custody Custody.End t.custody t.program) (hcopied : Copied t.program)
    (hconsumes : ConsumesFirst (w.program i) → ConsumesFirst t.program)
    (hfresh : ∀ j, w'.born j = w.erases ∨ (j ≠ i ∧ w'.born j = w.born j) ∨ NoStore (w'.program j))
    (hwriter : w.born w.writer = w.erases → w'.born w'.writer = w.erases) : Sound w' := by
  have hmine : w'.base.threads i = t := by rw [hthreads, Function.update_self]
  have hother {j : ℕ} (hj : j ≠ i) : w'.base.threads j = w.base.threads j := by
    rw [hthreads, Function.update_of_ne hj]
  have hholds (j : ℕ) : w'.Holds j ↔ w.Holds j := by
    unfold Holds
    rw [hthreads, DuplexWorld.holds_update hcustody]
  have hsession : w'.session = w.session := congrArg SharedState.session hshared
  constructor
  · intro j
    by_cases hj : j = i
    · rw [hj, hmine]
      exact hfollows
    · rw [hother hj]
      exact h.follows j
  · intro j hj
    rw [hother (by omega)]
    exact h.unborn j (by omega)
  · rw [hshared, hthreads]
    exact DuplexWorld.Gated.moves h.gated hcustody id fun hsome => absurd rfl hsome
  · intro j
    by_cases hj : j = i
    · rw [hj, hmine]
      exact ⟨none, hcopied none, fun _ => .inl rfl⟩
    · rw [hother hj, hsession]
      exact h.copied j
  · rw [hsession, hshared]
    intro hnone hpending
    obtain ⟨j, hj, hfirst⟩ := h.empty hnone hpending
    refine ⟨j, (hholds j).mpr hj, ?_⟩
    unfold program
    by_cases hji : j = i
    · subst hji
      rw [hmine]
      exact hconsumes hfirst
    · rw [hother hji]
      exact hfirst
  · rw [hsession, hshared]
    exact h.marked
  · rw [hsession, hlatest]
    exact h.kept
  · intro j
    rw [herases]
    rcases hfresh j with hborn | ⟨hj, hborn⟩ | hnone
    · exact .inl hborn
    · refine (h.fresh j).imp hborn.trans fun hnone => ?_
      unfold program
      rw [hother hj]
      exact hnone
    · exact .inr hnone
  · rw [hsession, herases]
    exact fun hsome => hwriter (h.notRevived hsome)

lemma consumesFirst_drainRound : ConsumesFirst drainRound := .inl rfl

lemma Sound.step (h : Sound w) {e : DuplexEvent} (hallowed : w.Allowed e) : Sound (w.step e) := by
  cases e with
  | call call =>
    have hidle := h.unborn w.base.calls le_rfl
    refine h.moves (i := w.base.calls) (t := ⟨call.program, {}⟩) rfl rfl ?_ ?_ ?_ rfl rfl
      (custody_call call) (copied_call call) ?_ ?_ ?_
    · rw [hidle]
    · exact Nat.le_succ _
    · exact Nat.lt_succ_self _
    · unfold program
      rw [hidle]
      intro hfirst
      cases hfirst
    · intro j
      by_cases hj : j = w.base.calls
      · subst hj
        exact .inl (Function.update_self ..)
      · exact .inr (.inl ⟨hj, Function.update_of_ne hj ..⟩)
    · intro hborn
      by_cases hj : w.writer = w.base.calls
      · exact (congrArg _ hj).trans (Function.update_self ..)
      · exact (Function.update_of_ne hj ..).trans hborn
  | run i answers =>
    cases hi : w.program i with
    | act a next => exact h.act hi hallowed
    | done next =>
      have hi' : (w.base.threads i).program = .done next := hi
      have hwriter : w.writerAfter i = w.writer := by
        unfold writerAfter
        rw [hi]
      have hlatest : w.latestAfter i answers = w.latest := by
        unfold latestAfter
        rw [hi]
      cases hp : next.program with
      | none =>
        have hbase : w.base.step (.run i answers) = w.base := by
          simp only [DuplexWorld.step, hi', hp]
        have hstep : w.step (.run i answers) = w := by
          simp only [SessionWorld.step, hbase, hwriter, hlatest]
        rwa [hstep]
      | some p =>
        have hbase : w.base.step (.run i answers) = { w.base with
            threads := Function.update w.base.threads i ⟨p, (w.base.threads i).custody⟩ } := by
          simp only [DuplexWorld.step, hi', hp]
        have hend := h.follows i
        rw [hi'] at hend
        have hborn : i < w.base.calls := by
          by_contra hborn
          rw [h.unborn i (not_lt.mp hborn)] at hi'
          cases hi'
          cases hp
        refine h.moves (i := i) (t := ⟨p, (w.base.threads i).custody⟩) ?_ ?_ rfl ?_ ?_ ?_ rfl
          (custody_next hend hp) (copied_next hp) ?_ ?_ ?_
        · exact (congrArg DuplexWorld.shared hbase :)
        · exact (congrArg DuplexWorld.threads hbase :)
        · exact (congrArg DuplexWorld.calls hbase :).ge
        · exact hborn.trans_eq (congrArg DuplexWorld.calls hbase :).symm
        · exact hlatest
        · rw [hi]
          intro hfirst
          have hdrain : next = .drainPending := hfirst
          subst hdrain
          cases hp
          exact consumesFirst_drainRound
        · intro j
          by_cases hj : j = i
          · subst hj
            refine .inl ((h.fresh j).resolve_right fun hnone => ?_)
            rw [hi] at hnone
            have hover : next.program = none := hnone
            rw [hp] at hover
            cases hover
          · exact .inr (.inl ⟨hj, rfl⟩)
        · intro hborn
          exact (congrArg w.born hwriter).trans hborn
  | clearSession =>
    have hfree (j : ℕ) : (w.base.threads j).custody.holds = false :=
      (Bool.not_eq_true _).mp (hallowed j).1
    exact {
      follows := h.follows
      unborn := h.unborn
      gated := {
        active := iff_of_false Bool.false_ne_true (by
          rintro ⟨j, hj⟩
          exact (hallowed j).1 hj)
        holder := h.gated.holder
        drained := fun hsome => absurd rfl hsome }
      copied := fun j => by
        obtain ⟨g, hg, -⟩ := h.copied j
        refine ⟨g, hg, fun hset => ?_⟩
        have hset' : (w.base.threads j).custody.holds = true := hset
        rw [hfree j] at hset'
        cases hset'
      empty := fun _ hpending => absurd hpending Bool.false_ne_true
      marked := fun _ hsession => by cases hsession
      kept := rfl
      fresh := fun j => .inr (hallowed j).2
      notRevived := fun hsome => absurd hsome Bool.false_ne_true }
  | teardown =>
    exact {
      follows := h.follows
      unborn := h.unborn
      gated := h.gated
      copied := h.copied
      empty := h.empty
      marked := h.marked
      kept := h.kept
      fresh := h.fresh
      notRevived := h.notRevived }

lemma sound_initial : Sound {} where
  follows _ := rfl
  unborn _ _ := rfl
  gated := DuplexWorld.orderly_initial.gated
  copied _ := ⟨none, trivial, fun _ => .inl rfl⟩
  empty _ hpending := absurd hpending Bool.false_ne_true
  marked _ hsession := by cases hsession
  kept := rfl
  fresh _ := .inl rfl
  notRevived hsome := absurd hsome Bool.false_ne_true

/-- Gate, stored session and broker agree in every state of every run of calls on the GUID in which
the stored session is changed and erased only where no operation goes on with a copy of it. -/
theorem consistent_run (events : List DuplexEvent)
    (hmeets : Runs.Meets step Allowed ({} : SessionWorld) events) :
    Consistent (Runs.run step {} events) :=
  (Runs.invariant_run_of_meets (I := Sound) (fun _ _ h hallowed => h.step hallowed) sound_initial
    hmeets).consistent

/-- The program's next action does not change what the broker has. -/
def plain : Op Next → Bool
  | .act (.submitClockRequest _ _) _ | .act .tryConsumePending _ | .act (.complete _) _ => false
  | _ => true

lemma allowed_plain {answers : ∀ a, Answer a} (h : plain (w.program i) = true) :
    w.Allowed (.run i answers) := by
  intro a next hi
  rw [hi] at h
  have hqueues : ¬ Queues w.base.shared a := by
    cases a <;> first | exact id | cases h
  refine ⟨?_, fun hqueue => absurd hqueue hqueues⟩
  rintro ⟨-, hqueue | ⟨rfl, -⟩ | ⟨completion, rfl⟩⟩
  · exact absurd hqueue hqueues
  · cases h
  · cases h

/-- A start has found no device, and a request for 48 kHz is about to be queued behind it. -/
def behindGivenUpStart : List DuplexEvent :=
  .call .startStreaming :: List.replicate 7 (.run 0 deviceGone) ++
    .call (.requestClockConfig ⟨48000⟩ .sampleRateChange) :: List.replicate 3 (.run 1 deviceGone)

lemma meets_behindGivenUpStart : Runs.Meets step Allowed {} behindGivenUpStart :=
  ⟨trivial, allowed_plain (by decide), allowed_plain (by decide), allowed_plain (by decide),
    allowed_plain (by decide), allowed_plain (by decide), allowed_plain (by decide),
    allowed_plain (by decide), trivial, allowed_plain (by decide), allowed_plain (by decide),
    allowed_plain (by decide), trivial⟩

theorem consistent_behindGivenUpStart :
    Consistent (Runs.run step {} (behindGivenUpStart ++ [.run 1 deviceGone])) ∧
      (Runs.run step {} (behindGivenUpStart ++ [.run 1 deviceGone])).base.shared.pending.isSome =
        true := by
  refine ⟨consistent_run _ (Runs.meets_append.mpr ⟨meets_behindGivenUpStart, ?_, trivial⟩),
    by decide⟩
  intro a next _
  refine ⟨fun hupdates => ?_, fun _ _ j hj => ?_⟩
  · exact absurd hupdates.1 (by decide)
  · have hsound := Runs.invariant_run_of_meets (I := Sound) (fun _ _ h hallowed => h.step hallowed)
      sound_initial meets_behindGivenUpStart
    have hzero : j = 0 := hsound.gated.holder j 0 hj (by decide)
    subst hzero
    exact .inl rfl

/-- A start stored a session and is about to store its copy once more. -/
def atSecondStore : List DuplexEvent :=
  .call .startStreaming :: List.replicate 20 (.run 0 deviceThere)

/-- A request is queued meanwhile, and the store takes its mark away again; or the session is erased
meanwhile, and the store brings it back. -/
theorem not_consistent_atSecondStore :
    ¬ Consistent (Runs.run step {} (atSecondStore ++
      .call (.requestClockConfig ⟨48000⟩ .sampleRateChange) ::
        List.replicate 4 (.run 1 deviceThere) ++ [.run 0 deviceThere])) ∧
    ¬ Consistent (Runs.run step {} (atSecondStore ++ [.clearSession, .run 0 deviceThere])) := by
  constructor
  · intro hconsistent
    have hmark := hconsistent.marked _ rfl
    revert hmark
    decide
  · intro hconsistent
    have hborn := hconsistent.notRevived (by decide)
    revert hborn
    decide

end SessionWorld

end ASFireWire.Duplex
