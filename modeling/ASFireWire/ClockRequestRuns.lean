import ASFireWire.DuplexThreads

/-! What becomes of every clock request, however the operations on its GUID interleave. -/
namespace ASFireWire.Duplex

open Programs

def drains : CoordinatorAction → Bool
  | .tryConsumePending => true
  | _ => false

def releases : CoordinatorAction → Bool
  | .release => true
  | _ => false

def noTeardown : (a : CoordinatorAction) → Answer a → Prop
  | .teardownRequested, torn => torn = false
  | _, _ => True

/-- The program's next action is the critical section of `RequestClockConfig`. -/
def submits : Op Next → Bool
  | .act (.submitClockRequest _ _) _ => true
  | _ => false

def Next.goesRound (next : Next) : Prop := next.program.isSome = true

/-- On every path the program looks for a pending request before it lets go of the GUID. -/
def DrainsFirst (p : Op Next) : Prop := First noTeardown drains releases Next.goesRound p

/-- What the critical section of `RequestClockConfig` does. -/
lemma SharedState.submitClockRequest_cases (s : SharedState) (desiredClock : AudioClockConfig)
    (reason : DuplexRestartReason) :
    (s.gate.stopRequested = true ∧ s.submitClockRequest desiredClock reason = (s, .refused)) ∨
    (s.gate.stopRequested = false ∧ s.gate.active = true ∧
      s.submitClockRequest desiredClock reason =
        (({ s with nextClockToken := s.nextClockToken + 1 }.queuePending
          ⟨desiredClock, reason, s.nextClockToken⟩).1, .queued s.nextClockToken s.pending)) ∨
    (s.gate.stopRequested = false ∧ s.gate.active = false ∧
      s.submitClockRequest desiredClock reason =
        ({ s with nextClockToken := s.nextClockToken + 1, gate.active := true },
          .launched s.nextClockToken)) := by
  unfold SharedState.submitClockRequest
  cases hstop : s.gate.stopRequested with
  | true => exact .inl ⟨rfl, rfl⟩
  | false =>
    right
    cases hactive : s.gate.active with
    | true => exact .inl ⟨rfl, rfl, by simp [hactive, SharedState.queuePending]⟩
    | false => exact .inr ⟨rfl, rfl, by simp [hactive]⟩

/-! ### Accounts of the tokens -/

/-- Where the tokens below `next` are: completed, pending, or in the hand of a thread. -/
structure Tokens (next : ℕ) (pending : Option ℕ) (hands : ℕ → Option InHand)
    (completions : List DuplexClockRequestCompletion) (displaced : List ℕ) : Prop where
  positive : 1 ≤ next
  held : ∀ i hand, hands i = some hand → (1 ≤ hand.token ∧ hand.token < next) ∧
    (∀ c ∈ completions, c.token ≠ hand.token) ∧ pending ≠ some hand.token ∧
    (hand.superseded = true ↔ hand.token ∈ displaced)
  distinct : ∀ i j hand hand', hands i = some hand → hands j = some hand' →
    hand.token = hand'.token → i = j
  waiting : ∀ token, pending = some token → (1 ≤ token ∧ token < next) ∧
    (∀ c ∈ completions, c.token ≠ token) ∧ token ∉ displaced
  once : (completions.map (·.token)).Nodup
  completed : ∀ c ∈ completions, (1 ≤ c.token ∧ c.token < next) ∧
    (c.outcome = .superseded ↔ c.token ∈ displaced)
  replaced : ∀ token ∈ displaced, 1 ≤ token ∧ token < next
  accounted : ∀ token, 1 ≤ token → token < next → (∃ c ∈ completions, c.token = token) ∨
    pending = some token ∨ ∃ i hand, hands i = some hand ∧ hand.token = token

namespace Tokens

variable {next : ℕ} {pending : Option ℕ} {hands : ℕ → Option InHand}
  {completions : List DuplexClockRequestCompletion} {displaced : List ℕ} {i : ℕ}

lemma hands_update {hand : Option InHand} {j : ℕ} {found : InHand}
    (h : Function.update hands i hand j = some found) :
    (j = i ∧ hand = some found) ∨ (j ≠ i ∧ hands j = some found) := by
  by_cases hj : j = i
  · subst hj
    rw [Function.update_self] at h
    exact .inl ⟨rfl, h⟩
  · rw [Function.update_of_ne hj] at h
    exact .inr ⟨hj, h⟩

lemma of_ne_hand (hi : hands i = none) {hand : Option InHand} {j : ℕ} {found : InHand}
    (hj : hands j = some found) : Function.update hands i hand j = some found := by
  have hne : j ≠ i := by
    rintro rfl
    rw [hi] at hj
    cases hj
  rw [Function.update_of_ne hne]
  exact hj

/-- Another hand for thread `i` that holds none of the others' tokens. -/
lemma distinct_update
    (h : ∀ j k hand hand', hands j = some hand → hands k = some hand' →
      hand.token = hand'.token → j = k) {hand : Option InHand}
    (hnew : ∀ mine, hand = some mine → ∀ j other, j ≠ i → hands j = some other →
      other.token ≠ mine.token) (j k : ℕ) (found found' : InHand)
    (hj : Function.update hands i hand j = some found)
    (hk : Function.update hands i hand k = some found') (hsame : found.token = found'.token) :
    j = k := by
  rcases hands_update hj with ⟨rfl, hmine⟩ | ⟨hne, hother⟩
  · rcases hands_update hk with ⟨rfl, -⟩ | ⟨hne', hother'⟩
    · rfl
    · exact absurd hsame.symm (hnew found hmine k found' hne' hother')
  · rcases hands_update hk with ⟨rfl, hmine'⟩ | ⟨-, hother'⟩
    · exact absurd hsame (hnew found' hmine' j found hne hother)
    · exact h j k found found' hother hother' hsame

/-- A new token in an empty hand. -/
lemma launch (h : Tokens next pending hands completions displaced) (hi : hands i = none) :
    Tokens (next + 1) pending (Function.update hands i (some ⟨next, false⟩)) completions
      displaced where
  positive := by omega
  held j hand hj := by
    rcases hands_update hj with ⟨-, hfound⟩ | ⟨-, hfound⟩
    · cases hfound
      refine ⟨⟨h.positive, by simp⟩, fun c hc => ?_, fun hp => ?_, ?_⟩
      · have hbound := (h.completed c hc).1
        dsimp only
        omega
      · have hbound := (h.waiting _ hp).1
        dsimp only at hbound
        omega
      · simp only [Bool.false_eq_true, false_iff]
        intro hmem
        have hbound := h.replaced _ hmem
        omega
    · obtain ⟨hbound, hrest⟩ := h.held j hand hfound
      exact ⟨by omega, hrest⟩
  distinct := by
    apply distinct_update h.distinct
    rintro mine hmine j other - hother
    cases hmine
    have hbound := (h.held j other hother).1
    dsimp only
    omega
  waiting token hp := by
    obtain ⟨hbound, hrest⟩ := h.waiting token hp
    exact ⟨by omega, hrest⟩
  once := h.once
  completed c hc := by
    obtain ⟨hbound, hrest⟩ := h.completed c hc
    exact ⟨by omega, hrest⟩
  replaced token htoken := by
    have hbound := h.replaced token htoken
    omega
  accounted token hpos hlt := by
    by_cases hnew : token = next
    · exact .inr (.inr ⟨i, ⟨next, false⟩, Function.update_self .., hnew.symm⟩)
    · rcases h.accounted token hpos (by omega) with hdone | hp | ⟨j, hand, hj, htoken⟩
      · exact .inl hdone
      · exact .inr (.inl hp)
      · exact .inr (.inr ⟨j, hand, of_ne_hand hi hj, htoken⟩)

/-- A new token pending; the one it displaces goes into the empty hand. -/
lemma queue (h : Tokens next pending hands completions displaced) (hi : hands i = none) :
    Tokens (next + 1) (some next)
      (Function.update hands i (pending.map fun token => ⟨token, true⟩)) completions
      (displaced ++ pending.toList) where
  positive := by omega
  held j hand hj := by
    rcases hands_update hj with ⟨-, hfound⟩ | ⟨-, hfound⟩
    · obtain ⟨token, hp, rfl⟩ := Option.map_eq_some_iff.mp hfound
      obtain ⟨hbound, hfresh, -⟩ := h.waiting token hp
      refine ⟨⟨hbound.1, by dsimp only; omega⟩, hfresh, fun heq => ?_, by simp [hp]⟩
      have hsame : next = token := by injection heq
      omega
    · obtain ⟨hbound, hfresh, hnot, hiff⟩ := h.held j hand hfound
      refine ⟨by omega, hfresh, fun heq => ?_, ?_⟩
      · cases heq
        omega
      · rw [hiff, List.mem_append, Option.mem_toList]
        exact ⟨.inl, fun hor => hor.resolve_right hnot⟩
  distinct := by
    apply distinct_update h.distinct
    rintro mine hmine j other - hother heq
    obtain ⟨token, hp, rfl⟩ := Option.map_eq_some_iff.mp hmine
    exact (h.held j other hother).2.2.1 (by rw [hp]; exact congrArg some heq.symm)
  waiting token hp := by
    cases hp
    refine ⟨⟨h.positive, by omega⟩, fun c hc => ?_, fun hmem => ?_⟩
    · have hbound := (h.completed c hc).1
      omega
    · rw [List.mem_append, Option.mem_toList] at hmem
      rcases hmem with hmem | hmem
      · have hbound := h.replaced _ hmem
        omega
      · have hbound := (h.waiting _ hmem).1
        omega
  once := h.once
  completed c hc := by
    obtain ⟨hbound, hiff⟩ := h.completed c hc
    refine ⟨by omega, ?_⟩
    rw [hiff, List.mem_append, Option.mem_toList]
    refine ⟨.inl, fun hor => hor.resolve_right fun hp => ?_⟩
    exact (h.waiting _ hp).2.1 c hc rfl
  replaced token htoken := by
    rw [List.mem_append, Option.mem_toList] at htoken
    rcases htoken with hmem | hmem
    · have hbound := h.replaced _ hmem
      omega
    · have hbound := (h.waiting _ hmem).1
      omega
  accounted token hpos hlt := by
    by_cases hnew : token = next
    · exact .inr (.inl (by rw [hnew]))
    · rcases h.accounted token hpos (by omega) with hdone | hp | ⟨j, hand, hj, htoken⟩
      · exact .inl hdone
      · exact .inr (.inr ⟨i, ⟨token, true⟩, by rw [Function.update_self, hp]; rfl, rfl⟩)
      · exact .inr (.inr ⟨j, hand, of_ne_hand hi hj, htoken⟩)

/-- The pending token goes into the empty hand. -/
lemma take {token : ℕ} (h : Tokens next (some token) hands completions displaced)
    (hi : hands i = none) : Tokens next none (Function.update hands i (some ⟨token, false⟩))
      completions displaced where
  positive := h.positive
  held j hand hj := by
    rcases hands_update hj with ⟨-, hfound⟩ | ⟨-, hfound⟩
    · cases hfound
      obtain ⟨hbound, hfresh, hnot⟩ := h.waiting token rfl
      exact ⟨hbound, hfresh, by simp, by simp [hnot]⟩
    · obtain ⟨hbound, hfresh, -, hiff⟩ := h.held j hand hfound
      exact ⟨hbound, hfresh, by simp, hiff⟩
  distinct := by
    apply distinct_update h.distinct
    rintro mine hmine j other - hother heq
    cases hmine
    exact (h.held j other hother).2.2.1 (congrArg some heq.symm)
  waiting token' hp := by cases hp
  once := h.once
  completed := h.completed
  replaced := h.replaced
  accounted token' hpos hlt := by
    rcases h.accounted token' hpos hlt with hdone | hp | ⟨j, hand, hj, htoken⟩
    · exact .inl hdone
    · cases hp
      exact .inr (.inr ⟨i, ⟨token, false⟩, Function.update_self .., rfl⟩)
    · exact .inr (.inr ⟨j, hand, of_ne_hand hi hj, htoken⟩)

/-- The token in hand is completed. -/
lemma complete (h : Tokens next pending hands completions displaced) {hand : InHand}
    (hi : hands i = some hand) {c : DuplexClockRequestCompletion} (htoken : c.token = hand.token)
    (houtcome : c.outcome = .superseded ↔ hand.superseded = true) :
    Tokens next pending (Function.update hands i none) (completions ++ [c]) displaced := by
  obtain ⟨hbound, hfresh, hnot, hiff⟩ := h.held i hand hi
  constructor
  · exact h.positive
  · intro j other hj
    rcases hands_update hj with ⟨-, hfound⟩ | ⟨hne, hfound⟩
    · cases hfound
    · obtain ⟨hbound', hfresh', hnot', hiff'⟩ := h.held j other hfound
      refine ⟨hbound', fun c' hc' => ?_, hnot', hiff'⟩
      rcases List.mem_append.mp hc' with hc' | hc'
      · exact hfresh' c' hc'
      · rw [List.mem_singleton.mp hc', htoken]
        exact fun heq => hne (h.distinct j i other hand hfound hi heq.symm)
  · apply distinct_update h.distinct
    rintro mine hmine
    cases hmine
  · intro token hp
    obtain ⟨hbound', hfresh', hnot'⟩ := h.waiting token hp
    refine ⟨hbound', fun c' hc' => ?_, hnot'⟩
    rcases List.mem_append.mp hc' with hc' | hc'
    · exact hfresh' c' hc'
    · rw [List.mem_singleton.mp hc', htoken]
      exact fun heq => hnot (heq ▸ hp)
  · rw [List.map_append, List.nodup_append]
    refine ⟨h.once, List.nodup_singleton _, ?_⟩
    intro token hmem token' hmem'
    obtain ⟨c', hc', rfl⟩ := List.mem_map.mp hmem
    rw [List.mem_singleton.mp hmem']
    dsimp only
    rw [htoken]
    exact hfresh c' hc'
  · intro c' hc'
    rcases List.mem_append.mp hc' with hc' | hc'
    · exact h.completed c' hc'
    · rw [List.mem_singleton.mp hc', htoken]
      exact ⟨hbound, houtcome.trans hiff⟩
  · exact h.replaced
  · intro token hpos hlt
    rcases h.accounted token hpos hlt with ⟨c', hc', hsame⟩ | hp | ⟨j, other, hj, hsame⟩
    · exact .inl ⟨c', List.mem_append_left _ hc', hsame⟩
    · exact .inr (.inl hp)
    · by_cases hne : j = i
      · subst hne
        rw [hi] at hj
        cases hj
        exact .inl ⟨c, by simp, htoken.trans hsame⟩
      · exact .inr (.inr ⟨j, other, by rw [Function.update_of_ne hne]; exact hj, hsame⟩)

end Tokens

/-! ### Runs -/

/-- Who has the GUID. A request pends only while the one who has it will look for it. -/
structure Gated (active : Bool) (pending : Option ℕ) (threads : ℕ → Thread) : Prop where
  active : active = true ↔ ∃ i, (threads i).custody.holds = true
  holder : ∀ i j, (threads i).custody.holds = true → (threads j).custody.holds = true → i = j
  drained : pending ≠ none → ∃ i, (threads i).custody.holds = true ∧
    DrainsFirst (threads i).program

namespace DuplexWorld

variable {w : DuplexWorld} {i : ℕ}

def pendingToken (s : SharedState) : Option ℕ := s.pending.map (·.token)

def hands (w : DuplexWorld) (i : ℕ) : Option InHand := (w.threads i).custody.hand

def Allocated (w : DuplexWorld) (token : ℕ) : Prop := 1 ≤ token ∧ token < w.shared.nextClockToken

/-- Every call has returned. -/
def Quiet (w : DuplexWorld) : Prop :=
  ∀ i, ∃ status, (w.threads i).program = .done (.returned status)

/-- Every token is completed at most once, and once all calls have returned exactly once; a token
that is not completed is pending or in the hand of one call; the displaced ones are completed as
superseded and no others are; and no request is pending while no operation has the GUID. -/
structure Served (w : DuplexWorld) : Prop where
  once : (w.completions.map (·.token)).Nodup
  accounted : ∀ token, w.Allocated token → (∃ c ∈ w.completions, c.token = token) ∨
    pendingToken w.shared = some token ∨ ∃ i hand, w.hands i = some hand ∧ hand.token = token
  answered : w.Quiet → ∀ token, w.Allocated token → ∃ c ∈ w.completions, c.token = token
  superseded : ∀ c ∈ w.completions, c.outcome = .superseded ↔ c.token ∈ w.displaced
  released : w.shared.gate.active = false → w.shared.pending = none

/-- No teardown and no erased session; and a request is queued only while the operation that has the
GUID looks for a pending request once more before it releases it. -/
def Allowed (w : DuplexWorld) : DuplexEvent → Prop
  | .call _ => True
  | .run i _ => submits (w.threads i).program = true → w.shared.gate.stopRequested = false →
      ∀ j, (w.threads j).custody.holds = true → DrainsFirst (w.threads j).program
  | .clearSession => False
  | .teardown => False

/-- What every allowed step keeps. -/
structure Orderly (w : DuplexWorld) : Prop where
  follows : ∀ i, Follows custody Custody.End (w.threads i).custody (w.threads i).program
  unborn : ∀ i, w.calls ≤ i → w.threads i = {}
  cancel : w.shared.cancel = false
  tokens : Tokens w.shared.nextClockToken (pendingToken w.shared) w.hands w.completions w.displaced
  gated : Gated w.shared.gate.active (pendingToken w.shared) w.threads

lemma Orderly.no_pending (h : Orderly w) (hactive : w.shared.gate.active = false) :
    w.shared.pending = none := by
  by_contra hpending
  obtain ⟨i, hholds, -⟩ := h.gated.drained (by simpa [pendingToken] using hpending)
  have hset := h.gated.active.mpr ⟨i, hholds⟩
  rw [hactive] at hset
  cases hset

lemma Orderly.quiet_custody (h : Orderly w) (hquiet : w.Quiet) (i : ℕ) :
    (w.threads i).custody = {} := by
  obtain ⟨status, hi⟩ := hquiet i
  have hend := h.follows i
  rw [hi] at hend
  exact hend

lemma Orderly.served (h : Orderly w) : Served w where
  once := h.tokens.once
  accounted token htoken := h.tokens.accounted token htoken.1 htoken.2
  answered hquiet token htoken := by
    rcases h.tokens.accounted token htoken.1 htoken.2 with hdone | hp | ⟨i, hand, hhand, -⟩
    · exact hdone
    · obtain ⟨i, hholds, -⟩ := h.gated.drained (by simp [hp])
      rw [h.quiet_custody hquiet i] at hholds
      cases hholds
    · unfold hands at hhand
      rw [h.quiet_custody hquiet i] at hhand
      cases hhand
  superseded c hc := (h.tokens.completed c hc).2
  released := h.no_pending

/-! ### One step -/

lemma hands_update {t : Thread} : (fun j => (Function.update w.threads i t j).custody.hand) =
    Function.update w.hands i t.custody.hand := by
  funext j
  by_cases hj : j = i
  · simp [hj]
  · simp [hj, hands]

lemma holds_update {t : Thread} (ht : t.custody.holds = (w.threads i).custody.holds) (j : ℕ) :
    (Function.update w.threads i t j).custody.holds = (w.threads j).custody.holds := by
  by_cases hj : j = i
  · rw [hj, Function.update_self, ht]
  · rw [Function.update_of_ne hj]

lemma follows_update (h : Orderly w) {t : Thread}
    (ht : Follows custody Custody.End t.custody t.program) (j : ℕ) :
    Follows custody Custody.End (Function.update w.threads i t j).custody
      (Function.update w.threads i t j).program := by
  by_cases hj : j = i
  · rw [hj, Function.update_self]
    exact ht
  · rw [Function.update_of_ne hj]
    exact h.follows j

lemma unborn_update (h : Orderly w) (hi : i < w.calls) {t : Thread} (j : ℕ) (hj : w.calls ≤ j) :
    Function.update w.threads i t j = {} := by
  rw [Function.update_of_ne (by omega)]
  exact h.unborn j hj

lemma Orderly.follows_act (h : Orderly w) {a : CoordinatorAction} {next : Answer a → Op Next}
    (hi : (w.threads i).program = .act a next) : (w.threads i).custody.Allow a ∧
      ∀ r, Follows custody Custody.End ((w.threads i).custody.next a r) (next r) := by
  have hfollows := h.follows i
  rw [hi] at hfollows
  exact ⟨hfollows.1, fun r => hfollows.2 r _ rfl⟩

lemma Orderly.born (h : Orderly w) {a : CoordinatorAction} {next : Answer a → Op Next}
    (hi : (w.threads i).program = .act a next) : i < w.calls := by
  by_contra hborn
  rw [h.unborn i (not_lt.mp hborn)] at hi
  cases hi

/-- The gate after a thread moved on that keeps the GUID or has not got it. -/
lemma Gated.moves {active : Bool} {pending pending' : Option ℕ} (h : Gated active pending w.threads)
    {t : Thread} (ht : t.custody.holds = (w.threads i).custody.holds)
    (hpending : pending' ≠ none → pending ≠ none)
    (hdrains : pending' ≠ none → DrainsFirst (w.threads i).program → DrainsFirst t.program) :
    Gated active pending' (Function.update w.threads i t) where
  active := by
    simp only [holds_update ht]
    exact h.active
  holder := by
    simp only [holds_update ht]
    exact h.holder
  drained hsome := by
    obtain ⟨j, hholds, hfirst⟩ := h.drained (hpending hsome)
    refine ⟨j, (holds_update ht j).trans hholds, ?_⟩
    by_cases hj : j = i
    · subst hj
      rw [Function.update_self]
      exact hdrains hsome hfirst
    · rw [Function.update_of_ne hj]
      exact hfirst

lemma cancel_perform (s : SharedState) (answers : ∀ a, Answer a) (a : CoordinatorAction) :
    (s.perform answers a).1.cancel = s.cancel := by
  cases a with
  | submitClockRequest desiredClock reason =>
    simp only [SharedState.perform, SharedState.submitClockRequest, SharedState.queuePending]
    split_ifs <;> rfl
  | tryConsumePending =>
    simp only [SharedState.perform, SharedState.tryConsumePending]
    split <;> rfl
  | tryTakeCompleted token =>
    simp only [SharedState.perform, SharedState.tryTakeCompleted]
    split <;> rfl
  | _ => rfl

lemma noTeardown_perform {s : SharedState} (h : s.cancel = false) (answers : ∀ a, Answer a)
    (a : CoordinatorAction) : noTeardown a (s.perform answers a).2 := by
  cases a <;> first | exact h | trivial

/-- The actions that neither put a request anywhere nor take one. -/
def Plain : CoordinatorAction → Prop
  | .submitClockRequest _ _ | .tryConsumePending | .complete _ => False
  | _ => True

lemma perform_plain {s : SharedState} {a : CoordinatorAction} (ha : Plain a)
    (answers : ∀ a, Answer a) : (s.perform answers a).1.pending = s.pending ∧
      (s.perform answers a).1.nextClockToken = s.nextClockToken := by
  cases a with
  | tryTakeCompleted token =>
    simp only [SharedState.perform, SharedState.tryTakeCompleted]
    split <;> exact ⟨rfl, rfl⟩
  | _ => first | exact ha.elim | exact ⟨rfl, rfl⟩

lemma hand_plain {a : CoordinatorAction} (ha : Plain a) (g : Custody) (r : Answer a) :
    (g.next a r).hand = g.hand := by
  cases a with
  | acquire => cases r <;> rfl
  | _ => first | exact ha.elim | rfl

lemma Orderly.tokens_act (h : Orderly w) {a : CoordinatorAction}
    (hallow : (w.threads i).custody.Allow a) (answers : ∀ a, Answer a) :
    Tokens (w.shared.perform answers a).1.nextClockToken
      (pendingToken (w.shared.perform answers a).1)
      (Function.update w.hands i
        ((w.threads i).custody.next a (w.shared.perform answers a).2).hand)
      (w.completionsAfter a) (w.displacedAfter a (w.shared.perform answers a).2) := by
  have htokens := h.tokens
  by_cases ha : Plain a
  · obtain ⟨hpending, htoken⟩ := perform_plain (s := w.shared) ha answers
    have hcompletions : w.completionsAfter a = w.completions := by
      cases a <;> first | exact ha.elim | rfl
    have hdisplaced : w.displacedAfter a (w.shared.perform answers a).2 = w.displaced := by
      cases a <;> first | exact ha.elim | rfl
    rw [hand_plain ha, hcompletions, hdisplaced, htoken, pendingToken, hpending]
    have hsame : Function.update w.hands i (w.threads i).custody.hand = w.hands :=
      Function.update_eq_self i w.hands
    rw [hsame]
    exact htokens
  · cases a with
    | submitClockRequest desiredClock reason =>
      have hempty : w.hands i = none := hallow.2
      have hsame : Function.update w.hands i (w.threads i).custody.hand = w.hands :=
        Function.update_eq_self i w.hands
      dsimp only [SharedState.perform]
      rcases w.shared.submitClockRequest_cases desiredClock reason with
        ⟨-, hs⟩ | ⟨-, -, hs⟩ | ⟨-, -, hs⟩
      · rw [hs]
        simp only [Custody.next, completionsAfter, displacedAfter]
        rw [hsame]
        exact htokens
      · rw [hs]
        simp only [completionsAfter, displacedAfter]
        · have hqueued := htokens.queue hempty
          have hhand : ((w.threads i).custody.next (.submitClockRequest desiredClock reason)
              (.queued w.shared.nextClockToken w.shared.pending)).hand =
              (pendingToken w.shared).map fun token => ⟨token, true⟩ := by
            unfold pendingToken
            cases w.shared.pending with
            | none => exact hempty
            | some p => rfl
          rw [hhand]
          exact hqueued
      · rw [hs]
        exact htokens.launch hempty
    | tryConsumePending =>
      have hempty : w.hands i = none := hallow
      simp only [SharedState.perform, SharedState.tryConsumePending]
      cases hp : w.shared.pending with
      | none =>
        have hsame : Function.update w.hands i (w.threads i).custody.hand = w.hands :=
          Function.update_eq_self i w.hands
        simp only [Custody.next, completionsAfter, displacedAfter]
        rw [hsame]
        exact htokens
      | some request =>
        rw [pendingToken, hp] at htokens
        exact htokens.take hempty
    | complete completion =>
      obtain ⟨superseded, hhand, houtcome⟩ := hallow
      have htoken : completion.token = (⟨completion.token, superseded⟩ : InHand).token := rfl
      exact htokens.complete hhand htoken houtcome
    | _ => exact absurd trivial ha

/-- Thread `i` takes the free GUID. -/
lemma Gated.claims {pending : Option ℕ} (h : Gated false pending w.threads) {t : Thread}
    (ht : t.custody.holds = true) : Gated true none (Function.update w.threads i t) where
  active := iff_of_true rfl ⟨i, by rw [Function.update_self]; exact ht⟩
  holder := by
    have honly j (hj : (Function.update w.threads i t j).custody.holds = true) : j = i := by
      by_contra hne
      rw [Function.update_of_ne hne] at hj
      cases h.active.mpr ⟨j, hj⟩
    intro j k hj hk
    rw [honly j hj, honly k hk]
  drained hnone := absurd rfl hnone

/-- Thread `i`, which has the GUID, releases it. -/
lemma Gated.releases {active : Bool} {pending : Option ℕ} (h : Gated active pending w.threads)
    (hi : (w.threads i).custody.holds = true) {t : Thread} (ht : t.custody.holds = false) :
    Gated false none (Function.update w.threads i t) := by
  have hnobody j : (Function.update w.threads i t j).custody.holds = false := by
    by_cases hj : j = i
    · rw [hj, Function.update_self, ht]
    · rw [Function.update_of_ne hj, Bool.eq_false_iff]
      exact fun hholds => hj (h.holder j i hholds hi)
  constructor
  · simp [hnobody]
  · intro j k hj
    rw [hnobody j] at hj
    cases hj
  · exact fun hnone => absurd rfl hnone

/-- The actions that leave the gate as it is, and do not look for a pending request. -/
def Passing : CoordinatorAction → Prop
  | .acquire | .release | .submitClockRequest _ _ | .tryConsumePending => False
  | _ => True

lemma perform_passing {s : SharedState} {a : CoordinatorAction} (ha : Passing a)
    (answers : ∀ a, Answer a) : (s.perform answers a).1.pending = s.pending ∧
      (s.perform answers a).1.gate.active = s.gate.active ∧ drains a = false ∧
      ∀ g : Custody, (g.next a (s.perform answers a).2).holds = g.holds := by
  cases a with
  | tryTakeCompleted token =>
    simp only [SharedState.perform, SharedState.tryTakeCompleted]
    split <;> exact ⟨rfl, rfl, rfl, fun _ => rfl⟩
  | _ => first | exact ha.elim | exact ⟨rfl, rfl, rfl, fun _ => rfl⟩

/-- The gate after an action, requests aside. -/
lemma Gated.act (h : Gated w.shared.gate.active none w.threads)
    {a : CoordinatorAction} (hallow : (w.threads i).custody.Allow a) (answers : ∀ a, Answer a)
    (p : Op Next) : Gated (w.shared.perform answers a).1.gate.active none
      (Function.update w.threads i
        ⟨p, (w.threads i).custody.next a (w.shared.perform answers a).2⟩) := by
  have hmoves (t : Thread) (ht : t.custody.holds = (w.threads i).custody.holds) :
      Gated w.shared.gate.active none (Function.update w.threads i t) :=
    Gated.moves h ht id fun hsome => absurd rfl hsome
  by_cases ha : Passing a
  · obtain ⟨-, hactive, -, hholds⟩ := perform_passing (s := w.shared) ha answers
    rw [hactive]
    exact hmoves _ (hholds _)
  · cases a with
    | acquire =>
      cases hactive : w.shared.gate.active with
      | true =>
        rw [hactive] at hmoves
        simp only [SharedState.perform, hactive, Bool.not_true]
        exact hmoves _ rfl
      | false =>
        simp only [SharedState.perform, hactive, Bool.not_false]
        exact Gated.claims (hactive ▸ h) rfl
    | release => exact Gated.releases h hallow.1 rfl
    | submitClockRequest desiredClock reason =>
      dsimp only [SharedState.perform]
      rcases w.shared.submitClockRequest_cases desiredClock reason with
        ⟨-, hs⟩ | ⟨-, hactive, hs⟩ | ⟨-, hactive, hs⟩
      · rw [hs]
        exact hmoves _ rfl
      · rw [hs]
        apply hmoves
        cases w.shared.pending <;> rfl
      · rw [hs]
        exact Gated.claims (hactive ▸ h) rfl
    | tryConsumePending =>
      simp only [SharedState.perform, SharedState.tryConsumePending]
      cases hp : w.shared.pending with
      | none => exact hmoves _ rfl
      | some request => exact hmoves _ rfl
    | _ => exact absurd trivial ha

lemma Orderly.gated_act (h : Orderly w) {a : CoordinatorAction} {next : Answer a → Op Next}
    {answers : ∀ a, Answer a} (hi : (w.threads i).program = .act a next)
    (hallowed : w.Allowed (.run i answers)) :
    Gated (w.shared.perform answers a).1.gate.active
      (pendingToken (w.shared.perform answers a).1)
      (Function.update w.threads i ⟨next (w.shared.perform answers a).2,
        (w.threads i).custody.next a (w.shared.perform answers a).2⟩) := by
  have hallow := (h.follows_act hi).1
  have hafter (ha : drains a = false) (hfirst : DrainsFirst (w.threads i).program) :
      DrainsFirst (next (w.shared.perform answers a).2) := by
    rw [hi] at hfirst
    exact First.after hfirst ha (noTeardown_perform h.cancel answers a)
  by_cases ha : Passing a
  · obtain ⟨hpending, hactive, hdrains, hholds⟩ := perform_passing (s := w.shared) ha answers
    rw [hactive, pendingToken, hpending]
    exact Gated.moves h.gated (hholds _) id fun _ => hafter hdrains
  · cases a with
    | acquire =>
      cases hactive : w.shared.gate.active with
      | true =>
        have hgated := h.gated
        rw [hactive] at hgated
        simp only [SharedState.perform, hactive, Bool.not_true] at hafter ⊢
        exact Gated.moves hgated rfl id fun _ => hafter rfl
      | false =>
        have hnone := h.no_pending hactive
        have hpending : pendingToken { w.shared with gate.active := true } = none := by
          simp [pendingToken, hnone]
        simp only [SharedState.perform, hactive, Bool.not_false]
        rw [hpending]
        exact Gated.claims (hactive ▸ h.gated) rfl
    | release =>
      obtain ⟨hholds, -⟩ := hallow
      have hnone : pendingToken w.shared = none := by
        by_contra hsome
        obtain ⟨j, hj, hfirst⟩ := h.gated.drained hsome
        have hji := h.gated.holder j i hj hholds
        subst hji
        rw [hi] at hfirst
        rcases first_act.mp hfirst with hdrains | ⟨hreleases, -⟩
        · cases hdrains
        · cases hreleases
      have hpending : pendingToken { w.shared with gate.active := false } = none := hnone
      simp only [SharedState.perform]
      rw [hpending]
      exact Gated.releases h.gated hholds rfl
    | submitClockRequest desiredClock reason =>
      obtain ⟨hnot, -⟩ := hallow
      dsimp only [SharedState.perform] at hafter ⊢
      rcases w.shared.submitClockRequest_cases desiredClock reason with
        ⟨-, hs⟩ | ⟨hstop, hactive, hs⟩ | ⟨-, hactive, hs⟩
      · rw [hs] at hafter ⊢
        exact Gated.moves h.gated rfl id fun _ => hafter rfl
      · rw [hs]
        obtain ⟨j, hj⟩ := h.gated.active.mp hactive
        have hne : j ≠ i := by
          rintro rfl
          rw [hnot] at hj
          cases hj
        have hkeeps := holds_update (w := w) (i := i)
          (t := ⟨next (.queued w.shared.nextClockToken w.shared.pending),
            (w.threads i).custody.next (.submitClockRequest desiredClock reason)
              (.queued w.shared.nextClockToken w.shared.pending)⟩)
          (by cases w.shared.pending <;> rfl)
        exact {
          active := by
            simp only [hkeeps]
            exact h.gated.active
          holder := by
            simp only [hkeeps]
            exact h.gated.holder
          drained := fun _ => ⟨j, (hkeeps j).trans hj, by
            rw [Function.update_of_ne hne]
            exact hallowed (by rw [hi]; rfl) hstop j hj⟩ }
      · rw [hs]
        have hpending : pendingToken { w.shared with
            nextClockToken := w.shared.nextClockToken + 1, gate.active := true } = none := by
          simp [pendingToken, h.no_pending hactive]
        rw [hpending]
        exact Gated.claims (hactive ▸ h.gated) rfl
    | tryConsumePending =>
      simp only [SharedState.perform, SharedState.tryConsumePending]
      cases hp : w.shared.pending with
      | none =>
        have hnone : pendingToken w.shared = none := by simp [pendingToken, hp]
        exact Gated.moves h.gated rfl id fun hsome => absurd hnone hsome
      | some request =>
        exact Gated.moves h.gated rfl (fun hsome => absurd rfl hsome) fun hsome => absurd rfl hsome
    | _ => exact absurd trivial ha

lemma Orderly.act (h : Orderly w) {a : CoordinatorAction} {next : Answer a → Op Next}
    {answers : ∀ a, Answer a} (hi : (w.threads i).program = .act a next)
    (hallowed : w.Allowed (.run i answers)) : Orderly (w.act i answers a next) where
  follows := follows_update h ((h.follows_act hi).2 _)
  unborn := unborn_update h (h.born hi)
  cancel := (cancel_perform w.shared answers a).trans h.cancel
  tokens := by
    have htokens := h.tokens_act (h.follows_act hi).1 answers
    rw [← hands_update (t := ⟨next (w.shared.perform answers a).2, _⟩)] at htokens
    exact htokens
  gated := h.gated_act hi hallowed

/-! ### The loops drain in every round -/

lemma first_inner {α : Type} {p : Op α} {ended : α → Prop} (hp : Always Inner p)
    (hended : ∀ a, ended a) : First noTeardown drains releases ended p := by
  refine hp.first (fun a ha => ?_) hended
  cases a <;> first | exact ha.elim | rfl

lemma first_completeClockRequest {ended : Unit → Prop} (request : PendingClockRequest)
    (outcome : DuplexClockRequestOutcome) (status : IOReturn) (hended : ended ()) :
    First noTeardown drains releases ended (completeClockRequest request outcome status) :=
  .inr ⟨rfl, fun _ _ => .inr ⟨rfl, fun _ _ => hended⟩⟩

lemma first_abortClockRequests {ended : Unit → Prop} (request : PendingClockRequest) :
    First noTeardown drains releases ended (abortClockRequests request) := by
  unfold abortClockRequests
  rw [first_bind]
  exact first_completeClockRequest _ _ _ (.inl rfl)

lemma drainsFirst_drainRound : DrainsFirst drainRound := .inl rfl

lemma drainsFirst_clockRequestRound (current : PendingClockRequest) (awaited : ℕ) :
    DrainsFirst (clockRequestRound current awaited) := by
  have hend : DrainsFirst (abortClockRequests current >>= fun _ => endClockRequestLoop awaited) := by
    unfold DrainsFirst
    rw [first_bind]
    exact first_abortClockRequests current
  unfold DrainsFirst at hend ⊢
  unfold clockRequestRound
  rw [first_bind]
  apply first_inner inner_stopOrTeardown
  intro stopped
  rw [first_ite]
  refine ⟨fun _ => hend, fun _ => ?_⟩
  rw [first_bind]
  apply first_inner (inner_applyClockRequest current)
  intro status
  rw [first_bind]
  apply first_inner inner_stopOrTeardown
  intro stopped
  rw [first_ite]
  refine ⟨fun _ => hend, fun _ => ?_⟩
  rw [first_bind]
  exact first_completeClockRequest _ _ _ (.inl rfl)

lemma DrainsFirst.round {next : Next} (h : DrainsFirst (.done next)) {p : Op Next}
    (hp : next.program = some p) : DrainsFirst p := by
  cases next with
  | returned status => cases hp
  | drainPending =>
    cases hp
    exact drainsFirst_drainRound
  | clockRequestLoop current awaited =>
    cases hp
    exact drainsFirst_clockRequestRound current awaited

theorem Orderly.step (h : Orderly w) {e : DuplexEvent} (hallowed : w.Allowed e) :
    Orderly (w.step e) := by
  cases e with
  | clearSession => exact hallowed.elim
  | teardown => exact hallowed.elim
  | call call =>
    have hidle := h.unborn w.calls le_rfl
    have hsame : (⟨call.program, {}⟩ : Thread).custody = (w.threads w.calls).custody := by
      rw [hidle]
    constructor
    · exact follows_update h (custody_call call)
    · intro j hj
      have hne : j ≠ w.calls := by
        rintro rfl
        exact absurd hj (by simp [DuplexWorld.step])
      exact (Function.update_of_ne hne _ _).trans (h.unborn j (by
        have hlt : w.calls + 1 ≤ j := hj
        omega))
    · exact h.cancel
    · have htokens := h.tokens
      have hhands : (w.step (.call call)).hands = w.hands := by
        have hupdate := hands_update (w := w) (i := w.calls) (t := ⟨call.program, {}⟩)
        have hsame' : (⟨call.program, {}⟩ : Thread).custody.hand = w.hands w.calls := by
          rw [hsame]
          rfl
        rw [hsame', Function.update_eq_self] at hupdate
        exact hupdate
      rw [← hhands] at htokens
      exact htokens
    · refine Gated.moves h.gated (congrArg Custody.holds hsame) id fun _ hfirst => ?_
      rw [hidle] at hfirst
      cases hfirst
  | run i answers =>
    cases hi : (w.threads i).program with
    | act a next =>
      have hstep : w.step (.run i answers) = w.act i answers a next := by
        simp only [DuplexWorld.step, hi]
      rw [hstep]
      exact h.act hi hallowed
    | done next =>
      cases hp : next.program with
      | none =>
        have hstep : w.step (.run i answers) = w := by
          simp only [DuplexWorld.step, hi, hp]
        rwa [hstep]
      | some p =>
        have hstep : w.step (.run i answers) = { w with
            threads := Function.update w.threads i ⟨p, (w.threads i).custody⟩ } := by
          simp only [DuplexWorld.step, hi, hp]
        rw [hstep]
        have hend := h.follows i
        rw [hi] at hend
        have hborn : i < w.calls := by
          by_contra hborn
          rw [h.unborn i (not_lt.mp hborn)] at hi
          cases hi
          cases hp
        constructor
        · exact follows_update h (custody_next hend hp)
        · exact unborn_update h hborn
        · exact h.cancel
        · have hhands := hands_update (w := w) (i := i) (t := ⟨p, (w.threads i).custody⟩)
          have htokens := h.tokens
          have hsame : Function.update w.hands i (w.threads i).custody.hand = w.hands :=
            Function.update_eq_self i w.hands
          rw [← hsame, ← hhands] at htokens
          exact htokens
        · refine Gated.moves h.gated rfl id fun _ hfirst => ?_
          rw [hi] at hfirst
          exact DrainsFirst.round hfirst hp

lemma orderly_initial : Orderly {} where
  follows _ := rfl
  unborn _ _ := rfl
  cancel := rfl
  tokens := {
    positive := le_rfl
    held := fun _ _ h => by cases h
    distinct := fun _ _ _ _ h => by cases h
    waiting := fun _ h => by cases h
    once := List.nodup_nil
    completed := fun _ h => by cases h
    replaced := fun _ h => by cases h
    accounted := fun token hpos hlt => by
      have hone : (1 : ℕ) ≤ token ∧ token < 1 := ⟨hpos, hlt⟩
      omega }
  gated := {
    active := by simp
    holder := fun _ _ h => by cases h
    drained := fun h => absurd rfl h }

lemma orderly_run {events : List DuplexEvent}
    (hmeets : Runs.Meets step Allowed ({} : DuplexWorld) events) :
    Orderly (Runs.run step {} events) :=
  Runs.invariant_run_of_meets (I := Orderly) (fun _ _ h hallowed => h.step hallowed)
    orderly_initial hmeets

/-- Every clock request gets exactly one completion and none is left behind, in every state of every
run of calls on the GUID in which requests are queued only behind an operation that looks for them
once more. -/
theorem served_run (events : List DuplexEvent)
    (hmeets : Runs.Meets step Allowed ({} : DuplexWorld) events) :
    Served (Runs.run step {} events) :=
  (orderly_run hmeets).served

/-- A start looks for a pending request on every path, so that one may be queued behind it. -/
lemma drainsFirst_runStartStreaming : DrainsFirst runStartStreaming := by
  have hfail (outcome : DuplexClockRequestOutcome) (reported status : IOReturn) :
      DrainsFirst (failPendingClockRequest outcome reported >>= fun _ => endStart status) := .inl rfl
  unfold DrainsFirst at hfail ⊢
  unfold runStartStreaming
  rw [first_perform_bind]
  refine .inr ⟨rfl, fun torn htorn => ?_⟩
  have hnot : torn = false := htorn
  subst hnot
  rw [if_neg Bool.false_ne_true, first_perform_bind]
  refine .inr ⟨rfl, fun record _ => ?_⟩
  cases record with
  | none => exact hfail .failed .notReady .notReady
  | some record =>
    dsimp only
    rw [first_perform_bind]
    refine .inr ⟨rfl, fun session _ => ?_⟩
    rw [first_bind]
    apply first_inner (inner_runDuplexStart ..)
    intro status
    rw [first_ite]
    refine ⟨fun _ => hfail .failed status status, fun _ => ?_⟩
    rw [first_perform_bind]
    refine .inr ⟨rfl, fun stopped _ => ?_⟩
    rw [first_ite]
    exact ⟨fun _ => hfail .abortedByStop .aborted .success, fun _ => rfl⟩

/-- Everything succeeds, but the device is gone. -/
def deviceGone : ∀ a, Answer a
  | .teardownRequested | .acquire | .isStopRequested => false
  | .endpointStartGuard | .isCurrent _ | .irmClient | .bindingSource => true
  | .release | .requestStop | .clearStop | .markRemoteDeviceLost | .acknowledgeDevicePresent
  | .storeSession _ | .complete _ | .illegalTransition _ _ => ()
  | .loadSession _ => {}
  | .getSession _ => none
  | .allocateRestartId => 0
  | .submitClockRequest _ _ => .refused
  | .tryConsumePending => none
  | .tryTakeCompleted _ => none
  | .requireDuplexRecord => none
  | .currentRoute => none
  | .resolveProfile => {}
  | .host _ => .success
  | .device _ => {}

/-- The device is there, and everything succeeds. -/
def deviceThere : ∀ a, Answer a
  | .requireDuplexRecord => some {}
  | .currentRoute => some ⟨1, 1, 1, 1, 2⟩
  | a => deviceGone a

/-- A start has the GUID and a request for 48 kHz is about to be queued behind it. -/
def behindStart : List DuplexEvent :=
  [.call .startStreaming, .run 0 deviceGone, .run 0 deviceGone, .run 0 deviceGone,
   .run 0 deviceGone, .run 0 deviceGone, .call (.requestClockConfig ⟨48000⟩ .sampleRateChange),
   .run 1 deviceGone, .run 1 deviceGone, .run 1 deviceGone]

lemma meets_behindStart : Runs.Meets step Allowed {} behindStart :=
  ⟨trivial, fun h => absurd h (by decide), fun h => absurd h (by decide),
    fun h => absurd h (by decide), fun h => absurd h (by decide), fun h => absurd h (by decide),
    trivial, fun h => absurd h (by decide), fun h => absurd h (by decide),
    fun h => absurd h (by decide), trivial⟩

theorem served_behindStart :
    Served (Runs.run step {} (behindStart ++ [.run 1 deviceGone])) ∧
      pendingToken (Runs.run step {} (behindStart ++ [.run 1 deviceGone])).shared = some 1 := by
  refine ⟨served_run _ (Runs.meets_append.mpr ⟨meets_behindStart, fun _ _ j hj => ?_, trivial⟩),
    by decide⟩
  have horderly := orderly_run meets_behindStart
  have hzero : j = 0 := horderly.gated.holder j 0 hj (by decide)
  subst hzero
  exact drainsFirst_runStartStreaming

/-- A recovery is past its only look at the pending requests when one is queued. It finds no device,
ignores the fault and releases the GUID. -/
theorem not_served_behindRecovery : ¬ Served (Runs.run step {}
    (.call (.recoverStreaming .recoverAfterTimingLoss 0) :: List.replicate 8 (.run 0 deviceGone) ++
      .call (.requestClockConfig ⟨48000⟩ .sampleRateChange) ::
        List.replicate 4 (.run 1 deviceGone) ++ List.replicate 6 (.run 0 deviceGone))) := by
  intro hserved
  have hpending := hserved.released (by decide)
  revert hpending
  decide

end DuplexWorld

end ASFireWire.Duplex
