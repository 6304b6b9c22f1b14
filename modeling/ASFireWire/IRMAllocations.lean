import ASFireWire.IRMClient

/-! What the client's operations leave at the isochronous resource manager, for every interleaving
with the compare-swaps of the other nodes. -/
namespace ASFireWire.IRM

open Runs

/-- The compare-swap does what its job asks for: it clears the channel's bit, which was set, or
sets it; it takes the units, which were there, or gives them back. -/
def Performs (job : Job) (expected desired : UInt32) : Prop :=
  match job with
  | .channel channel true =>
    expected &&& channelToBitMask channel ≠ 0 ∧ desired = expected &&& ~~~channelToBitMask channel
  | .channel channel false => desired = expected ||| channelToBitMask channel
  | .bandwidth units true => units ≤ expected ∧ desired = expected - units
  | .bandwidth units false => desired = expected + units

def Swap.Sound (s : Swap) : Prop := Performs s.job s.expected s.desired

/-- A lock that has been issued is the one its job asks for. -/
def Active.Sound (a : Active) : Prop :=
  ∀ expected desired, a.request = .lock expected desired → Performs a.ctx.job expected desired

def Answer.IsLost : Answer → Prop
  | .lost _ => True
  | _ => False

instance (x : Answer) : Decidable x.IsLost :=
  match x with
  | .lost _ => isTrue trivial
  | .answered | .staleGeneration | .failed => isFalse id

section Verdicts

variable {ctx ctx' : LockState} {request request' : Request} {value expected desired : UInt32}
  {answer : Answer} {status : AllocationStatus}

lemma onRead_issue (h : onRead ctx value = .issue ctx' request') :
    ctx'.job = ctx.job ∧ ctx'.retriesLeft = ctx.retriesLeft ∧
      ctx'.timeoutRetriesLeft = ctx.timeoutRetriesLeft ∧
      ∃ desired, request' = .lock value desired ∧ Performs ctx.job value desired := by
  unfold onRead at h
  cases hjob : ctx.job with
  | channel channel allocate =>
    simp only [hjob, onChannelRead] at h
    cases allocate with
    | true =>
      simp only [if_true] at h
      split at h
      · cases h
      · next hbit =>
        obtain ⟨rfl, rfl⟩ := Verdict.issue.inj h
        exact ⟨hjob, rfl, rfl, _, rfl, hbit, rfl⟩
    | false =>
      simp only [Bool.false_eq_true, if_false] at h
      obtain ⟨rfl, rfl⟩ := Verdict.issue.inj h
      exact ⟨hjob, rfl, rfl, _, rfl, rfl⟩
  | bandwidth units allocate =>
    simp only [hjob, onBandwidthRead] at h
    split at h
    · cases h
    · cases allocate with
      | true =>
        simp only [if_true] at h
        split at h
        · cases h
        · next hunits =>
          obtain ⟨rfl, rfl⟩ := Verdict.issue.inj h
          exact ⟨rfl, rfl, rfl, _, rfl, UInt32.not_lt.mp hunits, rfl⟩
      | false =>
        simp only [Bool.false_eq_true, if_false] at h
        split at h
        · cases h
        · obtain ⟨rfl, rfl⟩ := Verdict.issue.inj h
          exact ⟨rfl, rfl, rfl, _, rfl, rfl⟩

/-- Only a bandwidth release is reported done from a read alone. -/
lemma onRead_report (h : onRead ctx value = .report status)
    (hjob : ∀ units, ctx.job ≠ .bandwidth units false) : status ≠ .success := by
  unfold onRead at h
  cases hctx : ctx.job with
  | channel channel allocate =>
    simp only [hctx, onChannelRead] at h
    split at h
    · split at h
      · cases h
        decide
      · cases h
    · cases h
  | bandwidth units allocate =>
    have hallocate : allocate = true := by
      cases allocate with
      | true => rfl
      | false => exact absurd hctx (hjob units)
    subst hallocate
    simp only [hctx, onBandwidthRead, Bool.true_eq_false, false_and, if_false, if_true] at h
    split at h
    · cases h
      decide
    · cases h

/-- An answered request that issues another keeps its job and spends its budget. -/
lemma verdict_issue (hlost : ¬answer.IsLost)
    (h : verdict ctx request value answer = .issue ctx' request') :
    effective request value answer = none ∧ ctx'.job = ctx.job ∧
      (∀ expected desired, request' = .lock expected desired → Performs ctx.job expected desired) := by
  cases answer with
  | staleGeneration => cases h
  | failed => cases h
  | lost applied => exact absurd trivial hlost
  | answered =>
    cases request with
    | read =>
      obtain ⟨hjob, -, -, desired, rfl, hperforms⟩ := onRead_issue h
      refine ⟨rfl, hjob, fun e d he => ?_⟩
      obtain ⟨rfl, rfl⟩ := Request.lock.inj he
      exact hperforms
    | lock expected desired =>
      simp only [verdict, onCompareSwap] at h
      split at h
      · cases h
      · next hne =>
        split at h
        · cases h
        · obtain ⟨rfl, rfl⟩ := Verdict.issue.inj h
          exact ⟨if_neg (by simp [hne]), rfl, by simp⟩

/-- A lock operation succeeds by the lock that took effect, and by nothing else. -/
lemma verdict_report (hlost : ¬answer.IsLost) (hjob : ∀ units, ctx.job ≠ .bandwidth units false)
    (h : verdict ctx request value answer = .report status) :
    (status = .success → ∃ expected desired, request = .lock expected desired ∧
      effective request value answer = some (expected, desired)) ∧
    (status ≠ .success → effective request value answer = none) := by
  cases answer with
  | staleGeneration =>
    cases h
    cases request <;> simp [effective]
  | failed =>
    cases h
    cases request <;> simp [effective]
  | lost applied => exact absurd trivial hlost
  | answered =>
    cases request with
    | read => exact ⟨fun hs => absurd hs (onRead_report h hjob), fun _ => rfl⟩
    | lock expected desired =>
      simp only [verdict, onCompareSwap] at h
      split at h
      · next heq =>
        cases h
        exact ⟨fun _ => ⟨expected, desired, rfl, by simp [effective, heq]⟩, by simp⟩
      · next hne =>
        split at h
        · cases h
          exact ⟨by simp, fun _ => if_neg (by simp [hne])⟩
        · cases h

end Verdicts

/-! ### Runs with every request answered -/

variable {w : World} {a : Active} {answer : Answer} {status : AllocationStatus}

/-- What the completion of an answered request can do. -/
theorem reply_rule {P : World → Prop} (hlost : ¬answer.IsLost)
    (hjob : ∀ units, a.ctx.job ≠ .bandwidth units false) (hsound : a.Sound)
    (hissue : ∀ a' : Active, a'.ctx.job = a.ctx.job → a'.next = a.next → a'.Sound →
      P { w with active := some a' })
    (hsuccess : ∀ (s : Swap) registers, s.job = a.ctx.job → s.Sound →
      P ({ w with registers := registers, swaps := s :: w.swaps }.callBack a .success))
    (hfail : ∀ status, status ≠ .success → P (w.callBack a status)) : P (w.reply a answer) := by
  unfold World.reply
  cases hv : verdict a.ctx a.request (w.registers a.ctx.job.register) answer with
  | issue ctx request =>
    obtain ⟨heffective, hctx, hperforms⟩ := verdict_issue hlost hv
    have hserve : w.serve a answer = w := by simp only [World.serve, heffective]
    simp only [hserve]
    apply hissue { a with ctx := ctx, request := request } hctx rfl
    intro expected desired hrequest
    rw [hctx]
    exact hperforms expected desired hrequest
  | report status =>
    obtain ⟨hsucceeds, hfails⟩ := verdict_report hlost hjob hv
    by_cases hstatus : status = .success
    · subst hstatus
      obtain ⟨expected, desired, hrequest, heffective⟩ := hsucceeds rfl
      have hserve : w.serve a answer = { w with
          registers := Function.update w.registers a.ctx.job.register desired
          swaps := { job := a.ctx.job, expected := expected, desired := desired } :: w.swaps } := by
        simp only [World.serve, heffective]
      simp only [hserve]
      exact hsuccess _ _ rfl (hsound expected desired hrequest)
    · have hserve : w.serve a answer = w := by simp only [World.serve, hfails hstatus]
      simp only [hserve]
      exact hfail status hstatus

/-- No compare-swap of the client has been lost. -/
def Event.Answered : Event → Prop
  | .reply answer => ¬answer.IsLost
  | .others _ _ => True

instance (e : Event) : Decidable e.Answered :=
  match e with
  | .reply answer => inferInstanceAs (Decidable ¬answer.IsLost)
  | .others _ _ => isTrue trivial

/-- The operation has called back exactly once if it is over, and not at all before. -/
def World.Reports (w : World) (P : AllocationStatus → Prop) : Prop :=
  match w.active with
  | some _ => w.callbacks = []
  | none => ∃ status, w.callbacks = [status] ∧ P status

/-- A single allocation is exact: it succeeds by one compare-swap that did its job, and otherwise
none took effect. -/
def World.Exact (w : World) (job : Job) (status : AllocationStatus) : Prop :=
  (status = .success ↔ ∃ s, w.swaps = [s] ∧ s.job = job ∧ s.Sound) ∧
    (status ≠ .success → w.swaps = [])

/-- The invariant of `AllocateChannel` and `AllocateBandwidth`. -/
def Single (job : Job) (w : World) : Prop :=
  match w.active with
  | some a => a.ctx.job = job ∧ a.next = .report ∧ a.Sound ∧ w.swaps = [] ∧ w.callbacks = []
  | none => ∃ status, w.callbacks = [status] ∧ w.Exact job status

lemma single_step {job : Job} (hjob : ∀ units, job ≠ .bandwidth units false) {e : Event}
    (he : e.Answered) (h : Single job w) : Single job (step w e) := by
  cases e with
  | others register value => exact h
  | reply answer =>
    simp only [step]
    cases hactive : w.active with
    | none => exact h
    | some a =>
      simp only [Single, hactive] at h
      obtain ⟨rfl, hnext, hsound, hswaps, hcallbacks⟩ := h
      apply reply_rule he hjob hsound
      · intro a' hjob' hnext' hsound'
        exact ⟨hjob', hnext'.trans hnext, hsound', hswaps, hcallbacks⟩
      · intro s registers hs hsound'
        simp only [World.callBack, hnext, deliver, World.conclude, Single, World.Exact, hswaps,
          hcallbacks]
        exact ⟨_, rfl, ⟨fun _ => ⟨s, rfl, hs, hsound'⟩, fun _ => rfl⟩, by simp⟩
      · intro status hstatus
        simp only [World.callBack, hnext, deliver, World.conclude, Single, World.Exact, hswaps,
          hcallbacks]
        exact ⟨_, rfl, ⟨fun hs => absurd hs hstatus, by simp⟩, fun _ => trivial⟩

lemma Single.reports {job : Job} (h : Single job w) : w.Reports (w.Exact job) := by
  unfold Single at h
  unfold World.Reports
  split at h
  · exact h.2.2.2.2
  · exact h

/-! ### `AllocateResources` -/

def Took (job : Job) (s : Swap) : Prop := s.job = job ∧ s.Sound

/-- The channel's bit has been given back, or was never taken. -/
def World.Balanced (w : World) (channel : ℕ) : Prop :=
  w.swaps = [] ∨ ∃ s r, w.swaps = [r, s] ∧ Took (.channel channel true) s ∧
    Took (.channel channel false) r

/-- The channel was taken and stays taken, since the rollback reported a failure, or since the
operation ended with the generation. -/
def World.Stranded (w : World) (channel : ℕ) (units : UInt32) (status : AllocationStatus) : Prop :=
  units ≠ 0 ∧ (∃ s, w.swaps = [s] ∧ Took (.channel channel true) s) ∧
    (status = .generationMismatch ∨
      ∃ failure, failure ≠ .success ∧ (Job.channel channel false, failure) ∈ w.completed)

/-- Both resources are taken; no lock is made for no units. -/
def World.Holds (w : World) (channel : ℕ) (units : UInt32) : Prop :=
  ∃ s, Took (.channel channel true) s ∧
    (units = 0 ∧ w.swaps = [s] ∨
      units ≠ 0 ∧ ∃ t, w.swaps = [t, s] ∧ Took (.bandwidth units true) t)

def World.Settled (w : World) (channel : ℕ) (units : UInt32) (status : AllocationStatus) : Prop :=
  if status = .success then w.Holds channel units
  else w.Balanced channel ∨ w.Stranded channel units status

/-- Where `AllocateResources` stands, by the continuation of the lock under way. -/
def ResourcesPhase (channel : ℕ) (units : UInt32) (w : World) (a : Active) : Prop :=
  match a.next with
  | .allocateBandwidth channel' units' =>
    channel' = channel ∧ units' = units ∧ a.ctx.job = .channel channel true ∧ w.swaps = []
  | .rollback channel' =>
    channel' = channel ∧ a.ctx.job = .bandwidth units true ∧ units ≠ 0 ∧
      ∃ s, w.swaps = [s] ∧ Took (.channel channel true) s
  | .rolledBack bandwidthStatus =>
    bandwidthStatus ≠ .success ∧ a.ctx.job = .channel channel false ∧ units ≠ 0 ∧
      ∃ s, w.swaps = [s] ∧ Took (.channel channel true) s
  | _ => False

/-- The invariant of `AllocateResources`. -/
def Resources (channel : ℕ) (units : UInt32) (w : World) : Prop :=
  match w.active with
  | some a => channel < 64 ∧ w.irmNodeId ≠ kNoIRMNode ∧ a.Sound ∧ w.callbacks = [] ∧
      ResourcesPhase channel units w a
  | none => ∃ status, w.callbacks = [status] ∧ w.Settled channel units status

lemma ResourcesPhase.job_ne {channel : ℕ} {units : UInt32} (h : ResourcesPhase channel units w a)
    (units' : UInt32) : a.ctx.job ≠ .bandwidth units' false := by
  unfold ResourcesPhase at h
  split at h
  · simp [h.2.2.1]
  · simp [h.2.1]
  · simp [h.2.1]
  · exact h.elim

lemma ResourcesPhase.of_eq {channel : ℕ} {units : UInt32} {a' : Active}
    (h : ResourcesPhase channel units w a) (hjob : a'.ctx.job = a.ctx.job) (hnext : a'.next = a.next) :
    ResourcesPhase channel units { w with active := some a' } a' := by
  unfold ResourcesPhase at h ⊢
  rw [hnext, hjob]
  exact h

/-- The lock operation under way has ended well. -/
lemma resources_success {channel : ℕ} {units : UInt32} (hchannel : channel < 64)
    (hirm : w.irmNodeId ≠ kNoIRMNode) (hcallbacks : w.callbacks = [])
    (hphase : ResourcesPhase channel units w a) {s : Swap} {registers : Register → UInt32}
    (hs : Took a.ctx.job s) :
    Resources channel units
      ({ w with registers := registers, swaps := s :: w.swaps }.callBack a .success) := by
  unfold ResourcesPhase at hphase
  split at hphase
  · next channel' units' hnext =>
    obtain ⟨rfl, rfl, hjob, hswaps⟩ := hphase
    rw [hjob] at hs
    by_cases hunits : units' = 0
    · simp only [World.callBack, hnext, deliver, afterChannel, bandwidthOperation, hunits,
        afterBandwidth, ne_eq, not_true_eq_false, if_false, if_true, World.conclude, hswaps]
      refine ⟨.success, by rw [hcallbacks], ?_⟩
      exact ⟨s, hs, .inl ⟨rfl, rfl⟩⟩
    · simp only [World.callBack, hnext, deliver, afterChannel, bandwidthOperation, hunits, hirm,
        ne_eq, not_true_eq_false, if_false, World.conclude, hswaps]
      exact ⟨hchannel, hirm, by simp [Active.Sound], hcallbacks, rfl, rfl, hunits, s, rfl, hs⟩
  · next channel' hnext =>
    obtain ⟨rfl, hjob, hunits, t, hswaps, ht⟩ := hphase
    rw [hjob] at hs
    simp only [World.callBack, hnext, deliver, afterBandwidth, if_true, World.conclude, hswaps]
    refine ⟨.success, by rw [hcallbacks], ?_⟩
    exact ⟨t, ht, .inr ⟨hunits, s, rfl, hs⟩⟩
  · next bandwidthStatus hnext =>
    obtain ⟨hb, hjob, hunits, t, hswaps, ht⟩ := hphase
    rw [hjob] at hs
    simp only [World.callBack, hnext, deliver, World.conclude, hswaps]
    refine ⟨bandwidthStatus, by rw [hcallbacks], ?_⟩
    rw [World.Settled, if_neg hb]
    exact .inl (.inr ⟨t, s, rfl, ht, hs⟩)
  · exact hphase.elim

/-- The lock operation under way has failed. -/
lemma resources_fail {channel : ℕ} {units : UInt32} (hchannel : channel < 64)
    (hirm : w.irmNodeId ≠ kNoIRMNode) (hcallbacks : w.callbacks = [])
    (hphase : ResourcesPhase channel units w a) (hstatus : status ≠ .success) :
    Resources channel units (w.callBack a status) := by
  unfold ResourcesPhase at hphase
  split at hphase
  · next channel' units' hnext =>
    obtain ⟨rfl, rfl, hjob, hswaps⟩ := hphase
    simp only [World.callBack, hnext, deliver, afterChannel, ne_eq, hstatus, not_false_eq_true,
      if_true, World.conclude, hcallbacks]
    refine ⟨status, rfl, ?_⟩
    rw [World.Settled, if_neg hstatus]
    exact .inl (.inl hswaps)
  · next channel' hnext =>
    obtain ⟨rfl, hjob, hunits, t, hswaps, ht⟩ := hphase
    by_cases hmismatch : status = .generationMismatch
    · simp only [World.callBack, hnext, deliver, afterBandwidth, hmismatch, if_false, if_true,
        World.conclude, hcallbacks, reduceCtorEq]
      refine ⟨.generationMismatch, rfl, ?_⟩
      rw [World.Settled, if_neg (by decide)]
      exact .inr ⟨hunits, ⟨t, hswaps, ht⟩, .inl rfl⟩
    · simp only [World.callBack, hnext, deliver, afterBandwidth, hstatus, hmismatch, if_false,
        channelOperation, Nat.not_le.mpr hchannel, hirm, World.conclude]
      exact ⟨hchannel, hirm, by simp [Active.Sound], hcallbacks, hstatus, rfl, hunits, t, hswaps, ht⟩
  · next bandwidthStatus hnext =>
    obtain ⟨hb, hjob, hunits, t, hswaps, ht⟩ := hphase
    simp only [World.callBack, hnext, deliver, World.conclude, hjob, hcallbacks]
    refine ⟨bandwidthStatus, rfl, ?_⟩
    rw [World.Settled, if_neg hb]
    exact .inr ⟨hunits, ⟨t, hswaps, ht⟩, .inr ⟨status, hstatus, List.mem_cons_self⟩⟩
  · exact hphase.elim

lemma resources_step {channel : ℕ} {units : UInt32} {e : Event} (he : e.Answered)
    (h : Resources channel units w) : Resources channel units (step w e) := by
  cases e with
  | others register value => exact h
  | reply answer =>
    simp only [step]
    cases hactive : w.active with
    | none => exact h
    | some a =>
      simp only [Resources, hactive] at h
      obtain ⟨hchannel, hirm, hsound, hcallbacks, hphase⟩ := h
      apply reply_rule he hphase.job_ne hsound
      · intro a' hjob' hnext' hsound'
        exact ⟨hchannel, hirm, hsound', hcallbacks, hphase.of_eq hjob' hnext'⟩
      · intro s registers hs hsound'
        exact resources_success hchannel hirm hcallbacks hphase ⟨hs, hsound'⟩
      · intro status hstatus
        exact resources_fail hchannel hirm hcallbacks hphase hstatus

/-- The two ends of the operation exclude each other. -/
lemma World.Settled.iff {channel : ℕ} {units : UInt32} (h : w.Settled channel units status) :
    (status = .success ↔ w.Holds channel units) ∧
      (status ≠ .success → w.Balanced channel ∨ w.Stranded channel units status) := by
  unfold World.Settled at h
  split at h
  · next hstatus => exact ⟨⟨fun _ => h, fun _ => hstatus⟩, fun hne => absurd hstatus hne⟩
  · next hstatus =>
    refine ⟨⟨fun hs => absurd hs hstatus, fun hholds => ?_⟩, fun _ => h⟩
    obtain ⟨s, hs, ⟨hzero, hswaps⟩ | ⟨hunits, t, hswaps, ht⟩⟩ := hholds
    · rcases h with (hnone | ⟨s', r, hpair, -, -⟩) | ⟨hne, -, -⟩
      · simp [hswaps] at hnone
      · simp [hswaps] at hpair
      · exact absurd hzero hne
    · rcases h with (hnone | ⟨s', r, hpair, -, hr⟩) | ⟨-, ⟨s', hone, -⟩, -⟩
      · simp [hswaps] at hnone
      · rw [hswaps] at hpair
        obtain ⟨rfl, -⟩ := List.cons.inj hpair
        exact absurd (ht.1.symm.trans hr.1) (by simp)
      · simp [hswaps] at hone

/-! ### Every operation ends -/

def Request.cost : Request → ℕ
  | .read => 2
  | .lock _ _ => 1

/-- The requests a lock operation can still make, the outstanding one included. -/
def LockState.budget (ctx : LockState) (request : Request) : ℕ :=
  2 * (ctx.retriesLeft + ctx.timeoutRetriesLeft) + request.cost

def RetryPolicy.budget (policy : RetryPolicy) : ℕ :=
  2 * (policy.maxRetries + policy.maxTimeoutRetries) + 2

/-- The lock operations that may follow. -/
def Continuation.locks : Continuation → ℕ
  | .allocateBandwidth _ _ => 2
  | .rollback _ | .releaseChannel _ => 1
  | .report | .rolledBack _ | .releasedChannel _ => 0

def Active.budget (a : Active) : ℕ :=
  a.ctx.budget a.request + a.next.locks * a.policy.budget

def World.budget (w : World) : ℕ := w.active.elim 0 Active.budget

def Event.isReply : Event → Bool
  | .reply _ => true
  | .others _ _ => false

lemma verdict_budget {ctx ctx' : LockState} {request request' : Request} {value : UInt32}
    (h : verdict ctx request value answer = .issue ctx' request') :
    ctx'.budget request' < ctx.budget request := by
  have htimeout {ctx'} (h : onTimeout ctx = .issue ctx' request') :
      ctx'.budget request' < ctx.budget request := by
    unfold onTimeout at h
    split at h
    · cases h
    · obtain ⟨rfl, rfl⟩ := Verdict.issue.inj h
      cases request <;> simp only [LockState.budget, Request.cost] <;> omega
  cases answer with
  | staleGeneration => cases h
  | failed => cases h
  | answered =>
    cases request with
    | read =>
      obtain ⟨-, hretries, htimeouts, desired, rfl, -⟩ := onRead_issue h
      simp only [LockState.budget, Request.cost, hretries, htimeouts]
      omega
    | lock expected desired =>
      simp only [verdict, onCompareSwap] at h
      split at h
      · cases h
      · split at h
        · cases h
        · obtain ⟨rfl, rfl⟩ := Verdict.issue.inj h
          simp only [LockState.budget, Request.cost]
          omega
  | lost applied =>
    cases request with
    | read => exact htimeout h
    | lock expected desired =>
      simp only [verdict, onLockTimeout] at h
      split at h
      · exact htimeout h
      · split at h
        · cases h
        · obtain ⟨rfl, rfl⟩ := Verdict.issue.inj h
          simp only [LockState.budget, Request.cost]
          omega

lemma channelOperation_start {irm channel : ℕ} {allocate : Bool} {next next' : Continuation}
    {callback : AllocationStatus → Outcome} {job : Job}
    (hcallback : ∀ status, callback status ≠ .start job next')
    (h : channelOperation irm channel allocate next callback = .start job next') : next' = next := by
  unfold channelOperation at h
  split at h
  · exact absurd h (hcallback _)
  · split at h
    · exact absurd h (hcallback _)
    · exact (Outcome.start.inj h).2.symm

lemma afterBandwidth_start {irm channel : ℕ} {job : Job} {next' : Continuation}
    (h : afterBandwidth irm channel status = .start job next') : next'.locks = 0 := by
  unfold afterBandwidth at h
  split at h
  · cases h
  · split at h
    · cases h
    · rw [channelOperation_start (by simp) h]
      rfl

lemma deliver_start {irm : ℕ} {next next' : Continuation} {job : Job}
    (h : deliver irm next status = .start job next') : next'.locks < next.locks := by
  cases next with
  | report => cases h
  | rolledBack b => cases h
  | releasedChannel b => cases h
  | allocateBandwidth channel units =>
    simp only [deliver, afterChannel, bandwidthOperation] at h
    split at h
    · cases h
    · split at h
      · exact (afterBandwidth_start h).trans_lt (by simp [Continuation.locks])
      · split at h
        · exact (afterBandwidth_start h).trans_lt (by simp [Continuation.locks])
        · rw [← (Outcome.start.inj h).2]
          simp [Continuation.locks]
  | rollback channel => exact (afterBandwidth_start h).trans_lt (by simp [Continuation.locks])
  | releaseChannel channel =>
    simp only [deliver, afterBandwidthRelease] at h
    split at h
    · cases h
    · rw [channelOperation_start (by simp) h]
      simp [Continuation.locks]

lemma reply_budget (w : World) (a : Active) (answer : Answer) :
    (w.reply a answer).budget < a.budget := by
  have hpos : 0 < a.ctx.budget a.request := by
    unfold LockState.budget
    cases a.request <;> simp [Request.cost]
  unfold World.reply
  split
  · next status hv =>
    unfold World.callBack World.conclude
    split
    · simp only [World.budget, Option.elim, Active.budget]
      omega
    · next job next hstart =>
      have hlocks := deliver_start hstart
      have hcost : next.locks * a.policy.budget + a.policy.budget ≤
          a.next.locks * a.policy.budget := by
        rw [← Nat.succ_mul]
        exact Nat.mul_le_mul_right _ hlocks
      have hread : LockState.budget {
          job := job
          retriesLeft := a.policy.maxRetries
          timeoutRetriesLeft := a.policy.maxTimeoutRetries } .read = a.policy.budget := rfl
      simp only [World.budget, Option.elim, Active.budget, hread]
      omega
  · next ctx request hv =>
    have hctx := verdict_budget hv
    simp only [World.budget, Option.elim, Active.budget]
    omega

lemma step_budget (e : Event) : (step w e).budget ≤ w.budget - if e.isReply then 1 else 0 := by
  cases e with
  | others register value => simp [step, World.budget, Event.isReply]
  | reply answer =>
    simp only [step, Event.isReply, if_true]
    cases hactive : w.active with
    | none => simp [World.budget, hactive]
    | some a =>
      have hreply := reply_budget w a answer
      simp only [World.budget, hactive, Option.elim] at hreply ⊢
      omega

lemma run_budget (events : List Event) :
    (run step w events).budget ≤ w.budget - events.countP Event.isReply := by
  induction events generalizing w with
  | nil => simp
  | cons e events ih =>
    have hstep := step_budget (w := w) e
    have hrun := ih (w := step w e)
    rw [run_cons, List.countP_cons]
    omega

/-- An operation whose budget of requests has been completed has called back. -/
lemma run_ends {events : List Event} (h : w.budget ≤ events.countP Event.isReply) :
    (run step w events).active = none := by
  have hrun := run_budget (w := w) events
  have hzero : (run step w events).budget = 0 := by omega
  unfold World.budget at hzero
  cases hactive : (run step w events).active with
  | none => rfl
  | some a =>
    have hpos : 0 < a.budget := by
      simp only [Active.budget, LockState.budget]
      cases a.request <;> simp [Request.cost]
    rw [hactive] at hzero
    exact absurd hzero hpos.ne'

/-! ### The allocations -/

/-- A client with no operation under way. -/
def idle (registers : Register → UInt32) (irmNodeId : ℕ) : World where
  registers := registers
  irmNodeId := irmNodeId

variable {registers : Register → UInt32} {irmNodeId : ℕ} {policy : RetryPolicy}

lemma single_allocateChannel (channel : ℕ) :
    Single (.channel channel true) ((idle registers irmNodeId).allocateChannel channel policy) := by
  unfold World.allocateChannel channelOperation
  split
  · exact ⟨.failed, rfl, by simp [World.Exact, World.conclude, idle]⟩
  · split
    · exact ⟨.notFound, rfl, by simp [World.Exact, World.conclude, idle]⟩
    · exact ⟨rfl, rfl, by simp [Active.Sound], rfl, rfl⟩

lemma single_allocateBandwidth {units : UInt32} (hunits : units ≠ 0) :
    Single (.bandwidth units true) ((idle registers irmNodeId).allocateBandwidth units policy) := by
  unfold World.allocateBandwidth bandwidthOperation
  rw [if_neg hunits]
  split
  · exact ⟨.notFound, rfl, by simp [World.Exact, World.conclude, idle]⟩
  · exact ⟨rfl, rfl, by simp [Active.Sound], rfl, rfl⟩

lemma run_single {job : Job} (hjob : ∀ units, job ≠ .bandwidth units false) (h : Single job w)
    {events : List Event} (hanswered : ∀ e ∈ events, e.Answered) :
    (run step w events).Reports ((run step w events).Exact job) :=
  (invariant_run_of_meets (C := fun _ e => e.Answered) (fun _ _ h he => single_step hjob he h) h
    (meets_of_forall hanswered)).reports

lemma resources_allocateResources (channel : ℕ) (units : UInt32) : Resources channel units
    ((idle registers irmNodeId).allocateResources channel units policy) := by
  have hrefused (status : AllocationStatus) (hstatus : status ≠ .success) :
      Resources channel units ((idle registers irmNodeId).conclude policy (.report status)) := by
    refine ⟨status, rfl, ?_⟩
    rw [World.Settled, if_neg hstatus]
    exact .inl (.inl rfl)
  unfold World.allocateResources
  by_cases hchannel : 64 ≤ channel
  · rw [if_pos hchannel]
    exact hrefused .failed (by decide)
  · rw [if_neg hchannel]
    by_cases hirm : (idle registers irmNodeId).irmNodeId = kNoIRMNode
    · rw [if_pos hirm]
      exact hrefused .notFound (by decide)
    · simp only [channelOperation, hchannel, hirm, if_false]
      exact ⟨by omega, hirm, by simp [Active.Sound], rfl, rfl, rfl, rfl, rfl⟩

lemma Resources.reports {channel : ℕ} {units : UInt32} (h : Resources channel units w) :
    w.Reports fun status => (status = .success ↔ w.Holds channel units) ∧
      (status ≠ .success → w.Balanced channel ∨ w.Stranded channel units status) := by
  unfold Resources at h
  unfold World.Reports
  split at h
  · exact h.2.2.2.1
  · obtain ⟨status, hcallbacks, hsettled⟩ := h
    exact ⟨status, hcallbacks, hsettled.iff⟩

lemma run_resources {channel : ℕ} {units : UInt32} (h : Resources channel units w)
    {events : List Event} (hanswered : ∀ e ∈ events, e.Answered) :
    (run step w events).Reports fun status =>
      (status = .success ↔ (run step w events).Holds channel units) ∧
      (status ≠ .success → (run step w events).Balanced channel ∨
        (run step w events).Stranded channel units status) := by
  have hrun := invariant_run_of_meets (C := fun (_ : World) (e : Event) => e.Answered)
    (fun _ _ h he => resources_step he h) h (meets_of_forall hanswered)
  exact hrun.reports

/-- Once an operation is over, only the registers move. -/
lemma run_inactive (h : w.active = none) (events : List Event) :
    (run step w events).active = none ∧ (run step w events).swaps = w.swaps ∧
      (run step w events).callbacks = w.callbacks := by
  induction events generalizing w with
  | nil => exact ⟨h, rfl, rfl⟩
  | cons e events ih =>
    cases e with
    | others register value => exact ih h
    | reply answer =>
      have hstep : step w (.reply answer) = w := by simp only [step, h]
      rw [run_cons, hstep]
      exact ih h

lemma start_budget (job : Job) (next : Continuation) :
    ((idle registers irmNodeId).conclude policy (.start job next)).budget =
      (next.locks + 1) * policy.budget := by
  have hbudget : ((idle registers irmNodeId).conclude policy (.start job next)).budget =
      policy.budget + next.locks * policy.budget := rfl
  rw [hbudget]
  ring

lemma allocateChannel_budget (channel : ℕ) :
    ((idle registers irmNodeId).allocateChannel channel policy).budget ≤ policy.budget := by
  unfold World.allocateChannel channelOperation
  split
  · exact Nat.zero_le _
  · split
    · exact Nat.zero_le _
    · rw [start_budget]
      simp [Continuation.locks]

lemma allocateBandwidth_budget (units : UInt32) :
    ((idle registers irmNodeId).allocateBandwidth units policy).budget ≤ policy.budget := by
  unfold World.allocateBandwidth bandwidthOperation
  split
  · exact Nat.zero_le _
  · split
    · exact Nat.zero_le _
    · rw [start_budget]
      simp [Continuation.locks]

lemma allocateResources_budget (channel : ℕ) (units : UInt32) :
    ((idle registers irmNodeId).allocateResources channel units policy).budget ≤
      3 * policy.budget := by
  unfold World.allocateResources channelOperation
  split
  · exact Nat.zero_le _
  · split
    · exact Nat.zero_le _
    · rw [start_budget]
      simp [Continuation.locks]

/-- With every request answered, and whatever the other nodes do: `AllocateChannel` and
`AllocateBandwidth` succeed by exactly one compare-swap, which did its job, and otherwise none
took effect; for no units bandwidth is allocated without a lock. `AllocateResources` succeeds
with both resources taken and otherwise leaves nothing, unless the rollback failed or the
generation ended. Each calls back once, within the requests its retries allow. -/
theorem allocations_exact (registers : Register → UInt32) (irmNodeId : ℕ) (policy : RetryPolicy)
    (events : List Event) (hanswered : ∀ e ∈ events, e.Answered) :
    (∀ channel, let w := run step ((idle registers irmNodeId).allocateChannel channel policy) events
      w.Reports (w.Exact (.channel channel true)) ∧
        (policy.budget ≤ events.countP Event.isReply → w.active = none)) ∧
    (∀ units, let w := run step ((idle registers irmNodeId).allocateBandwidth units policy) events
      (units ≠ 0 → w.Reports (w.Exact (.bandwidth units true))) ∧
        (units = 0 → w.Reports fun status => status = .success ∧ w.swaps = []) ∧
        (policy.budget ≤ events.countP Event.isReply → w.active = none)) ∧
    ∀ channel units,
      let w := run step ((idle registers irmNodeId).allocateResources channel units policy) events
      (w.Reports fun status => (status = .success ↔ w.Holds channel units) ∧
        (status ≠ .success → w.Balanced channel ∨ w.Stranded channel units status)) ∧
        (3 * policy.budget ≤ events.countP Event.isReply → w.active = none) := by
  refine ⟨fun channel => ⟨?_, fun h => ?_⟩,
    fun units => ⟨fun hunits => ?_, fun hunits => ?_, fun h => ?_⟩,
    fun channel units => ⟨?_, fun h => ?_⟩⟩
  · exact run_single (by simp) (single_allocateChannel channel) hanswered
  · exact run_ends ((allocateChannel_budget channel).trans h)
  · exact run_single (by simp) (single_allocateBandwidth hunits) hanswered
  · subst hunits
    obtain ⟨hactive, hswaps, hcallbacks⟩ := run_inactive
      (w := (idle registers irmNodeId).allocateBandwidth 0 policy) rfl events
    simp only [World.Reports, hactive]
    exact ⟨.success, hcallbacks, rfl, hswaps⟩
  · exact run_ends ((allocateBandwidth_budget units).trans h)
  · exact run_resources (resources_allocateResources channel units) hanswered
  · exact run_ends ((allocateResources_budget channel units).trans h)

/-- Registers with every channel and all bandwidth free. -/
def allFree : Register → UInt32
  | .bandwidthAvailable => kMaxBandwidthUnitsS400
  | .channelsAvailable31_0 | .channelsAvailable63_32 => 0xFFFFFFFF

/-- Another node takes bandwidth between the read and the lock; the retry succeeds. -/
theorem allocateResources_contended :
    let events : List Event := [.reply .answered, .reply .answered, .reply .answered,
      .others .bandwidthAvailable 4000, .reply .answered, .reply .answered, .reply .answered]
    let w := run step ((idle allFree 0).allocateResources 5 100 {}) events
    (w.callbacks = [.success] ∧ w.registers .bandwidthAvailable = 3900) ∧
      w.Reports fun status => (status = .success ↔ w.Holds 5 100) ∧
        (status ≠ .success → w.Balanced 5 ∨ w.Stranded 5 100 status) :=
  ⟨by decide +kernel, ((allocations_exact allFree 0 {} _ (by decide)).2.2 5 100).1⟩

/-- The generation ends between the channel and the bandwidth of `AllocateResources`. -/
def staleAllocation : World :=
  run step ((idle allFree 0).allocateResources 5 100 {})
    [.reply .answered, .reply .answered, .reply .staleGeneration]

/-- No units are allocated without a compare-swap, and a channel is not rolled back when the
generation ends before its bandwidth is allocated. -/
theorem noUnits_and_staleGeneration :
    ¬((idle allFree 0).allocateBandwidth 0 {}).Reports
      (((idle allFree 0).allocateBandwidth 0 {}).Exact (.bandwidth 0 true)) ∧
    staleAllocation.callbacks = [.generationMismatch] ∧ ¬staleAllocation.Balanced 5 ∧
      ∀ failure, (Job.channel 5 false, failure) ∉ staleAllocation.completed := by
  refine ⟨?_, by decide +kernel, ?_, ?_⟩
  · rintro ⟨status, hcallbacks, hexact⟩
    cases hcallbacks
    obtain ⟨s, hs, -⟩ := hexact.1.mp rfl
    cases hs
  · rintro (hnone | ⟨s, r, hpair, -⟩)
    · exact absurd (congrArg List.length hnone) (by decide +kernel)
    · have htwo : staleAllocation.swaps.length = 2 := by rw [hpair, List.length_cons,
        List.length_singleton]
      exact absurd htwo (by decide +kernel)
  · intro failure hmem
    have hall : ∀ c ∈ staleAllocation.completed, c.1 ≠ Job.channel 5 false := by decide +kernel
    exact hall _ hmem rfl

/-! ### Releasing bandwidth over lost responses -/

/-- What the compare-swaps add to a register together. -/
def credited (swaps : List Swap) : ℤ :=
  (swaps.map fun s => (s.desired.toNat : ℤ) - s.expected.toNat).sum

/-- A re-read after a lost release lock that was applied finds the value the lock wrote. -/
def Undisturbed (w : World) (e : Event) : Prop :=
  e = .reply .answered → w.swaps ≠ [] → ∀ a ∈ w.active, a.request = .read →
    a.ctx.unansweredDesired = some (w.registers .bandwidthAvailable)

instance (w : World) (e : Event) : Decidable (Undisturbed w e) :=
  inferInstanceAs (Decidable (_ → _ → ∀ _ ∈ w.active, _ → _))

/-- The invariant of `ReleaseBandwidth`: at most one lock has been applied, and while the operation
goes on after it, it remembers what that lock wrote. -/
structure Releasing (units : UInt32) (w : World) : Prop where
  active : ∀ a ∈ w.active, a.ctx.job = .bandwidth units false ∧ a.next = .report ∧ a.Sound
  applied : w.swaps = [] ∨ ∃ s, w.swaps = [s] ∧ s.desired = s.expected + units ∧
    ∀ a ∈ w.active, a.request = .read ∧ a.ctx.unansweredDesired = some s.desired

lemma callBack_report (w : World) (hnext : a.next = .report) (status : AllocationStatus) :
    (w.callBack a status).active = none ∧ (w.callBack a status).swaps = w.swaps := by
  simp only [World.callBack, hnext, deliver, World.conclude, and_self]

lemma serve_cases (w : World) (a : Active) (answer : Answer) : w.serve a answer = w ∧
      effective a.request (w.registers a.ctx.job.register) answer = none ∨
    ∃ expected desired, a.request = .lock expected desired ∧
      effective a.request (w.registers a.ctx.job.register) answer = some (expected, desired) ∧
      (w.serve a answer).swaps = ⟨a.ctx.job, expected, desired⟩ :: w.swaps := by
  unfold World.serve
  cases heffective : effective a.request (w.registers a.ctx.job.register) answer with
  | none => exact .inl ⟨rfl, rfl⟩
  | some pair =>
    obtain ⟨e, d⟩ := pair
    refine .inr ⟨e, d, ?_, rfl, rfl⟩
    unfold effective at heffective
    split at heffective
    · cases heffective
    · next expected desired hrequest =>
      split at heffective
      · cases heffective
        exact hrequest
      · cases heffective

lemma onTimeout_issue {ctx ctx' : LockState} {request' : Request}
    (h : onTimeout ctx = .issue ctx' request') :
    ctx'.job = ctx.job ∧ request' = .read ∧ ctx'.unansweredDesired = ctx.unansweredDesired := by
  unfold onTimeout at h
  split at h
  · cases h
  · obtain ⟨rfl, rfl⟩ := Verdict.issue.inj h
    exact ⟨rfl, rfl, rfl⟩

lemma onLockTimeout_issue {ctx ctx' : LockState} {request' : Request} {units desired : UInt32}
    {allocate : Bool} (hjob : ctx.job = .bandwidth units allocate)
    (h : onLockTimeout ctx desired = .issue ctx' request') :
    ctx'.job = ctx.job ∧ request' = .read ∧ ctx'.unansweredDesired = some desired := by
  simp only [onLockTimeout, hjob] at h
  split at h
  · cases h
  · obtain ⟨rfl, rfl⟩ := Verdict.issue.inj h
    exact ⟨hjob.symm, rfl, rfl⟩

/-- A release that goes on after a lock was applied is about to re-read, and remembers the lock. -/
lemma release_issue {units : UInt32} {ctx' : LockState} {request' : Request}
    (hjob : a.ctx.job = .bandwidth units false) {expected desired : UInt32}
    (heffective : effective a.request (w.registers a.ctx.job.register) answer =
      some (expected, desired))
    (hv : verdict a.ctx a.request (w.registers a.ctx.job.register) answer = .issue ctx' request') :
    request' = .read ∧ ctx'.unansweredDesired = some desired := by
  cases hrequest : a.request with
  | read =>
    rw [hrequest] at heffective
    cases heffective
  | lock e d =>
    rw [hrequest] at heffective hv
    simp only [effective] at heffective
    split at heffective
    · next hcond =>
      obtain ⟨rfl, rfl⟩ := Prod.mk.inj (Option.some.inj heffective)
      rcases hcond.2 with rfl | rfl
      · simp only [verdict, onCompareSwap, hcond.1, if_true] at hv
        cases hv
      · exact (onLockTimeout_issue hjob hv).2
    · cases heffective

lemma release_sound {units : UInt32} {ctx' : LockState} {request' : Request} {value : UInt32}
    (hjob : a.ctx.job = .bandwidth units false)
    (hv : verdict a.ctx a.request value answer = .issue ctx' request') :
    ctx'.job = a.ctx.job ∧
      ∀ expected desired, request' = .lock expected desired → Performs a.ctx.job expected desired := by
  by_cases hlost : answer.IsLost
  · cases answer with
    | lost applied =>
      have hread : ctx'.job = a.ctx.job ∧ request' = .read := by
        cases hrequest : a.request with
        | read =>
          rw [hrequest] at hv
          obtain ⟨h₁, h₂, -⟩ := onTimeout_issue hv
          exact ⟨h₁, h₂⟩
        | lock e d =>
          rw [hrequest] at hv
          obtain ⟨h₁, h₂, -⟩ := onLockTimeout_issue hjob hv
          exact ⟨h₁, h₂⟩
      exact ⟨hread.1, by simp [hread.2]⟩
    | _ => exact hlost.elim
  · exact (verdict_issue hlost hv).2

/-- Going on after the re-read of an applied lock means that the re-read was lost as well. -/
lemma reread_issue {units : UInt32} {ctx' : LockState} {request' : Request} {s : Swap}
    (hjob : a.ctx.job = .bandwidth units false) (hread : a.request = .read)
    (hunanswered : a.ctx.unansweredDesired = some s.desired)
    (hfound : answer = .answered → w.registers .bandwidthAvailable = s.desired)
    (hv : verdict a.ctx a.request (w.registers a.ctx.job.register) answer = .issue ctx' request') :
    request' = .read ∧ ctx'.unansweredDesired = some s.desired := by
  rw [hread] at hv
  cases answer with
  | answered =>
    have hregister : w.registers a.ctx.job.register = s.desired := by
      rw [hjob]
      exact hfound rfl
    simp only [verdict, onRead, hjob, onBandwidthRead] at hv
    rw [hjob] at hregister
    rw [hregister, if_pos ⟨trivial, hunanswered⟩] at hv
    cases hv
  | staleGeneration => cases hv
  | failed => cases hv
  | lost applied =>
    obtain ⟨-, h₂, h₃⟩ := onTimeout_issue hv
    exact ⟨h₂, h₃.trans hunanswered⟩

/-- The locks applied once the outstanding request has been served. -/
lemma release_served {units : UInt32} (hactive : w.active = some a)
    (he : Undisturbed w (.reply answer)) (h : Releasing units w) :
    (w.serve a answer).swaps = [] ∨ ∃ s, (w.serve a answer).swaps = [s] ∧
      s.desired = s.expected + units ∧
      ∀ ctx' request', verdict a.ctx a.request (w.registers a.ctx.job.register) answer =
        .issue ctx' request' → request' = .read ∧ ctx'.unansweredDesired = some s.desired := by
  obtain ⟨hjob, hnext, hsound⟩ := h.active a hactive
  rcases serve_cases w a answer with
    ⟨hsame, -⟩ | ⟨expected, desired, hrequest, heffective, hswaps⟩
  · rw [hsame]
    rcases h.applied with hnone | ⟨s, hs, hdesired, hremembers⟩
    · exact .inl hnone
    · obtain ⟨hread, hunanswered⟩ := hremembers a hactive
      refine .inr ⟨s, hs, hdesired, fun ctx' request' hv => ?_⟩
      refine reread_issue hjob hread hunanswered (fun hanswered => ?_) hv
      have hfound := he (by rw [hanswered]) (by simp [hs]) a hactive hread
      exact Option.some.inj (hfound.symm.trans hunanswered)
  · have hnone : w.swaps = [] := by
      rcases h.applied with hnone | ⟨s, hs, hdesired, hremembers⟩
      · exact hnone
      · exact absurd (hrequest.symm.trans (hremembers a hactive).1) (by simp)
    have hperforms := hsound expected desired hrequest
    rw [hjob] at hperforms
    refine .inr ⟨⟨a.ctx.job, expected, desired⟩, by rw [hswaps, hnone], hperforms,
      fun ctx' request' hv => ?_⟩
    exact release_issue hjob heffective hv

lemma releasing_reply {units : UInt32} (hactive : w.active = some a)
    (he : Undisturbed w (.reply answer)) (h : Releasing units w) :
    Releasing units (w.reply a answer) := by
  obtain ⟨hjob, hnext, hsound⟩ := h.active a hactive
  have hserved := release_served hactive he h
  cases hv : verdict a.ctx a.request (w.registers a.ctx.job.register) answer with
  | report status =>
    obtain ⟨hover, hswaps⟩ := callBack_report (w.serve a answer) hnext status
    simp only [World.reply, hv]
    refine ⟨by simp [hover], ?_⟩
    rw [hover, hswaps]
    rcases hserved with hnone | ⟨s, hs, hdesired, -⟩
    · exact .inl hnone
    · exact .inr ⟨s, hs, hdesired, by simp⟩
  | issue ctx request =>
    obtain ⟨hctx, hperforms⟩ := release_sound hjob hv
    simp only [World.reply, hv]
    refine ⟨fun a' ha' => ?_, ?_⟩
    · obtain rfl := Option.some.inj ha'
      refine ⟨hctx.trans hjob, hnext, fun expected desired hrequest => ?_⟩
      rw [hctx]
      exact hperforms expected desired hrequest
    · rcases hserved with hnone | ⟨s, hs, hdesired, hremembers⟩
      · exact .inl hnone
      · refine .inr ⟨s, hs, hdesired, fun a' ha' => ?_⟩
        obtain rfl := Option.some.inj ha'
        exact hremembers ctx request hv

lemma releasing_step {units : UInt32} {e : Event} (he : Undisturbed w e) (h : Releasing units w) :
    Releasing units (step w e) := by
  cases e with
  | others register value => exact ⟨h.active, h.applied⟩
  | reply answer =>
    cases hactive : w.active with
    | none =>
      simp only [step, hactive]
      exact h
    | some a =>
      simp only [step, hactive]
      exact releasing_reply hactive he h

lemma releasing_start (units : UInt32) :
    Releasing units ((idle registers irmNodeId).releaseBandwidth units policy) := by
  unfold World.releaseBandwidth bandwidthOperation
  split
  · exact ⟨by simp [World.conclude], .inl rfl⟩
  · split
    · exact ⟨by simp [World.conclude], .inl rfl⟩
    · refine ⟨fun a ha => ?_, .inl rfl⟩
      obtain rfl := Option.some.inj ha
      exact ⟨rfl, rfl, by simp [Active.Sound]⟩

lemma Releasing.credited_le {units : UInt32} (h : Releasing units w) :
    credited w.swaps ≤ units.toNat := by
  rcases h.applied with hnone | ⟨s, hs, hdesired, -⟩
  · rw [hnone]
    simp [credited]
  · have hmod : s.desired.toNat ≤ s.expected.toNat + units.toNat := by
      rw [hdesired, UInt32.toNat_add]
      exact Nat.mod_le _ _
    rw [hs]
    simp only [credited, List.map_cons, List.map_nil, List.sum_cons, List.sum_nil]
    omega

/-- In every run in which the re-read after an applied but unanswered release lock finds the value
that lock wrote, `ReleaseBandwidth` adds at most its units to the register. -/
theorem release_credits_once (registers : Register → UInt32) (irmNodeId : ℕ) (policy : RetryPolicy)
    (units : UInt32) (events : List Event)
    (hmeets : Meets step Undisturbed ((idle registers irmNodeId).releaseBandwidth units policy)
      events) :
    credited (run step ((idle registers irmNodeId).releaseBandwidth units policy) events).swaps ≤
      units.toNat :=
  (invariant_run_of_meets (fun _ _ h he => releasing_step he h) (releasing_start units)
    hmeets).credited_le

/-- The response to an applied release is lost, and the re-read finds it applied. -/
theorem lostResponse_credits_once :
    credited (run step ((idle (fun _ => 1000) 0).releaseBandwidth 500 {})
      [.reply .answered, .reply (.lost true), .reply .answered]).swaps ≤ (500 : UInt32).toNat :=
  release_credits_once (fun _ => 1000) 0 {} 500 _ (by decide +kernel)

/-- Another node's allocation before the re-read hides the applied release: it is made twice. -/
theorem disturbed_release_credits_twice :
    ¬credited (run step ((idle (fun _ => 1000) 0).releaseBandwidth 500 {})
      [.reply .answered, .reply (.lost true), .others .bandwidthAvailable 1400, .reply .answered,
        .reply .answered]).swaps ≤ (500 : UInt32).toNat := by
  decide +kernel

end ASFireWire.IRM
