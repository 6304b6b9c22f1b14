import ASFireWire.ATSubmissionRuns
import ASFireWire.AsyncCommand
import ASFireWire.TrackingLabels

/-! What a failed submission leaves behind. Once `RegisterTx` has stored the callback, none of the
later exits of `Submit` takes it out again: the transaction stays in its slot without a deadline
until a cancellation reports it. -/
namespace ASFireWire.Async

namespace Tracking

/-- The label the next `RegisterTx` takes. -/
def NextLabel (s : Tracking) (label : Label) : Prop :=
  s.dropStaleLabels.labelAllocator.allocate.2 = some label ∧ s.transactions label = none

lemma dropStaleLabels_cases (s : Tracking) :
    s.dropStaleLabels = s ∨ (∀ label, s.transactions label = none) ∧
      ∀ label, s.dropStaleLabels.labelAllocator.bitmap label = false := by
  by_cases hstale : (s.count = 0 && s.labelAllocator.hasAnyLabelsInUse) = true
  · refine Or.inr ⟨?_, fun label => ?_⟩
    · rw [Bool.and_eq_true, decide_eq_true_eq] at hstale
      exact count_eq_zero.mp hstale.1
    · rw [Tracking.dropStaleLabels, if_pos hstale]
      rfl
  · exact Or.inl (if_neg hstale)

/-- `RegisterTx` fills the slot of the next label, or leaves bitmap and table as they are. -/
lemma registerTx_spec (s : Tracking) (txMeta : TxMetadata) :
    (∃ label, s.NextLabel label ∧ (s.registerTx txMeta).2 = label.val + 1 ∧
      (s.registerTx txMeta).1.transactions label =
        some (newTransaction label txMeta s.registered)) ∨
    (∀ label, ¬ s.NextLabel label) ∧ (s.registerTx txMeta).2 = 0 ∧
      (s.registerTx txMeta).1.labelAllocator.bitmap = s.labelAllocator.bitmap ∧
      (s.registerTx txMeta).1.transactions = s.transactions := by
  have htable : s.dropStaleLabels.transactions = s.transactions := s.dropStaleLabels_transactions
  have hcount : s.dropStaleLabels.registered = s.registered := by
    unfold dropStaleLabels
    split <;> rfl
  unfold registerTx
  dsimp only
  obtain ⟨label, hfree, halloc⟩ | ⟨hfull, halloc⟩ :=
    s.dropStaleLabels.labelAllocator.allocate_cases
  · rw [halloc]
    dsimp only
    cases hslot : s.transactions label with
    | none =>
      refine Or.inl ⟨label, ⟨by rw [halloc], hslot⟩, ?_, ?_⟩
      · rw [htable, hslot]
      · rw [htable, hslot, hcount]
        simp [setTransaction]
    | some txn =>
      refine Or.inr ⟨fun other hother => ?_, ?_, ?_, ?_⟩
      · obtain ⟨hnext, hempty⟩ := hother
        rw [halloc] at hnext
        obtain rfl : label = other := Option.some.inj hnext
        rw [hslot] at hempty
        cases hempty
      · rw [htable, hslot]
      · have hsame : s.dropStaleLabels = s := by
          rcases s.dropStaleLabels_cases with h | ⟨hnone, -⟩
          · exact h
          · rw [hnone label] at hslot
            cases hslot
        rw [hsame] at hfree ⊢
        rw [hslot]
        simp only [freeLabel, LabelAllocator.free, Function.update_idem]
        rw [← hfree, Function.update_eq_self]
      · rw [htable, hslot]
        simp [freeLabel]
  · refine Or.inr ⟨fun label hlabel => ?_, ?_, ?_, ?_⟩
    · have hnext := hlabel.1
      rw [halloc] at hnext
      cases hnext
    · rw [halloc]
    · have hsame : s.dropStaleLabels = s := by
        rcases s.dropStaleLabels_cases with h | ⟨-, hclear⟩
        · exact h
        · have := hfull 0
          rw [hclear 0] at this
          cases this
      rw [halloc, hsame]
    · rw [halloc]
      exact htable

lemma getLabelFromHandle_next {s : Tracking} {label : Label} {txn : Transaction}
    (h : s.transactions label = some txn) : s.getLabelFromHandle (label.val + 1) = some txn.label := by
  have hslot : labelOfHandle (label.val + 1) = some label := by
    simp [labelOfHandle, slot, label.isLt]
  rw [getLabelFromHandle, hslot, Option.bind_some, h, Option.map_some]

/-- Invocations are never taken back while victims are cancelled. -/
lemma cancelVictims_invoked (cb : Callbacks) (s : Tracking) (labels : List Label) (n : ℕ) :
    s.invoked n ≤ (Runs.run (cancelVictim cb) s labels).invoked n := by
  refine Runs.invariant_run (I := fun s' : Tracking => s.invoked n ≤ s'.invoked n) (fun s' label h => ?_)
    le_rfl labels
  obtain ⟨new, hnew, -⟩ := (oneSlot_cancelVictim cb).reports s' label
  refine h.trans ?_
  rw [invoked, invoked, hnew, List.map_append, List.count_append]
  omega

/-- A cancellation that collects an occupied slot calls the callback of its transaction. -/
lemma Inv.cancelVictims_report {s : Tracking} (h : s.Inv) (cb : Callbacks) {labels : List Label}
    {label : Label} (hmem : label ∈ labels) {identity : ℕ × ℕ × ℕ × ℕ}
    (hkeep : s.Keeps identity label) :
    s.invoked identity.2.2.2 <
      (Runs.run (Tracking.cancelVictim cb) s labels).invoked identity.2.2.2 := by
  induction labels generalizing s with
  | nil => cases hmem
  | cons first labels ih =>
    rw [Runs.run_cons]
    by_cases hfirst : label = first
    · subst hfirst
      obtain ⟨txn, hslot, rfl⟩ := hkeep
      have hopen : isTerminalState txn.state = false := (h.slots label txn hslot).2.1
      have hnow : s.invoked txn.responseHandler <
          (Tracking.cancelVictim cb s label).invoked txn.responseHandler := by
        have hid := txn.transitionTo_identity .cancelled
        simp only [Transaction.identity, Prod.mk.injEq] at hid
        unfold Tracking.cancelVictim
        rw [hslot]
        dsimp only
        rw [hopen, if_neg (by simp), invoked, invoked, freeLabel]
        dsimp only
        rw [(invokeResponseHandler_frame cb _ _ _ _ _).1, record]
        dsimp only
        rw [hid.2.2.2, List.map_append, List.count_append]
        simp [extract, Tracking.setTransaction]
      exact lt_of_lt_of_le hnow (cancelVictims_invoked cb _ labels _)
    · have hrest : label ∈ labels := by simpa [hfirst] using hmem
      have hstep := ih (h.cancelVictim cb first) hrest
        ((oneSlot_cancelVictim cb).keeps s first label identity hfirst hkeep)
      refine lt_of_le_of_lt ?_ hstep
      exact cancelVictims_invoked cb s [first] _

end Tracking

namespace AsyncCommand

/-- The descriptors the command needs once its header has this label. -/
def request (cmd : AsyncCommand) (env : SubmitEnv) (txCtx : TransactionContext) (label : Label) :
    ChainRequest :=
  chainRequest ((cmd.buildHeader (UInt8.ofNat label) txCtx.packetContext).getD [])
    (cmd.preparePayload env.hw)

/-- Nothing behind the registration stands in the command's way. -/
structure Deliverable (cmd : AsyncCommand) (atRequest : ATContext) (env : SubmitEnv)
    (txCtx : TransactionContext) (label : Label) : Prop where
  builder : env.headerBuilder = true
  wellFormed : (cmd.buildHeader (UInt8.ofNat label) txCtx.packetContext).isSome
  room : (buildTransactionChain atRequest.ring (cmd.request env txCtx label)).2.isSome
  context : env.requestContext = true
  accepted : ∀ chain,
    (buildTransactionChain atRequest.ring (cmd.request env txCtx label)).2 = some chain →
    (submitTxChain { atRequest with
        ring := (buildTransactionChain atRequest.ring (cmd.request env txCtx label)).1 }
      ⟨chain, cmd.request env txCtx label⟩ env).2 = .success

/-- The steps behind the registration either all succeed or leave the tracker as they found it. -/
lemma submitRegistered_spec (cmd : AsyncCommand) (s : AsyncSubsystem) (env : SubmitEnv)
    (txCtx : TransactionContext) {label : Label} {txn : Transaction}
    (hslot : s.tracking.transactions label = some txn) (hlabel : txn.label = label.val) :
    cmd.Deliverable s.atRequest env txCtx label ∧
        (cmd.submitRegistered s env txCtx (label.val + 1)).2 = label.val + 1 ∨
      ¬ cmd.Deliverable s.atRequest env txCtx label ∧
        (cmd.submitRegistered s env txCtx (label.val + 1)).2 = 0 ∧
        (cmd.submitRegistered s env txCtx (label.val + 1)).1.tracking = s.tracking := by
  unfold submitRegistered
  rw [Tracking.getLabelFromHandle_next hslot, hlabel]
  dsimp only
  by_cases hbuilder : env.headerBuilder = true
  swap
  · rw [if_pos (by simp [hbuilder])]
    exact Or.inr ⟨fun h => hbuilder h.builder, rfl, rfl⟩
  rw [if_neg (by simp [hbuilder])]
  cases hheader : cmd.buildHeader (UInt8.ofNat label.val) txCtx.packetContext with
  | none =>
    refine Or.inr ⟨fun h => ?_, rfl, rfl⟩
    have hsome := h.wellFormed
    rw [hheader] at hsome
    cases hsome
  | some header =>
  have hreq : cmd.request env txCtx label = chainRequest header (cmd.preparePayload env.hw) := by
    rw [request, hheader, Option.getD_some]
  dsimp only
  rcases hbuild : buildTransactionChain s.atRequest.ring
    (chainRequest header (cmd.preparePayload env.hw)) with ⟨ring, _ | chain⟩
  · refine Or.inr ⟨fun h => ?_, rfl, rfl⟩
    have hsome := h.room
    rw [hreq, hbuild] at hsome
    cases hsome
  dsimp only
  by_cases hcontext : env.requestContext = true
  swap
  · rw [if_pos (by simp [hcontext])]
    exact Or.inr ⟨fun h => hcontext h.context, rfl, rfl⟩
  rw [if_neg (by simp [hcontext])]
  by_cases haccepted : (submitTxChain { s.atRequest with ring := ring }
      ⟨chain, chainRequest header (cmd.preparePayload env.hw)⟩ env).2 = .success
  · refine Or.inl ⟨⟨hbuilder, by rw [hheader]; rfl, by rw [hreq, hbuild]; rfl, hcontext, ?_⟩, ?_⟩
    · intro chain' hchain
      rw [hreq, hbuild] at hchain
      obtain rfl := Option.some.inj hchain
      rw [hreq, hbuild]
      exact haccepted
    · rw [if_neg (not_not.mpr haccepted)]
  · rw [if_pos haccepted]
    refine Or.inr ⟨fun h => ?_, rfl, rfl⟩
    have htaken := h.accepted chain (by rw [hreq, hbuild])
    rw [hreq, hbuild] at htaken
    exact haccepted htaken

/-- What a failed submission may leave: the labels and the table it found, and a callback that no
later event calls. -/
structure NoResidue (s : AsyncSubsystem) (r : Submission) : Prop where
  bitmap : r.subsystem.tracking.labelAllocator.bitmap = s.tracking.labelAllocator.bitmap
  table : r.subsystem.tracking.transactions = s.tracking.transactions
  silent : ∀ n, r.registration = some n → ∀ cb events,
    (Runs.run (Tracking.step cb) r.subsystem.tracking events).invoked n =
      r.subsystem.tracking.invoked n

/-- Every submission that gets as far as a label goes through. -/
def NotAbandoned (cmd : AsyncCommand) (s : AsyncSubsystem) (env : SubmitEnv) : Prop :=
  ∀ txCtx, prepareTransactionContext env = some txCtx →
    ∀ label, s.tracking.NextLabel label → cmd.Deliverable s.atRequest env txCtx label

/-- What a submission does: it never gets to a label, it goes through, or it is abandoned with its
transaction in the table. -/
lemma submit_cases (cmd : AsyncCommand) (s : AsyncSubsystem) (env : SubmitEnv) :
    cmd.NotAbandoned s env ∧ (cmd.submit s env).registration = none ∧
        (cmd.submit s env).subsystem.tracking.labelAllocator.bitmap =
          s.tracking.labelAllocator.bitmap ∧
        (cmd.submit s env).subsystem.tracking.transactions = s.tracking.transactions ∨
      cmd.NotAbandoned s env ∧ (cmd.submit s env).handle ≠ 0 ∨
      ¬ cmd.NotAbandoned s env ∧ (cmd.submit s env).handle = 0 ∧
        (cmd.submit s env).registration = some s.tracking.registered ∧
        ∃ label txMeta, s.tracking.transactions label = none ∧
          (cmd.submit s env).subsystem.tracking = (s.tracking.registerTx txMeta).1 ∧
          (s.tracking.registerTx txMeta).1.transactions label =
            some (Tracking.newTransaction label txMeta s.tracking.registered) := by
  cases hprepare : prepareTransactionContext env with
  | none =>
    have hsubmit : cmd.submit s env = ⟨s, 0, none⟩ := by rw [submit, hprepare]
    have hready : cmd.NotAbandoned s env := by
      intro txCtx htxCtx
      rw [hprepare] at htxCtx
      cases htxCtx
    rw [hsubmit]
    exact Or.inl ⟨hready, rfl, rfl, rfl⟩
  | some txCtx =>
  have honly : cmd.NotAbandoned s env ↔
      ∀ label, s.tracking.NextLabel label → cmd.Deliverable s.atRequest env txCtx label := by
    constructor
    · intro h
      exact h txCtx hprepare
    · intro h txCtx' htxCtx
      rw [hprepare] at htxCtx
      cases htxCtx
      exact h
  obtain ⟨txMeta, hmeta⟩ : ∃ txMeta, normalizeDestination txCtx (cmd.buildMetadata txCtx) = txMeta :=
    ⟨_, rfl⟩
  rcases s.tracking.registerTx_spec txMeta with
    ⟨label, hnext, hhandle, hslot⟩ | ⟨hnone, hhandle, hbitmap, htable⟩
  · obtain ⟨tracking, hpair⟩ : ∃ tracking, s.tracking.registerTx txMeta = (tracking, label.val + 1) :=
      ⟨_, Prod.ext rfl hhandle⟩
    have hsubmit : cmd.submit s env =
        ⟨(cmd.submitRegistered { s with tracking := tracking } env txCtx (label.val + 1)).1,
          (cmd.submitRegistered { s with tracking := tracking } env txCtx (label.val + 1)).2,
          some s.tracking.registered⟩ := by
      rw [submit, hprepare]
      dsimp only
      rw [hmeta, hpair]
      rfl
    have hunique : cmd.NotAbandoned s env ↔ cmd.Deliverable s.atRequest env txCtx label := by
      rw [honly]
      constructor
      · intro h
        exact h label hnext
      · intro h other hother
        obtain rfl : label = other := Option.some.inj (hnext.1.symm.trans hother.1)
        exact h
    rw [hsubmit, hunique]
    rw [hpair] at hslot
    rcases cmd.submitRegistered_spec { s with tracking := tracking } env txCtx hslot rfl with
      ⟨hdone, hresult⟩ | ⟨hstuck, hresult, hsame⟩
    · refine Or.inr (Or.inl ⟨hdone, ?_⟩)
      dsimp only
      rw [hresult]
      omega
    · refine Or.inr (Or.inr ⟨hstuck, hresult, rfl, label, txMeta, hnext.2, ?_, ?_⟩)
      · rw [hpair]
        exact hsame
      · rw [hpair]
        exact hslot
  · obtain ⟨tracking, hpair⟩ : ∃ tracking, s.tracking.registerTx txMeta = (tracking, 0) :=
      ⟨_, Prod.ext rfl hhandle⟩
    have hsubmit : cmd.submit s env = ⟨{ s with tracking := tracking }, 0, none⟩ := by
      rw [submit, hprepare]
      dsimp only
      rw [hmeta, hpair]
      rfl
    rw [hpair] at hbitmap htable
    rw [hsubmit]
    exact Or.inl ⟨honly.mpr fun label hlabel => absurd hlabel (hnone label), rfl, hbitmap, htable⟩

/-- A submission that fails leaves no residue exactly if it does not fail behind its
registration. -/
theorem failed_noResidue_iff (cmd : AsyncCommand) (s : AsyncSubsystem) (env : SubmitEnv) :
    ((cmd.submit s env).handle = 0 → NoResidue s (cmd.submit s env)) ↔ cmd.NotAbandoned s env := by
  rcases cmd.submit_cases s env with ⟨hready, hreg, hbitmap, htable⟩ | ⟨hready, hhandle⟩ |
    ⟨hstuck, hhandle, -, label, txMeta, hempty, htracking, hslot⟩
  · refine ⟨fun _ => hready, fun _ _ => ⟨hbitmap, htable, fun n hn => ?_⟩⟩
    rw [hreg] at hn
    cases hn
  · exact ⟨fun _ => hready, fun _ hzero => absurd hzero hhandle⟩
  · refine ⟨fun h => ?_, fun h => absurd h hstuck⟩
    have htable := congrFun (h hhandle).table label
    rw [htracking, hslot, hempty] at htable
    cases htable

/-- Every abandoned submission is told of: the callback its caller was told had not been accepted
is called by the next cancellation of everything. -/
theorem abandoned_reported {cmd : AsyncCommand} {s : AsyncSubsystem} {env : SubmitEnv}
    (hinv : s.tracking.Inv) (habandoned : ¬ cmd.NotAbandoned s env) (cb : Callbacks) :
    (cmd.submit s env).handle = 0 ∧ ∃ n, (cmd.submit s env).registration = some n ∧
      (cmd.submit s env).subsystem.tracking.invoked n <
        (Tracking.step cb (cmd.submit s env).subsystem.tracking .cancelAllAndFreeLabels).invoked
          n := by
  rcases cmd.submit_cases s env with ⟨hready, -⟩ | ⟨hready, -⟩ |
    ⟨-, hhandle, hreg, label, txMeta, -, htracking, hslot⟩
  · exact absurd hready habandoned
  · exact absurd hready habandoned
  · refine ⟨hhandle, s.tracking.registered, hreg, ?_⟩
    rw [htracking]
    have hcollected : label ∈ (s.tracking.registerTx txMeta).1.collect fun _ => true :=
      Tracking.mem_collect.mpr ⟨_, hslot, rfl⟩
    exact (hinv.registerTx txMeta).cancelVictims_report cb hcollected ⟨_, hslot, rfl⟩

/-- A block read of 64 KiB, one byte more than the length field holds. -/
def oversizedRead : AsyncCommand :=
  .read { destinationID := 1, addressHigh := 0xFFFF, addressLow := 0xF0000400, length := 0x10000 }

def idleSubsystem : AsyncSubsystem where
  atRequest := { ring := ATContext.smallRing }

/-- Node 0 of the local bus in generation 1. -/
def settledBus : SubmitEnv where
  nodeIDRegister := 0x8000FFC0
  generation := 1

/-- The read is refused, but its label and its transaction stay and the next cancellation of
everything calls its callback. -/
theorem not_noResidue_oversizedRead :
    let r := oversizedRead.submit idleSubsystem settledBus
    r.handle = 0 ∧ r.registration = some 0 ∧
      idleSubsystem.tracking.labelAllocator.bitmap 0 = false ∧
      r.subsystem.tracking.labelAllocator.bitmap 0 = true ∧
      idleSubsystem.tracking.transactions 0 = none ∧
      (r.subsystem.tracking.transactions 0).isSome = true ∧
      r.subsystem.tracking.invoked 0 = 0 ∧
      (Runs.run (Tracking.step fun _ => []) r.subsystem.tracking
        [.cancelAllAndFreeLabels]).invoked 0 = 1 ∧
      ¬ NoResidue idleSubsystem r := by
  intro r
  have hbefore : idleSubsystem.tracking.labelAllocator.bitmap 0 = false := by decide
  have hafter : r.subsystem.tracking.labelAllocator.bitmap 0 = true := by decide
  refine ⟨by decide, by decide, hbefore, hafter, by decide, by decide, by decide, by decide,
    fun h => ?_⟩
  have hbitmap := congrFun h.bitmap 0
  rw [hbefore, hafter] at hbitmap
  cases hbitmap

lemma oversizedRead_abandoned : ¬ oversizedRead.NotAbandoned idleSubsystem settledBus := by
  rcases oversizedRead.submit_cases idleSubsystem settledBus with ⟨-, hnone, -⟩ | ⟨-, hhandle⟩ |
    ⟨hstuck, -⟩
  · have hreg : (oversizedRead.submit idleSubsystem settledBus).registration = some 0 := by decide
    rw [hreg] at hnone
    cases hnone
  · exact absurd (by decide) hhandle
  · exact hstuck

theorem abandoned_reported_oversizedRead :
    let r := oversizedRead.submit idleSubsystem settledBus
    r.handle = 0 ∧ ∃ n, r.registration = some n ∧ r.subsystem.tracking.invoked n <
      (Tracking.step (fun _ => []) r.subsystem.tracking .cancelAllAndFreeLabels).invoked n :=
  abandoned_reported Tracking.Inv.initial oversizedRead_abandoned fun _ => []

end AsyncCommand

end ASFireWire.Async
