import ASFireWire.CMPClient

/-! What one step of the connection manager can do, and that it answers every call once. -/
namespace ASFireWire.CMP

open Async (AsyncStatus)
open Discovery (DeviceRouteToken)
open IRM (AllocationStatus)
open Runs

/-! ### What one step can do -/

/-- The device has swapped the register. -/
def Operation.effective (op : Operation) : Bool :=
  match op.request with
  | .compareSwap expected _ => op.reply = some expected
  | _ => false

def Operation.asks (op : Operation) (request : Request) : Operation :=
  { op with request, reply := none, requests := op.requests + 1 }

/-- The request an operation makes after the one that was answered. -/
inductive Operation.Next (op : Operation) : Operation → Prop
  | readPCR (speed : BitVec 32) (hrequest : op.request = .readMPR) :
      op.Next ({ op with speed }.asks .readPCR)
  | connect (current : BitVec 32) (gapCount : ℕ) (hrequest : op.request = .readPCR)
      (hkind : op.kind = .connect) (hfree : PCRBits.isInUse current = false) :
      op.Next (op.asks (.compareSwap current (CMPBus.desiredPCR op current gapCount)))
  | disconnect (current : BitVec 32) (hrequest : op.request = .readPCR)
      (hkind : op.kind = .disconnect) (hp2p : PCRBits.getP2P current = 1)
      (hchannel : PCRBits.getChannel current = op.channel) :
      op.Next (op.asks (.compareSwap current (PCRBits.setP2P current 0)))
  | retry (expected desired : BitVec 32) (hrequest : op.request = .compareSwap expected desired)
      (hlost : op.reply ≠ some expected) (hlt : op.attempt + 1 < kMaxCompareSwapAttempts) :
      op.Next ({ op with attempt := op.attempt + 1 }.asks .readPCR)

/-- What an operation that ends leaves of the lease of its plug. -/
def Operation.leaseAfter (op : Operation) (status : AllocationStatus) : Option Lease → Option Lease
  | none => none
  | some lease =>
    match op.kind with
    | .connect =>
      if lease.channel = op.channel then
        if status = .success then some { lease with state := .connected } else none
      else some lease
    | .disconnect => if status = .success then none else some { lease with state := .connected }

def OperationKind.busy : OperationKind → LeaseState
  | .connect => .connecting
  | .disconnect => .disconnecting

/-- A connection that was made, or was not broken, stays leased. -/
lemma Operation.leaseAfter_busy (op : Operation) (status : AllocationStatus) :
    op.leaseAfter status (some ⟨op.channel, op.kind.busy⟩) =
      if op.kind = .connect ↔ status = .success then some ⟨op.channel, .connected⟩ else none := by
  unfold Operation.leaseAfter
  cases hkind : op.kind with
  | connect => simp
  | disconnect => by_cases hstatus : status = .success <;> simp [hstatus]

/-- A connection begins with the master plug register. -/
def OperationKind.firstRequests : OperationKind → ℕ
  | .connect => 1
  | .disconnect => 0

/-- The requests made so far, by where the operation stands. -/
def Operation.Paced (op : Operation) : Prop :=
  op.attempt < kMaxCompareSwapAttempts ∧
    match op.request with
    | .readMPR => op.kind = .connect ∧ op.attempt = 0 ∧ op.requests = 1
    | .readPCR => op.requests = op.kind.firstRequests + 2 * op.attempt + 1
    | .compareSwap _ _ => op.requests = op.kind.firstRequests + 2 * op.attempt + 2

lemma Operation.Paced.next {op op' : Operation} (h : op.Paced) (hnext : op.Next op') : op'.Paced := by
  obtain ⟨hattempt, hstage⟩ := h
  cases hnext with
  | readPCR speed hrequest =>
    rw [hrequest] at hstage
    obtain ⟨hkind, hzero, hone⟩ := hstage
    refine ⟨hattempt, ?_⟩
    simp [Operation.asks, OperationKind.firstRequests, hkind, hzero, hone]
  | connect current gapCount hrequest hkind hfree =>
    rw [hrequest] at hstage
    exact ⟨hattempt, congrArg (· + 1) hstage⟩
  | disconnect current hrequest hkind hp2p hchannel =>
    rw [hrequest] at hstage
    exact ⟨hattempt, congrArg (· + 1) hstage⟩
  | retry expected desired hrequest hlost hlt =>
    rw [hrequest] at hstage
    refine ⟨hlt, ?_⟩
    simp only [Operation.asks] at hstage ⊢
    omega

lemma Operation.Paced.le {op : Operation} (h : op.Paced) : op.requests ≤ 7 := by
  obtain ⟨hattempt, hstage⟩ := h
  have hbase : op.kind.firstRequests ≤ 1 := by cases op.kind <;> simp [OperationKind.firstRequests]
  unfold kMaxCompareSwapAttempts at hattempt
  cases hrequest : op.request <;> rw [hrequest] at hstage <;> dsimp only at hstage <;> omega

namespace CMPBus

variable {w : CMPBus}

lemma complete_eq (w : CMPBus) (id : ℕ) (op : Operation) (status : AllocationStatus) :
    w.complete id op status =
      { w with
        leases := Function.update w.leases op.key (op.leaseAfter status (w.leases op.key))
        operations := Function.update w.operations id none
        callbacks := (id, status) :: w.callbacks } := by
  unfold complete completeConnect completeDisconnect callback Operation.leaseAfter
  cases hlease : w.leases op.key with
  | none =>
    have hsame : Function.update w.leases op.key none = w.leases := by
      rw [← hlease]
      exact Function.update_eq_self _ _
    cases op.kind with
    | connect => simp only [hsame]
    | disconnect => simp only [hsame]
  | some lease =>
    have hsame : Function.update w.leases op.key (some lease) = w.leases := by
      rw [← hlease]
      exact Function.update_eq_self _ _
    cases op.kind with
    | connect =>
      dsimp only
      by_cases hchannel : lease.channel = op.channel
      · rw [if_pos hchannel, if_pos hchannel]
      · rw [if_neg hchannel, if_neg hchannel, hsame]
    | disconnect => rfl

lemma submit_current {id : ℕ} (op : Operation) (h : w.isCurrent op.key.route = true)
    (request : Request) :
    w.submit id op request =
      { w with operations := Function.update w.operations id (some (op.asks request)) } :=
  if_pos h

/-- A request that completes ends its operation or is followed by the next one. -/
inductive RequestEnds (w : CMPBus) (id : ℕ) (status : AsyncStatus) (sized : Bool) : CMPBus → Prop
  | none (h : w.operations id = none ∨ ∃ op, w.operations id = some op ∧ op.reply = none ∧
      status = .success ∧ sized = true) : RequestEnds w id status sized w
  | ends (op : Operation) (result : AllocationStatus) (h : w.operations id = some op)
      (hsuccess : result = .success → op.effective = true ∧ w.isCurrent op.key.route = true)
      (hfailed : result ≠ .success → op.effective = true → w.isCurrent op.key.route = true →
        ¬ (status = .success ∧ sized = true)) :
      RequestEnds w id status sized (w.complete id op result)
  | next (op op' : Operation) (h : w.operations id = some op) (hnext : op.Next op')
      (hcurrent : w.isCurrent op.key.route = true) :
      RequestEnds w id status sized { w with operations := Function.update w.operations id (some op') }

lemma answer_current {op : Operation} {status : AsyncStatus} {sized : Bool} {value : BitVec 32}
    (h : w.answer op status sized = some value) : w.isCurrent op.key.route = true := by
  unfold answer at h
  split_ifs at h with hcond
  exact hcond.1

lemma requestEnds (w : CMPBus) (id : ℕ) (status : AsyncStatus) (sized : Bool) (gapCount : ℕ) :
    w.RequestEnds id status sized (w.requestDone id status sized gapCount) := by
  unfold requestDone
  cases hop : w.operations id with
  | none => exact .none (Or.inl hop)
  | some op =>
    dsimp only
    by_cases hno : status = .success ∧ sized = true ∧ op.reply = none
    · rw [if_pos hno]
      exact .none (Or.inr ⟨op, hop, hno.2.2, hno.1, hno.2.1⟩)
    · rw [if_neg hno]
      have hfails (result : AllocationStatus) (hne : result ≠ .success)
          (hnot : op.effective = false) :
          w.RequestEnds id status sized (w.complete id op result) :=
        .ends op result hop (fun h => absurd h hne) fun _ h => by
          rw [hnot] at h
          cases h
      cases hrequest : op.request with
      | readMPR =>
        have hnot : op.effective = false := by
          unfold Operation.effective
          rw [hrequest]
        dsimp only
        unfold readMPRDone
        cases hanswer : w.answer op status sized with
        | none => exact hfails _ (by simp) hnot
        | some mpr =>
          dsimp only
          by_cases hcount : (mpr &&& 0x1F).toNat ≤ op.key.plugNum
          · rw [if_pos hcount]
            exact hfails _ (by simp) hnot
          · rw [if_neg hcount]
            generalize (if op.speed < (mpr >>> 30) &&& 0x03 then op.speed
              else (mpr >>> 30) &&& 0x03) = speed
            rw [submit_current { op with speed } (answer_current hanswer)]
            exact .next op _ hop (.readPCR speed hrequest) (answer_current hanswer)
      | readPCR =>
        have hnot : op.effective = false := by
          unfold Operation.effective
          rw [hrequest]
        dsimp only
        unfold readPCRDone
        cases hanswer : w.answer op status sized with
        | none => exact hfails _ (by simp) hnot
        | some current =>
          have hcurrent := answer_current hanswer
          dsimp only
          cases hkind : op.kind with
          | connect =>
            dsimp only
            split_ifs with honline huse
            · exact hfails _ (by simp) hnot
            · exact hfails _ (by simp) hnot
            · rw [submit_current op hcurrent]
              exact .next op _ hop (.connect current gapCount hrequest hkind
                (Bool.eq_false_of_not_eq_true huse)) hcurrent
          | disconnect =>
            dsimp only
            split_ifs with hforeign
            · exact hfails _ (by simp) hnot
            · rw [submit_current op hcurrent]
              rw [not_or, not_or, not_not, not_not] at hforeign
              exact .next op _ hop (.disconnect current hrequest hkind hforeign.1 hforeign.2.1)
                hcurrent
      | compareSwap expected desired =>
        have heffective : op.effective = true ↔ op.reply = some expected := by
          unfold Operation.effective
          rw [hrequest]
          simp
        dsimp only
        unfold compareSwapDone
        by_cases hstale : w.isCurrent op.key.route = false
        · rw [if_pos hstale]
          refine .ends op _ hop (fun h => by cases h) fun _ _ h => ?_
          rw [hstale] at h
          cases h
        · rw [if_neg hstale]
          have hcurrent := Bool.eq_true_of_not_eq_false hstale
          by_cases hstatus : status = .success
          · rw [if_neg (not_not_intro hstatus)]
            cases sized with
            | false =>
              rw [if_pos rfl]
              exact .ends op _ hop (fun h => by cases h) fun _ _ _ h => by simp at h
            | true =>
              rw [if_neg (by simp)]
              by_cases hreply : op.reply = some expected
              · rw [if_pos hreply]
                exact .ends op _ hop (fun _ => ⟨heffective.mpr hreply, hcurrent⟩)
                  fun h => absurd rfl h
              · rw [if_neg hreply]
                split_ifs with hlast
                · refine hfails _ ?_ ?_
                  · cases op.kind <;> simp
                  · exact Bool.eq_false_of_not_eq_true fun h => hreply (heffective.mp h)
                · rw [submit_current { op with attempt := op.attempt + 1 } hcurrent]
                  exact .next op _ hop (.retry expected desired hrequest hreply
                    (Nat.lt_of_not_le hlast)) hcurrent
          · rw [if_pos hstatus]
            refine .ends op _ hop (fun h => ?_) fun _ _ _ h => absurd h.1 hstatus
            exfalso
            cases status <;> simp [mapAsyncStatus] at h hstatus

/-- A call is refused, or it is the only one to hold a lease on its plug. -/
lemma connect_cases (w : CMPBus) (key : LeaseKey) (channel routeSpeed) :
    w.connect key channel routeSpeed = { w with calls := w.calls + 1 }.callback w.calls .failed ∨
      (w.isCurrent key.route = true ∧ channel.toNat ≤ 63 ∧ w.leases key = none ∧
        w.connect key channel routeSpeed =
          { w with
            calls := w.calls + 1
            leases := Function.update w.leases key (some ⟨channel, .connecting⟩)
            operations := Function.update w.operations w.calls (some
              { kind := .connect, key, channel, speed := routeSpeed, request := .readMPR
                requests := 1 }) }) := by
  unfold connect
  dsimp only
  by_cases hrefused : w.isCurrent key.route = false ∨ kMaxPlugNumber < key.plugNum ∨
      63 < channel.toNat ∨ (w.leases key).isSome
  · rw [if_pos hrefused]
    exact Or.inl rfl
  · rw [if_neg hrefused]
    rw [not_or, not_or, not_or] at hrefused
    obtain ⟨hcurrent, -, hchannel, hlease⟩ := hrefused
    have hcurrent := Bool.eq_true_of_not_eq_false hcurrent
    refine Or.inr ⟨hcurrent, Nat.le_of_not_lt hchannel, ?_, if_pos hcurrent⟩
    cases h : w.leases key with
    | none => rfl
    | some lease => simp [h] at hlease

lemma disconnect_cases (w : CMPBus) (key : LeaseKey) :
    w.disconnect key = { w with calls := w.calls + 1 }.callback w.calls .success ∨
      ∃ channel, w.isCurrent key.route = true ∧ w.leases key = some ⟨channel, .connected⟩ ∧
        w.disconnect key =
          { w with
            calls := w.calls + 1
            leases := Function.update w.leases key (some ⟨channel, .disconnecting⟩)
            operations := Function.update w.operations w.calls (some
              { kind := .disconnect, key, channel, request := .readPCR, requests := 1 }) } := by
  unfold disconnect
  dsimp only
  cases hlease : w.leases key with
  | none => exact Or.inl rfl
  | some lease =>
    dsimp only
    by_cases hrefused : w.isCurrent key.route = false ∨ kMaxPlugNumber < key.plugNum ∨
        lease.state ≠ .connected
    · rw [if_pos hrefused]
      exact Or.inl rfl
    · rw [if_neg hrefused]
      rw [not_or, not_or, not_not] at hrefused
      have hcurrent := Bool.eq_true_of_not_eq_false hrefused.1
      obtain ⟨channel, state⟩ := lease
      obtain rfl : state = .connected := hrefused.2.2
      exact Or.inr ⟨channel, hcurrent, rfl, if_pos hcurrent⟩

/-- The device's reply; the register changes if it was what the swap expected. -/
lemma execute_cases (w : CMPBus) (id : ℕ) (mpr : BitVec 32) :
    w.execute id mpr = w ∨
      ∃ op value, w.operations id = some op ∧ op.reply = none ∧
        ((({ op with reply := some value } : Operation).effective = false ∧
          w.execute id mpr = w.withReply id op value) ∨
        ∃ desired, op.request = .compareSwap value desired ∧ w.registers op.key = value ∧
          w.execute id mpr = (w.swapRegister op desired).withReply id op value) := by
  unfold execute
  cases hop : w.operations id with
  | none => exact Or.inl rfl
  | some op =>
    dsimp only
    by_cases hreplied : op.reply.isSome
    · rw [if_pos hreplied]
      exact Or.inl rfl
    · rw [if_neg hreplied]
      have hnone : op.reply = none := Option.not_isSome_iff_eq_none.mp hreplied
      cases hrequest : op.request with
      | readMPR =>
        refine Or.inr ⟨op, mpr, rfl, hnone, Or.inl ⟨?_, rfl⟩⟩
        simp [Operation.effective, hrequest]
      | readPCR =>
        refine Or.inr ⟨op, w.registers op.key, rfl, hnone, Or.inl ⟨?_, rfl⟩⟩
        simp [Operation.effective, hrequest]
      | compareSwap expected desired =>
        dsimp only
        by_cases hmatch : w.registers op.key = expected
        · rw [if_pos hmatch]
          exact Or.inr ⟨op, expected, rfl, hnone, Or.inr ⟨desired, hrequest, hmatch, rfl⟩⟩
        · rw [if_neg hmatch]
          refine Or.inr ⟨op, w.registers op.key, rfl, hnone, Or.inl ⟨?_, rfl⟩⟩
          simp [Operation.effective, hrequest, hmatch]

/-! ### Operations in each other's place -/

lemma update_some_cases {operations : ℕ → Option Operation} {id id' : ℕ} {op op' : Operation}
    (h : Function.update operations id (some op) id' = some op') :
    id' = id ∧ op' = op ∨ id' ≠ id ∧ operations id' = some op' := by
  by_cases heq : id' = id
  · rw [heq, Function.update_self, Option.some.injEq] at h
    exact Or.inl ⟨heq, h.symm⟩
  · rw [Function.update_of_ne heq] at h
    exact Or.inr ⟨heq, h⟩

lemma update_none_cases {operations : ℕ → Option Operation} {id id' : ℕ} {op' : Operation}
    (h : Function.update operations id none id' = some op') :
    id' ≠ id ∧ operations id' = some op' := by
  by_cases heq : id' = id
  · simp [heq] at h
  · rw [Function.update_of_ne heq] at h
    exact ⟨heq, h⟩

/-! ### Every call is answered once -/

/-- A call is answered once its operation is over, and only then. -/
structure Answered (w : CMPBus) : Prop where
  fresh : ∀ id, w.calls ≤ id → w.operations id = none ∧ (w.callbacks.map Prod.fst).count id = 0
  once : ∀ id < w.calls,
    (w.callbacks.map Prod.fst).count id = if w.operations id = none then 1 else 0
  paced : ∀ id op, w.operations id = some op → op.Paced

/-- An operation that goes on does so at its pace. -/
lemma Answered.update (h : w.Answered) {id : ℕ} {op op' : Operation} (hop : w.operations id = some op)
    (hpaced : op'.Paced) : Answered { w with operations := Function.update w.operations id (some op') } where
  fresh id' hle := by
    have hne : id' ≠ id := fun heq => by
      rw [heq] at hle
      rw [(h.fresh id hle).1] at hop
      cases hop
    simp only [Function.update_of_ne hne]
    exact h.fresh id' hle
  once id' hlt := by
    have hold := h.once id' hlt
    by_cases heq : id' = id
    · subst heq
      simpa [hop] using hold
    · simpa [Function.update_of_ne heq] using hold
  paced id' op'' hop' := by
    rcases update_some_cases hop' with ⟨-, rfl⟩ | ⟨-, hbefore⟩
    · exact hpaced
    · exact h.paced id' op'' hbefore

/-- An operation that ends answers its call. -/
lemma Answered.answer (h : w.Answered) {id : ℕ} {op : Operation} (hop : w.operations id = some op)
    (status : AllocationStatus) (leases : LeaseKey → Option Lease) :
    Answered { w with
      leases
      operations := Function.update w.operations id none
      callbacks := (id, status) :: w.callbacks } where
  fresh id' hle := by
    have hne : id' ≠ id := fun heq => by
      rw [heq] at hle
      rw [(h.fresh id hle).1] at hop
      cases hop
    simpa [hne, hne.symm] using h.fresh id' hle
  once id' hlt := by
    have hold := h.once id' hlt
    by_cases heq : id' = id
    · subst heq
      simpa [hop] using hold
    · simpa [heq, Ne.symm heq] using hold
  paced id' op' hop' := h.paced id' op' (update_none_cases hop').2

/-- A call that is refused is answered at once. -/
lemma Answered.refuse (h : w.Answered) (status : AllocationStatus) :
    Answered ({ w with calls := w.calls + 1 }.callback w.calls status) where
  fresh id hle := by
    have hle : w.calls + 1 ≤ id := hle
    have hne : id ≠ w.calls := by omega
    simpa [callback, hne, hne.symm] using h.fresh id (by omega)
  once id hlt := by
    have hlt : id < w.calls + 1 := hlt
    by_cases heq : id = w.calls
    · simpa [callback, heq] using (h.fresh w.calls le_rfl).2
    · simpa [callback, heq, Ne.symm heq] using h.once id (by omega)
  paced id op hop := h.paced id op (update_none_cases hop).2

lemma Answered.begin (h : w.Answered) {op : Operation} (hpaced : op.Paced)
    (leases : LeaseKey → Option Lease) :
    Answered { w with
      calls := w.calls + 1
      leases
      operations := Function.update w.operations w.calls (some op) } where
  fresh id hle := by
    have hle : w.calls + 1 ≤ id := hle
    have hne : id ≠ w.calls := by omega
    simpa [hne] using h.fresh id (by omega)
  once id hlt := by
    have hlt : id < w.calls + 1 := hlt
    by_cases heq : id = w.calls
    · simpa [heq] using (h.fresh w.calls le_rfl).2
    · simpa [heq] using h.once id (by omega)
  paced id op' hop := by
    rcases update_some_cases hop with ⟨-, rfl⟩ | ⟨-, hbefore⟩
    · exact hpaced
    · exact h.paced id op' hbefore

lemma Answered.withReply (h : w.Answered) {id : ℕ} {op : Operation} (hop : w.operations id = some op)
    (value : BitVec 32) : (w.withReply id op value).Answered :=
  h.update hop (h.paced id op hop)

lemma Answered.step (h : w.Answered) (e : Event) : (CMPBus.step w e).Answered := by
  cases e with
  | connect key channel routeSpeed =>
    show (w.connect key channel routeSpeed).Answered
    rcases w.connect_cases key channel routeSpeed with heq | ⟨-, -, -, heq⟩
    · rw [heq]
      exact h.refuse .failed
    · rw [heq]
      refine h.begin ?_ _
      exact ⟨Nat.zero_lt_succ 2, rfl, rfl, rfl⟩
  | disconnect key =>
    show (w.disconnect key).Answered
    rcases w.disconnect_cases key with heq | ⟨channel, -, -, heq⟩
    · rw [heq]
      exact h.refuse .success
    · rw [heq]
      refine h.begin ?_ _
      exact ⟨Nat.zero_lt_succ 2, rfl⟩
  | execute id mpr =>
    show (w.execute id mpr).Answered
    rcases w.execute_cases id mpr with heq | ⟨op, value, hop, -, ⟨-, heq⟩ | ⟨desired, -, -, heq⟩⟩
    · rw [heq]
      exact h
    · rw [heq]
      exact h.withReply hop value
    · rw [heq]
      have hswapped : (w.swapRegister op desired).Answered := ⟨h.fresh, h.once, h.paced⟩
      exact hswapped.withReply hop value
  | requestDone id status sized gapCount =>
    show (w.requestDone id status sized gapCount).Answered
    have hends := w.requestEnds id status sized gapCount
    generalize w.requestDone id status sized gapCount = w' at hends
    cases hends with
    | none => exact h
    | ends op result hop =>
      rw [complete_eq]
      exact h.answer hop result _
    | next op op' hop hnext => exact h.update hop ((h.paced id op hop).next hnext)
  | otherHost key pcr others => exact ⟨h.fresh, h.once, h.paced⟩
  | invalidateRoute route => exact ⟨h.fresh, h.once, h.paced⟩
  | invalidateAllLeasesForBusReset => exact ⟨h.fresh, h.once, h.paced⟩
  | routesChange isCurrent => exact ⟨h.fresh, h.once, h.paced⟩

/-- A client no call was made to yet. -/
structure Fresh (w : CMPBus) : Prop where
  leases : ∀ key, w.leases key = none
  operations : ∀ id, w.operations id = none
  calls : w.calls = 0
  callbacks : w.callbacks = []
  connected : ∀ key, w.connected key = false
  wasCurrent : ∀ route, w.isCurrent route = true → w.wasCurrent route = true

lemma Fresh.answered (h : w.Fresh) (events : List Event) : (run CMPBus.step w events).Answered := by
  refine invariant_run (I := Answered) (fun _ e h => h.step e) ?_ events
  refine ⟨fun id _ => ⟨h.operations id, by simp [h.callbacks]⟩, fun id hlt => ?_, fun id op hop => ?_⟩
  · rw [h.calls] at hlt
    exact absurd hlt (Nat.not_lt_zero id)
  · rw [h.operations id] at hop
    cases hop

/-- In every run each call is answered exactly once, when its operation is over; an operation makes
at most seven requests, and each of them that completes ends it or is followed by another. -/
theorem answered_once (h : w.Fresh) (events : List Event) {id : ℕ}
    (hid : id < (run CMPBus.step w events).calls) :
    ((run CMPBus.step w events).callbacks.map Prod.fst).count id =
        (if (run CMPBus.step w events).operations id = none then 1 else 0) ∧
      ∀ op, (run CMPBus.step w events).operations id = some op → op.requests ≤ 7 ∧
        ∀ status sized gapCount, (status = .success → sized = true → op.reply ≠ none) →
          (run CMPBus.step w (events ++ [.requestDone id status sized gapCount])).operations id =
              none ∨
            ∃ op', (run CMPBus.step w
                (events ++ [.requestDone id status sized gapCount])).operations id = some op' ∧
              op'.requests = op.requests + 1 := by
  have hanswered := h.answered events
  refine ⟨hanswered.once id hid, fun op hop => ⟨(hanswered.paced id op hop).le, ?_⟩⟩
  intro status sized gapCount hreply
  rw [run_append, run_cons, run_nil]
  generalize run CMPBus.step w events = w at *
  show (w.requestDone id status sized gapCount).operations id = none ∨ ∃ op',
    (w.requestDone id status sized gapCount).operations id = some op' ∧ _
  have hends := w.requestEnds id status sized gapCount
  generalize w.requestDone id status sized gapCount = w' at hends
  cases hends with
  | none hnone =>
    rcases hnone with hnone | ⟨op', hop', hnone, hstatus, hsized⟩
    · exact Or.inl hnone
    · rw [hop, Option.some.injEq] at hop'
      exact absurd (hop' ▸ hnone) (hreply hstatus hsized)
  | ends op' result hop' =>
    rw [complete_eq]
    exact Or.inl (Function.update_self _ _ _)
  | next op' op'' hop' hnext =>
    rw [hop, Option.some.injEq] at hop'
    subst hop'
    refine Or.inr ⟨op'', Function.update_self _ _ _, ?_⟩
    cases hnext <;> rfl

def oneDevice : CMPBus where
  isCurrent := fun _ => true
  wasCurrent := fun _ => true
  registers := fun _ => 0x80000000
  others := fun _ => 0

def outputPlug : LeaseKey := ⟨⟨1, 1, 1, 1, 0⟩, .output, 0⟩

def connection : List Event :=
  [.connect outputPlug 5 2, .execute 0 0x80000001, .requestDone 0 .success true 63,
    .execute 0 0, .requestDone 0 .success true 63, .execute 0 0, .requestDone 0 .success true 63]

lemma fresh_oneDevice : oneDevice.Fresh :=
  ⟨fun _ => rfl, fun _ => rfl, rfl, rfl, fun _ => rfl, fun _ _ => rfl⟩

theorem answered_once_oneDevice :
    ((run CMPBus.step oneDevice connection).callbacks.map Prod.fst).count 0 = 1 :=
  (answered_once fresh_oneDevice connection (by decide)).1.trans (if_pos (by decide))

end CMPBus

end ASFireWire.CMP
