import ASFireWire.Tracking

/-! Runs of the transaction tracker. Every registration is accounted for once: its transaction
sits in the table, waits on the workloop after a cancelled handle, or has had its callback. -/
namespace ASFireWire.Async

namespace Tracking

/-- One when the slot holds the transaction of registration `n`. -/
def holds (n : ℕ) (txn : Option Transaction) : ℕ :=
  if txn.map (·.responseHandler) = some n then 1 else 0

/-- Slots that hold the transaction of registration `n`. -/
def held (s : Tracking) (n : ℕ) : ℕ := ∑ label : Label, holds n (s.transactions label)

def waiting (s : Tracking) (n : ℕ) : ℕ := (s.posted.map (·.responseHandler)).count n

def invoked (s : Tracking) (n : ℕ) : ℕ := (s.invocations.map (·.responseHandler)).count n

structure Inv (s : Tracking) : Prop where
  slots : ∀ label txn, s.transactions label = some txn → txn.label = label.val ∧ txn.Open
  waitingOpen : ∀ txn ∈ s.posted, txn.Open
  accounted : ∀ n, s.held n + s.waiting n + s.invoked n = if n < s.registered then 1 else 0

lemma holds_some (n : ℕ) (txn : Transaction) :
    holds n (some txn) = if txn.responseHandler = n then 1 else 0 := by simp [holds]

@[simp] lemma holds_none (n : ℕ) : holds n none = 0 := rfl

lemma held_setTransaction (s : Tracking) (label : Label) (txn : Option Transaction) (n : ℕ) :
    (s.setTransaction label txn).held n + holds n (s.transactions label) =
      s.held n + holds n txn := by
  have hsplit : ∀ f : Label → Option Transaction,
      ∑ l, holds n (f l) = holds n (f label) + ∑ l ∈ Finset.univ.erase label, holds n (f l) :=
    fun f => (Finset.add_sum_erase _ _ (Finset.mem_univ label)).symm
  have hrest : ∑ l ∈ Finset.univ.erase label, holds n (Function.update s.transactions label txn l) =
      ∑ l ∈ Finset.univ.erase label, holds n (s.transactions l) := by
    refine Finset.sum_congr rfl fun l hl => ?_
    rw [Function.update_of_ne (Finset.ne_of_mem_erase hl)]
  unfold held setTransaction
  rw [hsplit s.transactions, hsplit (Function.update s.transactions label txn), hrest,
    Function.update_self]
  omega

lemma held_pos_iff {s : Tracking} {n : ℕ} :
    0 < s.held n ↔ ∃ label txn, s.transactions label = some txn ∧ txn.responseHandler = n := by
  have hpos : ∀ txn : Option Transaction,
      0 < holds n txn ↔ ∃ t, txn = some t ∧ t.responseHandler = n := by
    intro txn
    cases txn with
    | none => simp
    | some t =>
      rw [holds_some]
      split_ifs with ht <;> simp [ht]
  unfold held
  rw [Finset.sum_pos_iff]
  simp only [Finset.mem_univ, true_and, hpos]

/-! ### Registering and posting -/

@[simp] lemma dropStaleLabels_transactions (s : Tracking) :
    s.dropStaleLabels.transactions = s.transactions := by
  unfold dropStaleLabels
  split <;> rfl

/-- What `RegisterTx` does apart from the labels: it fills an empty slot, or changes nothing. -/
lemma registerTx_cases (s : Tracking) (txMeta : TxMetadata) :
    (∃ allocator, (s.registerTx txMeta).1 = { s with labelAllocator := allocator }) ∨
    ∃ allocator label, s.transactions label = none ∧ (s.registerTx txMeta).1 =
      { s.setTransaction label (some (newTransaction label txMeta s.registered)) with
        labelAllocator := allocator, registered := s.registered + 1 } := by
  obtain ⟨stale, hstale⟩ : ∃ allocator, s.dropStaleLabels = { s with labelAllocator := allocator } := by
    unfold dropStaleLabels
    split
    · exact ⟨_, rfl⟩
    · exact ⟨s.labelAllocator, rfl⟩
  unfold registerTx
  rw [hstale]
  dsimp only
  split
  · exact Or.inl ⟨stale, rfl⟩
  · rename_i allocator label halloc
    split
    · exact Or.inl ⟨_, rfl⟩
    · rename_i hnone
      exact Or.inr ⟨allocator, label, hnone, rfl⟩

lemma Inv.congr_allocator {s : Tracking} (h : s.Inv) (allocator : LabelAllocator) :
    Inv { s with labelAllocator := allocator } := ⟨h.slots, h.waitingOpen, h.accounted⟩

lemma newTransaction_open (label : Label) (txMeta : TxMetadata) (n : ℕ) :
    (newTransaction label txMeta n).Open := ⟨rfl, rfl⟩

lemma Inv.registerTx {s : Tracking} (h : s.Inv) (txMeta : TxMetadata) :
    (s.registerTx txMeta).1.Inv := by
  rcases s.registerTx_cases txMeta with ⟨allocator, heq⟩ | ⟨allocator, label, hnone, heq⟩
  · rw [heq]
    exact h.congr_allocator allocator
  rw [heq]
  refine ⟨fun l txn hl => ?_, h.waitingOpen, fun n => ?_⟩
  · rcases eq_or_ne l label with rfl | hne
    · have htxn : newTransaction l txMeta s.registered = txn := by
        simpa [setTransaction] using hl
      rw [← htxn]
      exact ⟨rfl, newTransaction_open l txMeta _⟩
    · exact h.slots l txn (by simpa [setTransaction, hne] using hl)
  · have hheld := s.held_setTransaction label (some (newTransaction label txMeta s.registered)) n
    rw [hnone, holds_none, holds_some] at hheld
    have hacc := h.accounted n
    change (s.setTransaction label _).held n + s.waiting n + s.invoked n =
      if n < s.registered + 1 then 1 else 0
    change _ = s.held n + (if s.registered = n then 1 else 0) at hheld
    split_ifs at hacc hheld ⊢ <;> omega

/-- Changing an occupied slot without changing whose it is. -/
lemma Inv.setTransaction {s : Tracking} (h : s.Inv) {label : Label} {txn txn' : Transaction}
    (hslot : s.transactions label = some txn) (hid : txn'.identity = txn.identity)
    (hopen : txn'.Open) : (s.setTransaction label (some txn')).Inv := by
  simp only [Transaction.identity, Prod.mk.injEq] at hid
  refine ⟨fun l t hl => ?_, h.waitingOpen, fun n => ?_⟩
  · rcases eq_or_ne l label with rfl | hne
    · obtain rfl : txn' = t := by simpa [Tracking.setTransaction] using hl
      exact ⟨hid.1.trans (h.slots l txn hslot).1, hopen⟩
    · exact h.slots l t (by simpa [Tracking.setTransaction, hne] using hl)
  · have hheld := s.held_setTransaction label (some txn') n
    rw [hslot, holds_some, holds_some, hid.2.2.2] at hheld
    rw [Nat.add_right_cancel hheld]
    exact h.accounted n

lemma postedTransaction_identity (txn : Transaction) (deadline : ℕ) :
    (postedTransaction txn deadline).identity = txn.identity := by
  unfold postedTransaction
  dsimp only
  split
  · exact (Transaction.transitionTo_identity _ _).trans
      ((Transaction.transitionTo_identity _ _).trans (Transaction.transitionTo_identity _ _))
  · exact Transaction.transitionTo_identity _ _

lemma postedTransaction_open {txn : Transaction} (h : txn.Open) (deadline : ℕ) :
    (postedTransaction txn deadline).Open := by
  unfold postedTransaction
  dsimp only
  split
  · exact ((h.transitionTo rfl).transitionTo rfl).transitionTo rfl
  · exact h.transitionTo rfl

/-- `OnTxPosted` rewrites at most one occupied slot. -/
lemma onTxPosted_cases (s : Tracking) (handle nowUsec timeoutUsec : ℕ) :
    s.onTxPosted handle nowUsec timeoutUsec = s ∨
    ∃ label txn, s.transactions label = some txn ∧ s.onTxPosted handle nowUsec timeoutUsec =
      s.setTransaction label (some (postedTransaction txn (nowUsec + timeoutUsec))) := by
  unfold onTxPosted
  split
  · exact Or.inl rfl
  · rename_i label _
    split
    · exact Or.inl rfl
    · rename_i txn hslot
      exact Or.inr ⟨label, txn, hslot, rfl⟩

lemma Inv.onTxPosted {s : Tracking} (h : s.Inv) (handle nowUsec timeoutUsec : ℕ) :
    (s.onTxPosted handle nowUsec timeoutUsec).Inv := by
  rcases s.onTxPosted_cases handle nowUsec timeoutUsec with heq | ⟨label, txn, hslot, heq⟩
  · rwa [heq]
  · rw [heq]
    exact h.setTransaction hslot (postedTransaction_identity txn _)
      (postedTransaction_open (h.slots label txn hslot).2 _)

lemma Inv.call {s : Tracking} (h : s.Inv) (c : CallbackCall) : (s.call c).Inv := by
  cases c with
  | registerTx txMeta => exact h.registerTx txMeta
  | onTxPosted handle nowUsec timeoutUsec => exact h.onTxPosted handle nowUsec timeoutUsec

/-! ### Completing a transaction -/

/-- The state in which the callback of an extracted transaction starts. -/
def record (s : Tracking) (txn : Transaction) (kr : IOReturn) (responseCode : ℕ)
    (data : List UInt8) : Tracking :=
  { s with invocations := s.invocations ++ [{
    responseHandler := txn.responseHandler, handle := txn.label + 1, status := kr.asyncStatus
    responseCode := responseCode, payload := data }] }

lemma invokeResponseHandler_eq (cb : Callbacks) (s : Tracking) (txn : Transaction) (kr : IOReturn)
    (responseCode : ℕ) (data : List UInt8) :
    invokeResponseHandler cb s txn kr responseCode data =
      Runs.run call (s.record txn kr responseCode data) (cb txn.responseHandler) := rfl

/-- Leaving the table and being called back go together. -/
lemma Inv.extract_record {s : Tracking} (h : s.Inv) {label : Label} {txn txn' : Transaction}
    (hslot : s.transactions label = some txn) (hid : txn'.identity = txn.identity) (kr : IOReturn)
    (responseCode : ℕ) (data : List UInt8) (allocator : LabelAllocator) :
    Inv ({ s.extract label with labelAllocator := allocator }.record txn' kr responseCode data) := by
  simp only [Transaction.identity, Prod.mk.injEq] at hid
  refine ⟨fun l t hl => ?_, h.waitingOpen, fun n => ?_⟩
  · rcases eq_or_ne l label with rfl | hne
    · simp [record, extract, Tracking.setTransaction] at hl
    · exact h.slots l t (by simpa [record, extract, Tracking.setTransaction, hne] using hl)
  · have hheld := s.held_setTransaction label none n
    rw [hslot, holds_some, holds_none] at hheld
    have hacc := h.accounted n
    have hinv : (record { s.extract label with labelAllocator := allocator } txn' kr responseCode
        data).invoked n = s.invoked n + if txn.responseHandler = n then 1 else 0 := by
      simp [record, invoked, extract, Tracking.setTransaction, hid.2.2.2, List.count_singleton]
    rw [hinv]
    change (s.setTransaction label none).held n + s.waiting n + _ = if n < s.registered then 1 else 0
    omega

lemma Inv.complete {s : Tracking} (h : s.Inv) {label : Label} {txn txn' : Transaction}
    (hslot : s.transactions label = some txn) (hid : txn'.identity = txn.identity)
    (cb : Callbacks) (kr : IOReturn) (responseCode : ℕ) (data : List UInt8) :
    (complete cb s label txn' kr responseCode data).Inv := by
  unfold Tracking.complete
  rw [invokeResponseHandler_eq]
  exact Runs.invariant_run (fun s c hs => hs.call c)
    (h.extract_record hslot hid kr responseCode data _) _

lemma Inv.cancelVictim {s : Tracking} (h : s.Inv) (cb : Callbacks) (label : Label) :
    (cancelVictim cb s label).Inv := by
  unfold Tracking.cancelVictim
  split
  · exact h
  · rename_i txn hslot
    dsimp only
    rw [(h.slots label txn hslot).2.1, if_neg (by simp), invokeResponseHandler_eq]
    refine Inv.congr_allocator (Runs.invariant_run (fun s c hs => hs.call c) ?_ _) _
    exact h.extract_record hslot (txn.transitionTo_identity .cancelled) .aborted 0xFF [] _

/-- A recovery extends the deadline of the transaction and nothing else but its retry count. -/
lemma recovery_cases {txn txn' : Transaction} {clock : ℕ}
    (h : ((handleBusyTimeout txn clock).or (handleATPostedTimeout txn clock)).or
      (handleAwaitingARTimeout txn clock) = some txn') :
    ∃ extension, txn' = extendDeadline txn clock extension := by
  unfold handleBusyTimeout handleATPostedTimeout handleAwaitingARTimeout at h
  split_ifs at h <;> simp only [Option.or_some, Option.or_none, Option.some.injEq,
    reduceCtorEq] at h <;> exact ⟨_, h.symm⟩

lemma Inv.onTimeout {s : Tracking} (h : s.Inv) (cb : Callbacks) (clock : Label → ℕ)
    (label : Label) : (onTimeout cb clock s label).Inv := by
  unfold Tracking.onTimeout
  split
  · exact h
  · rename_i txn hslot
    split
    · rename_i txn' hrec
      obtain ⟨extension, rfl⟩ := recovery_cases hrec
      exact h.setTransaction hslot rfl (h.slots label txn hslot).2
    · exact h.complete hslot (txn.transitionTo_identity .timedOut) cb .timeout 0xFF []

/-! ### AT completions and AR responses -/

lemma awaitAR_identity (txn : Transaction) : (awaitAR txn).identity = txn.identity := by
  simp [awaitAR]

lemma awaitAR_open {txn : Transaction} (h : txn.Open) : (awaitAR txn).Open :=
  (h.transitionTo rfl).transitionTo rfl

lemma finalTransitions_identity (txn : Transaction) (action : ATPostAction) :
    (finalTransitions txn action).identity = txn.identity := by
  cases action <;> simp [finalTransitions]

/-- What an AT completion may report about a transaction. -/
def ATJustified (comp : TxCompletion) (txn : Transaction) : AsyncStatus → Prop
  | .success => txn.completionStrategy = .completeOnPHY ∨
      (normalizeAckFromEvent comp.eventCode comp.ackCode = 0x0 ∧ txn.isReadOperation = false ∧
        txn.completionStrategy ≠ .completeOnAR)
  | .timeout => comp.eventCode = 0x0A ∨ comp.eventCode = 0x03
  | .aborted => comp.eventCode = 0x0F
  | .hardwareError => normalizeAckFromEvent comp.eventCode comp.ackCode = 0xD ∨
      normalizeAckFromEvent comp.eventCode comp.ackCode = 0xE
  | _ => False

/-- The outcome of an AT completion for an open transaction: it stays, open and under the same
identity, or it is to be completed with a status its event and ack code justify. -/
structure ATOutcome (comp : TxCompletion) (txn : Transaction) (r : Transaction × ATPostAction) :
    Prop where
  identity : r.1.identity = txn.identity
  stays : r.2 = .none → r.1.Open
  justified : r.2 ≠ .none → ATJustified comp txn r.2.postKr.asyncStatus

lemma atOutcome_awaitAR {comp : TxCompletion} {txn txn' : Transaction}
    (hid : txn'.identity = txn.identity) (h : txn'.Open) :
    ATOutcome comp txn (awaitAR txn', .none) :=
  ⟨(awaitAR_identity txn').trans hid, fun _ => awaitAR_open h, fun hne => absurd rfl hne⟩

lemma handleAckCompletion_outcome {rawComp comp : TxCompletion} {txn txn' : Transaction}
    (hack : comp.ackCode = normalizeAckFromEvent rawComp.eventCode rawComp.ackCode)
    (hid : txn'.identity = txn.identity) (h : txn'.Open) (hcode : txn'.tCode = txn.tCode)
    (hstrategy : txn'.completionStrategy = txn.completionStrategy) (clock : ℕ) :
    ATOutcome rawComp txn (handleAckCompletion txn' comp clock) := by
  unfold handleAckCompletion
  dsimp only
  split
  · exact atOutcome_awaitAR hid h
  · rename_i hzero
    split_ifs with hneeds
    · exact atOutcome_awaitAR hid h
    · rw [Bool.or_eq_true, not_or] at hneeds
      have hread : txn.isReadOperation = false := by
        have := hneeds.1
        unfold Transaction.isReadOperation at this ⊢
        rw [hcode] at this
        simpa using this
      have har : txn.completionStrategy ≠ .completeOnAR := by
        have := hneeds.2
        rw [hstrategy] at this
        simpa using this
      simp only [Transaction.tryMarkCompleted, h.2, Bool.not_false]
      exact ⟨hid, by simp, fun _ => Or.inr ⟨hack ▸ hzero, hread, har⟩⟩
  · exact ⟨(txn'.transitionTo_identity _).trans hid, fun _ => h.transitionTo rfl,
      fun hne => absurd rfl hne⟩
  · exact ⟨(txn'.transitionTo_identity _).trans hid, fun _ => h.transitionTo rfl,
      fun hne => absurd rfl hne⟩
  · exact ⟨(txn'.transitionTo_identity _).trans hid, fun _ => h.transitionTo rfl,
      fun hne => absurd rfl hne⟩
  · exact atOutcome_awaitAR hid h
  · exact atOutcome_awaitAR hid h
  · exact atOutcome_awaitAR hid h
  · rename_i hd
    exact ⟨hid, by simp, fun _ => Or.inl (hack ▸ hd)⟩
  · rename_i he
    exact ⟨hid, by simp, fun _ => Or.inr (hack ▸ he)⟩
  · exact atOutcome_awaitAR hid h

lemma handleHardwareEventCompletion_outcome {rawComp comp : TxCompletion} {txn txn' : Transaction}
    (hevent : comp.eventCode = rawComp.eventCode) (hid : txn'.identity = txn.identity)
    (h : txn'.Open) {r : Transaction × ATPostAction}
    (hr : handleHardwareEventCompletion txn' comp = some r) : ATOutcome rawComp txn r := by
  unfold handleHardwareEventCompletion at hr
  rw [hevent] at hr
  split_ifs at hr with htimeout hpending hflushed <;> obtain rfl := Option.some.inj hr
  · exact atOutcome_awaitAR hid h
  · exact ⟨hid, by simp, fun _ => htimeout⟩
  · exact ⟨hid, by simp, fun _ => hflushed⟩

lemma atCompletion_outcome (rawComp comp : TxCompletion) {txn : Transaction} (h : txn.Open)
    (hevent : comp.eventCode = rawComp.eventCode)
    (hack : comp.ackCode = normalizeAckFromEvent rawComp.eventCode rawComp.ackCode) (clock : ℕ) :
    ATOutcome rawComp txn (atCompletion txn comp clock) := by
  unfold atCompletion
  rw [h.1, if_neg (by simp)]
  dsimp only
  have hopen : Transaction.Open { txn with ackCode := comp.ackCode } := h
  have hid : Transaction.identity { txn with ackCode := comp.ackCode } = txn.identity := rfl
  split_ifs with hphy hskip hlegacy
  · exact ⟨rfl, by simp, fun _ => Or.inl hphy⟩
  · exact ⟨rfl, fun _ => hopen, by simp⟩
  · exact atOutcome_awaitAR hid hopen
  · cases hhw : handleHardwareEventCompletion { txn with ackCode := comp.ackCode } comp with
    | some r =>
      rw [Option.getD_some]
      exact handleHardwareEventCompletion_outcome hevent hid hopen hhw
    | none =>
      rw [Option.getD_none]
      exact handleAckCompletion_outcome hack hid hopen rfl rfl clock

/-- What `OnATCompletion` does: nothing, an update of the slot, or a completion. -/
lemma onTxCompletion_cases {s : Tracking} (h : s.Inv) (cb : Callbacks) (comp : TxCompletion)
    (clock : ℕ) :
    onTxCompletion cb s comp clock = s ∨
    ∃ label txn txn', s.transactions label = some txn ∧ txn'.identity = txn.identity ∧
      (txn'.Open ∧ onTxCompletion cb s comp clock = s.setTransaction label (some txn') ∨
        ∃ kr, comp.isResponseContext = false ∧ comp.tLabel = label.val ∧
          ATJustified comp txn kr.asyncStatus ∧
          onTxCompletion cb s comp clock = complete cb s label txn' kr 0xFF []) := by
  unfold onTxCompletion
  dsimp only
  split_ifs with hresponse
  · exact Or.inl rfl
  split
  · exact Or.inl rfl
  rename_i label hlabel
  have hval : comp.tLabel = label.val := by
    unfold slot at hlabel
    split at hlabel
    · rw [← Option.some.inj hlabel]
    · cases hlabel
  split
  · exact Or.inl rfl
  rename_i txn hslot
  obtain ⟨hid, hstays, hjust⟩ := atCompletion_outcome comp
    { comp with ackCode := normalizeAckFromEvent comp.eventCode comp.ackCode }
    (h.slots label txn hslot).2 rfl rfl clock
  generalize atCompletion txn
    { comp with ackCode := normalizeAckFromEvent comp.eventCode comp.ackCode } clock = r at *
  refine Or.inr ⟨label, txn, ?_⟩
  unfold finalizeATPostAction
  split_ifs with hnone
  · exact ⟨r.1, hslot, hid, Or.inl ⟨hstays hnone, rfl⟩⟩
  · have hself : (s.setTransaction label (some r.1)).transactions label = some r.1 := by
      simp [setTransaction]
    refine ⟨finalTransitions r.1 r.2, hslot, (finalTransitions_identity r.1 r.2).trans hid,
      Or.inr ⟨r.2.postKr, by simpa using hresponse, hval, hjust hnone, ?_⟩⟩
    rw [hself]
    simp [complete, extract, setTransaction, freeLabel]

/-- A response is dropped, or completes the open transaction it matches. -/
lemma onRxResponse_cases {s : Tracking} (h : s.Inv) (cb : Callbacks) (response : RxResponse) :
    onRxResponse cb s response = s ∨
    ∃ label txn txn', s.transactions label = some txn ∧ txn'.identity = txn.identity ∧
      response.tLabel = label.val ∧ txn.generation = response.generation ∧
      txn.nodeID % 64 = response.sourceNodeID % 64 ∧
      onRxResponse cb s response = complete cb s label txn'
        (if response.rCode = 0 then .success else .error) response.rCode response.payload := by
  unfold onRxResponse
  split
  · exact Or.inl rfl
  rename_i label txn hfind
  unfold findByMatchKey at hfind
  split at hfind
  · cases hfind
  rename_i slotLabel hslotLabel
  split at hfind
  · cases hfind
  rename_i txn' hslot
  split_ifs at hfind with hgen hnode
  obtain ⟨rfl, rfl⟩ := Prod.mk.inj (Option.some.inj hfind)
  have hopen := (h.slots slotLabel txn' hslot).2
  have hval : response.tLabel = slotLabel.val := by
    unfold slot at hslotLabel
    split at hslotLabel
    · rw [← Option.some.inj hslotLabel]
    · cases hslotLabel
  have hmask : txn'.nodeID % 64 = response.sourceNodeID % 64 := by
    have heqv : nodeIDsEquivalent txn'.nodeID response.sourceNodeID = true := by simpa using hnode
    rcases (Bool.or_eq_true _ _).mp heqv with heq | heq
    · rw [decide_eq_true_eq] at heq
      rw [heq]
    · exact of_decide_eq_true heq
  rw [hopen.1, if_neg (by simp)]
  simp only [Transaction.tryMarkCompleted, hopen.2, Bool.not_false]
  refine Or.inr ⟨slotLabel, txn', _, hslot, ?_, hval, by simpa using hgen, hmask, rfl⟩
  unfold receivedTransitions
  dsimp only
  split_ifs
  · exact Transaction.transitionTo_identity _ _
  · exact (Transaction.transitionTo_identity _ _).trans (Transaction.transitionTo_identity _ _)

/-! ### Every step keeps the accounts -/

lemma Inv.cancelTransactionHandle {s : Tracking} (h : s.Inv) (handle : ℕ) :
    (s.cancelTransactionHandle handle).Inv := by
  unfold Tracking.cancelTransactionHandle
  split
  · exact h
  rename_i label _
  split
  · exact h
  rename_i txn hslot
  refine ⟨fun l t hl => ?_, fun t ht => ?_, fun n => ?_⟩
  · rcases eq_or_ne l label with rfl | hne
    · simp [freeLabel, extract, Tracking.setTransaction] at hl
    · exact h.slots l t (by simpa [freeLabel, extract, Tracking.setTransaction, hne] using hl)
  · rcases List.mem_append.mp ht with ht | ht
    · exact h.waitingOpen t ht
    · rw [List.mem_singleton.mp ht]
      exact (h.slots label txn hslot).2
  · have hheld := s.held_setTransaction label none n
    rw [hslot, holds_some, holds_none] at hheld
    have hacc := h.accounted n
    have hwait : (s.posted ++ [txn]).map (·.responseHandler) =
        s.posted.map (·.responseHandler) ++ [txn.responseHandler] := by simp
    change (s.setTransaction label none).held n + List.count n ((s.posted ++ [txn]).map _) +
      s.invoked n = if n < s.registered then 1 else 0
    rw [hwait, List.count_append, List.count_singleton]
    change _ + (s.waiting n + _) + _ = _
    simp only [beq_iff_eq]
    omega

lemma Inv.runPosted {s : Tracking} (h : s.Inv) (cb : Callbacks) : (runPosted cb s).Inv := by
  unfold Tracking.runPosted
  split
  · exact h
  rename_i txn posted hposted
  have hopen := h.waitingOpen txn (by simp [hposted])
  dsimp only
  rw [hopen.1, if_neg (by simp), invokeResponseHandler_eq]
  refine Runs.invariant_run (fun s c hs => hs.call c)
    ⟨h.slots, fun t ht => h.waitingOpen t (by rw [hposted]; exact List.mem_cons_of_mem _ ht),
      fun n => ?_⟩ _
  have hacc := h.accounted n
  have hwait : s.waiting n =
      (posted.map (·.responseHandler)).count n + if txn.responseHandler = n then 1 else 0 := by
    simp [waiting, hposted, List.count_cons]
  have hid := txn.transitionTo_identity .cancelled
  simp only [Transaction.identity, Prod.mk.injEq] at hid
  have hinv : (record { s with posted := posted } (txn.transitionTo .cancelled) .aborted 0xFF
      []).invoked n = s.invoked n + if txn.responseHandler = n then 1 else 0 := by
    simp [record, invoked, hid.2.2.2, List.count_singleton]
  rw [hinv]
  change s.held n + (posted.map (·.responseHandler)).count n + _ = if n < s.registered then 1 else 0
  omega

theorem Inv.step {s : Tracking} (h : s.Inv) (cb : Callbacks) (e : TrackingEvent) :
    (step cb s e).Inv := by
  cases e with
  | registerTx txMeta => exact h.registerTx txMeta
  | onTxPosted handle nowUsec timeoutUsec => exact h.onTxPosted handle nowUsec timeoutUsec
  | onTxCompletion comp clock =>
    change (onTxCompletion cb s comp clock).Inv
    rcases onTxCompletion_cases h cb comp clock with
      heq | ⟨label, txn, txn', hslot, hid, ⟨hopen, heq⟩ | ⟨kr, -, -, -, heq⟩⟩
    · rwa [heq]
    · rw [heq]
      exact h.setTransaction hslot hid hopen
    · rw [heq]
      exact h.complete hslot hid cb kr 0xFF []
  | onRxResponse response =>
    change (onRxResponse cb s response).Inv
    rcases onRxResponse_cases h cb response with heq | ⟨label, txn, txn', hslot, hid, -, -, -, heq⟩
    · rwa [heq]
    · rw [heq]
      exact h.complete hslot hid cb _ _ _
  | onTimeoutTick nowUsec clock =>
    exact Runs.invariant_run (fun s label hs => hs.onTimeout cb clock label) h _
  | cancelByGeneration oldGeneration =>
    exact Runs.invariant_run (fun s label hs => hs.cancelVictim cb label) h _
  | cancelAllAndFreeLabels =>
    exact Runs.invariant_run (fun s label hs => hs.cancelVictim cb label) h _
  | cancelTransactionHandle handle => exact h.cancelTransactionHandle handle
  | runPosted => exact h.runPosted cb

lemma Inv.initial : Inv {} :=
  ⟨by simp, by simp, fun n => by simp [held, waiting, invoked]⟩

/-! ### What justifies a callback -/

/-- The invocation is that of the transaction's own callback, under its own handle. -/
def Answers (txn : Transaction) (inv : Invocation) : Prop :=
  inv.responseHandler = txn.responseHandler ∧ inv.handle = txn.label + 1

lemma Answers.of_identity {txn txn' : Transaction} {inv : Invocation} (h : Answers txn' inv)
    (hid : txn'.identity = txn.identity) : Answers txn inv := by
  simp only [Transaction.identity, Prod.mk.injEq] at hid
  exact ⟨h.1.trans hid.2.2.2, h.2.trans (congrArg (· + 1) hid.1)⟩

/-- The results each event may give the callback of a transaction in the table. -/
def Justifies (txn : Transaction) (inv : Invocation) : TrackingEvent → Prop
  | .onTxCompletion comp _ => comp.isResponseContext = false ∧ comp.tLabel = txn.label ∧
      ATJustified comp txn inv.status
  | .onRxResponse response => response.tLabel = txn.label ∧
      txn.generation = response.generation ∧ txn.nodeID % 64 = response.sourceNodeID % 64 ∧
      inv.status = (if response.rCode = 0 then .success else .hardwareError) ∧
      inv.responseCode = response.rCode ∧ inv.payload = response.payload
  | .onTimeoutTick nowUsec _ => hasTimedOut nowUsec txn = true ∧ inv.status = .timeout
  | .cancelByGeneration oldGeneration => txn.generation = oldGeneration ∧ inv.status = .aborted
  | .cancelAllAndFreeLabels => inv.status = .aborted
  | _ => False

/-- The invocation belongs to a transaction of the state before the event, in the table or, for
a posted cancellation, on the workloop. -/
def Justified (s : Tracking) (e : TrackingEvent) (inv : Invocation) : Prop :=
  (∃ label txn, s.transactions label = some txn ∧ Answers txn inv ∧ Justifies txn inv e) ∨
    e = .runPosted ∧ ∃ txn ∈ s.posted, Answers txn inv ∧ inv.status = .aborted

/-- Callbacks touch neither the record of invocations nor the workloop. -/
lemma call_frame (s : Tracking) (c : CallbackCall) :
    (s.call c).invocations = s.invocations ∧ (s.call c).posted = s.posted := by
  cases c with
  | registerTx txMeta =>
    simp only [call]
    rcases s.registerTx_cases txMeta with ⟨allocator, heq⟩ | ⟨allocator, label, -, heq⟩ <;> rw [heq]
    · exact ⟨rfl, rfl⟩
    · exact ⟨rfl, rfl⟩
  | onTxPosted handle nowUsec timeoutUsec =>
    simp only [call]
    rcases s.onTxPosted_cases handle nowUsec timeoutUsec with heq | ⟨label, txn, -, heq⟩ <;> rw [heq]
    · exact ⟨rfl, rfl⟩
    · exact ⟨rfl, rfl⟩

/-- The slot holds the transaction of that identity. -/
def Keeps (identity : ℕ × ℕ × ℕ × ℕ) (label : Label) (s : Tracking) : Prop :=
  ∃ txn, s.transactions label = some txn ∧ txn.identity = identity

lemma Keeps.setTransaction {identity : ℕ × ℕ × ℕ × ℕ} {label other : Label} {s : Tracking}
    (h : s.Keeps identity other) (txn : Option Transaction) (hne : other ≠ label) :
    (s.setTransaction label txn).Keeps identity other := by
  obtain ⟨t, ht, hid⟩ := h
  exact ⟨t, by simpa [Tracking.setTransaction, hne] using ht, hid⟩

/-- Callbacks take no transaction out of its slot. -/
lemma Keeps.call {identity : ℕ × ℕ × ℕ × ℕ} {label : Label} {s : Tracking}
    (h : s.Keeps identity label) (c : CallbackCall) : (s.call c).Keeps identity label := by
  obtain ⟨t, ht, hid⟩ := h
  cases c with
  | registerTx txMeta =>
    change (s.registerTx txMeta).1.Keeps identity label
    rcases s.registerTx_cases txMeta with ⟨allocator, heq⟩ | ⟨allocator, other, hnone, heq⟩ <;>
      rw [heq]
    · exact ⟨t, ht, hid⟩
    · have hne : label ≠ other := by
        rintro rfl
        rw [hnone] at ht
        cases ht
      exact Keeps.setTransaction ⟨t, ht, hid⟩ _ hne
  | onTxPosted handle nowUsec timeoutUsec =>
    change (s.onTxPosted handle nowUsec timeoutUsec).Keeps identity label
    rcases s.onTxPosted_cases handle nowUsec timeoutUsec with heq | ⟨other, txn, hslot, heq⟩ <;>
      rw [heq]
    · exact ⟨t, ht, hid⟩
    · rcases eq_or_ne label other with rfl | hne
      · obtain rfl : t = txn := Option.some.inj (ht.symm.trans hslot)
        exact ⟨postedTransaction t (nowUsec + timeoutUsec), by simp [Tracking.setTransaction],
          (postedTransaction_identity t _).trans hid⟩
      · exact Keeps.setTransaction ⟨t, ht, hid⟩ _ hne

lemma invokeResponseHandler_frame (cb : Callbacks) (s : Tracking) (txn : Transaction)
    (kr : IOReturn) (responseCode : ℕ) (data : List UInt8) :
    (invokeResponseHandler cb s txn kr responseCode data).invocations =
      (s.record txn kr responseCode data).invocations ∧
    (invokeResponseHandler cb s txn kr responseCode data).posted = s.posted := by
  rw [invokeResponseHandler_eq]
  exact Runs.invariant_run
    (I := fun s' => s'.invocations = (s.record txn kr responseCode data).invocations ∧
      s'.posted = s.posted)
    (fun s' c hs => ⟨(call_frame s' c).1.trans hs.1, (call_frame s' c).2.trans hs.2⟩)
    ⟨rfl, rfl⟩ _

lemma Keeps.invokeResponseHandler {identity : ℕ × ℕ × ℕ × ℕ} {label : Label} {s : Tracking}
    (h : s.Keeps identity label) (cb : Callbacks) (txn : Transaction) (kr : IOReturn)
    (responseCode : ℕ) (data : List UInt8) :
    (invokeResponseHandler cb s txn kr responseCode data).Keeps identity label := by
  rw [invokeResponseHandler_eq]
  have hrec : (s.record txn kr responseCode data).Keeps identity label := h
  exact Runs.invariant_run (fun s' c hs => hs.call c) hrec _

/-- An operation on one slot: it reports only the transaction there, with this status, and keeps
every other one. -/
structure OneSlot (op : Tracking → Label → Tracking) (status : AsyncStatus) : Prop where
  keeps : ∀ s label other identity, other ≠ label → Keeps identity other s →
    Keeps identity other (op s label)
  reports : ∀ s label, ∃ new, (op s label).invocations = s.invocations ++ new ∧
    ∀ inv ∈ new, ∃ txn, s.transactions label = some txn ∧ Answers txn inv ∧ inv.status = status

lemma oneSlot_onTimeout (cb : Callbacks) (clock : Label → ℕ) :
    OneSlot (onTimeout cb clock) .timeout where
  keeps s label other identity hne h := by
    unfold onTimeout
    split
    · exact h
    · split
      · exact h.setTransaction _ hne
      · exact Keeps.invokeResponseHandler (s := (s.extract label).freeLabel label)
          (h.setTransaction none hne) cb _ _ _ _
  reports s label := by
    unfold onTimeout
    split
    · exact ⟨[], by simp, by simp⟩
    · rename_i txn hslot
      split
      · exact ⟨[], by simp [setTransaction], by simp⟩
      · refine ⟨_, (invokeResponseHandler_frame cb _ _ _ _ _).1, fun inv hinv => ⟨txn, hslot, ?_⟩⟩
        rw [List.mem_singleton.mp hinv]
        have hid := txn.transitionTo_identity .timedOut
        exact ⟨Answers.of_identity ⟨rfl, rfl⟩ hid, rfl⟩

lemma oneSlot_cancelVictim (cb : Callbacks) : OneSlot (cancelVictim cb) .aborted where
  keeps s label other identity hne h := by
    unfold cancelVictim
    split
    · exact h
    · dsimp only
      split
      · exact h.setTransaction none hne
      · exact Keeps.invokeResponseHandler (h.setTransaction none hne) cb _ _ _ _
  reports s label := by
    unfold cancelVictim
    split
    · exact ⟨[], by simp, by simp⟩
    · rename_i txn hslot
      dsimp only
      split
      · exact ⟨[], by simp [extract, setTransaction, freeLabel], by simp⟩
      · refine ⟨_, (invokeResponseHandler_frame cb _ _ _ _ _).1, fun inv hinv => ⟨txn, hslot, ?_⟩⟩
        rw [List.mem_singleton.mp hinv]
        have hid := txn.transitionTo_identity .cancelled
        exact ⟨Answers.of_identity ⟨rfl, rfl⟩ hid, rfl⟩

/-- A pass over distinct occupied slots reports only the transactions it started with. -/
lemma OneSlot.run {op : Tracking → Label → Tracking} {status : AsyncStatus}
    (hop : OneSlot op status) {labels : List Label} (hnodup : labels.Nodup) (s : Tracking)
    (hslots : ∀ label ∈ labels, (s.transactions label).isSome) :
    ∃ new, (Runs.run op s labels).invocations = s.invocations ++ new ∧ ∀ inv ∈ new,
      ∃ label ∈ labels, ∃ txn, s.transactions label = some txn ∧ Answers txn inv ∧
        inv.status = status := by
  induction labels generalizing s with
  | nil => exact ⟨[], by simp, by simp⟩
  | cons label labels ih =>
    obtain ⟨hnot, hnodup⟩ := List.nodup_cons.mp hnodup
    obtain ⟨first, hfirst, hreport⟩ := hop.reports s label
    have hkeep : ∀ other ∈ labels, ∀ txn, s.transactions other = some txn →
        Keeps txn.identity other (op s label) := by
      intro other hother txn htxn
      have hne : other ≠ label := by
        rintro rfl
        exact hnot hother
      exact hop.keeps s label other _ hne ⟨txn, htxn, rfl⟩
    have hoccupied : ∀ other ∈ labels, ((op s label).transactions other).isSome := by
      intro other hother
      obtain ⟨txn, htxn⟩ := Option.isSome_iff_exists.mp (hslots other (by simp [hother]))
      obtain ⟨txn', htxn', -⟩ := hkeep other hother txn htxn
      simp [htxn']
    obtain ⟨later, hlater, hlaterReport⟩ := ih hnodup (op s label) hoccupied
    refine ⟨first ++ later, ?_, fun inv hinv => ?_⟩
    · rw [Runs.run_cons, hlater, hfirst, List.append_assoc]
    · rcases List.mem_append.mp hinv with hinv | hinv
      · obtain ⟨txn, htxn, hans, hstatus⟩ := hreport inv hinv
        exact ⟨label, by simp, txn, htxn, hans, hstatus⟩
      · obtain ⟨other, hother, txn', htxn', hans, hstatus⟩ := hlaterReport inv hinv
        obtain ⟨txn, htxn⟩ := Option.isSome_iff_exists.mp (hslots other (by simp [hother]))
        obtain ⟨txn'', htxn'', hid⟩ := hkeep other hother txn htxn
        obtain rfl : txn'' = txn' := Option.some.inj (htxn''.symm.trans htxn')
        exact ⟨other, by simp [hother], txn, htxn, hans.of_identity hid, hstatus⟩

lemma mem_collect {s : Tracking} {p : Transaction → Bool} {label : Label} :
    label ∈ s.collect p ↔ ∃ txn, s.transactions label = some txn ∧ p txn = true := by
  simp [collect, Option.any_eq_true]

/-- A pass over the collected transactions, stated for the transactions themselves. -/
lemma OneSlot.run_collect {op : Tracking → Label → Tracking} {status : AsyncStatus}
    (hop : OneSlot op status) (s : Tracking) (p : Transaction → Bool) :
    ∃ new, (Runs.run op s (s.collect p)).invocations = s.invocations ++ new ∧ ∀ inv ∈ new,
      ∃ label txn, s.transactions label = some txn ∧ Answers txn inv ∧ p txn = true ∧
        inv.status = status := by
  have hnodup : (s.collect p).Nodup := (List.nodup_finRange _).filter _
  have hslots : ∀ label ∈ s.collect p, (s.transactions label).isSome := by
    intro label hlabel
    obtain ⟨txn, htxn, -⟩ := mem_collect.mp hlabel
    simp [htxn]
  obtain ⟨new, hnew, hreport⟩ := hop.run hnodup s hslots
  refine ⟨new, hnew, fun inv hinv => ?_⟩
  obtain ⟨label, hlabel, txn, htxn, hans, hstatus⟩ := hreport inv hinv
  obtain ⟨txn', htxn', hp⟩ := mem_collect.mp hlabel
  obtain rfl : txn = txn' := Option.some.inj (htxn.symm.trans htxn')
  exact ⟨label, txn, htxn, hans, hp, hstatus⟩

/-- Every callback an event causes is justified by that event. -/
lemma Inv.step_justified {s : Tracking} (h : s.Inv) (cb : Callbacks) (e : TrackingEvent) :
    ∃ new, (Tracking.step cb s e).invocations = s.invocations ++ new ∧
      ∀ inv ∈ new, s.Justified e inv := by
  have hsilent : ∀ s' : Tracking, s'.invocations = s.invocations →
      ∃ new, s'.invocations = s.invocations ++ new ∧ ∀ inv ∈ new, s.Justified e inv :=
    fun s' hs => ⟨[], by simp [hs], by simp⟩
  cases e with
  | registerTx txMeta => exact hsilent _ (call_frame s (.registerTx txMeta)).1
  | onTxPosted handle nowUsec timeoutUsec =>
    exact hsilent _ (call_frame s (.onTxPosted handle nowUsec timeoutUsec)).1
  | onTxCompletion comp clock =>
    simp only [Tracking.step]
    rcases onTxCompletion_cases h cb comp clock with
      heq | ⟨label, txn, txn', hslot, hid, ⟨-, heq⟩ | ⟨kr, hctx, hlabel, hjust, heq⟩⟩
    · exact hsilent _ (by rw [heq])
    · exact hsilent _ (by rw [heq]; rfl)
    · refine ⟨_, (congrArg invocations heq).trans (invokeResponseHandler_frame cb _ _ _ _ _).1,
        fun inv hinv => Or.inl ⟨label, txn, hslot, ?_⟩⟩
      rw [List.mem_singleton.mp hinv]
      exact ⟨Answers.of_identity ⟨rfl, rfl⟩ hid, hctx,
        hlabel.trans (h.slots label txn hslot).1.symm, hjust⟩
  | onRxResponse response =>
    simp only [Tracking.step]
    rcases onRxResponse_cases h cb response with
      heq | ⟨label, txn, txn', hslot, hid, hlabel, hgen, hnode, heq⟩
    · exact hsilent _ (by rw [heq])
    · refine ⟨_, (congrArg invocations heq).trans (invokeResponseHandler_frame cb _ _ _ _ _).1,
        fun inv hinv => Or.inl ⟨label, txn, hslot, ?_⟩⟩
      rw [List.mem_singleton.mp hinv]
      refine ⟨Answers.of_identity ⟨rfl, rfl⟩ hid, hlabel.trans (h.slots label txn hslot).1.symm,
        hgen, hnode, ?_, rfl, rfl⟩
      dsimp only
      split <;> rfl
  | onTimeoutTick nowUsec clock =>
    obtain ⟨new, hnew, hreport⟩ :=
      (oneSlot_onTimeout cb clock).run_collect s (hasTimedOut nowUsec)
    refine ⟨new, hnew, fun inv hinv => ?_⟩
    obtain ⟨label, txn, htxn, hans, hp, hstatus⟩ := hreport inv hinv
    exact Or.inl ⟨label, txn, htxn, hans, hp, hstatus⟩
  | cancelByGeneration oldGeneration =>
    obtain ⟨new, hnew, hreport⟩ :=
      (oneSlot_cancelVictim cb).run_collect s fun txn => txn.generation = oldGeneration
    refine ⟨new, hnew, fun inv hinv => ?_⟩
    obtain ⟨label, txn, htxn, hans, hp, hstatus⟩ := hreport inv hinv
    exact Or.inl ⟨label, txn, htxn, hans, by simpa using hp, hstatus⟩
  | cancelAllAndFreeLabels =>
    obtain ⟨new, hnew, hreport⟩ := (oneSlot_cancelVictim cb).run_collect s fun _ => true
    refine ⟨new, hnew, fun inv hinv => ?_⟩
    obtain ⟨label, txn, htxn, hans, -, hstatus⟩ := hreport inv hinv
    exact Or.inl ⟨label, txn, htxn, hans, hstatus⟩
  | cancelTransactionHandle handle =>
    refine hsilent _ ?_
    simp only [Tracking.step, Tracking.cancelTransactionHandle]
    split
    · rfl
    · split <;> rfl
  | runPosted =>
    simp only [Tracking.step, Tracking.runPosted]
    split
    · exact hsilent _ rfl
    · rename_i txn posted hposted
      rw [(h.waitingOpen txn (by simp [hposted])).1, if_neg (by simp)]
      refine ⟨_, (invokeResponseHandler_frame cb _ _ _ _ _).1, fun inv hinv =>
        Or.inr ⟨rfl, txn, by simp [hposted], ?_⟩⟩
      rw [List.mem_singleton.mp hinv]
      exact ⟨Answers.of_identity ⟨rfl, rfl⟩ (txn.transitionTo_identity .cancelled), rfl⟩

/-! ### Whole runs -/

lemma cancelVictims_posted (cb : Callbacks) {s : Tracking} (h : s.posted = [])
    (labels : List Label) : (Runs.run (cancelVictim cb) s labels).posted = [] := by
  refine Runs.invariant_run (I := fun s : Tracking => s.posted = []) (fun s' label hs => ?_) h labels
  unfold cancelVictim
  split
  · exact hs
  · dsimp only
    split
    · exact hs
    · exact (invokeResponseHandler_frame cb _ _ _ _ _).2.trans hs

/-- Only a cancelled handle posts to the workloop. -/
lemma Inv.step_posted {s : Tracking} (h : s.Inv) (hposted : s.posted = []) (cb : Callbacks)
    {e : TrackingEvent} (he : ∀ handle, e ≠ .cancelTransactionHandle handle) :
    (Tracking.step cb s e).posted = [] := by
  cases e with
  | registerTx txMeta => exact (call_frame s (.registerTx txMeta)).2.trans hposted
  | onTxPosted handle nowUsec timeoutUsec =>
    exact (call_frame s (.onTxPosted handle nowUsec timeoutUsec)).2.trans hposted
  | onTxCompletion comp clock =>
    simp only [Tracking.step]
    rcases onTxCompletion_cases h cb comp clock with
      heq | ⟨label, txn, txn', -, -, ⟨-, heq⟩ | ⟨kr, -, -, -, heq⟩⟩ <;> rw [heq]
    · exact hposted
    · exact hposted
    · exact (invokeResponseHandler_frame cb _ _ _ _ _).2.trans hposted
  | onRxResponse response =>
    simp only [Tracking.step]
    rcases onRxResponse_cases h cb response with
      heq | ⟨label, txn, txn', -, -, -, -, -, heq⟩ <;> rw [heq]
    · exact hposted
    · exact (invokeResponseHandler_frame cb _ _ _ _ _).2.trans hposted
  | onTimeoutTick nowUsec clock =>
    refine Runs.invariant_run (I := fun s : Tracking => s.posted = []) (fun s' label hs => ?_) hposted _
    unfold Tracking.onTimeout
    split
    · exact hs
    · split
      · exact hs
      · exact (invokeResponseHandler_frame cb _ _ _ _ _).2.trans hs
  | cancelByGeneration oldGeneration => exact cancelVictims_posted cb hposted _
  | cancelAllAndFreeLabels => exact cancelVictims_posted cb hposted _
  | cancelTransactionHandle handle => exact absurd rfl (he handle)
  | runPosted =>
    simp only [Tracking.step, Tracking.runPosted, hposted]

/-- The transaction of registration `n` is in the TransactionManager. -/
def InTable (s : Tracking) (n : ℕ) : Prop :=
  ∃ label txn, s.transactions label = some txn ∧ txn.responseHandler = n

/-- Whatever the order of the events and whatever the callbacks submit: a callback is invoked at
most once, a registered transaction has been called back exactly if it is out of the table (and
not waiting on the workloop, which only a cancelled handle causes), and every callback an event
causes goes to a transaction that event matches, with a result it justifies. -/
theorem tracking_callbacks_once (cb : Callbacks) (events : List TrackingEvent) :
    let s := Runs.run (Tracking.step cb) {} events
    (∀ n, s.invoked n ≤ 1) ∧
    (∀ n < s.registered, s.invoked n = 1 ↔
      ¬ s.InTable n ∧ n ∉ s.posted.map (·.responseHandler)) ∧
    ((∀ e ∈ events, ∀ handle, e ≠ .cancelTransactionHandle handle) → s.posted = []) ∧
    ∀ e, ∃ new, (Tracking.step cb s e).invocations = s.invocations ++ new ∧
      ∀ inv ∈ new, s.Justified e inv := by
  intro s
  have hinv : s.Inv := Runs.invariant_run (fun s e hs => hs.step cb e) Inv.initial events
  refine ⟨fun n => ?_, fun n hn => ?_, fun hevents => ?_, fun e => hinv.step_justified cb e⟩
  · have hacc := hinv.accounted n
    split_ifs at hacc <;> omega
  · have hacc := hinv.accounted n
    rw [if_pos hn] at hacc
    have htable : s.InTable n ↔ 0 < s.held n := held_pos_iff.symm
    have hwait : n ∉ s.posted.map (·.responseHandler) ↔ s.waiting n = 0 :=
      List.count_eq_zero.symm
    rw [htable, hwait]
    omega
  · have hmeets : Runs.Meets (Tracking.step cb)
        (fun _ e => ∀ handle, e ≠ TrackingEvent.cancelTransactionHandle handle) {} events :=
      Runs.meets_of_forall hevents
    exact (Runs.invariant_run_of_meets (I := fun s => s.Inv ∧ s.posted = [])
      (fun s e hs he => ⟨hs.1.step cb e, hs.1.step_posted hs.2 cb he⟩) ⟨Inv.initial, rfl⟩ hmeets).2

end Tracking

end ASFireWire.Async
