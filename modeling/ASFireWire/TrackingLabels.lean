import ASFireWire.TrackingRuns

/-! Label bitmap against transaction table. The AT, AR and timeout paths free a label before they
run its callback; the cancellations free it afterwards, when a callback that resubmits into an
otherwise empty table may already have been given the same label again. -/
namespace ASFireWire.Async

namespace Tracking

/-- A label is marked in use exactly if its slot is occupied. -/
def LabelsAgree (s : Tracking) : Prop :=
  ∀ label, s.labelAllocator.isLabelInUse label = (s.transactions label).isSome

lemma count_eq_zero {s : Tracking} : s.count = 0 ↔ ∀ label, s.transactions label = none := by
  simp [count, List.countP_eq_zero]

/-- One `RegisterTx` call once stale labels are dropped. -/
def registerClean (s : Tracking) (txMeta : TxMetadata) : Tracking :=
  match s.labelAllocator.allocate with
  | (_, none) => s
  | (allocator, some label) =>
    match s.transactions label with
    | some _ => { s with labelAllocator := allocator }.freeLabel label
    | none =>
      { { s with labelAllocator := allocator }.setTransaction label
          (some (newTransaction label txMeta s.registered)) with registered := s.registered + 1 }

lemma registerTx_eq (s : Tracking) (txMeta : TxMetadata) :
    (s.registerTx txMeta).1 = s.dropStaleLabels.registerClean txMeta := by
  unfold registerTx registerClean
  dsimp only
  rcases s.dropStaleLabels.labelAllocator.allocate with ⟨allocator, _ | label⟩
  · rfl
  · dsimp only
    cases s.dropStaleLabels.transactions label <;> rfl

/-- Away from `label` the bitmap and the table agree; the label's own bit is still set although
its slot has been emptied. -/
structure AgreeOff (label : Label) (s : Tracking) : Prop where
  others : ∀ l, l ≠ label → s.labelAllocator.isLabelInUse l = (s.transactions l).isSome
  marked : s.labelAllocator.isLabelInUse label = true
  empty : s.transactions label = none

/-- The table was cleared and refilled from label 0: exactly the labels below `j` are taken. -/
structure Refilled (j : ℕ) (s : Tracking) : Prop where
  agree : s.LabelsAgree
  taken : ∀ l : Label, (s.transactions l).isSome = decide (l.val < j)
  cursor : s.labelAllocator.nextLabel.val = j

lemma LabelsAgree.dropStaleLabels {s : Tracking} (h : s.LabelsAgree) : s.dropStaleLabels = s := by
  unfold Tracking.dropStaleLabels
  rw [if_neg]
  intro hstale
  rw [Bool.and_eq_true, decide_eq_true_eq, count_eq_zero] at hstale
  have hnone : s.labelAllocator.hasAnyLabelsInUse = false := by
    rw [LabelAllocator.hasAnyLabelsInUse_eq_false]
    intro l
    have := h l
    rw [hstale.1 l] at this
    exact this
  rw [hnone] at hstale
  exact absurd hstale.2 (by simp)

lemma dropStaleLabels_busy {s : Tracking} (hbusy : ∃ l, s.transactions l ≠ none) :
    s.dropStaleLabels = s := by
  obtain ⟨l, hl⟩ := hbusy
  unfold Tracking.dropStaleLabels
  rw [if_neg]
  intro hstale
  rw [Bool.and_eq_true, decide_eq_true_eq, count_eq_zero] at hstale
  exact hl (hstale.1 l)

/-- With nothing else in the table the left-over label is dropped with the whole bitmap. -/
lemma AgreeOff.dropStaleLabels_alone {label : Label} {s : Tracking} (h : s.AgreeOff label)
    (halone : ∀ l, s.transactions l = none) : s.dropStaleLabels.Refilled 0 := by
  have hany : s.labelAllocator.hasAnyLabelsInUse = true := by
    by_contra hcon
    rw [Bool.not_eq_true, LabelAllocator.hasAnyLabelsInUse_eq_false] at hcon
    have := h.marked
    rw [LabelAllocator.isLabelInUse, hcon label] at this
    cases this
  unfold Tracking.dropStaleLabels
  rw [if_pos (by simp [count_eq_zero.mpr halone, hany])]
  refine ⟨fun l => ?_, fun l => ?_, rfl⟩
  · simp [LabelAllocator.isLabelInUse, LabelAllocator.clearBitmap, halone l]
  · simp [halone l]

/-- `RegisterTx` takes a label the bitmap has free and fills its slot. -/
lemma registerClean_cases {s : Tracking} (txMeta : TxMetadata)
    (hfree : ∀ l, s.labelAllocator.bitmap l = false → s.transactions l = none) :
    (∀ l, s.labelAllocator.bitmap l = true) ∧ s.registerClean txMeta = s ∨
    ∃ l, s.labelAllocator.allocate.2 = some l ∧ s.labelAllocator.bitmap l = false ∧
      s.registerClean txMeta =
      { s with
        labelAllocator := { s.labelAllocator with
          bitmap := Function.update s.labelAllocator.bitmap l true, nextLabel := l + 1 }
        transactions := Function.update s.transactions l
          (some (newTransaction l txMeta s.registered))
        registered := s.registered + 1 } := by
  unfold registerClean
  rcases s.labelAllocator.allocate_cases with ⟨l, hl, halloc⟩ | ⟨hfull, halloc⟩
  · refine Or.inr ⟨l, by rw [halloc], hl, ?_⟩
    rw [halloc]
    dsimp only
    rw [hfree l hl]
    rfl
  · refine Or.inl ⟨hfull, ?_⟩
    rw [halloc]

lemma LabelsAgree.free {s : Tracking} (h : s.LabelsAgree) :
    ∀ l, s.labelAllocator.bitmap l = false → s.transactions l = none := by
  intro l hl
  have := h l
  rw [LabelAllocator.isLabelInUse, hl] at this
  simpa using this.symm

lemma LabelsAgree.registerTx {s : Tracking} (h : s.LabelsAgree) (txMeta : TxMetadata) :
    (s.registerTx txMeta).1.LabelsAgree := by
  rw [registerTx_eq, h.dropStaleLabels]
  rcases registerClean_cases txMeta h.free with ⟨-, heq⟩ | ⟨l, -, -, heq⟩
  · rwa [heq]
  · rw [heq]
    intro l'
    rcases eq_or_ne l' l with rfl | hne
    · simp [LabelAllocator.isLabelInUse]
    · have := h l'
      simpa [LabelAllocator.isLabelInUse, hne] using this

/-- Rewriting an occupied slot does not change what is occupied. -/
lemma isSome_setTransaction {s : Tracking} {label : Label} {txn : Transaction}
    (hslot : s.transactions label = some txn) (txn' : Transaction) (l : Label) :
    ((s.setTransaction label (some txn')).transactions l).isSome = (s.transactions l).isSome := by
  rcases eq_or_ne l label with rfl | hne
  · simp [setTransaction, hslot]
  · simp [setTransaction, hne]

lemma LabelsAgree.setTransaction {s : Tracking} (h : s.LabelsAgree) {label : Label}
    {txn : Transaction} (hslot : s.transactions label = some txn) (txn' : Transaction) :
    (s.setTransaction label (some txn')).LabelsAgree := by
  intro l
  rw [isSome_setTransaction hslot]
  exact h l

lemma onTxPosted_isSome (s : Tracking) (handle nowUsec timeoutUsec : ℕ) (l : Label) :
    ((s.onTxPosted handle nowUsec timeoutUsec).transactions l).isSome =
      (s.transactions l).isSome := by
  rcases s.onTxPosted_cases handle nowUsec timeoutUsec with heq | ⟨label, txn, hslot, heq⟩
  · rw [heq]
  · rw [heq, isSome_setTransaction hslot]

lemma onTxPosted_labelAllocator (s : Tracking) (handle nowUsec timeoutUsec : ℕ) :
    (s.onTxPosted handle nowUsec timeoutUsec).labelAllocator = s.labelAllocator := by
  rcases s.onTxPosted_cases handle nowUsec timeoutUsec with heq | ⟨label, txn, -, heq⟩ <;> rw [heq]
  rfl

lemma LabelsAgree.onTxPosted {s : Tracking} (h : s.LabelsAgree) (handle nowUsec timeoutUsec : ℕ) :
    (s.onTxPosted handle nowUsec timeoutUsec).LabelsAgree := by
  intro l
  rw [onTxPosted_isSome, onTxPosted_labelAllocator]
  exact h l

lemma LabelsAgree.call {s : Tracking} (h : s.LabelsAgree) (c : CallbackCall) :
    (s.call c).LabelsAgree := by
  cases c with
  | registerTx txMeta => exact h.registerTx txMeta
  | onTxPosted handle nowUsec timeoutUsec => exact h.onTxPosted handle nowUsec timeoutUsec

/-- Emptying a slot and freeing its label. -/
lemma LabelsAgree.extract_free {s : Tracking} (h : s.LabelsAgree) (label : Label) :
    ((s.extract label).freeLabel label).LabelsAgree := by
  intro l
  rcases eq_or_ne l label with rfl | hne
  · simp [freeLabel, extract, Tracking.setTransaction, LabelAllocator.free,
      LabelAllocator.isLabelInUse]
  · have := h l
    simpa [freeLabel, extract, Tracking.setTransaction, LabelAllocator.free,
      LabelAllocator.isLabelInUse, hne] using this

/-- Callbacks that run after the label was freed keep the agreement. -/
lemma LabelsAgree.invokeResponseHandler {s : Tracking} (h : s.LabelsAgree) (cb : Callbacks)
    (txn : Transaction) (kr : IOReturn) (responseCode : ℕ) (data : List UInt8) :
    (invokeResponseHandler cb s txn kr responseCode data).LabelsAgree := by
  rw [invokeResponseHandler_eq]
  have hrec : (s.record txn kr responseCode data).LabelsAgree := h
  exact Runs.invariant_run (fun s c hs => hs.call c) hrec _

lemma LabelsAgree.complete {s : Tracking} (h : s.LabelsAgree) (cb : Callbacks) (label : Label)
    (txn : Transaction) (kr : IOReturn) (responseCode : ℕ) (data : List UInt8) :
    (complete cb s label txn kr responseCode data).LabelsAgree :=
  (h.extract_free label).invokeResponseHandler cb txn kr responseCode data

/-! ### Cancelling -/

/-- `RegisterTx` calls a callback makes. -/
def registrations (calls : List CallbackCall) : ℕ :=
  calls.countP fun c => match c with
    | .registerTx _ => true
    | .onTxPosted _ _ _ => false

/-- A victim whose callback runs with no other transaction in the table registers at most as
often as there are labels below its own. -/
def RoomToCancel (cb : Callbacks) (s : Tracking) (label : Label) : Prop :=
  ∀ txn, s.transactions label = some txn → (∀ l, l ≠ label → s.transactions l = none) →
    registrations (cb txn.responseHandler) ≤ label.val

instance (cb : Callbacks) (s : Tracking) (label : Label) : Decidable (RoomToCancel cb s label) :=
  match h : s.transactions label with
  | none => isTrue fun txn htxn => by simp [h] at htxn
  | some txn => decidable_of_iff ((∀ l, l ≠ label → s.transactions l = none) →
      registrations (cb txn.responseHandler) ≤ label.val)
      ⟨fun hok t ht => by
        obtain rfl := Option.some.inj (h.symm.trans ht)
        exact hok, fun hok => hok txn h⟩

/-- While the callback of the victim at `label` has `k` registrations to go. -/
def Suspended (label : Label) (k : ℕ) (s : Tracking) : Prop :=
  (s.AgreeOff label ∧ ((∃ l, s.transactions l ≠ none) ∨ k ≤ label.val)) ∨
    ∃ j, s.Refilled j ∧ j + k ≤ label.val

lemma allocate_of_cursor_free {a : LabelAllocator} (h : a.bitmap a.nextLabel = false) :
    a.allocate.2 = some a.nextLabel := by
  have hrange : List.finRange kMaxLabels = (0 : Label) :: (List.finRange 63).map Fin.succ :=
    List.finRange_succ
  unfold LabelAllocator.allocate LabelAllocator.attempts
  rw [hrange, List.map_cons, add_zero, List.find?_cons_of_pos (by simp [h])]

/-- Refilling goes on with the next label. -/
lemma Refilled.registerClean {j : ℕ} {s : Tracking} (h : s.Refilled j) (txMeta : TxMetadata)
    (hj : j + 1 < kMaxLabels) : (s.registerClean txMeta).Refilled (j + 1) := by
  have hcursor : s.labelAllocator.bitmap s.labelAllocator.nextLabel = false := by
    have := h.agree s.labelAllocator.nextLabel
    rw [h.taken, h.cursor] at this
    simpa [LabelAllocator.isLabelInUse] using this
  rcases registerClean_cases txMeta h.agree.free with ⟨hfull, -⟩ | ⟨l, halloc, -, heq⟩
  · rw [hfull] at hcursor
    cases hcursor
  obtain rfl : s.labelAllocator.nextLabel = l := by
    rw [allocate_of_cursor_free hcursor] at halloc
    exact Option.some.inj halloc
  have hagree : (s.registerClean txMeta).LabelsAgree := by
    have := h.agree.registerTx txMeta
    rwa [registerTx_eq, h.agree.dropStaleLabels] at this
  refine ⟨hagree, fun l => ?_, ?_⟩
  · rw [heq]
    rcases eq_or_ne l s.labelAllocator.nextLabel with rfl | hne
    · simp [h.cursor]
    · have hval : l.val ≠ j := fun hcon => hne (Fin.ext (hcon.trans h.cursor.symm))
      simp only [Function.update_of_ne hne, h.taken l, decide_eq_decide]
      omega
  · rw [heq]
    change (s.labelAllocator.nextLabel + 1).val = j + 1
    rw [Fin.val_add_one_of_lt' (by rw [h.cursor]; exact hj), h.cursor]

lemma AgreeOff.registerClean {label : Label} {s : Tracking} (h : s.AgreeOff label)
    (txMeta : TxMetadata) (hbusy : ∃ l, s.transactions l ≠ none) :
    (s.registerClean txMeta).AgreeOff label ∧ ∃ l, (s.registerClean txMeta).transactions l ≠ none := by
  have hfree : ∀ l, s.labelAllocator.bitmap l = false → s.transactions l = none := by
    intro l hl
    rcases eq_or_ne l label with rfl | hne
    · exact h.empty
    · have := h.others l hne
      rw [LabelAllocator.isLabelInUse, hl] at this
      simpa using this.symm
  rcases registerClean_cases txMeta hfree with ⟨-, heq⟩ | ⟨l, -, hl, heq⟩
  · rw [heq]
    exact ⟨h, hbusy⟩
  have hne : label ≠ l := by
    rintro rfl
    have := h.marked
    rw [LabelAllocator.isLabelInUse, hl] at this
    cases this
  rw [heq]
  refine ⟨⟨fun l' hl' => ?_, ?_, ?_⟩, l, by simp⟩
  · rcases eq_or_ne l' l with rfl | hne'
    · simp [LabelAllocator.isLabelInUse]
    · have := h.others l' hl'
      simpa [LabelAllocator.isLabelInUse, hne'] using this
  · have := h.marked
    simpa [LabelAllocator.isLabelInUse, hne] using this
  · simpa [hne] using h.empty

lemma Suspended.registerTx {label : Label} {k : ℕ} {s : Tracking}
    (h : s.Suspended label (k + 1)) (txMeta : TxMetadata) :
    (s.registerTx txMeta).1.Suspended label k := by
  have hlabel := label.isLt
  rw [registerTx_eq]
  have hrefill : ∀ j (s' : Tracking), s'.Refilled j → j + (k + 1) ≤ label.val →
      (s'.registerClean txMeta).Suspended label k := fun j s' hj hle =>
    Or.inr ⟨j + 1, hj.registerClean txMeta (by omega), by omega⟩
  rcases h with ⟨hoff, hroom⟩ | ⟨j, hj, hle⟩
  · by_cases hbusy : ∃ l, s.transactions l ≠ none
    · rw [dropStaleLabels_busy hbusy]
      obtain ⟨hoff', hbusy'⟩ := hoff.registerClean txMeta hbusy
      exact Or.inl ⟨hoff', Or.inl hbusy'⟩
    · have hle := hroom.resolve_left hbusy
      push Not at hbusy
      exact hrefill 0 _ (hoff.dropStaleLabels_alone hbusy) (by omega)
  · rw [hj.agree.dropStaleLabels]
    exact hrefill j s hj hle

lemma Suspended.onTxPosted {label : Label} {k : ℕ} {s : Tracking} (h : s.Suspended label k)
    (handle nowUsec timeoutUsec : ℕ) :
    (s.onTxPosted handle nowUsec timeoutUsec).Suspended label k := by
  have hnone : ∀ l, (s.onTxPosted handle nowUsec timeoutUsec).transactions l = none ↔
      s.transactions l = none := by
    intro l
    rw [← Option.isNone_iff_eq_none, ← Option.isNone_iff_eq_none, ← Option.not_isSome,
      ← Option.not_isSome, onTxPosted_isSome]
  rcases h with ⟨hoff, hroom⟩ | ⟨j, hj, hle⟩
  · refine Or.inl ⟨⟨fun l hl => ?_, ?_, (hnone label).mpr hoff.empty⟩, hroom.imp_left ?_⟩
    · rw [onTxPosted_isSome, onTxPosted_labelAllocator]
      exact hoff.others l hl
    · rw [onTxPosted_labelAllocator]
      exact hoff.marked
    · rintro ⟨l, hl⟩
      exact ⟨l, fun hcon => hl ((hnone l).mp hcon)⟩
  · refine Or.inr ⟨j, ⟨hj.agree.onTxPosted _ _ _, fun l => ?_, ?_⟩, hle⟩
    · rw [onTxPosted_isSome]
      exact hj.taken l
    · rw [onTxPosted_labelAllocator]
      exact hj.cursor

/-- A callback with enough room leaves the victim's label free to be freed. -/
lemma Suspended.calls {label : Label} {calls : List CallbackCall} {s : Tracking}
    (h : s.Suspended label (registrations calls)) : (Runs.run call s calls).Suspended label 0 := by
  induction calls generalizing s with
  | nil => exact h
  | cons c calls ih =>
    rw [Runs.run_cons]
    refine ih ?_
    cases c with
    | registerTx txMeta =>
      have hcount : registrations (.registerTx txMeta :: calls) = registrations calls + 1 :=
        List.countP_cons_of_pos rfl
      rw [hcount] at h
      exact h.registerTx txMeta
    | onTxPosted handle nowUsec timeoutUsec => exact Suspended.onTxPosted h _ _ _

lemma Suspended.freeLabel {label : Label} {s : Tracking} (h : s.Suspended label 0) :
    (s.freeLabel label).LabelsAgree := by
  have hempty : s.transactions label = none := by
    rcases h with ⟨hoff, -⟩ | ⟨j, hj, hle⟩
    · exact hoff.empty
    · have := hj.taken label
      rw [decide_eq_false (by omega)] at this
      simpa using this
  intro l
  rcases eq_or_ne l label with rfl | hne
  · simp [Tracking.freeLabel, LabelAllocator.free, LabelAllocator.isLabelInUse, hempty]
  · have hl : s.labelAllocator.isLabelInUse l = (s.transactions l).isSome := by
      rcases h with ⟨hoff, -⟩ | ⟨j, hj, -⟩
      · exact hoff.others l hne
      · exact hj.agree l
    simpa [Tracking.freeLabel, LabelAllocator.free, LabelAllocator.isLabelInUse, hne] using hl

lemma LabelsAgree.cancelVictim {s : Tracking} (h : s.LabelsAgree) {cb : Callbacks} {label : Label}
    (hroom : RoomToCancel cb s label) : (cancelVictim cb s label).LabelsAgree := by
  unfold Tracking.cancelVictim
  split
  · exact h
  rename_i txn hslot
  dsimp only
  split
  · exact h.extract_free label
  rw [invokeResponseHandler_eq]
  have hid := txn.transitionTo_identity .cancelled
  simp only [Transaction.identity, Prod.mk.injEq] at hid
  rw [hid.2.2.2]
  refine Suspended.freeLabel (Suspended.calls (Or.inl ⟨⟨fun l hl => ?_, ?_, ?_⟩, ?_⟩))
  · have := h l
    simpa [record, extract, Tracking.setTransaction, hl] using this
  · have := h label
    rw [hslot] at this
    exact this
  · simp [record, extract, Tracking.setTransaction]
  · by_cases hbusy : ∃ l, l ≠ label ∧ s.transactions l ≠ none
    · obtain ⟨l, hl, hl'⟩ := hbusy
      exact Or.inl ⟨l, by simpa [record, extract, Tracking.setTransaction, hl] using hl'⟩
    · push Not at hbusy
      exact Or.inr (hroom txn hslot hbusy)

/-! ### Whole runs -/

/-- In a cancellation every victim has the room its callback needs when its turn comes. -/
def CancelRoom (cb : Callbacks) (s : Tracking) : TrackingEvent → Prop
  | .cancelByGeneration oldGeneration => Runs.Meets (Tracking.cancelVictim cb) (RoomToCancel cb) s
      (s.collect fun txn => txn.generation = oldGeneration)
  | .cancelAllAndFreeLabels => Runs.Meets (Tracking.cancelVictim cb) (RoomToCancel cb) s
      (s.collect fun _ => true)
  | _ => True

lemma LabelsAgree.step {s : Tracking} (hinv : s.Inv) (h : s.LabelsAgree) {cb : Callbacks}
    {e : TrackingEvent} (hroom : CancelRoom cb s e) : (step cb s e).LabelsAgree := by
  cases e with
  | registerTx txMeta => exact h.registerTx txMeta
  | onTxPosted handle nowUsec timeoutUsec => exact h.onTxPosted handle nowUsec timeoutUsec
  | onTxCompletion comp clock =>
    simp only [Tracking.step]
    rcases onTxCompletion_cases hinv cb comp clock with
      heq | ⟨label, txn, txn', hslot, -, ⟨-, heq⟩ | ⟨kr, -, -, -, heq⟩⟩ <;> rw [heq]
    · exact h
    · exact h.setTransaction hslot txn'
    · exact h.complete cb label txn' kr 0xFF []
  | onRxResponse response =>
    simp only [Tracking.step]
    rcases onRxResponse_cases hinv cb response with
      heq | ⟨label, txn, txn', -, -, -, -, -, heq⟩ <;> rw [heq]
    · exact h
    · exact h.complete cb label txn' _ _ _
  | onTimeoutTick nowUsec clock =>
    refine Runs.invariant_run (fun s label hs => ?_) h _
    unfold onTimeout
    split
    · exact hs
    · rename_i txn hslot
      split
      · exact hs.setTransaction hslot _
      · exact hs.complete cb label _ _ _ _
  | cancelByGeneration oldGeneration =>
    exact Runs.invariant_run_of_meets (fun s label hs hr => hs.cancelVictim hr) h hroom
  | cancelAllAndFreeLabels =>
    exact Runs.invariant_run_of_meets (fun s label hs hr => hs.cancelVictim hr) h hroom
  | cancelTransactionHandle handle =>
    simp only [Tracking.step, cancelTransactionHandle]
    split
    · exact h
    · split
      · exact h
      · exact h.extract_free _
  | runPosted =>
    simp only [Tracking.step, runPosted]
    split
    · exact h
    · split
      · exact h
      · rename_i txn posted _ _
        have hpopped : LabelsAgree { s with posted := posted } := h
        exact hpopped.invokeResponseHandler cb _ _ _ _

/-- In every run in which no cancellation's callback registers its way back to the victim's own
label, the bitmap and the table agree after every event. -/
theorem labels_agree_run (cb : Callbacks) (events : List TrackingEvent)
    (hroom : Runs.Meets (Tracking.step cb) (CancelRoom cb) {} events) :
    (Runs.run (Tracking.step cb) {} events).LabelsAgree :=
  (Runs.invariant_run_of_meets (I := fun s => s.Inv ∧ s.LabelsAgree)
    (fun _ e hs hr => ⟨hs.1.step cb e, hs.2.step hs.1 hr⟩) ⟨Inv.initial, fun _ => rfl⟩ hroom).2

instance (cb : Callbacks) (s : Tracking) : (e : TrackingEvent) → Decidable (CancelRoom cb s e)
  | .cancelByGeneration oldGeneration => inferInstanceAs (Decidable (Runs.Meets
      (Tracking.cancelVictim cb) (RoomToCancel cb) s
      (s.collect fun txn => txn.generation = oldGeneration)))
  | .cancelAllAndFreeLabels => inferInstanceAs (Decidable (Runs.Meets (Tracking.cancelVictim cb)
      (RoomToCancel cb) s (s.collect fun _ => true)))
  | .registerTx _ | .onTxPosted _ _ _ | .onTxCompletion _ _ | .onRxResponse _
  | .onTimeoutTick _ _ | .cancelTransactionHandle _ | .runPosted => isTrue trivial

/-- The callback of the first registration submits once more. -/
def resubmitOnce : Callbacks := fun n => if n = 0 then [.registerTx {}] else []

/-- Two reads, both cancelled; the first one's callback submits again. -/
def cancelTwo : List TrackingEvent := [.registerTx {}, .registerTx {}, .cancelByGeneration 0]

theorem cancelTwo_labels_agree :
    Runs.Meets (Tracking.step resubmitOnce) (CancelRoom resubmitOnce) {} cancelTwo ∧
      (Runs.run (Tracking.step resubmitOnce) {} cancelTwo).registered = 3 ∧
      (Runs.run (Tracking.step resubmitOnce) {} cancelTwo).LabelsAgree :=
  ⟨by decide, by decide, labels_agree_run resubmitOnce cancelTwo (by decide)⟩

/-- A single request, cancelled, whose callback submits again: the table is empty, so the bitmap
is cleared, label 0 is handed out a second time and then freed under the new transaction. -/
theorem cancelOnly_labels_disagree :
    let s := Runs.run (Tracking.step resubmitOnce) {} [.registerTx {}, .cancelAllAndFreeLabels]
    s.labelAllocator.isLabelInUse 0 = false ∧ (s.transactions 0).isSome = true ∧
      ¬ s.LabelsAgree := by
  intro s
  have hfree : s.labelAllocator.isLabelInUse 0 = false := by decide
  have hsome : (s.transactions 0).isSome = true := by decide
  refine ⟨hfree, hsome, fun hagree => ?_⟩
  have hzero := hagree 0
  rw [hfree, hsome] at hzero
  cases hzero

end Tracking

end ASFireWire.Async
