import ASFireWire.LabelAllocator
import ASFireWire.Runs

/-! `Allocate` and `Free` of many callers at once (`Async/Track/LabelAllocator`), interleaved at
their atomic accesses: the loads of the cursor and of the bitmap, each weak exchange of the bitmap
and the store of the cursor. -/
namespace ASFireWire.Async

open Runs LabelAllocator

/-- `(start + attempt) & 0x3F`. -/
def LabelAllocator.probe (start : Label) (attempt : ℕ) : Label := start + Fin.ofNat kMaxLabels attempt

/-- Where a call of `Allocate` stands. -/
inductive AllocatePc
  | loadedCursor (start : Label)
  | scanning (start : Label) (snapshot : Label → Bool) (attempt : ℕ)
  | storing (idx : Label)

/-- A call in progress. `sawFull`: at some moment since it began every label was in use. -/
structure AllocateCall where
  pc : AllocatePc
  sawFull : Bool := false

/-- What has happened to labels: an exchange that took one for its caller, a call that returns
`kInvalidLabel` and whether it had seen the bitmap full, a label given back. -/
inductive LabelRecord
  | granted (caller : ℕ) (label : Label)
  | refused (caller : ℕ) (sawFull : Bool)
  | freed (label : Label)
  deriving DecidableEq

/-- Newest record first. -/
structure LabelContention where
  allocator : LabelAllocator := {}
  calls : ℕ → Option AllocateCall := fun _ => none
  log : List LabelRecord := []

/-- The next access of a caller's call, or a call of `Free`. An exchange may fail spuriously. -/
inductive LabelEvent
  | allocate (caller : ℕ)
  | loadBitmap (caller : ℕ)
  | attempt (caller : ℕ) (spurious : Bool)
  | storeCursor (caller : ℕ)
  | free (label : ℕ)
  deriving DecidableEq, Repr

namespace LabelContention

variable {s : LabelContention} {caller : ℕ}

def setCall (s : LabelContention) (caller : ℕ) (call : Option AllocateCall) : LabelContention :=
  { s with calls := Function.update s.calls caller call }

/-- The end of an iteration that took no label. -/
def nextAttempt (s : LabelContention) (caller : ℕ) (start : Label) (snapshot : Label → Bool)
    (attempt : ℕ) (sawFull : Bool) : LabelContention :=
  if attempt + 1 < kMaxLabels then
    s.setCall caller (some ⟨.scanning start snapshot (attempt + 1), sawFull⟩)
  else { s.setCall caller none with log := .refused caller sawFull :: s.log }

/-- `compare_exchange_weak` succeeds. -/
def Exchanges (s : LabelContention) (snapshot : Label → Bool) (spurious : Bool) : Prop :=
  spurious = false ∧ s.allocator.bitmap = snapshot

instance (snapshot : Label → Bool) (spurious : Bool) : Decidable (s.Exchanges snapshot spurious) :=
  inferInstanceAs (Decidable (_ ∧ _))

/-- One iteration of the loop. A failed exchange loads the bitmap into the snapshot. -/
def tryLabel (s : LabelContention) (caller : ℕ) (start : Label) (snapshot : Label → Bool)
    (attempt : ℕ) (sawFull spurious : Bool) : LabelContention :=
  let idx := probe start attempt
  if snapshot idx = true then s.nextAttempt caller start snapshot attempt sawFull
  else if s.Exchanges snapshot spurious then
    { s.setCall caller (some ⟨.storing idx, sawFull⟩) with
      allocator := { s.allocator with bitmap := Function.update snapshot idx true }
      log := .granted caller idx :: s.log }
  else s.nextAttempt caller start s.allocator.bitmap attempt sawFull

def perform (s : LabelContention) : LabelEvent → LabelContention
  | .allocate caller =>
    match s.calls caller with
    | none => s.setCall caller (some { pc := .loadedCursor s.allocator.nextLabel })
    | some _ => s
  | .loadBitmap caller =>
    match s.calls caller with
    | some ⟨.loadedCursor start, sawFull⟩ =>
      s.setCall caller (some ⟨.scanning start s.allocator.bitmap 0, sawFull⟩)
    | _ => s
  | .attempt caller spurious =>
    match s.calls caller with
    | some ⟨.scanning start snapshot attempt, sawFull⟩ =>
      s.tryLabel caller start snapshot attempt sawFull spurious
    | _ => s
  | .storeCursor caller =>
    match s.calls caller with
    | some ⟨.storing idx, _⟩ =>
      { s.setCall caller none with allocator := { s.allocator with nextLabel := idx + 1 } }
    | _ => s
  | .free label =>
    if h : label < kMaxLabels then
      { s with
        allocator := s.allocator.free ⟨label, h⟩
        log := .freed ⟨label, h⟩ :: s.log }
    else s

def full (s : LabelContention) : Bool := (List.finRange kMaxLabels).all s.allocator.bitmap

/-- Every call in progress sees whether the bitmap is full now. -/
def observe (s : LabelContention) : LabelContention :=
  { s with calls := fun caller =>
      (s.calls caller).map fun call => { call with sawFull := call.sawFull || s.full } }

def step (s : LabelContention) (event : LabelEvent) : LabelContention := (s.perform event).observe

end LabelContention

/-! ### What the log must say -/

/-- Granted and not freed since. -/
def inUse : List LabelRecord → Label → Bool
  | [], _ => false
  | .granted _ label :: older, l => l = label || inUse older l
  | .freed label :: older, l => l ≠ label && inUse older l
  | .refused _ _ :: older, l => inUse older l

/-- No label is granted while it is in use. -/
def Exclusive : List LabelRecord → Prop
  | [] => True
  | .granted _ label :: older => inUse older label = false ∧ Exclusive older
  | _ :: older => Exclusive older

/-- Whoever is refused has seen every label in use. -/
def LabelRecord.Justified : LabelRecord → Prop
  | .refused _ sawFull => sawFull = true
  | _ => True

def Complete (log : List LabelRecord) : Prop := ∀ record ∈ log, record.Justified

instance decidableExclusive : ∀ log, Decidable (Exclusive log)
  | [] => isTrue trivial
  | .granted _ label :: older =>
    have := decidableExclusive older
    inferInstanceAs (Decidable (inUse older label = false ∧ Exclusive older))
  | .freed _ :: older => decidableExclusive older
  | .refused _ _ :: older => decidableExclusive older

instance : DecidablePred LabelRecord.Justified
  | .granted _ _ => isTrue trivial
  | .freed _ => isTrue trivial
  | .refused _ sawFull => inferInstanceAs (Decidable (sawFull = true))

instance (log : List LabelRecord) : Decidable (Complete log) :=
  inferInstanceAs (Decidable (∀ record ∈ log, record.Justified))

namespace LabelContention

variable {s : LabelContention} {caller : ℕ} {event : LabelEvent}

/-- A free label among the positions an `Allocate` from `start` still has to try. -/
def FreeAhead (bitmap : Label → Bool) (start : Label) (attempt : ℕ) : Prop :=
  ∃ j ∈ List.range kMaxLabels, attempt ≤ j ∧ bitmap (probe start j) = false

instance (bitmap : Label → Bool) (start : Label) (attempt : ℕ) :
    Decidable (FreeAhead bitmap start attempt) :=
  inferInstanceAs (Decidable (∃ j ∈ List.range kMaxLabels, _))

/-- An exchange that fails leaves a free label ahead of the call, or the call has seen the bitmap
full. -/
def FailsBeforeFree (s : LabelContention) : LabelEvent → Prop
  | .attempt caller spurious =>
    match s.calls caller with
    | some ⟨.scanning start snapshot attempt, sawFull⟩ =>
      snapshot (probe start attempt) = true ∨ s.Exchanges snapshot spurious ∨ sawFull = true ∨
        FreeAhead s.allocator.bitmap start (attempt + 1)
    | _ => True
  | _ => True

instance (s : LabelContention) : DecidablePred s.FailsBeforeFree := fun event => by
  unfold FailsBeforeFree
  split
  · split <;> infer_instance
  · infer_instance

/-! ### What the bitmap says -/

/-- The bitmap is the set of labels in use, and a full bitmap is seen by every call. -/
structure Tracked (s : LabelContention) : Prop where
  bitmap : ∀ l, s.allocator.bitmap l = inUse s.log l
  exclusive : Exclusive s.log

lemma tracked_nextAttempt (h : s.Tracked) (start : Label) (snapshot : Label → Bool) (attempt : ℕ)
    (sawFull : Bool) : (s.nextAttempt caller start snapshot attempt sawFull).Tracked := by
  unfold nextAttempt
  split
  · exact ⟨h.bitmap, h.exclusive⟩
  · exact ⟨h.bitmap, h.exclusive⟩

lemma tracked_tryLabel (h : s.Tracked) (start : Label) (snapshot : Label → Bool) (attempt : ℕ)
    (sawFull spurious : Bool) :
    (s.tryLabel caller start snapshot attempt sawFull spurious).Tracked := by
  simp only [tryLabel]
  split
  · exact tracked_nextAttempt h start snapshot attempt sawFull
  rename_i hidx
  split
  · rename_i hexchanges
    obtain ⟨-, hsnapshot⟩ := hexchanges
    have hfree : inUse s.log (probe start attempt) = false := by
      rw [← h.bitmap, hsnapshot]
      simpa using hidx
    refine ⟨fun l => ?_, hfree, h.exclusive⟩
    by_cases hl : l = probe start attempt
    · simp [inUse, hl]
    · simp [inUse, hl, ← hsnapshot, h.bitmap]
  · exact tracked_nextAttempt h start _ attempt sawFull

lemma tracked_step (h : s.Tracked) (event : LabelEvent) : (s.step event).Tracked := by
  suffices hperform : (s.perform event).Tracked from ⟨hperform.bitmap, hperform.exclusive⟩
  cases event with
  | allocate caller =>
    simp only [perform]
    split <;> exact ⟨h.bitmap, h.exclusive⟩
  | loadBitmap caller =>
    simp only [perform]
    split <;> exact ⟨h.bitmap, h.exclusive⟩
  | attempt caller spurious =>
    simp only [perform]
    split
    · exact tracked_tryLabel h _ _ _ _ spurious
    · exact h
  | storeCursor caller =>
    simp only [perform]
    split <;> exact ⟨h.bitmap, h.exclusive⟩
  | free label =>
    simp only [perform]
    split
    · rename_i hlabel
      refine ⟨fun l => ?_, h.exclusive⟩
      by_cases hl : l = ⟨label, hlabel⟩
      · simp [inUse, LabelAllocator.free, hl]
      · simp [inUse, LabelAllocator.free, hl, h.bitmap]
    · exact h

/-! ### What a call in progress has ahead -/

lemma exists_probe (start l : Label) : ∃ j < kMaxLabels, probe start j = l := by
  refine ⟨(l - start).val, (l - start).isLt, ?_⟩
  simp [probe]

lemma full_eq_true : s.full = true ↔ ∀ l, s.allocator.bitmap l = true := by simp [full]

/-- A bitmap that is not full has a free label ahead of a scan from the start. -/
lemma freeAhead_of_not_full (h : s.full = false) (start : Label) :
    FreeAhead s.allocator.bitmap start 0 := by
  have hsome : ∃ l, s.allocator.bitmap l = false := by
    by_contra hnone
    push Not at hnone
    rw [full_eq_true.mpr fun l => by simpa using hnone l] at h
    cases h
  obtain ⟨l, hl⟩ := hsome
  obtain ⟨j, hj, rfl⟩ := exists_probe start l
  exact ⟨j, List.mem_range.mpr hj, Nat.zero_le j, hl⟩

lemma FreeAhead.succ {bitmap : Label → Bool} {start : Label} {attempt : ℕ}
    (h : FreeAhead bitmap start attempt) (hused : bitmap (probe start attempt) = true) :
    FreeAhead bitmap start (attempt + 1) := by
  obtain ⟨j, hj, hle, hfree⟩ := h
  have hne : attempt ≠ j := by
    rintro rfl
    rw [hused] at hfree
    cases hfree
  exact ⟨j, hj, by omega, hfree⟩

lemma FreeAhead.lt {bitmap : Label → Bool} {start : Label} {attempt : ℕ}
    (h : FreeAhead bitmap start attempt) : attempt < kMaxLabels := by
  obtain ⟨j, hj, hle, -⟩ := h
  exact lt_of_le_of_lt hle (List.mem_range.mp hj)

end LabelContention

/-- A scan that has seen no full bitmap has a free label ahead in its snapshot. -/
def AllocateCall.Hopeful (call : AllocateCall) : Prop :=
  match call.pc with
  | .scanning start snapshot attempt =>
    call.sawFull = true ∨ LabelContention.FreeAhead snapshot start attempt
  | _ => True

namespace LabelContention

variable {s : LabelContention} {caller : ℕ} {event : LabelEvent}

/-- Every refusal so far was justified, and no call in progress is about to be refused wrongly. -/
structure Promising (s : LabelContention) : Prop where
  complete : Complete s.log
  hopeful : ∀ caller call, s.calls caller = some call → call.Hopeful

/-- The calls in progress know that the bitmap is full. -/
def Seen (s : LabelContention) : Prop :=
  s.full = true → ∀ caller call, s.calls caller = some call → call.sawFull = true

lemma Promising.setCall (h : s.Promising) {call : Option AllocateCall}
    (hcall : ∀ call' ∈ call, call'.Hopeful) : (s.setCall caller call).Promising := by
  refine ⟨h.complete, fun c call' hget => ?_⟩
  by_cases hc : c = caller
  · subst hc
    exact hcall call' (by simpa [LabelContention.setCall] using hget)
  · exact h.hopeful c call' (by simpa [LabelContention.setCall, hc] using hget)

lemma Promising.nextAttempt (h : s.Promising) {start : Label} {snapshot : Label → Bool}
    {attempt : ℕ} {sawFull : Bool}
    (hahead : sawFull = true ∨ FreeAhead snapshot start (attempt + 1)) :
    (s.nextAttempt caller start snapshot attempt sawFull).Promising := by
  unfold LabelContention.nextAttempt
  split
  · exact h.setCall (by simpa [AllocateCall.Hopeful] using hahead)
  · rename_i hlast
    have hsaw : sawFull = true := hahead.resolve_right fun hfree => hlast hfree.lt
    refine ⟨?_, (h.setCall (by simp)).hopeful⟩
    intro record hrecord
    obtain rfl | hold := List.mem_cons.mp hrecord
    · exact hsaw
    · exact h.complete record hold

lemma Promising.tryLabel (h : s.Promising) {start : Label} {snapshot : Label → Bool}
    {attempt : ℕ} {sawFull spurious : Bool}
    (hcall : s.calls caller = some ⟨.scanning start snapshot attempt, sawFull⟩)
    (hfails : s.FailsBeforeFree (.attempt caller spurious)) :
    (s.tryLabel caller start snapshot attempt sawFull spurious).Promising := by
  have hahead : sawFull = true ∨ FreeAhead snapshot start attempt := h.hopeful caller _ hcall
  simp only [FailsBeforeFree, hcall] at hfails
  simp only [LabelContention.tryLabel]
  split
  · rename_i hused
    exact h.nextAttempt (hahead.imp_right fun hfree => hfree.succ hused)
  rename_i hfree
  split
  · refine ⟨?_, (h.setCall (by simp [AllocateCall.Hopeful])).hopeful⟩
    intro record hrecord
    obtain rfl | hold := List.mem_cons.mp hrecord
    · trivial
    · exact h.complete record hold
  · rename_i hfailed
    exact h.nextAttempt ((hfails.resolve_left hfree).resolve_left hfailed)

lemma Promising.perform (h : s.Promising) (hseen : s.Seen) (hfails : s.FailsBeforeFree event) :
    (s.perform event).Promising := by
  cases event with
  | allocate caller =>
    simp only [LabelContention.perform]
    split
    · exact h.setCall (by simp [AllocateCall.Hopeful])
    · exact h
  | loadBitmap caller =>
    simp only [LabelContention.perform]
    split
    · rename_i start sawFull hcall
      apply h.setCall
      simp only [Option.mem_some_iff, forall_eq', AllocateCall.Hopeful]
      by_cases hfull : s.full = true
      · exact Or.inl (hseen hfull caller _ hcall)
      · exact Or.inr (freeAhead_of_not_full (by simpa using hfull) start)
    · exact h
  | attempt caller spurious =>
    simp only [LabelContention.perform]
    split
    · rename_i start snapshot attempt sawFull hcall
      exact h.tryLabel hcall hfails
    · exact h
  | storeCursor caller =>
    simp only [LabelContention.perform]
    split
    · have hset : (s.setCall caller none).Promising := h.setCall (by simp)
      exact ⟨hset.complete, hset.hopeful⟩
    · exact h
  | free label =>
    simp only [LabelContention.perform]
    split
    · refine ⟨?_, h.hopeful⟩
      intro record hrecord
      obtain rfl | hold := List.mem_cons.mp hrecord
      · trivial
      · exact h.complete record hold
    · exact h

lemma seen_observe (s : LabelContention) : s.observe.Seen := by
  intro hfull caller call hcall
  obtain ⟨before, -, rfl⟩ := Option.map_eq_some_iff.mp hcall
  have hnow : s.full = true := hfull
  simp [hnow]

lemma Promising.observe (h : s.Promising) : s.observe.Promising := by
  refine ⟨h.complete, fun caller call hcall => ?_⟩
  obtain ⟨⟨pc, sawFull⟩, hbefore, rfl⟩ := Option.map_eq_some_iff.mp hcall
  have hhopeful := h.hopeful caller _ hbefore
  cases pc with
  | loadedCursor start => trivial
  | storing idx => trivial
  | scanning start snapshot attempt =>
    exact hhopeful.imp_left fun hsaw : sawFull = true => by simp [hsaw]

/-! ### Runs -/

/-- What holds after any run of the condition. -/
structure Inv (s : LabelContention) : Prop where
  tracked : s.Tracked
  promising : s.Promising
  seen : s.Seen

lemma inv_initial : Inv {} where
  tracked := ⟨fun _ => rfl, trivial⟩
  promising := ⟨by simp [Complete], by simp⟩
  seen := by simp [Seen]

lemma Inv.step (h : s.Inv) (hfails : s.FailsBeforeFree event) : (s.step event).Inv :=
  ⟨tracked_step h.tracked event, (h.promising.perform h.seen hfails).observe, seen_observe _⟩

/-- The claim of a run's log: labels are exclusive and refusals are justified. -/
def Sound (s : LabelContention) : Prop := Exclusive s.log ∧ Complete s.log

instance (s : LabelContention) : Decidable s.Sound :=
  inferInstanceAs (Decidable (Exclusive s.log ∧ Complete s.log))

/-- Exclusion does not depend on which exchanges fail. -/
theorem exclusive_run (events : List LabelEvent) : Exclusive (run step {} events).log :=
  (invariant_run (I := Tracked) (fun _ e hs => tracked_step hs e) inv_initial.tracked events).exclusive

/-- However calls of `Allocate` and `Free` interleave and whichever exchanges fail: as long as no
failed exchange passes the last free label, no label is granted twice and every refused caller has
seen all labels in use, at every moment of the run. -/
theorem sound_of_failsBeforeFree (events : List LabelEvent)
    (h : Meets step FailsBeforeFree {} events) (k : ℕ) : (run step {} (events.take k)).Sound := by
  have hinv := invariant_run_of_meets (I := Inv) (fun s e hs he => hs.step he) inv_initial (h.take k)
  exact ⟨hinv.tracked.exclusive, hinv.promising.complete⟩

/-- Two callers at once: the second one's first exchange fails and its next one takes label 1. -/
def twoCallers : List LabelEvent :=
  [.allocate 0, .loadBitmap 0, .allocate 1, .loadBitmap 1, .attempt 0 false, .attempt 1 false,
    .storeCursor 0, .attempt 1 false, .storeCursor 1, .free 0]

theorem twoCallers_sound : Meets step FailsBeforeFree {} twoCallers ∧
    (run step {} (twoCallers.take 10)).Sound := by
  have hmeets : Meets step FailsBeforeFree {} twoCallers := by decide +kernel
  exact ⟨hmeets, sound_of_failsBeforeFree twoCallers hmeets 10⟩

/-- A single caller on an empty bitmap whose 64 exchanges all fail spuriously is refused. -/
theorem not_sound_spurious : ¬ ∀ (events : List LabelEvent) (k : ℕ),
    (run step {} (events.take k)).Sound := by
  intro h
  have hspurious := h (.allocate 0 :: .loadBitmap 0 :: List.replicate 64 (.attempt 0 true)) 66
  revert hspurious
  decide +kernel

/-! ### A call that nobody disturbs -/

lemma observe_of_seen (h : s.Seen) : s.observe = s := by
  have hcalls : s.observe.calls = s.calls := by
    funext caller
    cases hget : s.calls caller with
    | none => simp [LabelContention.observe, hget]
    | some call =>
      cases hfull : s.full with
      | false => simp [LabelContention.observe, hget, hfull]
      | true =>
        have hsaw := h hfull caller call hget
        obtain ⟨pc, sawFull⟩ := call
        simpa [LabelContention.observe, hget, hfull] using hsaw.symm
  obtain ⟨allocator, calls, log⟩ := s
  simpa [LabelContention.observe] using hcalls

lemma seen_setCall (h : s.Seen) {call : Option AllocateCall}
    (hcall : ∀ call' ∈ call, s.full = true → call'.sawFull = true) : (s.setCall caller call).Seen := by
  intro hfull c call' hget
  by_cases hc : c = caller
  · subst hc
    exact hcall call' (by simpa [LabelContention.setCall] using hget) hfull
  · exact h hfull c call' (by simpa [LabelContention.setCall, hc] using hget)

lemma seen_nextAttempt (h : s.Seen) (caller : ℕ) (start : Label) (snapshot : Label → Bool)
    (attempt : ℕ) (sawFull : Bool) (hsaw : s.full = true → sawFull = true) :
    (s.nextAttempt caller start snapshot attempt sawFull).Seen := by
  unfold LabelContention.nextAttempt
  split
  · exact seen_setCall h (by simpa using hsaw)
  · have hnone : (s.setCall caller none).Seen := seen_setCall h (by simp)
    exact hnone

/-- An iteration on a label in use. -/
lemma step_attempt_used {start : Label} {snapshot : Label → Bool} {attempt : ℕ} {sawFull : Bool}
    (hseen : s.Seen) (hcall : s.calls caller = some ⟨.scanning start snapshot attempt, sawFull⟩)
    (hused : snapshot (probe start attempt) = true) (spurious : Bool) :
    s.step (.attempt caller spurious) = s.nextAttempt caller start snapshot attempt sawFull := by
  simp only [LabelContention.step, LabelContention.perform, hcall, LabelContention.tryLabel, hused,
    if_true]
  exact observe_of_seen (seen_nextAttempt hseen caller start snapshot attempt sawFull fun hfull =>
    hseen hfull caller _ hcall)

lemma refused_of_used (caller : ℕ) (start : Label) (snapshot : Label → Bool) (sawFull : Bool) :
    ∀ (n attempt : ℕ) (s : LabelContention), attempt + n + 1 = kMaxLabels → s.Seen →
      s.calls caller = some ⟨.scanning start snapshot attempt, sawFull⟩ →
      (∀ j, attempt ≤ j → j < kMaxLabels → snapshot (probe start j) = true) →
      run step s (List.replicate (n + 1) (.attempt caller false)) =
        { s.setCall caller none with log := .refused caller sawFull :: s.log } := by
  intro n
  induction n with
  | zero =>
    intro attempt s hn hseen hcall hused
    rw [List.replicate_one, run_cons, run_nil,
      step_attempt_used hseen hcall (hused attempt le_rfl (by omega))]
    exact if_neg (by omega)
  | succ n ih =>
    intro attempt s hn hseen hcall hused
    rw [List.replicate_succ, run_cons, step_attempt_used hseen hcall (hused attempt le_rfl (by omega))]
    have hnext := seen_nextAttempt hseen caller start snapshot attempt sawFull fun hfull =>
      hseen hfull caller _ hcall
    rw [LabelContention.nextAttempt, if_pos (by omega)] at hnext ⊢
    rw [ih (attempt + 1) _ (by omega) hnext (by simp [LabelContention.setCall])
      fun j hj => hused j (by omega)]
    simp [LabelContention.setCall]

/-- The condition leaves out nothing else: a call whose exchange fails with no free label ahead and
no full bitmap seen is refused, left alone, although a label is free all the while. -/
theorem refused_of_not_failsBeforeFree (hseen : s.Seen) {spurious : Bool}
    (hfails : ¬ s.FailsBeforeFree (.attempt caller spurious)) :
    ∃ attempts, (run step s (.attempt caller spurious :: List.replicate attempts (.attempt caller false))).log =
      .refused caller false :: s.log ∧ s.full = false := by
  simp only [FailsBeforeFree] at hfails
  split at hfails
  case h_2 => exact absurd trivial hfails
  rename_i start snapshot attempt sawFull hcall
  simp only [not_or] at hfails
  obtain ⟨hfree, hexchanges, hsaw, hahead⟩ := hfails
  have hsawFalse : sawFull = false := by simpa using hsaw
  subst hsawFalse
  have hfull : s.full = false := by
    cases hfull : s.full with
    | false => rfl
    | true => cases hseen hfull caller _ hcall
  have hstep : s.step (.attempt caller spurious) =
      s.nextAttempt caller start s.allocator.bitmap attempt false := by
    simp only [LabelContention.step, LabelContention.perform, hcall, LabelContention.tryLabel, hfree,
      hexchanges, if_false]
    exact observe_of_seen (seen_nextAttempt hseen caller start _ attempt false (by simp [hfull]))
  have hnext := seen_nextAttempt hseen caller start s.allocator.bitmap attempt false (by simp [hfull])
  have hused : ∀ j, attempt + 1 ≤ j → j < kMaxLabels → s.allocator.bitmap (probe start j) = true := by
    intro j hj hlt
    by_contra hunused
    exact hahead ⟨j, List.mem_range.mpr hlt, hj, by simpa using hunused⟩
  by_cases hlast : attempt + 1 < kMaxLabels
  · refine ⟨kMaxLabels - (attempt + 1) - 1 + 1, ?_, hfull⟩
    rw [run_cons, hstep]
    rw [LabelContention.nextAttempt, if_pos hlast] at hnext ⊢
    rw [refused_of_used caller start s.allocator.bitmap false _ (attempt + 1) _ (by omega) hnext
      (by simp [LabelContention.setCall]) hused]
    simp [LabelContention.setCall]
  · refine ⟨0, ?_, hfull⟩
    rw [run_cons, hstep, LabelContention.nextAttempt, if_neg hlast]
    rfl

lemma attempts_drop (start : Label) {attempt : ℕ} (h : attempt < kMaxLabels) :
    (attempts start).drop attempt = probe start attempt :: (attempts start).drop (attempt + 1) := by
  have hlength : attempt < (attempts start).length := by simpa [attempts] using h
  rw [List.drop_eq_getElem_cons hlength]
  congr 1
  simp only [attempts, List.getElem_map, List.getElem_finRange, probe]
  congr 1
  ext
  simp [Nat.mod_eq_of_lt h]

/-- The exchange has been made: later attempts of the call are none. -/
lemma attempts_after_grant {idx : Label} : ∀ (n : ℕ) (s : LabelContention) (sawFull : Bool),
    s.calls caller = some ⟨.storing idx, sawFull⟩ →
    ∃ sawFull', (run step s (List.replicate n (.attempt caller false))).calls caller =
        some ⟨.storing idx, sawFull'⟩ ∧
      (run step s (List.replicate n (.attempt caller false))).allocator = s.allocator ∧
      (run step s (List.replicate n (.attempt caller false))).log = s.log := by
  intro n
  induction n with
  | zero =>
    intro s sawFull hcall
    exact ⟨sawFull, hcall, rfl, rfl⟩
  | succ n ih =>
    intro s sawFull hcall
    have hstep : s.step (.attempt caller false) = s.observe := by
      simp only [LabelContention.step, LabelContention.perform, hcall]
    have hobserved : s.observe.calls caller = some ⟨.storing idx, sawFull || s.full⟩ := by
      simp [LabelContention.observe, hcall]
    rw [List.replicate_succ, run_cons, hstep]
    exact ih s.observe _ hobserved

lemma attempts_of_free {start : Label} {attempt : ℕ} {sawFull : Bool} (n : ℕ)
    (hcall : s.calls caller = some ⟨.scanning start s.allocator.bitmap attempt, sawFull⟩)
    (hfree : s.allocator.bitmap (probe start attempt) = false) :
    ∃ sawFull', (run step s (List.replicate (n + 1) (.attempt caller false))).calls caller =
        some ⟨.storing (probe start attempt), sawFull'⟩ ∧
      (run step s (List.replicate (n + 1) (.attempt caller false))).allocator = { s.allocator with
        bitmap := Function.update s.allocator.bitmap (probe start attempt) true } ∧
      (run step s (List.replicate (n + 1) (.attempt caller false))).log =
        .granted caller (probe start attempt) :: s.log := by
  rw [List.replicate_succ, run_cons]
  have hperform : s.perform (.attempt caller false) = {
      s.setCall caller (some ⟨.storing (probe start attempt), sawFull⟩) with
      allocator := { s.allocator with
        bitmap := Function.update s.allocator.bitmap (probe start attempt) true }
      log := .granted caller (probe start attempt) :: s.log } := by
    simp [LabelContention.perform, hcall, LabelContention.tryLabel, hfree, Exchanges]
  have hstored : ∃ sawFull', (s.step (.attempt caller false)).calls caller =
      some ⟨.storing (probe start attempt), sawFull'⟩ := by
    simp [LabelContention.step, hperform, LabelContention.observe, LabelContention.setCall]
  obtain ⟨_, hstored⟩ := hstored
  obtain ⟨sawFull', hlater, hallocator, hlog⟩ := attempts_after_grant n _ _ hstored
  refine ⟨sawFull', hlater, hallocator.trans ?_, hlog.trans ?_⟩
  · simp [LabelContention.step, hperform, LabelContention.observe]
  · simp [LabelContention.step, hperform, LabelContention.observe]

/-- The loop of a call that nobody disturbs takes the first free label ahead. -/
lemma attempts_alone {start : Label} {sawFull : Bool} : ∀ (n attempt : ℕ) (s : LabelContention),
    attempt + n + 1 = kMaxLabels → s.Seen →
    s.calls caller = some ⟨.scanning start s.allocator.bitmap attempt, sawFull⟩ →
    let s' := run step s (List.replicate (n + 1) (.attempt caller false))
    match ((attempts start).drop attempt).find? fun idx => !s.allocator.bitmap idx with
    | none => s'.allocator = s.allocator ∧ s'.calls caller = none ∧
        s'.log = .refused caller sawFull :: s.log
    | some idx => s'.allocator =
          { s.allocator with bitmap := Function.update s.allocator.bitmap idx true } ∧
        (∃ sawFull', s'.calls caller = some ⟨.storing idx, sawFull'⟩) ∧
        s'.log = .granted caller idx :: s.log := by
  intro n
  induction n with
  | zero =>
    intro attempt s hn hseen hcall
    rw [attempts_drop start (by omega)]
    cases hused : s.allocator.bitmap (probe start attempt) with
    | false =>
      obtain ⟨sawFull', hstored, hallocator, hlog⟩ := attempts_of_free 0 hcall hused
      simp only [List.find?_cons, hused, Bool.not_false]
      exact ⟨hallocator, ⟨sawFull', hstored⟩, hlog⟩
    | true =>
      have hnone : (attempts start).drop (attempt + 1) = [] :=
        List.drop_eq_nil_of_le (by simp [attempts]; omega)
      simp only [List.find?_cons, hused, Bool.not_true, hnone, List.find?_nil]
      rw [List.replicate_one, run_cons, run_nil, step_attempt_used hseen hcall hused,
        LabelContention.nextAttempt, if_neg (by omega)]
      simp [LabelContention.setCall]
  | succ n ih =>
    intro attempt s hn hseen hcall
    rw [attempts_drop start (by omega)]
    cases hused : s.allocator.bitmap (probe start attempt) with
    | false =>
      obtain ⟨sawFull', hstored, hallocator, hlog⟩ := attempts_of_free (n + 1) hcall hused
      simp only [List.find?_cons, hused, Bool.not_false]
      exact ⟨hallocator, ⟨sawFull', hstored⟩, hlog⟩
    | true =>
      simp only [List.find?_cons, hused, Bool.not_true]
      have hnext := seen_nextAttempt hseen caller start s.allocator.bitmap attempt sawFull
        fun hfull => hseen hfull caller _ hcall
      rw [List.replicate_succ, run_cons, step_attempt_used hseen hcall hused]
      rw [LabelContention.nextAttempt, if_pos (by omega)] at hnext ⊢
      exact ih (attempt + 1) _ (by omega) hnext (by simp [LabelContention.setCall])

/-- The accesses of one `Allocate`, none between them. -/
def aloneCall (caller : ℕ) : List LabelEvent :=
  .allocate caller :: .loadBitmap caller ::
    (List.replicate kMaxLabels (.attempt caller false) ++ [.storeCursor caller])

lemma observe_setCall (h : s.Seen) (pc : AllocatePc) (sawFull : Bool) :
    (s.setCall caller (some ⟨pc, sawFull⟩)).observe =
      s.setCall caller (some ⟨pc, sawFull || s.full⟩) := by
  have hcalls : (s.setCall caller (some ⟨pc, sawFull⟩)).observe.calls =
      (s.setCall caller (some ⟨pc, sawFull || s.full⟩)).calls := by
    have hsame : s.observe.calls = s.calls := by rw [observe_of_seen h]
    funext c
    by_cases hc : c = caller
    · subst hc
      simp [LabelContention.observe, LabelContention.setCall, full]
    · simpa [LabelContention.observe, LabelContention.setCall, full, hc] using congrFun hsame c
  simpa [LabelContention.observe, LabelContention.setCall] using hcalls

/-- A call that nobody disturbs does what the allocator does in one step. -/
theorem run_aloneCall (hseen : s.Seen) (hidle : s.calls caller = none) :
    (run step s (aloneCall caller)).allocator = s.allocator.allocate.1 ∧
      (run step s (aloneCall caller)).calls caller = none ∧
      (run step s (aloneCall caller)).log = (match s.allocator.allocate.2 with
        | none => .refused caller true
        | some idx => .granted caller idx) :: s.log := by
  have hbegin : s.step (.allocate caller) =
      s.setCall caller (some ⟨.loadedCursor s.allocator.nextLabel, s.full⟩) := by
    simp only [LabelContention.step, LabelContention.perform, hidle, observe_setCall hseen, Bool.false_or]
  have hseenBegun : (s.setCall caller
      (some ⟨.loadedCursor s.allocator.nextLabel, s.full⟩)).Seen := seen_setCall hseen (by simp)
  set t := s.setCall caller (some ⟨.scanning s.allocator.nextLabel s.allocator.bitmap 0, s.full⟩)
    with ht
  have hload : (s.setCall caller (some ⟨.loadedCursor s.allocator.nextLabel, s.full⟩)).step
      (.loadBitmap caller) = t := by
    have hperform : (s.setCall caller (some ⟨.loadedCursor s.allocator.nextLabel, s.full⟩)).perform
        (.loadBitmap caller) = t := by
      simp [LabelContention.perform, LabelContention.setCall, ht]
    rw [LabelContention.step, hperform, ht, observe_setCall hseen, Bool.or_self]
  have hseenLoaded : t.Seen := seen_setCall hseen (by simp)
  have hcall : t.calls caller =
      some ⟨.scanning s.allocator.nextLabel t.allocator.bitmap 0, s.full⟩ := by
    simp [ht, LabelContention.setCall]
  have hloop := attempts_alone (kMaxLabels - 1) 0 t rfl hseenLoaded hcall
  have hcount : kMaxLabels - 1 + 1 = kMaxLabels := rfl
  rw [hcount] at hloop
  rw [aloneCall, run_cons, run_cons, hbegin, hload, run_append]
  rw [List.drop_zero] at hloop
  have hallocator : t.allocator = s.allocator := rfl
  have hlog : t.log = s.log := rfl
  rw [hallocator] at hloop
  unfold LabelAllocator.allocate
  generalize run step t (List.replicate kMaxLabels (.attempt caller false)) = looped at hloop ⊢
  have hlast : run step looped [.storeCursor caller] = looped.step (.storeCursor caller) := rfl
  rw [hlast]
  cases hfind : (attempts s.allocator.nextLabel).find? fun idx => !s.allocator.bitmap idx with
  | none =>
    rw [hfind] at hloop
    obtain ⟨hsame, hdone, hrefused⟩ := hloop
    have hfull : s.full = true := full_eq_true.mpr fun l => by
      simpa using List.find?_eq_none.mp hfind l (mem_attempts _ l)
    rw [hfull] at hrefused
    have hidleStep : looped.perform (.storeCursor caller) = looped := by
      rw [LabelContention.perform, hdone]
    rw [LabelContention.step, hidleStep]
    refine ⟨hsame, ?_, hrefused⟩
    simp [LabelContention.observe, hdone]
  | some idx =>
    rw [hfind] at hloop
    obtain ⟨hsame, ⟨sawFull, hstoring⟩, hgranted⟩ := hloop
    have hstore : looped.perform (.storeCursor caller) = { looped.setCall caller none with
        allocator := { looped.allocator with nextLabel := idx + 1 } } := by
      rw [LabelContention.perform, hstoring]
    rw [LabelContention.step, hstore]
    refine ⟨?_, ?_, hgranted⟩
    · simp [LabelContention.observe, hsame]
    · simp [LabelContention.observe, LabelContention.setCall]

theorem run_aloneCall_initial :
    (run step {} (aloneCall 0)).log = [.granted 0 0] :=
  (run_aloneCall inv_initial.seen rfl).2.2.trans (by decide +kernel)

end LabelContention

end ASFireWire.Async
