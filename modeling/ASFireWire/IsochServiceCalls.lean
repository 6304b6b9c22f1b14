import ASFireWire.IsochService

/-! What each call on the isochronous service does to the contexts, and to the flag that tells the
hardware whether one of them runs. -/
namespace ASFireWire.Isoch

section Loops

variable {C : Type} {running : C → Bool} {channel : C → ℕ} {start stop : ℕ → C → C × KernReturn}
  {ready : ℕ → C → Prop} {answer : ℕ → KernReturn} {streams : List ℕ} {table : ℕ → Option C}

/-! ### Starting and stopping the contexts of a direction -/

/-- What a context's start does: it succeeds on a ready context, which then runs; a failure leaves
it as it was. -/
structure Starts (running : C → Bool) (channel : C → ℕ) (start : ℕ → C → C × KernReturn)
    (ready : ℕ → C → Prop) : Prop where
  success : ∀ i c, (start i c).2 = .success ↔ ready i c
  runs : ∀ i c, ready i c → running (start i c).1 = true ∧ channel (start i c).1 = channel c
  fails : ∀ i c, ¬ ready i c → (start i c).1 = c

def AllReady (ready : ℕ → C → Prop) (streams : List ℕ) (table : ℕ → Option C) : Prop :=
  ∀ i ∈ streams, ∀ c, table i = some c → ready i c

/-- Starting creates and drops no context. -/
lemma startEach_isSome (i : ℕ) :
    ((startEach start streams table).1 i).isSome = (table i).isSome := by
  induction streams generalizing table with
  | nil => rfl
  | cons j streams ih =>
    unfold startEach
    cases hj : table j with
    | none => exact ih
    | some c =>
      have hkept : (Function.update table j (some (start j c).1) i).isSome = (table i).isSome := by
        by_cases hi : i = j
        · simp [hi, hj]
        · simp [hi]
      dsimp only
      split_ifs
      · exact hkept
      · rw [ih, hkept]

/-- Every context is stopped, whatever becomes of the others. -/
lemma stopEach_eq (hnodup : streams.Nodup) (i : ℕ) :
    (stopEach stop streams table).1 i =
      if i ∈ streams then (table i).map fun c => (stop i c).1 else table i := by
  induction streams generalizing table with
  | nil => simp [stopEach]
  | cons j streams ih =>
    obtain ⟨hnot, hrest⟩ := List.nodup_cons.mp hnodup
    unfold stopEach
    cases hj : table j with
    | none =>
      rw [ih hrest]
      by_cases hi : i = j
      · simp [hi, hj, hnot]
      · simp [hi]
    | some c =>
      dsimp only
      rw [ih hrest]
      by_cases hi : i = j
      · simp [hi, hj, hnot]
      · simp [hi]

lemma stopEach_isSome (hnodup : streams.Nodup) (i : ℕ) :
    ((stopEach stop streams table).1 i).isSome = (table i).isSome := by
  rw [stopEach_eq hnodup]
  split_ifs
  · exact Option.isSome_map
  · rfl

/-- The master's context and then the others, as `StartPrepared*` starts them. -/
def startPrepared (start : ℕ → C → C × KernReturn) (table : ℕ → Option C) :
    (ℕ → Option C) × KernReturn :=
  match table 0 with
  | none => (table, .notReady)
  | some c =>
    let (c, status) := start 0 c
    let table := Function.update table 0 (some c)
    if status ≠ .success then (table, status)
    else startEach start IsochService.secondaries table

lemma streams_nodup : IsochService.streams.Nodup := by decide

lemma startPrepared_isSome (i : ℕ) :
    ((startPrepared start table).1 i).isSome = (table i).isSome := by
  unfold startPrepared
  cases hc : table 0 with
  | none => rfl
  | some c =>
    have hkept : (Function.update table 0 (some (start 0 c).1) i).isSome = (table i).isSome := by
      by_cases hi : i = 0
      · simp [hi, hc]
      · simp [hi]
    dsimp only
    split_ifs
    · exact hkept
    · rw [startEach_isSome, hkept]

end Loops

/-! ### The two kinds of context -/

def ReceiveReady (a : HardwareAnswers) (i : ℕ) (c : IsochReceiveContext) : Prop :=
  c.running = false ∧ a.startReceive i = .success

def TransmitReady (a : HardwareAnswers) (i : ℕ) (c : IsochTransmitContext) : Prop :=
  (c.state = .configured ∨ c.state = .stopped) ∧ a.startTransmit i = .success

lemma receive_starts (a : HardwareAnswers) :
    Starts IsochReceiveContext.running IsochReceiveContext.channel
      (fun i => IsochReceiveContext.start (a.startReceive i)) (ReceiveReady a) := by
  constructor <;> intro i c
  · unfold IsochReceiveContext.start ReceiveReady
    split_ifs <;> simp_all
  · rintro ⟨hstopped, hanswer⟩
    simp [IsochReceiveContext.start, hstopped, hanswer]
  · intro hnot
    unfold IsochReceiveContext.start
    unfold ReceiveReady at hnot
    split_ifs <;> simp_all

lemma transmit_starts (a : HardwareAnswers) :
    Starts IsochTransmitContext.running IsochTransmitContext.channel
      (fun i => IsochTransmitContext.start (a.startTransmit i)) (TransmitReady a) := by
  constructor <;> intro i c
  · unfold IsochTransmitContext.start TransmitReady
    split_ifs <;> simp_all
    tauto
  · rintro ⟨hstate, hanswer⟩
    have hnot : ¬ (c.state ≠ .configured ∧ c.state ≠ .stopped) := by tauto
    simp [IsochTransmitContext.start, hnot, hanswer, IsochTransmitContext.running]
  · intro hnot
    unfold IsochTransmitContext.start
    unfold TransmitReady at hnot
    split_ifs <;> simp_all

namespace IsochService

variable {s s' : IsochService}

/-! ### What every call keeps -/

/-- Only the four streams have contexts; without the hardware set there are none and the flag was
never raised. -/
structure Tidy (s : IsochService) : Prop where
  receive : ∀ i, (s.receive i).isSome = true → i ∈ streams
  transmit : ∀ i, (s.transmit i).isSome = true → i ∈ streams
  hardware : ∀ i, (s.receive i).isSome = true ∨ (s.transmit i).isSome = true → s.hardware = true
  idle : s.streamingActive = true → s.hardware = true

lemma Tidy.of_isSome (h : Tidy s) (hreceive : ∀ i, (s'.receive i).isSome = (s.receive i).isSome)
    (htransmit : ∀ i, (s'.transmit i).isSome = (s.transmit i).isSome)
    (hhardware : s.hardware = true → s'.hardware = true)
    (hflag : s'.streamingActive = s.streamingActive) : Tidy s' where
  receive i hi := h.receive i (hreceive i ▸ hi)
  transmit i hi := h.transmit i (htransmit i ▸ hi)
  hardware i hi := hhardware (h.hardware i (by rwa [hreceive, htransmit] at hi))
  idle hactive := hhardware (h.idle (hflag ▸ hactive))

lemma Tidy.withReceive (h : Tidy s) {table : ℕ → Option IsochReceiveContext}
    (htable : ∀ i, (table i).isSome = (s.receive i).isSome) : Tidy { s with receive := table } :=
  h.of_isSome htable (fun _ => rfl) id rfl

lemma Tidy.withTransmit (h : Tidy s) {table : ℕ → Option IsochTransmitContext}
    (htable : ∀ i, (table i).isSome = (s.transmit i).isSome) :
    Tidy { s with transmit := table } :=
  h.of_isSome (fun _ => rfl) htable id rfl

/-- The flag agrees with the contexts. -/
def Active (s : IsochService) : Prop := s.streamingActive = s.anyRunning

lemma anyRunning_congr
    (hreceive : ∀ i ∈ streams, (s'.receive i).any (·.running) = (s.receive i).any (·.running))
    (htransmit : ∀ i ∈ streams, (s'.transmit i).any (·.running) = (s.transmit i).any (·.running)) :
    s'.anyRunning = s.anyRunning := by
  unfold anyRunning
  rw [Bool.eq_iff_iff, List.any_eq_true, List.any_eq_true]
  apply exists_congr
  intro i
  apply and_congr_right
  intro hi
  rw [hreceive i hi, htransmit i hi]

lemma anyRunning_iff : s.anyRunning = true ↔ ∃ i ∈ streams,
    (s.receive i).any (·.running) = true ∨ (s.transmit i).any (·.running) = true := by
  simp only [anyRunning, List.any_eq_true, Bool.or_eq_true]

lemma Active.of_running (h : Active s) (hflag : s'.streamingActive = s.streamingActive)
    (hreceive : ∀ i ∈ streams, (s'.receive i).any (·.running) = (s.receive i).any (·.running))
    (htransmit : ∀ i ∈ streams, (s'.transmit i).any (·.running) = (s.transmit i).any (·.running)) :
    Active s' := by
  unfold Active
  rw [hflag, anyRunning_congr hreceive htransmit]
  exact h

lemma updateStreamingActiveState_frame (s : IsochService) :
    s.updateStreamingActiveState.receive = s.receive ∧
      s.updateStreamingActiveState.transmit = s.transmit ∧
      s.updateStreamingActiveState.hardware = s.hardware ∧
      s.updateStreamingActiveState.receiveConsumers = s.receiveConsumers := by
  unfold updateStreamingActiveState
  split <;> exact ⟨rfl, rfl, rfl, rfl⟩

lemma Tidy.update (h : Tidy s) : Tidy s.updateStreamingActiveState := by
  obtain ⟨hreceive, htransmit, hhardware, -⟩ := updateStreamingActiveState_frame s
  constructor
  · rw [hreceive]
    exact h.receive
  · rw [htransmit]
    exact h.transmit
  · rw [hreceive, htransmit, hhardware]
    exact h.hardware
  · rw [hhardware]
    intro hactive
    by_contra hnot
    rw [updateStreamingActiveState, if_pos (by simpa using hnot)] at hactive
    exact hnot (h.idle hactive)

lemma Tidy.anyRunning_eq_false (h : Tidy s) (hhardware : s.hardware = false) :
    s.anyRunning = false := by
  rw [Bool.eq_false_iff, ne_eq, anyRunning_iff]
  rintro ⟨i, -, hi⟩
  have hset := h.hardware i (hi.imp (fun hr => Option.isSome_of_any hr)
    (fun ht => Option.isSome_of_any ht))
  rw [hhardware] at hset
  cases hset

/-- Refreshing the flag brings it in line with the contexts. -/
lemma Tidy.active_update (h : Tidy s) : Active s.updateStreamingActiveState := by
  cases hhardware : s.hardware with
  | true =>
    simp only [updateStreamingActiveState, hhardware, Bool.not_true, Bool.false_eq_true, if_false,
      Active]
    rfl
  | false =>
    simp only [updateStreamingActiveState, hhardware, Bool.not_false, if_true, Active]
    rw [h.anyRunning_eq_false hhardware, Bool.eq_false_iff]
    intro hactive
    have hset := h.idle hactive
    rw [hhardware] at hset
    cases hset

/-! ### Preparing -/

lemma configure_running (c : IsochReceiveContext) (channel contextIndex : ℕ)
    (setupRings : KernReturn) :
    (c.configure channel contextIndex setupRings).1.running = c.running := by
  unfold IsochReceiveContext.configure
  split_ifs <;> rfl

lemma configure_channel (c : IsochReceiveContext) {channel contextIndex : ℕ}
    {setupRings : KernReturn} (h : (c.configure channel contextIndex setupRings).2 = .success) :
    (c.configure channel contextIndex setupRings).1.channel = channel := by
  unfold IsochReceiveContext.configure at h ⊢
  split_ifs at h ⊢
  rfl

/-- `prepareReceiveContext` puts a context, which does not newly run, in the stream's place, or
changes nothing. -/
lemma prepareReceiveContext_spec (s : IsochService) (streamIndex channel : ℕ)
    (a : HardwareAnswers) :
    let r := s.prepareReceiveContext streamIndex channel a
    (r.2 = .noMemory ∧ r.1 = { s with hardware := true }) ∨ ∃ c : IsochReceiveContext,
      c.running = (s.receive streamIndex).any (·.running) ∧
      (r.2 = .success → c.channel = channel) ∧
      r.1 = { s with hardware := true
                     receive := Function.update s.receive streamIndex (some c) } := by
  unfold prepareReceiveContext
  dsimp only
  cases hc : s.receive streamIndex with
  | none =>
    cases ha : a.create with
    | false => exact .inl ⟨rfl, rfl⟩
    | true =>
      right
      refine ⟨_, configure_running _ _ _ _, ?_, rfl⟩
      exact fun hsuccess => configure_channel _ hsuccess
  | some c =>
    right
    have hrunning := configure_running { c with consumer := s.receiveConsumers streamIndex }
      channel streamIndex a.setupRings
    cases ha : a.create with
    | false => exact ⟨_, hrunning, fun hsuccess => configure_channel _ hsuccess, rfl⟩
    | true => exact ⟨_, hrunning, fun hsuccess => configure_channel _ hsuccess, rfl⟩

lemma Tidy.setReceive (h : Tidy s) {streamIndex : ℕ} (hi : streamIndex ∈ streams)
    (c : IsochReceiveContext) : Tidy { s with
      hardware := true, receive := Function.update s.receive streamIndex (some c) } where
  receive i hsome := by
    by_cases heq : i = streamIndex
    · rw [heq]
      exact hi
    · dsimp only at hsome
      rw [Function.update_of_ne heq] at hsome
      exact h.receive i hsome
  transmit := h.transmit
  hardware _ _ := rfl
  idle _ := rfl

lemma Active.setReceive (h : Active s) {streamIndex : ℕ} {c : IsochReceiveContext}
    (hrunning : c.running = (s.receive streamIndex).any (·.running)) : Active { s with
      hardware := true, receive := Function.update s.receive streamIndex (some c) } := by
  refine h.of_running rfl ?_ fun i _ => rfl
  intro i _
  dsimp only
  by_cases heq : i = streamIndex
  · rw [heq, Function.update_self, ← hrunning]
    rfl
  · rw [Function.update_of_ne heq]

lemma Tidy.prepareReceiveContext (h : Tidy s) {streamIndex : ℕ} (hi : streamIndex ∈ streams)
    (channel : ℕ) (a : HardwareAnswers) :
    Tidy (s.prepareReceiveContext streamIndex channel a).1 := by
  rcases prepareReceiveContext_spec s streamIndex channel a with ⟨-, hr⟩ | ⟨c, -, -, hr⟩
  · rw [hr]
    exact h.of_isSome (fun i => rfl) (fun i => rfl) (fun _ => rfl) rfl
  · rw [hr]
    exact h.setReceive hi c

lemma Active.prepareReceiveContext (h : Active s) (streamIndex channel : ℕ)
    (a : HardwareAnswers) : Active (s.prepareReceiveContext streamIndex channel a).1 := by
  rcases prepareReceiveContext_spec s streamIndex channel a with ⟨-, hr⟩ | ⟨c, hrunning, -, hr⟩
  · rw [hr]
    exact h
  · rw [hr]
    exact h.setReceive hrunning

lemma configure_state (c : IsochTransmitContext) (channel sid speed : ℕ)
    (setupRings : KernReturn) :
    (c.configure channel sid speed setupRings).1.running = c.running := by
  unfold IsochTransmitContext.configure
  dsimp only
  split_ifs with hstate
  · rfl
  · rfl
  · simp only [IsochTransmitContext.running, reduceCtorEq, decide_false, Bool.false_eq,
      decide_eq_false_iff_not]
    intro hrunning
    exact hstate (by simp [hrunning])

lemma configure_transmit_channel (c : IsochTransmitContext) {channel sid speed : ℕ}
    {setupRings : KernReturn} (h : (c.configure channel sid speed setupRings).2 = .success) :
    (c.configure channel sid speed setupRings).1.channel = channel := by
  unfold IsochTransmitContext.configure at h ⊢
  dsimp only at h ⊢
  split_ifs at h ⊢ <;> rfl

/-- The context `c`, configured, in the stream's place. -/
lemma placed_spec (s : IsochService) (streamIndex channel sid speed : ℕ) (a : HardwareAnswers)
    {c : IsochTransmitContext} (hc : c.running = (s.transmit streamIndex).any (·.running))
    {r : IsochService × KernReturn}
    (hr : r = (let (c, status) :=
        { c with contextIndex := streamIndex }.configure channel sid speed a.setupRings
      let s := { s with
        hardware := true, transmit := Function.update s.transmit streamIndex (some c) }
      if status ≠ .success then (s, status)
      else match a.sharedMemory with
        | some status => (s, status)
        | none => (s, if streamIndex = 0 then .success else .notReady))) :
    ∃ c : IsochTransmitContext, c.running = (s.transmit streamIndex).any (·.running) ∧
      (r.2 = .success → c.channel = channel) ∧
      r.1 = { s with hardware := true
                     transmit := Function.update s.transmit streamIndex (some c) } := by
  subst hr
  refine ⟨_, (configure_state { c with contextIndex := streamIndex } channel sid speed
    a.setupRings).trans hc, ?_, ?_⟩
  · intro hsuccess
    apply configure_transmit_channel
    by_contra hfail
    dsimp only at hsuccess
    rw [if_pos hfail] at hsuccess
    exact hfail hsuccess
  · dsimp only
    cases a.sharedMemory with
    | none => split_ifs <;> rfl
    | some status => split_ifs <;> rfl

lemma prepareTransmitContext_spec (s : IsochService) (streamIndex channel sid speed : ℕ)
    (a : HardwareAnswers) :
    let r := s.prepareTransmitContext streamIndex channel sid speed a
    (r.2 = .noMemory ∧ r.1 = { s with hardware := true }) ∨ ∃ c : IsochTransmitContext,
      c.running = (s.transmit streamIndex).any (·.running) ∧
      (r.2 = .success → c.channel = channel) ∧
      r.1 = { s with hardware := true
                     transmit := Function.update s.transmit streamIndex (some c) } := by
  unfold prepareTransmitContext
  dsimp only
  cases hc : s.transmit streamIndex with
  | none =>
    cases ha : a.create with
    | false => exact .inl ⟨rfl, rfl⟩
    | true =>
      have hplaced := placed_spec s streamIndex channel sid speed a (c := {}) (by rw [hc]; rfl) rfl
      rw [hc] at hplaced
      exact .inr hplaced
  | some c =>
    have hplaced := placed_spec s streamIndex channel sid speed a (c := c) (by rw [hc]; rfl) rfl
    rw [hc] at hplaced
    cases ha : a.create with
    | false => exact .inr hplaced
    | true => exact .inr hplaced

lemma Tidy.setTransmit (h : Tidy s) {streamIndex : ℕ} (hi : streamIndex ∈ streams)
    (c : IsochTransmitContext) : Tidy { s with
      hardware := true, transmit := Function.update s.transmit streamIndex (some c) } where
  receive := h.receive
  transmit i hsome := by
    by_cases heq : i = streamIndex
    · rw [heq]
      exact hi
    · dsimp only at hsome
      rw [Function.update_of_ne heq] at hsome
      exact h.transmit i hsome
  hardware _ _ := rfl
  idle _ := rfl

lemma Active.setTransmit (h : Active s) {streamIndex : ℕ} {c : IsochTransmitContext}
    (hrunning : c.running = (s.transmit streamIndex).any (·.running)) : Active { s with
      hardware := true, transmit := Function.update s.transmit streamIndex (some c) } := by
  refine h.of_running rfl (fun i _ => rfl) ?_
  intro i _
  dsimp only
  by_cases heq : i = streamIndex
  · rw [heq, Function.update_self, ← hrunning]
    rfl
  · rw [Function.update_of_ne heq]

lemma Tidy.prepareTransmitContext (h : Tidy s) {streamIndex : ℕ} (hi : streamIndex ∈ streams)
    (channel sid speed : ℕ) (a : HardwareAnswers) :
    Tidy (s.prepareTransmitContext streamIndex channel sid speed a).1 := by
  rcases prepareTransmitContext_spec s streamIndex channel sid speed a with
    ⟨-, hr⟩ | ⟨c, -, -, hr⟩
  · rw [hr]
    exact h.of_isSome (fun i => rfl) (fun i => rfl) (fun _ => rfl) rfl
  · rw [hr]
    exact h.setTransmit hi c

lemma Active.prepareTransmitContext (h : Active s) (streamIndex channel sid speed : ℕ)
    (a : HardwareAnswers) :
    Active (s.prepareTransmitContext streamIndex channel sid speed a).1 := by
  rcases prepareTransmitContext_spec s streamIndex channel sid speed a with
    ⟨-, hr⟩ | ⟨c, hrunning, -, hr⟩
  · rw [hr]
    exact h
  · rw [hr]
    exact h.setTransmit hrunning

/-! ### Starting and stopping -/

/-- `StartPreparedReceive` leaves the service as it was or starts the contexts and refreshes the
flag. -/
lemma startPreparedReceive_cases (s : IsochService) (a : HardwareAnswers) :
    let r := startPrepared (fun i => IsochReceiveContext.start (a.startReceive i)) s.receive
    (s.startPreparedReceive a).2 = r.2 ∧
      ((s.startPreparedReceive a).1 = s ∧ r.2 ≠ .success ∨
        (s.startPreparedReceive a).1 = { s with receive := r.1 }.updateStreamingActiveState) := by
  unfold startPreparedReceive startPrepared
  cases hc : s.receive 0 with
  | none => exact ⟨rfl, .inl ⟨rfl, by simp⟩⟩
  | some c =>
    dsimp only
    split_ifs with hfail
    · have hkept := (receive_starts a).fails 0 c
        (mt ((receive_starts a).success 0 c).mpr hfail)
      refine ⟨rfl, .inl ⟨?_, hfail⟩⟩
      rw [hkept, ← hc, Function.update_eq_self]
    · exact ⟨rfl, .inr rfl⟩

lemma startPreparedTransmit_cases (s : IsochService) (a : HardwareAnswers) :
    let r := startPrepared (fun i => IsochTransmitContext.start (a.startTransmit i)) s.transmit
    (s.startPreparedTransmit a).2 = r.2 ∧
      ((s.startPreparedTransmit a).1 = s ∧ r.2 ≠ .success ∨
        (s.startPreparedTransmit a).1 =
          { s with transmit := r.1 }.updateStreamingActiveState) := by
  unfold startPreparedTransmit startPrepared
  cases hc : s.transmit 0 with
  | none => exact ⟨rfl, .inl ⟨rfl, by simp⟩⟩
  | some c =>
    dsimp only
    split_ifs with hfail
    · have hkept := (transmit_starts a).fails 0 c
        (mt ((transmit_starts a).success 0 c).mpr hfail)
      refine ⟨rfl, .inl ⟨?_, hfail⟩⟩
      rw [hkept, ← hc, Function.update_eq_self]
    · exact ⟨rfl, .inr rfl⟩

lemma Tidy.startPreparedReceive (h : Tidy s) (a : HardwareAnswers) :
    Tidy (s.startPreparedReceive a).1 := by
  rcases (startPreparedReceive_cases s a).2 with ⟨hr, -⟩ | hr
  · rwa [hr]
  · rw [hr]
    exact (h.withReceive startPrepared_isSome).update

lemma Tidy.startPreparedTransmit (h : Tidy s) (a : HardwareAnswers) :
    Tidy (s.startPreparedTransmit a).1 := by
  rcases (startPreparedTransmit_cases s a).2 with ⟨hr, -⟩ | hr
  · rwa [hr]
  · rw [hr]
    exact (h.withTransmit startPrepared_isSome).update

lemma Active.startPreparedReceive (hactive : Active s) (h : Tidy s) (a : HardwareAnswers) :
    Active (s.startPreparedReceive a).1 := by
  rcases (startPreparedReceive_cases s a).2 with ⟨hr, -⟩ | hr
  · rwa [hr]
  · rw [hr]
    exact (h.withReceive startPrepared_isSome).active_update

lemma Active.startPreparedTransmit (hactive : Active s) (h : Tidy s) (a : HardwareAnswers) :
    Active (s.startPreparedTransmit a).1 := by
  rcases (startPreparedTransmit_cases s a).2 with ⟨hr, -⟩ | hr
  · rwa [hr]
  · rw [hr]
    exact (h.withTransmit startPrepared_isSome).active_update

lemma Tidy.stopReceive (h : Tidy s) (a : HardwareAnswers) : Tidy (s.stopReceive a).1 :=
  h.withReceive (stopEach_isSome streams_nodup)

lemma Tidy.stopTransmit (h : Tidy s) (a : HardwareAnswers) : Tidy (s.stopTransmit a).1 :=
  (h.withTransmit (stopEach_isSome streams_nodup)).update

/-- The receive contexts that run all stop, and no transmit context runs. -/
def StopsTheLast (s : IsochService) (a : HardwareAnswers) : Prop :=
  (∃ i ∈ IsochService.streams, (s.receive i).any (·.running) = true) ∧
    (∀ i ∈ IsochService.streams, (s.receive i).any (·.running) = true →
      a.stopReceive i = .success) ∧
    ∀ i ∈ IsochService.streams, (s.transmit i).any (·.running) = false

lemma Tidy.stopAll (h : Tidy s) (a : HardwareAnswers) : Tidy (s.stopAll a).1 := by
  have hstopped := (h.stopReceive a).stopTransmit a
  unfold IsochService.stopAll
  dsimp only
  split_ifs
  · exact hstopped.of_isSome (fun _ => rfl) (fun _ => rfl) id rfl
  · exact hstopped
  · exact hstopped
  · exact hstopped.of_isSome (fun _ => rfl) (fun _ => rfl) id rfl

lemma setReceiveConsumer_receive (s : IsochService) (streamIndex i : ℕ) (consumer : Option ℕ) :
    ∃ f : IsochReceiveContext → IsochReceiveContext,
      (s.setReceiveConsumer streamIndex consumer).receive i = (s.receive i).map f ∧
        ∀ c, (f c).running = c.running ∧ (f c).channel = c.channel := by
  have hsame : s.receive i = (s.receive i).map id := by simp
  unfold setReceiveConsumer
  split_ifs
  · exact ⟨id, hsame, fun c => ⟨rfl, rfl⟩⟩
  · by_cases hi : i = streamIndex
    · subst hi
      exact ⟨fun c => { c with consumer := consumer }, by simp, fun c => ⟨rfl, rfl⟩⟩
    · exact ⟨id, by simp [hi], fun c => ⟨rfl, rfl⟩⟩

lemma setReceiveConsumer_frame (s : IsochService) (streamIndex : ℕ) (consumer : Option ℕ) :
    (s.setReceiveConsumer streamIndex consumer).transmit = s.transmit ∧
      (s.setReceiveConsumer streamIndex consumer).hardware = s.hardware ∧
      (s.setReceiveConsumer streamIndex consumer).streamingActive = s.streamingActive := by
  unfold setReceiveConsumer
  split_ifs <;> exact ⟨rfl, rfl, rfl⟩

lemma Tidy.setReceiveConsumer (h : Tidy s) (streamIndex : ℕ) (consumer : Option ℕ) :
    Tidy (s.setReceiveConsumer streamIndex consumer) := by
  obtain ⟨htransmit, hhardware, hflag⟩ := setReceiveConsumer_frame s streamIndex consumer
  refine h.of_isSome (fun i => ?_) (fun i => by rw [htransmit]) (fun hset => by rwa [hhardware])
    hflag
  obtain ⟨f, hf, -⟩ := setReceiveConsumer_receive s streamIndex i consumer
  rw [hf, Option.isSome_map]

lemma Active.setReceiveConsumer (h : Active s) (streamIndex : ℕ) (consumer : Option ℕ) :
    Active (s.setReceiveConsumer streamIndex consumer) := by
  obtain ⟨htransmit, -, hflag⟩ := setReceiveConsumer_frame s streamIndex consumer
  refine h.of_running hflag (fun i _ => ?_) (fun i _ => by rw [htransmit])
  obtain ⟨f, hf, hkept⟩ := setReceiveConsumer_receive s streamIndex i consumer
  rw [hf]
  cases s.receive i with
  | none => rfl
  | some c => exact (hkept c).1

lemma mem_streams_zero : 0 ∈ streams := by decide

lemma mem_streams_iff {i : ℕ} : i ∈ streams ↔ i < kMaxStreamsPerDirection := List.mem_range

lemma mem_streams_of_stream {streamIndex : ℕ}
    (h : ¬ (streamIndex = 0 ∨ streamIndex ≥ kMaxStreamsPerDirection)) : streamIndex ∈ streams := by
  rw [mem_streams_iff]
  omega

/-- What `prepareReceive` and `startPreparedReceive` of a packet capture start from. -/
def prepareForPackets (s : IsochService) (channel : ℕ) (consumer : Option ℕ) (a : HardwareAnswers) :
    IsochService × KernReturn := (s.setReceiveConsumer 0 consumer).prepareReceive channel a

/-- `StartPacketReceive` refuses, fails to prepare, or starts. -/
lemma startPacketReceive_cases (s : IsochService) (channel : ℕ) (consumer : Option ℕ)
    (a : HardwareAnswers) :
    let r := s.startPacketReceive channel consumer a
    let p := s.prepareForPackets channel consumer a
    let q := p.1.startPreparedReceive a
    (r.2.2 = false ∧ r.1 = s ∧ (consumer = none ∨ (s.receive 0).any (·.running) = true)) ∨
    (consumer ≠ none ∧ (s.receive 0).any (·.running) = false ∧ p.2 ≠ .success ∧ r.2.2 = false ∧
      r.1 = p.1.setReceiveConsumer 0 none) ∨
    (consumer ≠ none ∧ (s.receive 0).any (·.running) = false ∧ p.2 = .success ∧ r.2.2 = true ∧
      r.2.1 = q.2 ∧ (r.1 = q.1 ∨ q.2 ≠ .success ∧ r.1 = q.1.setReceiveConsumer 0 none)) := by
  unfold startPacketReceive prepareForPackets
  dsimp only
  by_cases hnone : consumer = none
  · simp [hnone]
  by_cases hbusy : (s.receive 0).any (·.running) = true
  · simp [hnone, hbusy]
  simp only [hnone, hbusy, if_false]
  right
  by_cases hprepared : ((s.setReceiveConsumer 0 consumer).prepareReceive channel a).2 = .success
  · right
    simp only [hprepared, ne_eq, not_true_eq_false, if_false, true_and]
    by_cases hstarted : (((s.setReceiveConsumer 0 consumer).prepareReceive channel a).1
        |>.startPreparedReceive a).2 = .success
    · simp [hstarted, hnone]
    · simp [hstarted, hnone]
  · left
    simp [hprepared, hnone]

lemma Tidy.startPacketReceive (h : Tidy s) (channel : ℕ) (consumer : Option ℕ)
    (a : HardwareAnswers) : Tidy (s.startPacketReceive channel consumer a).1 := by
  have hprepared : Tidy (s.prepareForPackets channel consumer a).1 :=
    (h.setReceiveConsumer 0 consumer).prepareReceiveContext mem_streams_zero channel a
  rcases startPacketReceive_cases s channel consumer a with
    ⟨-, hr, -⟩ | ⟨-, -, -, -, hr⟩ | ⟨-, -, -, -, -, hr | ⟨-, hr⟩⟩
  · rwa [hr]
  · rw [hr]
    exact hprepared.setReceiveConsumer 0 none
  · rw [hr]
    exact hprepared.startPreparedReceive a
  · rw [hr]
    exact (hprepared.startPreparedReceive a).setReceiveConsumer 0 none

lemma Active.startPacketReceive (hactive : Active s) (h : Tidy s) (channel : ℕ)
    (consumer : Option ℕ) (a : HardwareAnswers) :
    Active (s.startPacketReceive channel consumer a).1 := by
  have htidy : Tidy (s.prepareForPackets channel consumer a).1 :=
    (h.setReceiveConsumer 0 consumer).prepareReceiveContext mem_streams_zero channel a
  have hprepared : Active (s.prepareForPackets channel consumer a).1 :=
    (hactive.setReceiveConsumer 0 consumer).prepareReceiveContext 0 channel a
  rcases startPacketReceive_cases s channel consumer a with
    ⟨-, hr, -⟩ | ⟨-, -, -, -, hr⟩ | ⟨-, -, -, -, -, hr | ⟨-, hr⟩⟩
  · rwa [hr]
  · rw [hr]
    exact hprepared.setReceiveConsumer 0 none
  · rw [hr]
    exact hprepared.startPreparedReceive htidy a
  · rw [hr]
    exact (hprepared.startPreparedReceive htidy a).setReceiveConsumer 0 none

lemma Tidy.stopPacketReceive (h : Tidy s) (consumer : Option ℕ) (a : HardwareAnswers) :
    Tidy (s.stopPacketReceive consumer a).1 := by
  unfold IsochService.stopPacketReceive
  dsimp only
  split_ifs
  · exact h
  · exact (h.stopReceive a).setReceiveConsumer 0 none
  · exact h.stopReceive a

lemma beginSplitDuplex_frame (s : IsochService) (guid : ℕ) :
    (s.beginSplitDuplex guid).1.receive = s.receive ∧
      (s.beginSplitDuplex guid).1.transmit = s.transmit ∧
      (s.beginSplitDuplex guid).1.hardware = s.hardware ∧
      (s.beginSplitDuplex guid).1.streamingActive = s.streamingActive := by
  unfold beginSplitDuplex claimDuplexGuid
  dsimp only
  split_ifs <;> exact ⟨rfl, rfl, rfl, rfl⟩

/-- After the prepare of a packet capture the master's context is new or idle, on the channel; the
others are as they were. -/
lemma prepareForPackets_receive {channel : ℕ} {consumer : Option ℕ} {a : HardwareAnswers}
    (h : (s.prepareForPackets channel consumer a).2 = .success) :
    (∀ i, i ≠ 0 → (s.prepareForPackets channel consumer a).1.receive i = s.receive i) ∧
    ∃ c, (s.prepareForPackets channel consumer a).1.receive 0 = some c ∧
      c.running = (s.receive 0).any (·.running) ∧ c.channel = channel := by
  have hother i (hi : i ≠ 0) : (s.setReceiveConsumer 0 consumer).receive i = s.receive i := by
    simp [setReceiveConsumer, kMaxStreamsPerDirection, hi]
  have hsame : ((s.setReceiveConsumer 0 consumer).receive 0).any (·.running) =
      (s.receive 0).any (·.running) := by
    obtain ⟨f, hf, hkept⟩ := setReceiveConsumer_receive s 0 0 consumer
    rw [hf]
    cases s.receive 0 with
    | none => rfl
    | some c => exact (hkept c).1
  rcases prepareReceiveContext_spec (s.setReceiveConsumer 0 consumer) 0 channel a with
    ⟨hr, -⟩ | ⟨c, hrunning, hchannel, hr⟩
  · rw [show (s.setReceiveConsumer 0 consumer).prepareReceiveContext 0 channel a =
      s.prepareForPackets channel consumer a from rfl, h] at hr
    cases hr
  · have hafter : (s.prepareForPackets channel consumer a).1.receive =
        Function.update (s.setReceiveConsumer 0 consumer).receive 0 (some c) :=
      congrArg IsochService.receive hr
    rw [hafter]
    refine ⟨fun i hi => ?_, c, ?_, hrunning.trans hsame, hchannel h⟩
    · rw [Function.update_of_ne hi, hother i hi]
    · exact Function.update_self ..

/-- Every context that is there stays, in both directions. -/
def Grows (s s' : IsochService) : Prop :=
  ∀ i, ((s.receive i).isSome = true → (s'.receive i).isSome = true) ∧
    ((s.transmit i).isSome = true → (s'.transmit i).isSome = true)

lemma Grows.trans {s'' : IsochService} (h : Grows s s') (h' : Grows s' s'') : Grows s s'' :=
  fun i => ⟨(h' i).1 ∘ (h i).1, (h' i).2 ∘ (h i).2⟩

lemma grows_of_isSome (hreceive : ∀ i, (s'.receive i).isSome = (s.receive i).isSome)
    (htransmit : ∀ i, (s'.transmit i).isSome = (s.transmit i).isSome) : Grows s s' :=
  fun i => ⟨fun h => by rwa [hreceive], fun h => by rwa [htransmit]⟩

lemma isSome_update {C : Type} {table : ℕ → Option C} (streamIndex : ℕ) (c : C) {i : ℕ}
    (h : (table i).isSome = true) : (Function.update table streamIndex (some c) i).isSome = true := by
  by_cases hi : i = streamIndex
  · rw [hi, Function.update_self]
    rfl
  · rwa [Function.update_of_ne hi]

lemma grows_prepareReceiveContext (s : IsochService) (streamIndex channel : ℕ)
    (a : HardwareAnswers) : Grows s (s.prepareReceiveContext streamIndex channel a).1 := by
  rcases prepareReceiveContext_spec s streamIndex channel a with ⟨-, hr⟩ | ⟨c, -, -, hr⟩
  · rw [hr]
    exact fun i => ⟨id, id⟩
  · rw [hr]
    exact fun i => ⟨isSome_update streamIndex c, id⟩

lemma grows_prepareTransmitContext (s : IsochService) (streamIndex channel sid speed : ℕ)
    (a : HardwareAnswers) :
    Grows s (s.prepareTransmitContext streamIndex channel sid speed a).1 := by
  rcases prepareTransmitContext_spec s streamIndex channel sid speed a with
    ⟨-, hr⟩ | ⟨c, -, -, hr⟩
  · rw [hr]
    exact fun i => ⟨id, id⟩
  · rw [hr]
    exact fun i => ⟨id, isSome_update streamIndex c⟩

/-- A prepare that succeeded leaves the stream with a context. -/
lemma prepareReceiveContext_isSome {streamIndex channel : ℕ} {a : HardwareAnswers}
    (h : (s.prepareReceiveContext streamIndex channel a).2 = .success) :
    ((s.prepareReceiveContext streamIndex channel a).1.receive streamIndex).isSome = true := by
  rcases prepareReceiveContext_spec s streamIndex channel a with ⟨hr, -⟩ | ⟨c, -, -, hr⟩
  · rw [h] at hr
    cases hr
  · simp [hr]

lemma prepareTransmitContext_isSome {streamIndex channel sid speed : ℕ} {a : HardwareAnswers}
    (h : (s.prepareTransmitContext streamIndex channel sid speed a).2 = .success) :
    ((s.prepareTransmitContext streamIndex channel sid speed a).1.transmit streamIndex).isSome =
      true := by
  rcases prepareTransmitContext_spec s streamIndex channel sid speed a with
    ⟨hr, -⟩ | ⟨c, -, -, hr⟩
  · rw [h] at hr
    cases hr
  · simp [hr]

lemma grows_startPreparedReceive (s : IsochService) (a : HardwareAnswers) :
    Grows s (s.startPreparedReceive a).1 := by
  rcases (startPreparedReceive_cases s a).2 with ⟨hr, -⟩ | hr
  · rw [hr]
    exact fun i => ⟨id, id⟩
  · rw [hr]
    obtain ⟨hreceive, htransmit, -⟩ := updateStreamingActiveState_frame { s with
      receive := (startPrepared (fun i => IsochReceiveContext.start (a.startReceive i))
        s.receive).1 }
    refine grows_of_isSome (fun i => ?_) (fun i => by rw [htransmit])
    rw [hreceive]
    exact startPrepared_isSome i

lemma grows_startPreparedTransmit (s : IsochService) (a : HardwareAnswers) :
    Grows s (s.startPreparedTransmit a).1 := by
  rcases (startPreparedTransmit_cases s a).2 with ⟨hr, -⟩ | hr
  · rw [hr]
    exact fun i => ⟨id, id⟩
  · rw [hr]
    obtain ⟨hreceive, htransmit, -⟩ := updateStreamingActiveState_frame { s with
      transmit := (startPrepared (fun i => IsochTransmitContext.start (a.startTransmit i))
        s.transmit).1 }
    refine grows_of_isSome (fun i => by rw [hreceive]) (fun i => ?_)
    rw [htransmit]
    exact startPrepared_isSome i

lemma grows_setReceiveConsumer (s : IsochService) (streamIndex : ℕ) (consumer : Option ℕ) :
    Grows s (s.setReceiveConsumer streamIndex consumer) := by
  refine grows_of_isSome (fun i => ?_)
    (fun i => by rw [(setReceiveConsumer_frame s streamIndex consumer).1])
  obtain ⟨f, hf, -⟩ := setReceiveConsumer_receive s streamIndex i consumer
  rw [hf, Option.isSome_map]

lemma grows_stopReceive (s : IsochService) (a : HardwareAnswers) :
    Grows s (s.stopReceive a).1 :=
  grows_of_isSome (stopEach_isSome streams_nodup) fun _ => rfl

lemma grows_stopTransmit (s : IsochService) (a : HardwareAnswers) :
    Grows s (s.stopTransmit a).1 := by
  obtain ⟨hreceive, htransmit, -⟩ := updateStreamingActiveState_frame { s with
    transmit := (stopEach (fun i => IsochTransmitContext.stop (a.stopTransmit i)) streams
      s.transmit).1 }
  refine grows_of_isSome (fun i => ?_) (fun i => ?_)
  · exact congrArg (fun table => (table i).isSome) hreceive
  · exact (congrArg (fun table => (table i).isSome) htransmit).trans
      (stopEach_isSome streams_nodup i)

lemma grows_startPacketReceive (s : IsochService) (channel : ℕ) (consumer : Option ℕ)
    (a : HardwareAnswers) : Grows s (s.startPacketReceive channel consumer a).1 := by
  have hprepared : Grows s (s.prepareForPackets channel consumer a).1 :=
    (grows_setReceiveConsumer s 0 consumer).trans (grows_prepareReceiveContext _ 0 channel a)
  rcases startPacketReceive_cases s channel consumer a with
    ⟨-, hr, -⟩ | ⟨-, -, -, -, hr⟩ | ⟨-, -, -, -, -, hr | ⟨-, hr⟩⟩
  · rw [hr]
    exact fun i => ⟨id, id⟩
  · rw [hr]
    exact hprepared.trans (grows_setReceiveConsumer _ 0 none)
  · rw [hr]
    exact hprepared.trans (grows_startPreparedReceive _ a)
  · rw [hr]
    exact (hprepared.trans (grows_startPreparedReceive _ a)).trans
      (grows_setReceiveConsumer _ 0 none)

lemma grows_stopPacketReceive (s : IsochService) (consumer : Option ℕ) (a : HardwareAnswers) :
    Grows s (s.stopPacketReceive consumer a).1 := by
  unfold stopPacketReceive
  dsimp only
  split_ifs
  · exact fun i => ⟨id, id⟩
  · exact (grows_stopReceive s a).trans (grows_setReceiveConsumer _ 0 none)
  · exact grows_stopReceive s a

/-! ### Preparing a secondary stream -/

/-- `PrepareReceiveStream` only sets the hardware, or prepares the context. -/
lemma prepareReceiveStream_cases (s : IsochService) (streamIndex channel channelOffset : ℕ)
    (a : HardwareAnswers) :
    let r := s.prepareReceiveStream streamIndex channel channelOffset a
    let p := s.prepareReceiveContext streamIndex channel a
    (r.2 ≠ .success ∧ r.1 = { s with hardware := true }) ∨
      (streamIndex ∈ streams ∧ r.2 = p.2 ∧ r.1.receive = p.1.receive ∧
        r.1.transmit = p.1.transmit ∧ r.1.hardware = p.1.hardware ∧
        r.1.streamingActive = p.1.streamingActive) := by
  unfold prepareReceiveStream
  dsimp only
  by_cases hindex : streamIndex = 0 ∨ streamIndex ≥ kMaxStreamsPerDirection
  · rw [if_pos hindex]
    exact .inl ⟨by simp, rfl⟩
  · rw [if_neg hindex]
    right
    refine ⟨mem_streams_of_stream hindex, ?_⟩
    split_ifs with hfail
    · exact ⟨rfl, rfl, rfl, rfl, rfl⟩
    · exact ⟨(not_not.mp hfail).symm, rfl, rfl, rfl, rfl⟩

lemma Tidy.prepareReceiveStream (h : Tidy s) (streamIndex channel channelOffset : ℕ)
    (a : HardwareAnswers) :
    Tidy (s.prepareReceiveStream streamIndex channel channelOffset a).1 := by
  rcases prepareReceiveStream_cases s streamIndex channel channelOffset a with
    ⟨-, hr⟩ | ⟨hi, -, hreceive, htransmit, hhardware, hflag⟩
  · rw [hr]
    exact h.of_isSome (fun _ => rfl) (fun _ => rfl) (fun _ => rfl) rfl
  · exact (h.prepareReceiveContext hi channel a).of_isSome (fun i => by rw [hreceive])
      (fun i => by rw [htransmit]) (fun hset => hhardware.trans hset) hflag

lemma Active.prepareReceiveStream (h : Active s) (streamIndex channel channelOffset : ℕ)
    (a : HardwareAnswers) :
    Active (s.prepareReceiveStream streamIndex channel channelOffset a).1 := by
  rcases prepareReceiveStream_cases s streamIndex channel channelOffset a with
    ⟨-, hr⟩ | ⟨-, -, hreceive, htransmit, -, hflag⟩
  · rw [hr]
    exact h
  · exact (h.prepareReceiveContext streamIndex channel a).of_running hflag
      (fun i _ => by rw [hreceive]) (fun i _ => by rw [htransmit])

lemma grows_prepareReceiveStream (s : IsochService) (streamIndex channel channelOffset : ℕ)
    (a : HardwareAnswers) :
    Grows s (s.prepareReceiveStream streamIndex channel channelOffset a).1 := by
  rcases prepareReceiveStream_cases s streamIndex channel channelOffset a with
    ⟨-, hr⟩ | ⟨-, -, hreceive, htransmit, -⟩
  · rw [hr]
    exact fun i => ⟨id, id⟩
  · exact (grows_prepareReceiveContext s streamIndex channel a).trans
      (grows_of_isSome (fun i => by rw [hreceive]) (fun i => by rw [htransmit]))

lemma prepareReceiveStream_isSome {streamIndex channel channelOffset : ℕ} {a : HardwareAnswers}
    (h : (s.prepareReceiveStream streamIndex channel channelOffset a).2 = .success) :
    ((s.prepareReceiveStream streamIndex channel channelOffset a).1.receive streamIndex).isSome =
      true := by
  rcases prepareReceiveStream_cases s streamIndex channel channelOffset a with
    ⟨hfail, -⟩ | ⟨-, hstatus, hreceive, -⟩
  · exact absurd h hfail
  · rw [hreceive]
    exact prepareReceiveContext_isSome (hstatus ▸ h)

/-- `PrepareTransmitStream` only sets the hardware, or prepares the context. -/
lemma prepareTransmitStream_cases (s : IsochService) (streamIndex channel sid speed : ℕ)
    (a : HardwareAnswers) :
    let r := s.prepareTransmitStream streamIndex channel sid speed a
    (r.2 ≠ .success ∧ r.1 = { s with hardware := true }) ∨
      (streamIndex ∈ streams ∧ r = s.prepareTransmitContext streamIndex channel sid speed a) := by
  unfold prepareTransmitStream
  dsimp only
  by_cases hindex : streamIndex = 0 ∨ streamIndex ≥ kMaxStreamsPerDirection
  · rw [if_pos hindex]
    exact .inl ⟨by simp, rfl⟩
  · rw [if_neg hindex]
    exact .inr ⟨mem_streams_of_stream hindex, rfl⟩

lemma Tidy.prepareTransmitStream (h : Tidy s) (streamIndex channel sid speed : ℕ)
    (a : HardwareAnswers) :
    Tidy (s.prepareTransmitStream streamIndex channel sid speed a).1 := by
  rcases prepareTransmitStream_cases s streamIndex channel sid speed a with ⟨-, hr⟩ | ⟨hi, hr⟩
  · rw [hr]
    exact h.of_isSome (fun _ => rfl) (fun _ => rfl) (fun _ => rfl) rfl
  · rw [hr]
    exact h.prepareTransmitContext hi channel sid speed a

lemma Active.prepareTransmitStream (h : Active s) (streamIndex channel sid speed : ℕ)
    (a : HardwareAnswers) :
    Active (s.prepareTransmitStream streamIndex channel sid speed a).1 := by
  rcases prepareTransmitStream_cases s streamIndex channel sid speed a with ⟨-, hr⟩ | ⟨-, hr⟩
  · rw [hr]
    exact h
  · rw [hr]
    exact h.prepareTransmitContext streamIndex channel sid speed a

lemma grows_prepareTransmitStream (s : IsochService) (streamIndex channel sid speed : ℕ)
    (a : HardwareAnswers) :
    Grows s (s.prepareTransmitStream streamIndex channel sid speed a).1 := by
  rcases prepareTransmitStream_cases s streamIndex channel sid speed a with ⟨-, hr⟩ | ⟨-, hr⟩
  · rw [hr]
    exact fun i => ⟨id, id⟩
  · rw [hr]
    exact grows_prepareTransmitContext s streamIndex channel sid speed a

lemma prepareTransmitStream_isSome {streamIndex channel sid speed : ℕ} {a : HardwareAnswers}
    (h : (s.prepareTransmitStream streamIndex channel sid speed a).2 = .success) :
    ((s.prepareTransmitStream streamIndex channel sid speed a).1.transmit streamIndex).isSome =
      true := by
  rcases prepareTransmitStream_cases s streamIndex channel sid speed a with ⟨hfail, -⟩ | ⟨-, hr⟩
  · exact absurd h hfail
  · rw [hr] at h ⊢
    exact prepareTransmitContext_isSome h

end IsochService

end ASFireWire.Isoch
