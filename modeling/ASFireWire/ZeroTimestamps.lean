import ASFireWire.DirectAudioReceiveConsumer

/-! The clock anchors of the receive consumer: the anchor of a zero-timestamp period is published
with the packet that starts on it. -/
namespace ASFireWire.AudioRx

open Runs

namespace DirectAudioReceiveConsumer

/-- A packet with a valid time, up to the publication of its anchor. -/
def timed (c : DirectAudioReceiveConsumer) (i : ReceiveInput)
    (result : RxAudioPacketProcessorResult) (cycleTimer : ℕ) : DirectAudioReceiveConsumer :=
  let c := (c.checkCycle (cycleOrdinal cycleTimer)).observeSyt result.cip
  (c.publish (c.replayEntry i result cycleTimer)).establish i

/-- The sample frame of the anchor that is published with a packet. -/
def clockAnchor (c : DirectAudioReceiveConsumer) (i : ReceiveInput) : Option ℕ :=
  match c.published i with
  | none => none
  | some (result, cycleTimer) =>
    let c := (c.advance result.framesDecoded).timed i result cycleTimer
    if c.anchorDue i result ∧ i.anchorAccepted then
      some (c.absoluteFrameCursor - result.framesDecoded)
    else none

/-- The packet is accepted while the publisher is bound and timing is established. -/
def Clocked (c : DirectAudioReceiveConsumer) : ReceiveEvent → Prop
  | .batch _ => True
  | .packet i =>
    match c.published i with
    | none => False
    | some (result, cycleTimer) =>
      ((c.advance result.framesDecoded).timed i result cycleTimer).timingEstablished i = true ∧
        i.packetHostTicks ≠ 0 ∧ i.anchorAccepted = true ∧
        c.inputView.any fun view => view.sampleRateHz ≠ 0

/-- No multiple of the period lies strictly inside the packet. -/
def Aligned (c : DirectAudioReceiveConsumer) : ReceiveEvent → Prop
  | .batch _ => True
  | .packet i =>
    match c.published i with
    | none => True
    | some (result, _) =>
      c.absoluteFrameCursor % c.configuration.ztsPeriodFrames + result.framesDecoded ≤
        c.configuration.ztsPeriodFrames

/-- What the steps of a packet leave of the consumer. -/
structure Keeps (c c' : DirectAudioReceiveConsumer) : Prop where
  configuration : c'.configuration = c.configuration
  cursor : c'.absoluteFrameCursor = c.absoluteFrameCursor
  view : c'.inputView = c.inputView

variable {c b : DirectAudioReceiveConsumer} {i : ReceiveInput}
  {result : RxAudioPacketProcessorResult}

lemma Keeps.trans {d : DirectAudioReceiveConsumer} (h : Keeps c b) (h' : Keeps b d) : Keeps c d :=
  ⟨h'.configuration.trans h.configuration, h'.cursor.trans h.cursor, h'.view.trans h.view⟩

lemma keeps_resetReplayEpoch (c : DirectAudioReceiveConsumer) :
    Keeps c c.resetReplayEpochForDiscontinuity := by
  unfold resetReplayEpochForDiscontinuity
  split_ifs <;> exact ⟨rfl, rfl, rfl⟩

lemma keeps_checkCycle (c : DirectAudioReceiveConsumer) (ordinal : ℕ) :
    Keeps c (c.checkCycle ordinal) := by
  obtain ⟨hconfiguration, hcursor, hview⟩ := keeps_resetReplayEpoch c
  unfold checkCycle
  dsimp only
  split_ifs
  · exact ⟨hconfiguration, hcursor, hview⟩
  · exact ⟨rfl, rfl, rfl⟩

lemma keeps_observeSyt (c : DirectAudioReceiveConsumer) (cip : Option CIPHeader) :
    Keeps c (c.observeSyt cip) := by
  unfold observeSyt
  cases cip with
  | none => exact ⟨rfl, rfl, rfl⟩
  | some cip =>
    dsimp only
    split_ifs
    · exact ⟨rfl, rfl, rfl⟩
    · obtain ⟨hconfiguration, hcursor, hview⟩ :=
        keeps_resetReplayEpoch { c with cadence := (c.cadence.observe cip.syt).1 }
      exact ⟨hconfiguration, hcursor, hview⟩
    · exact ⟨rfl, rfl, rfl⟩

lemma keeps_timed (c : DirectAudioReceiveConsumer) (i : ReceiveInput)
    (result : RxAudioPacketProcessorResult) (cycleTimer : ℕ) :
    Keeps c (c.timed i result cycleTimer) := by
  have hobserved := (keeps_checkCycle c (cycleOrdinal cycleTimer)).trans
    (keeps_observeSyt (c.checkCycle (cycleOrdinal cycleTimer)) result.cip)
  refine hobserved.trans ?_
  unfold timed establish
  dsimp only
  split_ifs <;> exact ⟨rfl, rfl, rfl⟩

lemma keeps_publishAnchor (c : DirectAudioReceiveConsumer) (i : ReceiveInput)
    (result : RxAudioPacketProcessorResult) : Keeps c (c.publishAnchor i result) := by
  unfold publishAnchor
  split_ifs
  · exact keeps_resetReplayEpoch c
  · exact ⟨rfl, rfl, rfl⟩

/-- An accepted packet moves the cursor by its frames. -/
lemma consumePacket_published {cycleTimer : ℕ} (h : c.published i = some (result, cycleTimer)) :
    (c.consumePacket i).absoluteFrameCursor = c.absoluteFrameCursor + result.framesDecoded ∧
      (c.consumePacket i).configuration = c.configuration := by
  unfold published at h
  unfold consumePacket
  by_cases hempty : i.packet.payload = []
  · simp [hempty] at h
  · rw [if_neg hempty] at h ⊢
    cases hcodec : c.codec with
    | none => simp [hcodec] at h
    | some codec =>
      rw [hcodec] at h
      dsimp only at h ⊢
      by_cases hrejected : decoded (c.processed i codec) = false ∨ c.hasControl = false
      · simp [hrejected] at h
      · rw [if_neg hrejected, Option.map_eq_some_iff] at h
        obtain ⟨time, htime, heq⟩ := h
        obtain ⟨hresult, rfl⟩ := Prod.mk.inj heq
        rw [not_or] at hrejected
        rw [consumeResult, if_neg hrejected.1, if_neg hrejected.2, htime]
        have hkeeps := (keeps_timed (c.advance (c.processed i codec).framesDecoded) i
          (c.processed i codec) time).trans (keeps_publishAnchor _ i (c.processed i codec))
        rw [← hresult]
        exact ⟨hkeeps.cursor, hkeeps.configuration⟩

lemma keeps_beginReceiveBatch (c : DirectAudioReceiveConsumer)
    (snapshot : Option DirectAudioBindingSnapshot) :
    (c.beginReceiveBatch snapshot).absoluteFrameCursor = c.absoluteFrameCursor ∧
      (c.beginReceiveBatch snapshot).configuration = c.configuration := by
  unfold beginReceiveBatch
  cases snapshot with
  | none =>
    dsimp only
    split_ifs <;> exact ⟨rfl, rfl⟩
  | some snapshot =>
    dsimp only
    split_ifs
    · exact ⟨rfl, rfl⟩
    · cases snapshot.input with
      | none => exact ⟨rfl, rfl⟩
      | some binding =>
        simp only [bind]
        split_ifs <;> exact ⟨rfl, rfl⟩

lemma hasControl_of_published {cycleTimer : ℕ} (h : c.published i = some (result, cycleTimer)) :
    c.hasControl = true := by
  unfold published at h
  by_contra hnot
  rw [Bool.not_eq_true] at hnot
  by_cases hempty : i.packet.payload = []
  · simp [hempty] at h
  · cases hcodec : c.codec <;> simp [hempty, hcodec, hnot] at h

/-- A clocked packet publishes an anchor exactly if it has frames and starts on a multiple. -/
lemma clockAnchor_clocked {cycleTimer : ℕ} (hclocked : c.Clocked (.packet i))
    (h : c.published i = some (result, cycleTimer)) (hperiod : c.configuration.ztsPeriodFrames ≠ 0) :
    c.clockAnchor i =
      if result.framesDecoded ≠ 0 ∧ c.absoluteFrameCursor % c.configuration.ztsPeriodFrames = 0 then
        some c.absoluteFrameCursor
      else none := by
  simp only [Clocked, h] at hclocked
  obtain ⟨hestablished, hticks, haccepted, hrate⟩ := hclocked
  have hkeeps := keeps_timed (c.advance result.framesDecoded) i result cycleTimer
  have hcontrol := hasControl_of_published h
  obtain ⟨view, hview⟩ := Option.isSome_iff_exists.mp (Option.isSome_of_any hrate)
  simp only [hasControl, hview, Option.any_some] at hcontrol hrate
  have hdue : ((c.advance result.framesDecoded).timed i result cycleTimer).anchorDue i result =
      true ↔ result.framesDecoded ≠ 0 ∧
        c.absoluteFrameCursor % c.configuration.ztsPeriodFrames = 0 := by
    simp only [anchorDue, hkeeps.configuration, hkeeps.cursor, hkeeps.view, hestablished]
    have hknown : view.sampleRateHz ≠ 0 := of_decide_eq_true hrate
    simp [advance, hview, hcontrol, hperiod, hticks, hknown]
  simp only [clockAnchor, h, hdue, haccepted, and_true, hkeeps.cursor]
  simp only [advance, Nat.add_sub_cancel]

instance (c : DirectAudioReceiveConsumer) (e : ReceiveEvent) : Decidable (c.Clocked e) := by
  cases e with
  | batch => exact isTrue trivial
  | packet i =>
    unfold Clocked
    dsimp only
    cases c.published i with
    | none => exact isFalse id
    | some found => infer_instance

instance (c : DirectAudioReceiveConsumer) (e : ReceiveEvent) : Decidable (c.Aligned e) := by
  cases e with
  | batch => exact isTrue trivial
  | packet i =>
    unfold Aligned
    dsimp only
    cases c.published i with
    | none => exact isTrue trivial
    | some found => infer_instance

end DirectAudioReceiveConsumer

open DirectAudioReceiveConsumer

/-! ### Streams -/

/-- A consumer with the sample frames of the anchors published since its cursor was at `start`. -/
structure ClockedStream where
  consumer : DirectAudioReceiveConsumer
  start : ℕ
  anchors : List ℕ := []

namespace ClockedStream

def step (s : ClockedStream) (e : ReceiveEvent) : ClockedStream where
  consumer := s.consumer.step e
  start := s.start
  anchors :=
    match e with
    | .batch _ => s.anchors
    | .packet i => s.anchors ++ (s.consumer.clockAnchor i).toList

def started (c : DirectAudioReceiveConsumer) : ClockedStream := ⟨c, c.absoluteFrameCursor, []⟩

/-- Every multiple of the period the cursor has passed has its anchor, once and in order. -/
structure NoneSkipped (s : ClockedStream) : Prop where
  once : ∀ m, s.start ≤ m → m < s.consumer.absoluteFrameCursor →
    m % s.consumer.configuration.ztsPeriodFrames = 0 → s.anchors.count m = 1
  increasing : s.anchors.Pairwise (· < ·)

/-- The anchors lie behind the cursor, in order. -/
structure Behind (s : ClockedStream) : Prop where
  period : s.consumer.configuration.ztsPeriodFrames ≠ 0
  from_start : s.start ≤ s.consumer.absoluteFrameCursor
  passed : ∀ m ∈ s.anchors, m < s.consumer.absoluteFrameCursor
  increasing : s.anchors.Pairwise (· < ·)

variable {s : ClockedStream} {e : ReceiveEvent} {i : ReceiveInput}

/-- A clocked packet: its frames are passed, and its anchor is the one of its first frame. -/
lemma step_clocked (h : s.Behind) (hclocked : s.consumer.Clocked (.packet i)) :
    ∃ frames, (s.consumer.Aligned (.packet i) ↔
        s.consumer.absoluteFrameCursor % s.consumer.configuration.ztsPeriodFrames + frames ≤
          s.consumer.configuration.ztsPeriodFrames) ∧
      (s.step (.packet i)).consumer.absoluteFrameCursor =
        s.consumer.absoluteFrameCursor + frames ∧
      (s.step (.packet i)).consumer.configuration = s.consumer.configuration ∧
      (s.step (.packet i)).anchors = s.anchors ++
        if frames ≠ 0 ∧
            s.consumer.absoluteFrameCursor % s.consumer.configuration.ztsPeriodFrames = 0 then
          [s.consumer.absoluteFrameCursor]
        else [] := by
  cases hpublished : s.consumer.published i with
  | none => simp [Clocked, hpublished] at hclocked
  | some found =>
    obtain ⟨result, cycleTimer⟩ := found
    obtain ⟨hcursor, hconfiguration⟩ := consumePacket_published hpublished
    refine ⟨result.framesDecoded, ?_, hcursor, hconfiguration, ?_⟩
    · simp only [Aligned, hpublished]
    · simp only [step, clockAnchor_clocked hclocked hpublished h.period]
      split_ifs <;> rfl

lemma Behind.step (h : s.Behind) (hclocked : s.consumer.Clocked e) : (s.step e).Behind := by
  cases e with
  | batch snapshot =>
    obtain ⟨hcursor, hconfiguration⟩ := keeps_beginReceiveBatch s.consumer snapshot
    exact ⟨hconfiguration ▸ h.period, h.from_start.trans hcursor.ge,
      fun m hm => (h.passed m hm).trans_le hcursor.ge, h.increasing⟩
  | packet i =>
    obtain ⟨frames, -, hcursor, hconfiguration, hanchors⟩ := step_clocked h hclocked
    refine ⟨hconfiguration ▸ h.period, h.from_start.trans (by omega), ?_, ?_⟩
    · intro m hm
      rw [hanchors, List.mem_append] at hm
      rcases hm with hold | hnew
      · exact (h.passed m hold).trans_le (by omega)
      · split_ifs at hnew with hfirst
        · rw [List.mem_singleton.mp hnew, hcursor]
          omega
        · cases hnew
    · rw [hanchors, List.pairwise_append]
      refine ⟨h.increasing, by split_ifs <;> simp, ?_⟩
      intro m hm m' hm'
      split_ifs at hm'
      · rw [List.mem_singleton.mp hm']
        exact h.passed m hm
      · cases hm'

/-- The step: the anchors stay complete exactly if the packet has no multiple strictly inside. -/
lemma noneSkipped_step (h : s.Behind) (hclocked : s.consumer.Clocked e) (hnone : s.NoneSkipped) :
    (s.step e).NoneSkipped ↔ s.consumer.Aligned e := by
  cases e with
  | batch snapshot =>
    obtain ⟨hcursor, hconfiguration⟩ := keeps_beginReceiveBatch s.consumer snapshot
    refine iff_of_true ⟨?_, hnone.increasing⟩ trivial
    intro m hstart hlt hmultiple
    exact hnone.once m hstart (hlt.trans_eq hcursor) (by rwa [← hconfiguration])
  | packet i =>
    have hnext := h.step hclocked
    obtain ⟨frames, haligned, hcursor, hconfiguration, hanchors⟩ := step_clocked h hclocked
    have hpos := Nat.pos_of_ne_zero h.period
    have hstart := h.from_start
    have hpassed := h.passed
    have honce := hnone.once
    rw [haligned]
    set cursor := s.consumer.absoluteFrameCursor
    set period := s.consumer.configuration.ztsPeriodFrames
    have hfresh (m : ℕ) (hm : cursor ≤ m) : s.anchors.count m = 0 := by
      apply List.count_eq_zero.mpr
      intro hold
      have hlt := hpassed m hold
      omega
    have hother (m : ℕ) (hm : m ≠ cursor) :
        (if frames ≠ 0 ∧ cursor % period = 0 then [cursor] else []).count m = 0 := by
      apply List.count_eq_zero.mpr
      split_ifs <;> simp [hm]
    have hlt := Nat.mod_lt cursor hpos
    have hdiv := Nat.div_add_mod cursor period
    constructor
    · intro hall
      by_contra hinside
      have hmultiple : (cursor + (period - cursor % period)) % period = 0 := by
        rw [show cursor + (period - cursor % period) = period * (cursor / period) + period by omega,
          Nat.add_mod_right, Nat.mul_mod_right]
      have hcount := hall.once (cursor + (period - cursor % period))
        (hstart.trans (Nat.le_add_right _ _)) (by rw [hcursor]; omega)
        (by rw [hconfiguration]; exact hmultiple)
      rw [hanchors, List.count_append, hfresh _ (Nat.le_add_right _ _), hother _ (by omega)] at hcount
      cases hcount
    · intro hinside
      refine ⟨?_, hnext.increasing⟩
      intro m hm hpast hmultiple
      rw [hcursor] at hpast
      rw [hconfiguration] at hmultiple
      rw [hanchors, List.count_append]
      by_cases hold : m < cursor
      · rw [honce m hm hold hmultiple, hother m (by omega)]
      · obtain ⟨k, rfl⟩ := Nat.exists_eq_add_of_le (Nat.not_lt.mp hold)
        have hsum : cursor % period + k = 0 := by
          rw [← hmultiple, Nat.add_mod, Nat.mod_eq_of_lt (by omega : k < period),
            Nat.mod_eq_of_lt (by omega : cursor % period + k < period)]
        obtain rfl : k = 0 := by omega
        rw [Nat.add_zero, hfresh _ le_rfl, if_pos ⟨by omega, by omega⟩, List.count_singleton_self]

/-- Along a run of clocked packets no period is skipped exactly when no packet has a multiple of
the period strictly inside. -/
theorem noneSkipped_run_iff {c : DirectAudioReceiveConsumer}
    (hperiod : c.configuration.ztsPeriodFrames ≠ 0) {events : List ReceiveEvent}
    (hclocked : Meets step (fun s e => s.consumer.Clocked e) (started c) events) :
    (∀ k, (run step (started c) (events.take k)).NoneSkipped) ↔
      Meets step (fun s e => s.consumer.Aligned e) (started c) events := by
  apply forall_take_iff_meets_of_meets (I := Behind) (fun s e hs he hp => noneSkipped_step hs he hp)
    (fun s e hs he _ => hs.step he) _ _ hclocked
  · exact ⟨hperiod, le_rfl, by simp [started], by simp [started]⟩
  · refine ⟨fun m hstart hlt => ?_, by simp [started]⟩
    simp only [started] at hstart hlt
    omega

/-! ### Packets of one and of eight frames -/

/-- `blocks` data blocks of two quadlets, received in cycle `k` without a SYT. -/
def blocksAt (k : ℕ) (blocks : Fin 9) : List UInt8 :=
  (blockAt k kSytNoInfo).take 16 ++ List.replicate (8 * blocks) 0

lemma length_blocksAt (k : ℕ) (blocks : Fin 9) : (blocksAt k blocks).length < 2 ^ 16 := by
  have htake := List.length_take_le 16 (blockAt k kSytNoInfo)
  rw [blocksAt, List.length_append, List.length_replicate]
  omega

def blocksReceived (k : ℕ) (blocks : Fin 9) : ReceiveEvent :=
  .packet
    { packet := { payload := blocksAt k blocks, bound := length_blocksAt k blocks }
      drainCycleTimer := encodeCycleTimer (k / kCyclesPerSecond) (k % kCyclesPerSecond) 0
      packetHostTicks := 1000 + k
      observerEstablished := some true }

def boundFirst (packets : List ReceiveEvent) : List ReceiveEvent :=
  .batch (some ⟨1, some ⟨48000, 2, 4096, true⟩⟩) :: packets

theorem noneSkipped_eights :
    (run step (started (activated {} none)) ((boundFirst
      ((List.range 193).map fun k => blocksReceived k 8)).take 194)).NoneSkipped := by
  apply (noneSkipped_run_iff (by decide) _).mpr
  · decide +kernel
  · decide +kernel

/-- One packet of one frame shifts every later one: the packet over frame 1536 starts at 1529. -/
theorem not_noneSkipped_shifted :
    let events := boundFirst (blocksReceived 0 1 ::
      (List.range 192).map fun k => blocksReceived (k + 1) 8)
    let s := run step (started (activated {} none)) events
    Meets step (fun s e => s.consumer.Clocked e) (started (activated {} none)) events ∧
      s.consumer.absoluteFrameCursor = 1537 ∧ s.anchors = [0] ∧ ¬ s.NoneSkipped := by
  intro events s
  have hanchors : s.anchors = [0] := by decide +kernel
  have hcursor : s.consumer.absoluteFrameCursor = 1537 := by decide +kernel
  refine ⟨by decide +kernel, hcursor, hanchors, ?_⟩
  intro hnone
  have hcount := hnone.once 1536 (by decide +kernel) (by rw [hcursor]; decide) (by decide +kernel)
  rw [hanchors] at hcount
  cases hcount

end ClockedStream

end ASFireWire.AudioRx
