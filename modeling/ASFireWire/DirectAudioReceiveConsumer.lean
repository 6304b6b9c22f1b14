import ASFireWire.RxAudioPacketProcessor
import ASFireWire.Runs
import ASFireWire.EventLog

/-! The receive consumer of the master stream
(`Audio/Engine/Direct/Rx/DirectAudioReceiveConsumer.cpp`): every packet is decoded, timed, checked
against the cycle before it and published in the replay ring; any discontinuity starts a new epoch
of the ring. -/
namespace ASFireWire.AudioRx

open Runs EventLog

/-! ### SYT cadence -/

/-- The part of `RxSytCadence` that decides what it accepts and when it is established. -/
structure RxSytCadence where
  previousSyt : ℕ := kSytNoInfo
  validUpdates : ℕ := 0
  established : Bool := false
  deriving DecidableEq, Repr

namespace RxSytCadence

def kWarmupUpdates : ℕ := 513

def kSytFieldDomainTicks : ℤ := 16 * kTicksPerCycle

def sytToFieldTicks (syt : ℕ) : ℤ := (syt / 2 ^ 12 % 16 * kTicksPerCycle + syt % 2 ^ 12 : ℕ)

def sytDiffInOffsets (sytNew sytOld : ℕ) : ℤ :=
  let d := (sytToFieldTicks sytNew - sytToFieldTicks sytOld) % kSytFieldDomainTicks
  if kSytFieldDomainTicks / 2 < d then d - kSytFieldDomainTicks else d

/-- The first SYT of a chain only seeds it; a step that is not ahead of it breaks the chain. -/
def observe (c : RxSytCadence) (syt : ℕ) : RxSytCadence × Bool :=
  if syt = kSytNoInfo then (c, false)
  else if c.previousSyt = kSytNoInfo then ({ c with previousSyt := syt }, true)
  else
    let delta := sytDiffInOffsets syt c.previousSyt
    if delta ≤ 0 ∨ 2 ^ 16 - 1 < delta then ({ c with previousSyt := kSytNoInfo }, false)
    else
      ({ previousSyt := syt
         validUpdates := c.validUpdates + 1
         established := kWarmupUpdates ≤ c.validUpdates + 1 }, true)

end RxSytCadence

/-! ### The ring and what was done to it -/

inductive ReplayOp
  | reset
  | publish (entry : RxSequenceEntry)
  deriving DecidableEq, Repr

/-- The replay ring with the operations on it, newest first. -/
structure ReplayChannel where
  state : RxSequenceReplayState := {}
  log : List ReplayOp := []

namespace ReplayChannel

def reset (r : ReplayChannel) : ReplayChannel := ⟨r.state.reset, .reset :: r.log⟩

def publish (r : ReplayChannel) (entry : RxSequenceEntry) : ReplayChannel :=
  ⟨r.state.publish entry, .publish entry :: r.log⟩

end ReplayChannel

/-! ### The consumer -/

inductive AudioWireFormat
  | kAM824 | kRawPcm24In32 | kMotuV2
  deriving DecidableEq, Repr

structure Configuration where
  streamChannels : ℕ := 0
  am824Slots : ℕ := 0
  wireFormat : AudioWireFormat := .kAM824
  trustConfiguredStride : Bool := false
  ztsPeriodFrames : ℕ := 1536
  deriving DecidableEq, Repr

/-- The memory the audio side offers, as far as it is read here. -/
structure AudioBinding where
  sampleRateHz : ℕ
  inputChannels : ℕ
  inputFrames : ℕ
  hasControl : Bool
  deriving DecidableEq, Repr

/-- A copied binding; `input` is absent when it is not valid or has no input. -/
structure DirectAudioBindingSnapshot where
  generation : ℕ
  input : Option AudioBinding
  deriving DecidableEq, Repr

structure DirectAudioReceiveConsumer where
  configuration : Configuration := {}
  payloadCodec : Option RxPayloadCodec := none
  inputView : Option AudioBinding := none
  lastBindingGeneration : ℕ := 0
  absoluteFrameCursor : ℕ := 0
  cadence : RxSytCadence := {}
  replay : ReplayChannel := {}
  replayReadyNotified : Bool := false
  replayResetForStart : Bool := false
  replayCycleInitialized : Bool := false
  lastReplayCycleOrdinal : ℕ := 0

/-- A packet with what else decides what happens to it: the cycle timer and host time it is drained
at, whether a timing observer is bound and established, the transfer delay, and whether a clock
anchor would be accepted. -/
structure ReceiveInput where
  packet : IsochReceivePacket
  drainCycleTimer : ℕ
  packetHostTicks : ℕ := 0
  observerEstablished : Option Bool := none
  rxTransferDelayTicks : ℕ := 0
  anchorAccepted : Bool := true

namespace DirectAudioReceiveConsumer

def hasControl (c : DirectAudioReceiveConsumer) : Bool :=
  match c.inputView with
  | none => false
  | some view => view.hasControl

def writerBound (c : DirectAudioReceiveConsumer) : Bool :=
  match c.inputView with
  | none => false
  | some view => view.inputFrames ≠ 0 && view.inputChannels ≠ 0

def channels (c : DirectAudioReceiveConsumer) : ℕ :=
  if c.configuration.streamChannels ≠ 0 then c.configuration.streamChannels
  else
    match c.inputView with
    | none => 0
    | some view => view.inputChannels

def deviceToHostAm824Slots (c : DirectAudioReceiveConsumer) : ℕ :=
  match c.inputView with
  | none => 0
  | some view =>
    if 0 < c.configuration.am824Slots then c.configuration.am824Slots else view.inputChannels

/-- The codec of a packet: for the slot formats it is configured anew, for the others it is the one
that was set. -/
def codec (c : DirectAudioReceiveConsumer) : Option RxPayloadCodec :=
  match c.configuration.wireFormat with
  | .kAM824 | .kRawPcm24In32 =>
    some (am824RxPayloadCodec c.deviceToHostAm824Slots c.configuration.trustConfiguredStride)
  | .kMotuV2 => c.payloadCodec

def onReceiveActivated (c : DirectAudioReceiveConsumer) : DirectAudioReceiveConsumer :=
  { c with
    absoluteFrameCursor := 0
    replayReadyNotified := false
    replayResetForStart := false
    replayCycleInitialized := false
    lastReplayCycleOrdinal := 0 }

def bind (c : DirectAudioReceiveConsumer) (binding : AudioBinding) : DirectAudioReceiveConsumer :=
  if binding.hasControl then
    { c with
      inputView := some binding
      cadence := {}
      replay := c.replay.reset
      replayResetForStart := true }
  else { c with inputView := some binding }

def unbind (c : DirectAudioReceiveConsumer) : DirectAudioReceiveConsumer :=
  { c with inputView := none, replayResetForStart := false }

/-- Binds what the audio side offers when its generation has changed. -/
def beginReceiveBatch (c : DirectAudioReceiveConsumer)
    (snapshot : Option DirectAudioBindingSnapshot) : DirectAudioReceiveConsumer :=
  match snapshot with
  | none => if c.lastBindingGeneration ≠ 0 then { c.unbind with lastBindingGeneration := 0 } else c
  | some snapshot =>
    if snapshot.generation = c.lastBindingGeneration then c
    else
      match snapshot.input with
      | none => { c.unbind with lastBindingGeneration := snapshot.generation }
      | some binding => { c.bind binding with lastBindingGeneration := snapshot.generation }

def resetReplayEpochForDiscontinuity (c : DirectAudioReceiveConsumer) :
    DirectAudioReceiveConsumer :=
  if c.hasControl = false ∨ c.replayResetForStart = false then
    { c with replayCycleInitialized := false }
  else
    { c with
      cadence := {}
      replay := c.replay.reset
      replayReadyNotified := false
      replayCycleInitialized := false }

/-- A cycle that does not follow the last one starts a new epoch; this packet is its first. -/
def checkCycle (c : DirectAudioReceiveConsumer) (ordinal : ℕ) : DirectAudioReceiveConsumer :=
  let c :=
    if c.replayCycleInitialized ∧ ordinal ≠ (c.lastReplayCycleOrdinal + 1) % kCycleDomain then
      c.resetReplayEpochForDiscontinuity
    else c
  { c with lastReplayCycleOrdinal := ordinal, replayCycleInitialized := true }

def sytPresent (cip : Option CIPHeader) : Bool :=
  match cip with
  | none => false
  | some cip => cip.syt ≠ kSytNoInfo

/-- A SYT that breaks an established cadence starts a new epoch. -/
def observeSyt (c : DirectAudioReceiveConsumer) (cip : Option CIPHeader) :
    DirectAudioReceiveConsumer :=
  match cip with
  | none => c
  | some cip =>
    if cip.syt = kSytNoInfo then c
    else
      let (cadence, accepted) := c.cadence.observe cip.syt
      let c := { c with cadence := cadence }
      if accepted = false ∧ c.replay.state.established then c.resetReplayEpochForDiscontinuity
      else c

def replayEntry (c : DirectAudioReceiveConsumer) (i : ReceiveInput)
    (result : RxAudioPacketProcessorResult) (cycleTimer : ℕ) : RxSequenceEntry where
  firstAudioFrame := c.absoluteFrameCursor - result.framesDecoded
  sourceCycleTimer := cycleTimer
  sytOffset :=
    match result.cip with
    | none => kNoOffset
    | some cip => computeReplaySytOffset cip.syt cycleTimer i.rxTransferDelayTicks
  dataBlocks := result.framesDecoded % 2 ^ 16
  dbc :=
    match result.cip with
    | none => 0
    | some cip => cip.dataBlockCounter
  flags :=
    (if result.cip.isSome then RxSequenceFlags.kValidCip else 0) +
      if sytPresent result.cip then RxSequenceFlags.kValidSyt else 0

def publish (c : DirectAudioReceiveConsumer) (entry : RxSequenceEntry) :
    DirectAudioReceiveConsumer :=
  { c with replay := c.replay.publish entry }

def timingEstablished (c : DirectAudioReceiveConsumer) (i : ReceiveInput) : Bool :=
  match i.observerEstablished with
  | none => c.cadence.established
  | some established => established

def establish (c : DirectAudioReceiveConsumer) (i : ReceiveInput) : DirectAudioReceiveConsumer :=
  if c.timingEstablished i then
    { c with
      replay := { c.replay with state := c.replay.state.markEstablished }
      replayReadyNotified := true }
  else c

def anchorDue (c : DirectAudioReceiveConsumer) (i : ReceiveInput)
    (result : RxAudioPacketProcessorResult) : Bool :=
  c.configuration.ztsPeriodFrames ≠ 0 && result.framesDecoded ≠ 0 &&
    (c.absoluteFrameCursor - result.framesDecoded) % c.configuration.ztsPeriodFrames = 0 &&
    i.packetHostTicks ≠ 0 &&
    (match c.inputView with
      | none => false
      | some view => view.sampleRateHz ≠ 0 && view.hasControl) &&
    c.timingEstablished i

/-- A clock anchor that is due and not accepted starts a new epoch. -/
def publishAnchor (c : DirectAudioReceiveConsumer) (i : ReceiveInput)
    (result : RxAudioPacketProcessorResult) : DirectAudioReceiveConsumer :=
  if c.anchorDue i result ∧ i.anchorAccepted = false then c.resetReplayEpochForDiscontinuity else c

/-- A packet with a valid time. -/
def consumeTimed (c : DirectAudioReceiveConsumer) (i : ReceiveInput)
    (result : RxAudioPacketProcessorResult) (cycleTimer : ℕ) : DirectAudioReceiveConsumer :=
  let c := (c.checkCycle (cycleOrdinal cycleTimer)).observeSyt result.cip
  ((c.publish (c.replayEntry i result cycleTimer)).establish i).publishAnchor i result

def processed (c : DirectAudioReceiveConsumer) (i : ReceiveInput) (codec : RxPayloadCodec) :
    RxAudioPacketProcessorResult :=
  processPacket i.packet.payload c.channels codec c.writerBound

def receiveTime (i : ReceiveInput) (result : RxAudioPacketProcessorResult) : Option ℕ :=
  match result.receiveCycleTimestamp with
  | none => none
  | some timestamp =>
    (expandReceiveTimestamp timestamp i.drainCycleTimer).map ExpandedReceiveTimestamp.cycleTimer

def decoded (result : RxAudioPacketProcessorResult) : Bool :=
  result.status = .available || result.status = .invalidBinding

def advance (c : DirectAudioReceiveConsumer) (frames : ℕ) : DirectAudioReceiveConsumer :=
  { c with absoluteFrameCursor := c.absoluteFrameCursor + frames }

def consumeResult (c : DirectAudioReceiveConsumer) (i : ReceiveInput)
    (result : RxAudioPacketProcessorResult) : DirectAudioReceiveConsumer :=
  if decoded result = false then c.resetReplayEpochForDiscontinuity
  else if c.hasControl = false then c.advance result.framesDecoded
  else
    match receiveTime i result with
    | none => (c.advance result.framesDecoded).resetReplayEpochForDiscontinuity
    | some cycleTimer => (c.advance result.framesDecoded).consumeTimed i result cycleTimer

def consumePacket (c : DirectAudioReceiveConsumer) (i : ReceiveInput) :
    DirectAudioReceiveConsumer :=
  if i.packet.payload = [] then c
  else
    match c.codec with
    | none => c
    | some codec => c.consumeResult i (c.processed i codec)

inductive ReceiveEvent
  | batch (snapshot : Option DirectAudioBindingSnapshot)
  | packet (input : ReceiveInput)

def step (c : DirectAudioReceiveConsumer) : ReceiveEvent → DirectAudioReceiveConsumer
  | .batch snapshot => c.beginReceiveBatch snapshot
  | .packet input => c.consumePacket input

/-! ### Gap-free epochs -/

/-- `second` is the next cycle, modulo the 128 seconds of the timer, and the next frames. -/
def Adjacent (first second : RxSequenceEntry) : Prop :=
  cycleOrdinal second.sourceCycleTimer = (cycleOrdinal first.sourceCycleTimer + 1) % kCycleDomain ∧
    second.firstAudioFrame = first.firstAudioFrame + first.dataBlocks

/-- An entry continues the one published before it in its epoch. -/
def Continues : ReplayOp → List ReplayOp → Prop
  | .publish second, .publish first :: _ => Adjacent first second
  | _, _ => True

/-- The result and time of a packet that is published. -/
def published (c : DirectAudioReceiveConsumer) (i : ReceiveInput) :
    Option (RxAudioPacketProcessorResult × ℕ) :=
  if i.packet.payload = [] then none
  else
    match c.codec with
    | none => none
    | some codec =>
      if decoded (c.processed i codec) = false ∨ c.hasControl = false then none
      else (receiveTime i (c.processed i codec)).map fun time => (c.processed i codec, time)

/-- A packet published into an epoch that has entries, while no cycle is expected, is from the cycle
after the last published one. -/
def Follows (c : DirectAudioReceiveConsumer) : ReceiveEvent → Prop
  | .batch _ => True
  | .packet i =>
    ∀ result time, c.published i = some (result, time) → c.replayCycleInitialized = false →
      0 < c.replay.state.producerCursor →
      cycleOrdinal time = (c.lastReplayCycleOrdinal + 1) % kCycleDomain

/-- What the consumer knows of the newest operation on the ring. -/
structure Tracks (c : DirectAudioReceiveConsumer) : Prop where
  armed : c.hasControl = true → c.replayResetForStart = true
  empty : c.replay.state.producerCursor = 0 →
    c.replay.log = [] ∨ ∃ older, c.replay.log = .reset :: older
  filled : c.hasControl = true → 0 < c.replay.state.producerCursor →
    ∃ entry older, c.replay.log = .publish entry :: older ∧
      cycleOrdinal entry.sourceCycleTimer = c.lastReplayCycleOrdinal ∧
      entry.firstAudioFrame + entry.dataBlocks = c.absoluteFrameCursor
  fresh : c.hasControl = true → c.replayCycleInitialized = false →
    0 < c.replay.state.producerCursor → c.replay.state.established = false

variable {c : DirectAudioReceiveConsumer} {i : ReceiveInput}
  {result : RxAudioPacketProcessorResult}

lemma throughout_reset (r : ReplayChannel) :
    Throughout Continues r.reset.log ↔ Throughout Continues r.log :=
  and_iff_right trivial

/-! The reset of an epoch. -/

lemma tracks_of_reset (harmed : c.hasControl = true → c.replayResetForStart = true)
    {r : ReplayChannel} (hr : c.replay = r.reset) : c.Tracks where
  armed := harmed
  empty := fun _ => Or.inr ⟨r.log, by rw [hr]; rfl⟩
  filled := fun _ h => absurd h (by rw [hr]; exact Nat.lt_irrefl 0)
  fresh := fun _ _ h => absurd h (by rw [hr]; exact Nat.lt_irrefl 0)

lemma reset_of_control (hcontrol : c.hasControl = true) (harmed : c.replayResetForStart = true) :
    c.resetReplayEpochForDiscontinuity =
      { c with
        cadence := {}
        replay := c.replay.reset
        replayReadyNotified := false
        replayCycleInitialized := false } := by
  unfold resetReplayEpochForDiscontinuity
  rw [if_neg (by simp [hcontrol, harmed])]

lemma tracks_resetReplayEpoch (harmed : c.hasControl = true → c.replayResetForStart = true)
    (hempty : c.replay.state.producerCursor = 0 →
      c.replay.log = [] ∨ ∃ older, c.replay.log = .reset :: older) :
    c.resetReplayEpochForDiscontinuity.Tracks ∧
      (Throughout Continues c.resetReplayEpochForDiscontinuity.replay.log ↔
        Throughout Continues c.replay.log) := by
  cases hcontrol : c.hasControl with
  | false =>
    have hsame : c.resetReplayEpochForDiscontinuity = { c with replayCycleInitialized := false } :=
      if_pos (Or.inl hcontrol)
    rw [hsame]
    have hnot : ({ c with replayCycleInitialized := false } :
        DirectAudioReceiveConsumer).hasControl = false := hcontrol
    exact ⟨⟨harmed, hempty, fun h => by simp [hnot] at h, fun h => by simp [hnot] at h⟩, Iff.rfl⟩
  | true =>
    rw [reset_of_control hcontrol (harmed hcontrol)]
    exact ⟨tracks_of_reset harmed rfl, throughout_reset c.replay⟩

/-! A packet with a valid time, up to its publication. -/

/-- The state a packet is published from. -/
structure Prepared (c b : DirectAudioReceiveConsumer) (frames ordinal : ℕ) : Prop where
  control : b.hasControl = true
  armed : b.replayResetForStart = true
  advanced : b.absoluteFrameCursor = c.absoluteFrameCursor + frames
  noted : b.lastReplayCycleOrdinal = ordinal
  replay : b.replay = c.replay ∧ b.replayCycleInitialized = true ∧
      (c.replayCycleInitialized = true →
        ordinal = (c.lastReplayCycleOrdinal + 1) % kCycleDomain) ∨
    b.replay = c.replay.reset ∧
      (c.replayCycleInitialized = false → c.replay.state.established = true)

lemma prepared_checkCycle (h : c.Tracks) (hcontrol : c.hasControl = true) (frames ordinal : ℕ) :
    c.Prepared ((c.advance frames).checkCycle ordinal) frames ordinal := by
  have harmed := h.armed hcontrol
  unfold checkCycle
  dsimp only
  by_cases hgap : (c.advance frames).replayCycleInitialized ∧
      ordinal ≠ ((c.advance frames).lastReplayCycleOrdinal + 1) % kCycleDomain
  · rw [if_pos hgap, reset_of_control (c := c.advance frames) hcontrol harmed]
    have hinit : c.replayCycleInitialized = true := hgap.1
    exact ⟨hcontrol, harmed, rfl, rfl, Or.inr ⟨rfl, fun hn => by simp [hinit] at hn⟩⟩
  · rw [if_neg hgap]
    refine ⟨hcontrol, harmed, rfl, rfl, Or.inl ⟨rfl, rfl, fun hinit => ?_⟩⟩
    by_contra hne
    exact hgap ⟨hinit, hne⟩

lemma Prepared.reset {b : DirectAudioReceiveConsumer} {frames ordinal : ℕ}
    (h : c.Prepared b frames ordinal) (hestablished : b.replay.state.established = true) :
    c.Prepared b.resetReplayEpochForDiscontinuity frames ordinal := by
  rw [reset_of_control h.control h.armed]
  refine ⟨h.control, h.armed, h.advanced, h.noted, Or.inr ?_⟩
  rcases h.replay with ⟨hsame, _, _⟩ | ⟨hreset, _⟩
  · refine ⟨?_, fun _ => ?_⟩
    · show b.replay.reset = c.replay.reset
      rw [hsame]
    · rw [← hsame]
      exact hestablished
  · rw [hreset] at hestablished
    exact absurd hestablished (by simp [ReplayChannel.reset, RxSequenceReplayState.reset])

lemma Prepared.observeSyt {b : DirectAudioReceiveConsumer} {frames ordinal : ℕ}
    (h : c.Prepared b frames ordinal) (cip : Option CIPHeader) :
    c.Prepared (b.observeSyt cip) frames ordinal := by
  unfold DirectAudioReceiveConsumer.observeSyt
  cases cip with
  | none => exact h
  | some cip =>
    dsimp only
    by_cases hinfo : cip.syt = kSytNoInfo
    · rw [if_pos hinfo]
      exact h
    · rw [if_neg hinfo]
      have hcadence : c.Prepared { b with cadence := (b.cadence.observe cip.syt).1 } frames
          ordinal := ⟨h.control, h.armed, h.advanced, h.noted, h.replay⟩
      by_cases hrejected : (b.cadence.observe cip.syt).2 = false ∧ b.replay.state.established
      · rw [if_pos hrejected]
        exact hcadence.reset hrejected.2
      · rw [if_neg hrejected]
        exact hcadence

lemma prepared (h : c.Tracks) (hcontrol : c.hasControl = true)
    (result : RxAudioPacketProcessorResult) (time : ℕ) :
    c.Prepared (((c.advance result.framesDecoded).checkCycle (cycleOrdinal time)).observeSyt
      result.cip) result.framesDecoded (cycleOrdinal time) :=
  (prepared_checkCycle h hcontrol _ _).observeSyt _

/-! Its publication, and what follows it. -/

lemma Prepared.continues_iff {b : DirectAudioReceiveConsumer} {frames : ℕ}
    {entry : RxSequenceEntry} (h : c.Tracks) (hcontrol : c.hasControl = true)
    (hb : c.Prepared b frames (cycleOrdinal entry.sourceCycleTimer))
    (hfirst : entry.firstAudioFrame = c.absoluteFrameCursor) :
    Throughout Continues (b.publish entry).replay.log ↔
      (c.replayCycleInitialized = false → 0 < c.replay.state.producerCursor →
        cycleOrdinal entry.sourceCycleTimer = (c.lastReplayCycleOrdinal + 1) % kCycleDomain) ∧
      Throughout Continues c.replay.log := by
  show Continues (.publish entry) b.replay.log ∧ Throughout Continues b.replay.log ↔ _
  rcases hb.replay with ⟨hsame, _, hnext⟩ | ⟨hreset, hold⟩
  · rw [hsame]
    apply and_congr_left'
    rcases Nat.eq_zero_or_pos c.replay.state.producerCursor with hzero | hpos
    · have htrue : Continues (.publish entry) c.replay.log := by
        rcases h.empty hzero with hlog | ⟨older, hlog⟩ <;> rw [hlog] <;> trivial
      exact iff_of_true htrue fun _ h => absurd h (by omega)
    · obtain ⟨last, older, hlog, hordinal, hend⟩ := h.filled hcontrol hpos
      rw [hlog]
      show Adjacent last entry ↔ _
      unfold Adjacent
      rw [hordinal, hfirst, ← hend]
      constructor
      · intro hadjacent _ _
        exact hadjacent.1
      · intro hfollows
        refine ⟨?_, rfl⟩
        cases hinit : c.replayCycleInitialized with
        | true => exact hnext hinit
        | false => exact hfollows hinit hpos
  · rw [hreset, throughout_reset]
    have hfollows : c.replayCycleInitialized = false → 0 < c.replay.state.producerCursor →
        cycleOrdinal entry.sourceCycleTimer = (c.lastReplayCycleOrdinal + 1) % kCycleDomain := by
      intro hinit hpos
      exact absurd (h.fresh hcontrol hinit hpos) (by simp [hold hinit])
    exact and_congr_left' (iff_of_true trivial hfollows)

lemma markEstablished_cursor (r : RxSequenceReplayState) :
    r.markEstablished.producerCursor = r.producerCursor := by
  unfold RxSequenceReplayState.markEstablished
  split_ifs <;> rfl

lemma markEstablished_of_short {r : RxSequenceReplayState} (h : r.producerCursor < 2) :
    r.markEstablished = r :=
  if_pos (h.trans_le (by decide))

lemma Prepared.tracks_published {b : DirectAudioReceiveConsumer} {frames ordinal : ℕ}
    (hb : c.Prepared b frames ordinal) (entry : RxSequenceEntry)
    (hordinal : cycleOrdinal entry.sourceCycleTimer = ordinal)
    (hend : entry.firstAudioFrame + entry.dataBlocks = b.absoluteFrameCursor) (i : ReceiveInput) :
    ((b.publish entry).establish i).Tracks ∧
      ((b.publish entry).establish i).replay.log = .publish entry :: b.replay.log := by
  have hfresh : b.replayCycleInitialized = false → b.replay.state.producerCursor = 0 ∧
      b.replay.state.established = false := by
    intro hinit
    rcases hb.replay with ⟨_, htrue, _⟩ | ⟨hreset, _⟩
    · simp [hinit] at htrue
    · rw [hreset]
      exact ⟨rfl, rfl⟩
  have hfilled : ∃ last older, (.publish entry :: b.replay.log : List ReplayOp) =
      .publish last :: older ∧ cycleOrdinal last.sourceCycleTimer = b.lastReplayCycleOrdinal ∧
        last.firstAudioFrame + last.dataBlocks = b.absoluteFrameCursor :=
    ⟨entry, b.replay.log, rfl, hordinal.trans hb.noted.symm, hend⟩
  unfold establish
  cases (b.publish entry).timingEstablished i with
  | false =>
    exact ⟨⟨fun _ => hb.armed, fun h => absurd h (Nat.succ_ne_zero _), fun _ _ => hfilled,
      fun _ hinit _ => (hfresh hinit).2⟩, rfl⟩
  | true =>
    rw [if_pos rfl]
    refine ⟨⟨fun _ => hb.armed, fun h => ?_, fun _ _ => hfilled, fun _ hinit _ => ?_⟩, rfl⟩
    · replace h : (b.replay.state.publish entry).markEstablished.producerCursor = 0 := h
      rw [markEstablished_cursor] at h
      exact absurd h (Nat.succ_ne_zero _)
    · obtain ⟨hcursor, hestablished⟩ := hfresh hinit
      show (b.replay.state.publish entry).markEstablished.established = false
      rw [markEstablished_of_short]
      · exact hestablished
      · show b.replay.state.producerCursor + 1 < 2
        omega

lemma tracks_publishAnchor (h : c.Tracks) (i : ReceiveInput)
    (result : RxAudioPacketProcessorResult) :
    (c.publishAnchor i result).Tracks ∧
      (Throughout Continues (c.publishAnchor i result).replay.log ↔
        Throughout Continues c.replay.log) := by
  unfold publishAnchor
  by_cases hrejected : c.anchorDue i result ∧ i.anchorAccepted = false
  · rw [if_pos hrejected]
    exact tracks_resetReplayEpoch h.armed h.empty
  · rw [if_neg hrejected]
    exact ⟨h, Iff.rfl⟩

/-- A packet with a valid time keeps its epoch gap-free exactly when, with no cycle expected in an
epoch that has entries, it is from the next one. -/
lemma consumeTimed_spec (h : c.Tracks) (hcontrol : c.hasControl = true)
    (hframes : result.framesDecoded < 2 ^ 16) (time : ℕ) :
    ((c.advance result.framesDecoded).consumeTimed i result time).Tracks ∧
      (Throughout Continues
          ((c.advance result.framesDecoded).consumeTimed i result time).replay.log ↔
        (c.replayCycleInitialized = false → 0 < c.replay.state.producerCursor →
          cycleOrdinal time = (c.lastReplayCycleOrdinal + 1) % kCycleDomain) ∧
        Throughout Continues c.replay.log) := by
  have hb := prepared h hcontrol result time
  set b := ((c.advance result.framesDecoded).checkCycle (cycleOrdinal time)).observeSyt result.cip
    with hbdef
  have hfirst : (b.replayEntry i result time).firstAudioFrame = c.absoluteFrameCursor := by
    show b.absoluteFrameCursor - result.framesDecoded = c.absoluteFrameCursor
    rw [hb.advanced]
    exact Nat.add_sub_cancel _ _
  have hblocks : (b.replayEntry i result time).dataBlocks = result.framesDecoded :=
    Nat.mod_eq_of_lt hframes
  have hend : (b.replayEntry i result time).firstAudioFrame +
      (b.replayEntry i result time).dataBlocks = b.absoluteFrameCursor := by
    rw [hfirst, hblocks, hb.advanced]
  obtain ⟨htracks, hlog⟩ :=
    Prepared.tracks_published hb (b.replayEntry i result time) rfl hend i
  obtain ⟨hfinal, hiff⟩ := tracks_publishAnchor htracks i result
  refine ⟨hfinal, hiff.trans ?_⟩
  rw [hlog]
  exact Prepared.continues_iff h hcontrol hb hfirst

/-! Every event, and every run. -/

lemma consumeResult_spec (h : c.Tracks) (hframes : result.framesDecoded < 2 ^ 16) :
    (c.consumeResult i result).Tracks ∧
      (Throughout Continues (c.consumeResult i result).replay.log ↔
        (∀ time, decoded result = true → c.hasControl = true → receiveTime i result = some time →
          c.replayCycleInitialized = false → 0 < c.replay.state.producerCursor →
          cycleOrdinal time = (c.lastReplayCycleOrdinal + 1) % kCycleDomain) ∧
        Throughout Continues c.replay.log) := by
  unfold consumeResult
  cases hdecoded : decoded result with
  | false =>
    obtain ⟨htracks, hlog⟩ := tracks_resetReplayEpoch h.armed h.empty
    exact ⟨htracks, hlog.trans (and_iff_right (by simp)).symm⟩
  | true =>
    rw [if_neg (by simp)]
    cases hcontrol : c.hasControl with
    | false =>
      rw [if_pos rfl]
      refine ⟨⟨fun h => ?_, h.empty, fun h => ?_, fun h => ?_⟩, (and_iff_right (by simp)).symm⟩
      all_goals exact absurd (hcontrol.symm.trans h) (by simp)
    | true =>
      rw [if_neg (by simp)]
      cases htime : receiveTime i result with
      | none =>
        obtain ⟨htracks, hlog⟩ :=
          tracks_resetReplayEpoch (c := c.advance result.framesDecoded) h.armed h.empty
        exact ⟨htracks, hlog.trans (and_iff_right (by simp)).symm⟩
      | some time =>
        obtain ⟨htracks, hlog⟩ := consumeTimed_spec (i := i) h hcontrol hframes time
        refine ⟨htracks, hlog.trans (and_congr_left' ?_)⟩
        simp

lemma consumePacket_spec (h : c.Tracks) :
    (c.consumePacket i).Tracks ∧
      (Throughout Continues (c.consumePacket i).replay.log ↔
        c.Follows (.packet i) ∧ Throughout Continues c.replay.log) := by
  unfold consumePacket Follows published
  dsimp only
  by_cases hempty : i.packet.payload = []
  · simp [hempty, h]
  · rw [if_neg hempty]
    simp only [if_neg hempty]
    cases c.codec with
    | none => simp [h]
    | some codec =>
      have hframes : (c.processed i codec).framesDecoded < 2 ^ 16 := framesDecoded_lt _ _ _ _
      obtain ⟨htracks, hlog⟩ := consumeResult_spec (i := i) h hframes
      refine ⟨htracks, hlog.trans (and_congr_left' ?_)⟩
      by_cases hpublished : decoded (c.processed i codec) = false ∨ c.hasControl = false
      · simp only [if_pos hpublished]
        refine iff_of_true (fun time hdecoded hcontrol => ?_) (by simp)
        rcases hpublished with hfalse | hfalse
        · simp [hfalse] at hdecoded
        · simp [hfalse] at hcontrol
      · simp only [if_neg hpublished]
        rw [not_or, Bool.not_eq_false, Bool.not_eq_false] at hpublished
        obtain ⟨hdecoded, hcontrol⟩ := hpublished
        constructor
        · intro hfollows found time hfound
          obtain ⟨_, htime, heq⟩ := Option.map_eq_some_iff.mp hfound
          rw [← (Prod.mk.inj heq).2]
          exact hfollows _ hdecoded hcontrol htime
        · intro hfollows time _ _ htime
          exact hfollows _ time (Option.map_eq_some_iff.mpr ⟨time, htime, rfl⟩)

lemma bind_spec (h : c.Tracks) (binding : AudioBinding) :
    (c.bind binding).Tracks ∧
      (Throughout Continues (c.bind binding).replay.log ↔ Throughout Continues c.replay.log) := by
  unfold bind
  cases hcontrol : binding.hasControl with
  | true => exact ⟨tracks_of_reset (fun _ => rfl) rfl, throughout_reset c.replay⟩
  | false =>
    have hnot : ({ c with inputView := some binding } : DirectAudioReceiveConsumer).hasControl =
        false := hcontrol
    exact ⟨⟨fun h => by simp [hnot] at h, h.empty, fun h => by simp [hnot] at h,
      fun h => by simp [hnot] at h⟩, Iff.rfl⟩

lemma tracks_unbind (h : c.Tracks) : c.unbind.Tracks :=
  ⟨fun h => absurd h Bool.false_ne_true, h.empty, fun h => absurd h Bool.false_ne_true,
    fun h => absurd h Bool.false_ne_true⟩

lemma Tracks.withGeneration (h : c.Tracks) (generation : ℕ) :
    ({ c with lastBindingGeneration := generation } : DirectAudioReceiveConsumer).Tracks :=
  ⟨h.armed, h.empty, h.filled, h.fresh⟩

lemma beginReceiveBatch_spec (h : c.Tracks) (snapshot : Option DirectAudioBindingSnapshot) :
    (c.beginReceiveBatch snapshot).Tracks ∧
      (Throughout Continues (c.beginReceiveBatch snapshot).replay.log ↔
        Throughout Continues c.replay.log) := by
  unfold beginReceiveBatch
  cases snapshot with
  | none =>
    dsimp only
    split_ifs
    · exact ⟨(tracks_unbind h).withGeneration 0, Iff.rfl⟩
    · exact ⟨h, Iff.rfl⟩
  | some snapshot =>
    dsimp only
    split_ifs
    · exact ⟨h, Iff.rfl⟩
    · cases snapshot.input with
      | none => exact ⟨(tracks_unbind h).withGeneration _, Iff.rfl⟩
      | some binding =>
        obtain ⟨htracks, hlog⟩ := bind_spec h binding
        exact ⟨htracks.withGeneration _, hlog⟩

lemma step_spec (h : c.Tracks) (e : ReceiveEvent) :
    (c.step e).Tracks ∧
      (Throughout Continues (c.step e).replay.log ↔
        c.Follows e ∧ Throughout Continues c.replay.log) := by
  cases e with
  | batch snapshot =>
    obtain ⟨htracks, hlog⟩ := beginReceiveBatch_spec h snapshot
    exact ⟨htracks, hlog.trans (and_iff_right trivial).symm⟩
  | packet i => exact consumePacket_spec h

lemma run_spec (h : c.Tracks) (events : List ReceiveEvent) :
    Throughout Continues (run step c events).replay.log ↔
      Meets step Follows c events ∧ Throughout Continues c.replay.log := by
  induction events generalizing c with
  | nil => exact (and_iff_right trivial).symm
  | cons e events ih =>
    obtain ⟨htracks, hlog⟩ := step_spec h e
    rw [run_cons, ih htracks, hlog]
    constructor
    · rintro ⟨hmeets, hfollows, hgapless⟩
      exact ⟨⟨hfollows, hmeets⟩, hgapless⟩
    · rintro ⟨⟨hfollows, hmeets⟩, hgapless⟩
      exact ⟨hmeets, hfollows, hgapless⟩

/-- Entries published one after the other in one epoch are adjacent. -/
def GapFree (log : List ReplayOp) : Prop :=
  ∀ newer second first older,
    log = newer ++ .publish second :: .publish first :: older → Adjacent first second

lemma gapFree_iff (log : List ReplayOp) : GapFree log ↔ Throughout Continues log := by
  rw [throughout_iff]
  constructor
  · intro h newer x older hlog
    cases x with
    | reset => trivial
    | publish second =>
      cases older with
      | nil => trivial
      | cons y older =>
        cases y with
        | reset => trivial
        | publish first => exact h newer second first older hlog
  · intro h newer second first older hlog
    exact h newer (.publish second) (.publish first :: older) hlog

/-- A consumer that is activated, before it has found a binding. -/
def activated (configuration : Configuration) (payloadCodec : Option RxPayloadCodec) :
    DirectAudioReceiveConsumer :=
  ({ configuration := configuration, payloadCodec := payloadCodec } :
    DirectAudioReceiveConsumer).onReceiveActivated

/-- The epochs of a run are gap-free exactly when no cycle is lost right after a packet whose SYT
ended an epoch. -/
theorem gapFree_run_iff (configuration : Configuration) (payloadCodec : Option RxPayloadCodec)
    (events : List ReceiveEvent) :
    GapFree (run step (activated configuration payloadCodec) events).replay.log ↔
      Meets step Follows (activated configuration payloadCodec) events := by
  have htracks : (activated configuration payloadCodec).Tracks :=
    ⟨fun h => absurd h Bool.false_ne_true, fun _ => Or.inl rfl,
      fun h => absurd h Bool.false_ne_true, fun h => absurd h Bool.false_ne_true⟩
  rw [gapFree_iff, run_spec htracks]
  exact and_iff_left trivial

/-! ### A cycle lost behind a rejected SYT -/

/-- One data block of two quadlets, received in cycle `k` with SYT `syt`. -/
def blockAt (k : ℕ) (syt : ℕ) : List UInt8 :=
  let timestamp := k / kCyclesPerSecond % 8 * 2 ^ 13 + k % kCyclesPerSecond
  [UInt8.ofNat timestamp, UInt8.ofNat (timestamp / 2 ^ 8), 0, 0, 0, 0, 0, 0,
    0, 2, 0, UInt8.ofNat k, 0x90, 2, UInt8.ofNat (syt / 2 ^ 8), UInt8.ofNat syt,
    0, 0, 0, 0, 0, 0, 0, 0]

lemma length_blockAt (k syt : ℕ) : (blockAt k syt).length < 2 ^ 16 := by
  show 24 < 2 ^ 16
  decide

def receivedAt (k : ℕ) (syt : ℕ) : ReceiveEvent :=
  .packet
    { packet := { payload := blockAt k syt, bound := length_blockAt k syt }
      drainCycleTimer := encodeCycleTimer (k / kCyclesPerSecond) (k % kCyclesPerSecond) 0 }

/-- The stream establishes its cadence; then a SYT is repeated, and the cycle behind it is lost. -/
def lostBehindRepeatedSyt : List ReceiveEvent :=
  .batch (some ⟨1, some ⟨48000, 2, 4096, true⟩⟩) ::
    ((List.range 514).map fun k => receivedAt k (k % 16 * 2 ^ 12)) ++
      [receivedAt 514 (513 % 16 * 2 ^ 12), receivedAt 516 (516 % 16 * 2 ^ 12)]

def beforeLost : RxSequenceEntry :=
  { firstAudioFrame := 514, sourceCycleTimer := 2105344, sytOffset := 46080, dataBlocks := 1,
    dbc := 2, flags := 3 }

def afterLost : RxSequenceEntry :=
  { firstAudioFrame := 515, sourceCycleTimer := 2113536, sytOffset := 0, dataBlocks := 1, dbc := 4,
    flags := 3 }

lemma lostBehindRepeatedSyt_newest :
    (run step (activated {} none) lostBehindRepeatedSyt).replay.log.take 2 =
      [.publish afterLost, .publish beforeLost] := by
  decide +kernel

theorem lostBehindRepeatedSyt_gap :
    ¬ GapFree (run step (activated {} none) lostBehindRepeatedSyt).replay.log := by
  intro hgapFree
  have hlog := List.take_append_drop 2
    (run step (activated {} none) lostBehindRepeatedSyt).replay.log
  rw [lostBehindRepeatedSyt_newest] at hlog
  have hadjacent := hgapFree [] afterLost beforeLost _ hlog.symm
  exact absurd hadjacent.1 (by decide +kernel)

end DirectAudioReceiveConsumer

end ASFireWire.AudioRx
