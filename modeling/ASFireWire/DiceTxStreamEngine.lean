import ASFireWire.AmdtpTxPacketizer
import ASFireWire.EventLog
import ASFireWire.Runs

/-! The transmit stream engine (`Audio/Engine/Direct/Tx/DiceTxStreamEngine.cpp`): it owns the
audio-frame cursor, plans each cycle, and hands the packet to the slot provider. What the provider,
the timing stamper and the timing-loss callback answer is data of the call. -/
namespace ASFireWire.AMDTP

open AmdtpTxPacketizer EventLog Runs

inductive TxSlotPrepareResult
  | prepared | slotProviderUnavailable | slotAcquireFailed | packetizerRejected | slotPublishFailed
  deriving DecidableEq, Repr

inductive TxTimingStampResult | ok | timingUnavailable | notApplicable
  deriving DecidableEq, Repr

def kMaxConsecutiveTimingReverts : ℕ := 16

structure DiceTxStreamEngine where
  packetizer : AmdtpTxPacketizer := {}
  timeline : AmdtpPacketTimeline := {}
  nextAudioFrame : ℕ := 0
  cursorEpoch : ℕ := 1
  frameCursorAligned : Bool := false
  hasSlotProvider : Bool := false
  consecutiveTimingReverts : ℕ := 0
  timingLossReported : Bool := false
  deriving DecidableEq

/-- A call of `PrepareNextTransmitSlot` with the answers it gets: the slot, or none where it cannot
be acquired; the stamper's result, if one is bound; the callback's, if there is one; and whether
the packet is published. -/
structure PrepareCall where
  packetIndex : ℕ
  slot : Option TxPacketSlotView
  timing : AmdtpTimingState := {}
  stamp : Option TxTimingStampResult := none
  lossCallback : Option Bool := none
  publishes : Bool := true
  deriving DecidableEq, Repr

namespace DiceTxStreamEngine

def configure (e : DiceTxStreamEngine) (hostToDevice : Bool) (txConfig : AmdtpStreamConfig)
    (policy : AmdtpTxPolicy) : Option DiceTxStreamEngine :=
  if hostToDevice = false then none
  else
    let config := { txConfig with
      maxPacketBytes :=
        kCipHeaderBytes + txConfig.framesPerDataPacket * txConfig.dbs * kBytesPerSlot }
    let packetizer := { e.packetizer with hasTimeline := true }
    (packetizer.configure config { policy with clearPayloadBeforeExposure := true }).map
      fun packetizer => { e with packetizer := packetizer, timeline := {} }

/-- The packetizer is told the epoch and the frame its plans will carry. -/
def presented (e : DiceTxStreamEngine) : DiceTxStreamEngine :=
  { e with packetizer :=
      e.packetizer.setPresentationCursor e.cursorEpoch e.nextAudioFrame e.frameCursorAligned }

def resetForStart (e : DiceTxStreamEngine) (initialDbc initialAudioFrame : ℕ) :
    DiceTxStreamEngine :=
  { e with
    timeline := {}
    nextAudioFrame := initialAudioFrame
    frameCursorAligned := false
    consecutiveTimingReverts := 0
    timingLossReported := false
    cursorEpoch := e.cursorEpoch + 1
    packetizer := e.packetizer.reset initialDbc initialAudioFrame : DiceTxStreamEngine }.presented

def alignFrameCursorOnce (e : DiceTxStreamEngine) (frameIndex : ℕ) : DiceTxStreamEngine × Bool :=
  if e.frameCursorAligned then (e, false)
  else
    ({ e with
        nextAudioFrame := frameIndex
        frameCursorAligned := true
        cursorEpoch := e.cursorEpoch + 1 : DiceTxStreamEngine }.presented, true)

def reArmFrameCursorAlignment (e : DiceTxStreamEngine) : DiceTxStreamEngine :=
  if e.frameCursorAligned = false then e
  else
    { e with
      frameCursorAligned := false
      cursorEpoch := e.cursorEpoch + 1 : DiceTxStreamEngine }.presented

def carriesData (e : DiceTxStreamEngine) (timing : AmdtpTimingState) : Bool :=
  timing.disposition = .data &&
    if timing.replayValid then timing.replayDataBlocks ≠ 0
    else e.packetizer.nextPacketWouldCarryData

def plannedFrames (e : DiceTxStreamEngine) (timing : AmdtpTimingState) : ℕ :=
  if e.carriesData timing then
    (if timing.replayValid then timing.replayDataBlocks
      else e.packetizer.currentCycleDataFrames) % 2 ^ 8
  else 0

def plan (e : DiceTxStreamEngine) (call : PrepareCall) : TxPresentationPlan where
  epoch := e.cursorEpoch
  cycleOrdinal := call.packetIndex
  firstAudioFrame := e.nextAudioFrame
  frameCount := e.plannedFrames call.timing
  disposition := if e.carriesData call.timing then .data else .noData

/-- The stamper only sees data packets with frames. -/
def stampResult (call : PrepareCall) (r : Prepared) : Option TxTimingStampResult :=
  if r.packet.isData ∧ 0 < r.packet.framesInPacket then call.stamp else none

def stamp (call : PrepareCall) (r : Prepared) : Prepared :=
  if stampResult call r = some .timingUnavailable then revertToNoData r else r

/-- One more packet turned back; from the limit on, the callback is asked until it answers. -/
def countTimingRevert (e : DiceTxStreamEngine) (lossCallback : Option Bool) : DiceTxStreamEngine :=
  let reverts := min (e.consecutiveTimingReverts + 1) kMaxConsecutiveTimingReverts
  match lossCallback with
  | none => { e with consecutiveTimingReverts := reverts }
  | some sent =>
    if kMaxConsecutiveTimingReverts ≤ reverts ∧ e.timingLossReported = false then
      { e with
        timingLossReported := sent
        consecutiveTimingReverts := if sent then reverts else 0 }
    else { e with consecutiveTimingReverts := reverts }

def countStamp (e : DiceTxStreamEngine) (call : PrepareCall) (r : Prepared) : DiceTxStreamEngine :=
  match stampResult call r with
  | none => e
  | some .timingUnavailable => e.countTimingRevert call.lossCallback
  | some _ => { e with consecutiveTimingReverts := 0, timingLossReported := false }

/-- The engine with a packet that is ready to be published. -/
def accept (e : DiceTxStreamEngine) (call : PrepareCall) (r : Prepared) : DiceTxStreamEngine :=
  { e.countStamp call r with
    packetizer := (stamp call r).packetizer
    timeline := (stamp call r).timeline }

def advanceFrames (e : DiceTxStreamEngine) (frames : ℕ) : DiceTxStreamEngine :=
  { e with nextAudioFrame := e.nextAudioFrame + frames }

/-- The engine, the result, and the packet that went to the provider with what is in its slot. -/
def prepareNextTransmitSlot (e : DiceTxStreamEngine) (call : PrepareCall) :
    DiceTxStreamEngine × TxSlotPrepareResult × Option (PreparedTxPacket × SlotImage) :=
  if e.hasSlotProvider = false then (e, .slotProviderUnavailable, none)
  else
    match call.slot with
    | none => (e, .slotAcquireFailed, none)
    | some slot =>
      match e.packetizer.prepareNextPacket e.timeline slot call.timing (e.plan call) with
      | none => (e, .packetizerRejected, none)
      | some r =>
        let out := ((stamp call r).packet, (stamp call r).image)
        if call.publishes = false then (e.accept call r, .slotPublishFailed, some out)
        else ((e.accept call r).advanceFrames (dataBlocks out.1), .prepared, some out)

variable {e : DiceTxStreamEngine} {call : PrepareCall} {r : Prepared}

lemma countTimingRevert_nextAudioFrame (e : DiceTxStreamEngine) (lossCallback : Option Bool) :
    (e.countTimingRevert lossCallback).nextAudioFrame = e.nextAudioFrame := by
  unfold countTimingRevert
  cases lossCallback with
  | none => rfl
  | some sent =>
    dsimp only
    split_ifs <;> rfl

lemma countStamp_nextAudioFrame (e : DiceTxStreamEngine) (call : PrepareCall) (r : Prepared) :
    (e.countStamp call r).nextAudioFrame = e.nextAudioFrame := by
  unfold countStamp
  cases stampResult call r with
  | none => rfl
  | some result =>
    cases result with
    | timingUnavailable => exact countTimingRevert_nextAudioFrame _ _
    | ok => rfl
    | notApplicable => rfl

lemma stamp_sound (h : Sound e.packetizer (e.plan call) r) :
    Sound e.packetizer (e.plan call) (stamp call r) := by
  unfold stamp
  by_cases hlost : stampResult call r = some .timingUnavailable
  · rw [if_pos hlost]
    exact (revertToNoData_sound h).1
  · rw [if_neg hlost]
    exact h

/-- A call whose packet is published either leaves packetizer and cursor as they were, or publishes
a sound packet and moves the cursor over its frames. -/
theorem prepareNextTransmitSlot_cases (hpublishes : call.publishes = true) :
    (∃ result, result ≠ .prepared ∧ e.prepareNextTransmitSlot call = (e, result, none)) ∨
    ∃ r e', Sound e.packetizer (e.plan call) r ∧
      e.prepareNextTransmitSlot call = (e', .prepared, some (r.packet, r.image)) ∧
      e'.packetizer = r.packetizer ∧
      e'.nextAudioFrame = e.nextAudioFrame + dataBlocks r.packet := by
  unfold prepareNextTransmitSlot
  by_cases hprovider : e.hasSlotProvider = false
  · rw [if_pos hprovider]
    exact Or.inl ⟨_, by decide, rfl⟩
  · rw [if_neg hprovider]
    cases hslot : call.slot with
    | none => exact Or.inl ⟨_, by decide, rfl⟩
    | some slot =>
      dsimp only
      cases hr : e.packetizer.prepareNextPacket e.timeline slot call.timing (e.plan call) with
      | none => exact Or.inl ⟨_, by decide, rfl⟩
      | some r =>
        right
        refine ⟨stamp call r, (e.accept call r).advanceFrames (dataBlocks (stamp call r).packet),
          stamp_sound (prepareNextPacket_sound hr), ?_, rfl, ?_⟩
        · dsimp only
          rw [if_neg (by simp [hpublishes])]
        · simp only [advanceFrames, accept, countStamp_nextAudioFrame]

end DiceTxStreamEngine

/-! ### Streams -/

inductive TxOp
  | prepare (call : PrepareCall)
  | alignFrameCursorOnce (frameIndex : ℕ)
  | reArmFrameCursorAlignment
  deriving DecidableEq, Repr

/-- The provider takes every packet it is handed. -/
def TxOp.Publishes : TxOp → Prop
  | prepare call => call.publishes = true
  | _ => True

instance : DecidablePred TxOp.Publishes
  | .prepare call => inferInstanceAs (Decidable (call.publishes = true))
  | .alignFrameCursorOnce _ => isTrue trivial
  | .reArmFrameCursorAlignment => isTrue trivial

/-- What a stream does to the outside. -/
inductive TxLogEntry
  | published (packet : PreparedTxPacket) (image : SlotImage)
  | aligned (frameIndex : ℕ)
  deriving DecidableEq, Repr

/-- The engine and its log, newest first. -/
structure TxStream where
  engine : DiceTxStreamEngine
  log : List TxLogEntry := []

namespace TxStream

open DiceTxStreamEngine

def step (s : TxStream) : TxOp → TxStream
  | .prepare call =>
    match s.engine.prepareNextTransmitSlot call with
    | (engine, .prepared, some (packet, image)) => ⟨engine, .published packet image :: s.log⟩
    | (engine, _, _) => { s with engine := engine }
  | .alignFrameCursorOnce frameIndex =>
    match s.engine.alignFrameCursorOnce frameIndex with
    | (engine, true) => ⟨engine, .aligned frameIndex :: s.log⟩
    | (engine, false) => { s with engine := engine }
  | .reArmFrameCursorAlignment => { s with engine := s.engine.reArmFrameCursorAlignment }

/-- Data blocks of the packets of a log. -/
def blocks : List TxLogEntry → ℕ
  | [] => 0
  | .published packet _ :: log => dataBlocks packet + blocks log
  | .aligned _ :: log => blocks log

/-- The frame after the last data packet or the last alignment. -/
def nextFrame (initialAudioFrame : ℕ) : List TxLogEntry → ℕ
  | [] => initialAudioFrame
  | .aligned frameIndex :: _ => frameIndex
  | .published packet _ :: log =>
    if packet.isData then packet.firstAudioFrame + packet.framesInPacket
    else nextFrame initialAudioFrame log

/-- A packet continues the log before it. -/
def Continues (initialDbc initialAudioFrame : ℕ) (policy : AmdtpTxPolicy) :
    TxLogEntry → List TxLogEntry → Prop
  | .aligned _, _ => True
  | .published packet image, older =>
    packet.dbc = (initialDbc + blocks older +
      (if policy.dbcIsEndEvent then dataBlocks packet else 0)) % 2 ^ 8 ∧
    (packet.byteCount ≠ 0 → ∃ h ∈ image.header, h.q0 % 2 ^ 8 = packet.dbc) ∧
    packet.firstAudioFrame = nextFrame initialAudioFrame older

structure Continuous (initialDbc initialAudioFrame : ℕ) (policy : AmdtpTxPolicy) (s : TxStream) :
    Prop where
  fixed : s.engine.packetizer.txPolicy = policy
  counter : s.engine.packetizer.dbcCounter.dbc = (initialDbc + blocks s.log) % 2 ^ 8
  cursor : s.engine.nextAudioFrame = nextFrame initialAudioFrame s.log
  past : Throughout (Continues initialDbc initialAudioFrame policy) s.log

variable {initialDbc initialAudioFrame : ℕ} {policy : AmdtpTxPolicy} {s : TxStream} {op : TxOp}

lemma Continuous.prepare (h : Continuous initialDbc initialAudioFrame policy s)
    {call : PrepareCall} (hpublishes : call.publishes = true) :
    Continuous initialDbc initialAudioFrame policy (s.step (.prepare call)) := by
  unfold step
  dsimp only
  rcases prepareNextTransmitSlot_cases (e := s.engine) hpublishes with
    ⟨result, hresult, heq⟩ | ⟨r, e', hsound, heq, hpacketizer, hcursor⟩
  · rw [heq]
    cases result <;> first | exact absurd rfl hresult | exact h
  · rw [heq]
    have hnext : nextFrame initialAudioFrame (.published r.packet r.image :: s.log) =
        s.engine.nextAudioFrame + dataBlocks r.packet := by
      simp only [nextFrame, dataBlocks]
      by_cases hdata : r.packet.isData
      · rw [if_pos hdata, if_pos hdata, hsound.frame]
        rfl
      · rw [if_neg hdata, if_neg hdata, h.cursor, Nat.add_zero]
    constructor
    · rw [hpacketizer, hsound.policy, h.fixed]
    · rw [hpacketizer, hsound.counter]
      simp only [DbcCounter.advanceDataBlocks, h.counter, blocks]
      omega
    · rw [hcursor, hnext]
    · refine ⟨⟨?_, hsound.header, ?_⟩, h.past⟩
      · rw [hsound.dbc, h.counter, h.fixed]
        omega
      · rw [hsound.frame, ← h.cursor]
        rfl

lemma Continuous.align (h : Continuous initialDbc initialAudioFrame policy s) (frameIndex : ℕ) :
    Continuous initialDbc initialAudioFrame policy (s.step (.alignFrameCursorOnce frameIndex)) := by
  unfold step alignFrameCursorOnce
  dsimp only
  by_cases haligned : s.engine.frameCursorAligned = true
  · rw [if_pos haligned]
    exact h
  · rw [if_neg haligned]
    exact ⟨h.fixed, h.counter, rfl, trivial, h.past⟩

lemma Continuous.reArm (h : Continuous initialDbc initialAudioFrame policy s) :
    Continuous initialDbc initialAudioFrame policy (s.step .reArmFrameCursorAlignment) := by
  unfold step reArmFrameCursorAlignment
  by_cases haligned : s.engine.frameCursorAligned = false
  · dsimp only
    rw [if_pos haligned]
    exact h
  · dsimp only
    rw [if_neg haligned]
    exact ⟨h.fixed, h.counter, h.cursor, h.past⟩

lemma Continuous.step (h : Continuous initialDbc initialAudioFrame policy s)
    (hpublishes : op.Publishes) : Continuous initialDbc initialAudioFrame policy (s.step op) := by
  cases op with
  | prepare call => exact h.prepare hpublishes
  | alignFrameCursorOnce frameIndex => exact h.align frameIndex
  | reArmFrameCursorAlignment => exact h.reArm

/-- Without an alignment in between, the next frame is the data blocks since a data packet past its
own frames. -/
lemma nextFrame_between {packet : PreparedTxPacket} {image : SlotImage}
    {older between : List TxLogEntry} (hdata : packet.isData = true)
    (hnone : ∀ frameIndex, .aligned frameIndex ∉ between)
    (hpast : Throughout (Continues initialDbc initialAudioFrame policy)
      (between ++ .published packet image :: older)) :
    nextFrame initialAudioFrame (between ++ .published packet image :: older) =
      packet.firstAudioFrame + packet.framesInPacket + blocks between := by
  induction between with
  | nil => simp [nextFrame, hdata, blocks]
  | cons entry between ih =>
    have hrest := ih (fun frameIndex hmem => hnone frameIndex (List.mem_cons_of_mem _ hmem)) hpast.2
    cases entry with
    | aligned frameIndex => exact absurd List.mem_cons_self (hnone frameIndex)
    | published q qimage =>
      have hfirst : q.firstAudioFrame =
          nextFrame initialAudioFrame (between ++ .published packet image :: older) := hpast.1.2.2
      simp only [List.cons_append, nextFrame, blocks, dataBlocks]
      by_cases hq : q.isData = true
      · rw [if_pos hq, if_pos hq, hfirst, hrest]
        omega
      · rw [if_neg hq, if_neg hq, hrest, Nat.zero_add]

def started (e : DiceTxStreamEngine) (initialDbc initialAudioFrame : ℕ) : TxStream where
  engine := e.resetForStart initialDbc initialAudioFrame

lemma continuous_started (e : DiceTxStreamEngine) (initialDbc initialAudioFrame : ℕ) :
    Continuous initialDbc initialAudioFrame e.packetizer.txPolicy
      (started e initialDbc initialAudioFrame) := by
  constructor
  · rfl
  · simp [started, resetForStart, presented, setPresentationCursor, AmdtpTxPacketizer.reset,
      DbcCounter.reset, blocks]
  · rfl
  · trivial

/-- Along any stream whose packets are published: every packet carries the initial counter value
plus the data blocks published before it (and its own where the end event is counted), in its
header too; and of two data packets without an alignment in between, the later one starts where
the frames of the earlier one and of those published between them end. -/
theorem stream_continuous (e : DiceTxStreamEngine) (initialDbc initialAudioFrame : ℕ)
    (ops : List TxOp) (hpublishes : ∀ op ∈ ops, op.Publishes) :
    let log := (run step (started e initialDbc initialAudioFrame) ops).log
    (∀ newer packet image older, log = newer ++ .published packet image :: older →
      packet.dbc = (initialDbc + blocks older +
        (if e.packetizer.txPolicy.dbcIsEndEvent then dataBlocks packet else 0)) % 2 ^ 8 ∧
      (packet.byteCount ≠ 0 → ∃ h ∈ image.header, h.q0 % 2 ^ 8 = packet.dbc)) ∧
    (∀ newer q qimage between p pimage older,
      log = newer ++ .published q qimage :: (between ++ .published p pimage :: older) →
      p.isData = true → q.isData = true → (∀ frameIndex, .aligned frameIndex ∉ between) →
      q.firstAudioFrame = p.firstAudioFrame + p.framesInPacket + blocks between) := by
  have hinvariant : Continuous initialDbc initialAudioFrame e.packetizer.txPolicy
      (run step (started e initialDbc initialAudioFrame) ops) := by
    apply invariant_run_of_meets _ (continuous_started e initialDbc initialAudioFrame)
    · exact meets_of_forall hpublishes
    · intro s op h hop
      exact h.step hop
  have hpast := throughout_iff.mp hinvariant.past
  dsimp only
  constructor
  · intro newer packet image older hlog
    obtain ⟨hdbc, hheader, -⟩ := hpast newer _ older hlog
    exact ⟨hdbc, hheader⟩
  · intro newer q qimage between p pimage older hlog hp hq hnone
    obtain ⟨-, -, hfirst⟩ := hpast newer _ _ hlog
    rw [hfirst]
    apply nextFrame_between hp hnone
    apply throughout_iff.mpr
    intro newer' x older' hsplit
    apply hpast (newer ++ .published q qimage :: newer') x older'
    rw [hlog, hsplit]
    simp

/-- An engine for eight channels at 48 kHz that counts the end event. -/
def eightChannels : DiceTxStreamEngine :=
  (({ hasSlotProvider := true } : DiceTxStreamEngine).configure true { dbs := 8, pcmChannels := 8 }
    { dbcIsEndEvent := true }).getD {}

/-- Eight replayed frames, with or without a time to stamp them with. -/
def replayedCall (packetIndex : ℕ) (stamp : Option TxTimingStampResult) : PrepareCall where
  packetIndex := packetIndex
  slot := some { packetIndex := packetIndex, capacityBytes := 264 }
  timing := { disposition := .data, replayValid := true, replayDataBlocks := 8 }
  stamp := stamp

/-- An alignment, a stamped packet, one that is turned back, a refused slot, and one more. -/
def shortStream : List TxOp :=
  [.alignFrameCursorOnce 1000, .prepare (replayedCall 0 (some .ok)),
    .prepare (replayedCall 1 (some .timingUnavailable)), .alignFrameCursorOnce 5000,
    .prepare { replayedCall 2 none with slot := none }, .prepare (replayedCall 2 none)]

theorem shortStream_continuous :
    let log := (run step (started eightChannels 250 0) shortStream).log
    blocks log = 16 ∧ log.length = 4 ∧
    ∀ newer packet image older, log = newer ++ .published packet image :: older →
      packet.dbc = (250 + blocks older + dataBlocks packet) % 2 ^ 8 := by
  have hpolicy : eightChannels.packetizer.txPolicy.dbcIsEndEvent = true := by decide +kernel
  refine ⟨by decide +kernel, by decide +kernel, fun newer packet image older hlog => ?_⟩
  have hcontinuous := stream_continuous eightChannels 250 0 shortStream (by decide)
  have hdbc := (hcontinuous.1 newer packet image older hlog).1
  rwa [if_pos hpolicy] at hdbc

end TxStream

end ASFireWire.AMDTP
