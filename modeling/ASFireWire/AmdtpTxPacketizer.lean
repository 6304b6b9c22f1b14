import Mathlib

/-! The AMDTP transmit packetizer (`Audio/Wire/AMDTP/AmdtpTxPacketizer.cpp`) with the counter, the
header builder and the cadences it is made of. Packet bytes are quadlet values. -/
namespace ASFireWire.AMDTP

inductive StreamMode | blocking | nonBlocking
  deriving DecidableEq, Repr

structure AmdtpStreamConfig where
  sampleRate : ℕ := 48000
  streamMode : StreamMode := .blocking
  sid : ℕ := 0
  dbs : ℕ := 0
  pcmChannels : ℕ := 0
  midiSlots : ℕ := 0
  fmt : ℕ := 0x10
  fdf : ℕ := 0x02
  framesPerDataPacket : ℕ := 8
  maxPacketBytes : ℕ := 512
  deriving DecidableEq, Repr

structure AmdtpTxPolicy where
  defaultNonAudioSlotWord : ℕ := 0x80000000
  clearPayloadBeforeExposure : Bool := true
  initializeNonAudioSlots : Bool := true
  preserveFdfInNoDataPackets : Bool := false
  emptyPacketsDuringIdle : Bool := false
  dbcIsEndEvent : Bool := false
  deriving DecidableEq, Repr

inductive AmdtpPacketDisposition | noData | data
  deriving DecidableEq, Repr

structure AmdtpTimingState where
  txClockValid : Bool := false
  disposition : AmdtpPacketDisposition := .noData
  nextDataSyt : ℕ := 0xFFFF
  replayDataBlocks : ℕ := 0
  replayValid : Bool := false
  deriving DecidableEq, Repr

/-- A slot of the provider; `hasBytes` is that it has memory behind it. -/
structure TxPacketSlotView where
  packetIndex : ℕ
  hasBytes : Bool := true
  capacityBytes : ℕ
  deriving DecidableEq, Repr

structure PreparedTxPacket where
  packetIndex : ℕ := 0
  byteCount : ℕ := 0
  isData : Bool := false
  dbc : ℕ := 0
  syt : ℕ := 0xFFFF
  firstAudioFrame : ℕ := 0
  framesInPacket : ℕ := 0
  dbs : ℕ := 0
  deriving DecidableEq, Repr

structure TxPresentationPlan where
  epoch : ℕ := 0
  cycleOrdinal : ℕ := 0
  firstAudioFrame : ℕ := 0
  frameCount : ℕ := 0
  presentationBusTicks : ℕ := 0
  disposition : AmdtpPacketDisposition := .noData
  deriving DecidableEq, Repr

def kCipHeaderBytes : ℕ := 8

def kBytesPerSlot : ℕ := 4

def kNoInfo : ℕ := 0xFFFF

/-! ### Data block counter -/

structure DbcCounter where
  dbc : ℕ := 0
  bound : dbc < 2 ^ 8 := by decide
  deriving DecidableEq

namespace DbcCounter

def zero : DbcCounter := {}

def valueForNextPacket (c : DbcCounter) : ℕ := c.dbc

def advanceDataBlocks (c : DbcCounter) (dataBlocks : ℕ) : DbcCounter :=
  ⟨(c.dbc + dataBlocks) % 2 ^ 8, Nat.mod_lt _ (by decide)⟩

def rewindDataBlocks (c : DbcCounter) (dataBlocks : ℕ) : DbcCounter :=
  ⟨(c.dbc + (2 ^ 8 - dataBlocks % 2 ^ 8)) % 2 ^ 8, Nat.mod_lt _ (by decide)⟩

def reset (initialDbc : ℕ) : DbcCounter := ⟨initialDbc % 2 ^ 8, Nat.mod_lt _ (by decide)⟩

lemma rewind_advance (c : DbcCounter) (dataBlocks : ℕ) :
    (c.advanceDataBlocks dataBlocks).rewindDataBlocks dataBlocks = c := by
  obtain ⟨dbc, hdbc⟩ := c
  simp only [advanceDataBlocks, rewindDataBlocks, mk.injEq]
  omega

end DbcCounter

/-! ### CIP headers -/

structure CipHeaderWords where
  q0 : ℕ
  q1 : ℕ
  deriving DecidableEq, Repr

structure CipHeaderConfig where
  sid : ℕ := 0
  dbs : ℕ := 0
  fn : ℕ := 0
  qpc : ℕ := 0
  sph : Bool := false
  fmt : ℕ := 0x10
  fdf : ℕ := 0x02
  noDataFdf : ℕ := 0xFF
  deriving DecidableEq, Repr

namespace CipHeaderConfig

def q0 (c : CipHeaderConfig) (dbc : ℕ) : ℕ :=
  c.sid % 2 ^ 6 * 2 ^ 24 + c.dbs * 2 ^ 16 + c.fn % 2 ^ 2 * 2 ^ 14 + c.qpc % 2 ^ 3 * 2 ^ 11 +
    (if c.sph then 2 ^ 10 else 0) + dbc

def q1 (c : CipHeaderConfig) (fdf syt : ℕ) : ℕ :=
  2 ^ 31 + c.fmt % 2 ^ 6 * 2 ^ 24 + fdf * 2 ^ 16 + syt

def buildData (c : CipHeaderConfig) (dbc syt : ℕ) : CipHeaderWords := ⟨c.q0 dbc, c.q1 c.fdf syt⟩

def buildNoData (c : CipHeaderConfig) (dbc : ℕ) : CipHeaderWords :=
  ⟨c.q0 dbc, c.q1 c.noDataFdf kNoInfo⟩

lemma q0_mod (c : CipHeaderConfig) {dbc : ℕ} (hdbc : dbc < 2 ^ 8) : c.q0 dbc % 2 ^ 8 = dbc := by
  unfold q0
  split_ifs <;> omega

end CipHeaderConfig

/-! ### Cadences -/

def kTicksPerCycle : ℕ := 3072

def kTicksPerSecond : ℕ := 24576000

/-- `denominator = 0` is an engine without a configuration. -/
structure RationalBlockingCadence where
  denominator : ℕ := 0
  sytInterval : ℕ := 0
  cycleSpanSubticks : ℕ := 0
  stepSubticks : ℕ := 0
  initialDeadlineSubticks : ℕ := 0
  deadlineSubticks : ℕ := 0
  totalCycles : ℕ := 0
  deriving DecidableEq, Repr

namespace RationalBlockingCadence

def configure (sampleRateHz sytInterval initialDeadlineSubticks : ℕ) :
    Option RationalBlockingCadence :=
  if sampleRateHz = 0 ∨ sytInterval = 0 then none
  else if kTicksPerSecond * sytInterval < kTicksPerCycle * sampleRateHz then none
  else
    some
      { denominator := sampleRateHz
        sytInterval := sytInterval
        cycleSpanSubticks := kTicksPerCycle * sampleRateHz
        stepSubticks := kTicksPerSecond * sytInterval
        initialDeadlineSubticks := initialDeadlineSubticks
        deadlineSubticks := initialDeadlineSubticks }

def reset (c : RationalBlockingCadence) : RationalBlockingCadence :=
  { c with deadlineSubticks := c.initialDeadlineSubticks, totalCycles := 0 }

def currentIsData (c : RationalBlockingCadence) : Bool :=
  c.denominator ≠ 0 && c.deadlineSubticks < c.cycleSpanSubticks

def currentDataBlocks (c : RationalBlockingCadence) : ℕ :=
  if c.currentIsData then c.sytInterval else 0

def advanceCycle (c : RationalBlockingCadence) : RationalBlockingCadence :=
  if c.denominator = 0 then c
  else
    { c with
      deadlineSubticks :=
        (if c.deadlineSubticks < c.cycleSpanSubticks then c.deadlineSubticks + c.stepSubticks
          else c.deadlineSubticks) - c.cycleSpanSubticks
      totalCycles := c.totalCycles + 1 }

end RationalBlockingCadence

inductive AmdtpCadence
  | blocking (engine : RationalBlockingCadence)
  | nonBlocking48k (totalCycles : ℕ)
  deriving DecidableEq, Repr

def kFramesPerCycle48k : ℕ := 6

def accumulatorEquivalentSeedSubticks (sytIntervalFrames : ℕ) : ℕ :=
  kTicksPerSecond * sytIntervalFrames - kTicksPerCycle

namespace AmdtpCadence

def reset : AmdtpCadence → AmdtpCadence
  | blocking engine => blocking engine.reset
  | nonBlocking48k _ => nonBlocking48k 0

def currentCycleIsData : AmdtpCadence → Bool
  | blocking engine => engine.currentIsData
  | nonBlocking48k _ => true

def currentCycleDataFrames : AmdtpCadence → ℕ
  | blocking engine => engine.currentDataBlocks
  | nonBlocking48k _ => kFramesPerCycle48k

def advanceCycle : AmdtpCadence → AmdtpCadence
  | blocking engine => blocking engine.advanceCycle
  | nonBlocking48k totalCycles => nonBlocking48k (totalCycles + 1)

end AmdtpCadence

structure AmdtpRateGeometry where
  sytIntervalFrames : ℕ
  fdf : ℕ
  deriving DecidableEq, Repr

def amdtpRateGeometryForSampleRate (sampleRateHz : ℕ) : Option AmdtpRateGeometry :=
  match sampleRateHz with
  | 32000 => some ⟨8, 0⟩
  | 44100 => some ⟨8, 1⟩
  | 48000 => some ⟨8, 2⟩
  | 88200 => some ⟨16, 3⟩
  | 96000 => some ⟨16, 4⟩
  | 176400 => some ⟨32, 5⟩
  | 192000 => some ⟨32, 6⟩
  | _ => none

/-! ### Packets -/

/-- One past the highest audio frame ever exposed. -/
structure AmdtpPacketTimeline where
  exposedFrameEnd : ℕ := 0
  deriving DecidableEq, Repr

/-- What is written into a slot; `none` is a quadlet left as it was. -/
structure SlotImage where
  header : Option CipHeaderWords := none
  payload : List (Option ℕ) := []
  deriving DecidableEq, Repr

structure AmdtpTxPacketizer where
  streamConfig : AmdtpStreamConfig := {}
  txPolicy : AmdtpTxPolicy := {}
  cipBuilder : CipHeaderConfig := {}
  dbcCounter : DbcCounter := .zero
  cadence : Option AmdtpCadence := none
  hasTimeline : Bool := false
  frameCursorAligned : Bool := false
  cursorEpoch : ℕ := 0
  telemetryNextAudioFrame : ℕ := 0
  deriving DecidableEq

namespace AmdtpTxPacketizer

def reset (p : AmdtpTxPacketizer) (initialDbc initialAudioFrame : ℕ) : AmdtpTxPacketizer :=
  { p with
    dbcCounter := DbcCounter.reset initialDbc
    frameCursorAligned := false
    cursorEpoch := p.cursorEpoch + 1
    telemetryNextAudioFrame := initialAudioFrame
    cadence := p.cadence.map AmdtpCadence.reset }

def configure (p : AmdtpTxPacketizer) (streamConfig : AmdtpStreamConfig)
    (txPolicy : AmdtpTxPolicy) : Option AmdtpTxPacketizer :=
  match amdtpRateGeometryForSampleRate streamConfig.sampleRate with
  | none => none
  | some geometry =>
    if streamConfig.streamMode ≠ .blocking ∧ streamConfig.sampleRate ≠ 48000 then none
    else
      let dbs := if streamConfig.dbs = 0 then
          (streamConfig.pcmChannels + streamConfig.midiSlots) % 2 ^ 8
        else streamConfig.dbs
      let config := { streamConfig with fdf := geometry.fdf, dbs := dbs }
      if config.dbs = 0 ∨ config.framesPerDataPacket = 0 then none
      else if config.maxPacketBytes <
          kCipHeaderBytes + config.framesPerDataPacket * config.dbs * kBytesPerSlot then none
      else
        let cadence := match config.streamMode with
          | .blocking =>
            (RationalBlockingCadence.configure config.sampleRate geometry.sytIntervalFrames
              (accumulatorEquivalentSeedSubticks geometry.sytIntervalFrames)).map
                AmdtpCadence.blocking
          | .nonBlocking => some (AmdtpCadence.nonBlocking48k 0)
        cadence.map fun cadence =>
          { p with
            streamConfig := config
            txPolicy := txPolicy
            cipBuilder :=
              { sid := config.sid
                dbs := config.dbs
                fmt := config.fmt
                fdf := config.fdf
                noDataFdf := if txPolicy.preserveFdfInNoDataPackets then config.fdf else 0xFF }
            cadence := some cadence : AmdtpTxPacketizer }.reset 0 0

def setPresentationCursor (p : AmdtpTxPacketizer) (epoch frame : ℕ) (aligned : Bool) :
    AmdtpTxPacketizer :=
  { p with cursorEpoch := epoch, frameCursorAligned := aligned, telemetryNextAudioFrame := frame }

def nextPacketWouldCarryData (p : AmdtpTxPacketizer) : Bool :=
  match p.cadence with
  | none => false
  | some cadence => cadence.currentCycleIsData

def currentCycleDataFrames (p : AmdtpTxPacketizer) : ℕ :=
  match p.cadence with
  | none => 0
  | some cadence => cadence.currentCycleDataFrames

/-- `WriteDataPacketDefaults`, block after block. -/
def dataPacketDefaults (p : AmdtpTxPacketizer) (frames : ℕ) : List (Option ℕ) :=
  (List.replicate frames ((List.range p.streamConfig.dbs).map fun s =>
    if p.txPolicy.initializeNonAudioSlots ∧ p.streamConfig.pcmChannels ≤ s then
      some p.txPolicy.defaultNonAudioSlotWord
    else if p.txPolicy.clearPayloadBeforeExposure then some 0
    else none)).flatten

def dataPacketBytes (p : AmdtpTxPacketizer) (frames : ℕ) : ℕ :=
  kCipHeaderBytes + frames * p.streamConfig.dbs * kBytesPerSlot

/-- What `PrepareNextPacket` leaves and hands out. -/
structure Prepared where
  packetizer : AmdtpTxPacketizer
  timeline : AmdtpPacketTimeline
  packet : PreparedTxPacket
  image : SlotImage
  deriving DecidableEq

def exposeDataPacket (t : AmdtpPacketTimeline) (packet : PreparedTxPacket) : AmdtpPacketTimeline :=
  ⟨max t.exposedFrameEnd (packet.firstAudioFrame + packet.framesInPacket)⟩

/-- The packet of a cycle with audio frames, once nothing stands against it. -/
def dataPacket (p : AmdtpTxPacketizer) (t : AmdtpPacketTimeline) (cadence : AmdtpCadence)
    (slot : TxPacketSlotView) (timing : AmdtpTimingState) (plan : TxPresentationPlan) : Prepared :=
  let packet : PreparedTxPacket :=
    { packetIndex := slot.packetIndex
      byteCount := p.dataPacketBytes plan.frameCount
      isData := true
      dbc := (p.dbcCounter.valueForNextPacket +
        (if p.txPolicy.dbcIsEndEvent then plan.frameCount else 0)) % 2 ^ 8
      syt := if timing.txClockValid then timing.nextDataSyt else kNoInfo
      firstAudioFrame := plan.firstAudioFrame
      framesInPacket := plan.frameCount
      dbs := p.streamConfig.dbs }
  { packetizer :=
      { p with
        dbcCounter := p.dbcCounter.advanceDataBlocks plan.frameCount
        telemetryNextAudioFrame := plan.firstAudioFrame + plan.frameCount
        cadence := some cadence.advanceCycle }
    timeline := exposeDataPacket t packet
    packet := packet
    image :=
      { header := some (p.cipBuilder.buildData packet.dbc packet.syt)
        payload := p.dataPacketDefaults plan.frameCount } }

def noDataPacketBytes (p : AmdtpTxPacketizer) : ℕ :=
  if p.txPolicy.emptyPacketsDuringIdle then 0 else kCipHeaderBytes

/-- The header of a packet without frames, unless idle cycles are left empty. -/
def noDataHeader (p : AmdtpTxPacketizer) (dbc : ℕ) : Option CipHeaderWords :=
  if p.txPolicy.emptyPacketsDuringIdle then none else some (p.cipBuilder.buildNoData dbc)

def noDataPacket (p : AmdtpTxPacketizer) (t : AmdtpPacketTimeline) (cadence : AmdtpCadence)
    (slot : TxPacketSlotView) (plan : TxPresentationPlan) : Prepared :=
  let dbc := p.dbcCounter.valueForNextPacket % 2 ^ 8
  { packetizer := { p with cadence := some cadence.advanceCycle }
    timeline := t
    packet :=
      { packetIndex := slot.packetIndex
        byteCount := p.noDataPacketBytes
        dbc := dbc
        firstAudioFrame := plan.firstAudioFrame
        dbs := p.streamConfig.dbs }
    image := { header := p.noDataHeader dbc } }

def prepareNextPacket (p : AmdtpTxPacketizer) (t : AmdtpPacketTimeline) (slot : TxPacketSlotView)
    (timing : AmdtpTimingState) (plan : TxPresentationPlan) : Option Prepared :=
  match p.cadence with
  | none => none
  | some cadence =>
    if p.hasTimeline = false ∨ slot.hasBytes = false then none
    else if plan.epoch ≠ 0 ∧ plan.epoch ≠ p.cursorEpoch then none
    else if plan.disposition = .data ∧ 0 < plan.frameCount then
      if p.streamConfig.framesPerDataPacket < plan.frameCount then none
      else if slot.capacityBytes < p.dataPacketBytes plan.frameCount then none
      else some (p.dataPacket t cadence slot timing plan)
    else if slot.capacityBytes < p.noDataPacketBytes then none
    else some (p.noDataPacket t cadence slot plan)

/-- A data packet the stamper has no time for. What was written of its payload stays in the slot,
and so does its header where an empty packet takes its place. -/
def revertToNoData (r : Prepared) : Prepared :=
  if r.packet.isData = false then r
  else
    let p := r.packetizer
    let dbcCounter := p.dbcCounter.rewindDataBlocks r.packet.framesInPacket
    { r with
      packetizer :=
        { p with
          dbcCounter := dbcCounter
          telemetryNextAudioFrame := r.packet.firstAudioFrame }
      packet :=
        { r.packet with
          byteCount := p.noDataPacketBytes
          isData := false
          dbc := dbcCounter.valueForNextPacket
          framesInPacket := 0
          syt := kNoInfo }
      image :=
        { r.image with
          header :=
            if p.txPolicy.emptyPacketsDuringIdle then r.image.header
            else some (p.cipBuilder.buildNoData dbcCounter.valueForNextPacket) } }

/-! ### What a prepared packet is -/

/-- Data blocks a packet carries. -/
def dataBlocks (packet : PreparedTxPacket) : ℕ :=
  if packet.isData then packet.framesInPacket else 0

/-- The packet made from a plan, against the packetizer before it. -/
structure Sound (p : AmdtpTxPacketizer) (plan : TxPresentationPlan) (r : Prepared) : Prop where
  policy : r.packetizer.txPolicy = p.txPolicy
  epoch : r.packetizer.cursorEpoch = p.cursorEpoch
  counter : r.packetizer.dbcCounter = p.dbcCounter.advanceDataBlocks (dataBlocks r.packet)
  dbc : r.packet.dbc = (p.dbcCounter.dbc +
    (if p.txPolicy.dbcIsEndEvent then dataBlocks r.packet else 0)) % 2 ^ 8
  frame : r.packet.firstAudioFrame = plan.firstAudioFrame
  header : r.packet.byteCount ≠ 0 → ∃ h ∈ r.image.header, h.q0 % 2 ^ 8 = r.packet.dbc

variable {p : AmdtpTxPacketizer} {t : AmdtpPacketTimeline} {slot : TxPacketSlotView}
  {timing : AmdtpTimingState} {plan : TxPresentationPlan} {r : Prepared}

lemma advance_zero (c : DbcCounter) : c.advanceDataBlocks 0 = c := by
  obtain ⟨dbc, hdbc⟩ := c
  simp only [DbcCounter.advanceDataBlocks, DbcCounter.mk.injEq]
  omega

lemma dataPacket_sound (cadence : AmdtpCadence) :
    Sound p plan (p.dataPacket t cadence slot timing plan) := by
  constructor <;> try rfl
  intro _
  exact ⟨_, rfl, CipHeaderConfig.q0_mod _ (Nat.mod_lt _ (by decide))⟩

lemma noDataHeader_carries (hbytes : p.noDataPacketBytes ≠ 0) {dbc : ℕ} (hdbc : dbc < 2 ^ 8) :
    ∃ h ∈ p.noDataHeader dbc, h.q0 % 2 ^ 8 = dbc := by
  unfold noDataPacketBytes at hbytes
  unfold noDataHeader
  split_ifs at hbytes ⊢
  · exact absurd rfl hbytes
  · exact ⟨_, rfl, CipHeaderConfig.q0_mod _ hdbc⟩

lemma noDataPacket_sound (cadence : AmdtpCadence) :
    Sound p plan (p.noDataPacket t cadence slot plan) := by
  refine ⟨rfl, rfl, (advance_zero _).symm, ?_, rfl, ?_⟩
  · simp [noDataPacket, dataBlocks, DbcCounter.valueForNextPacket]
  · intro hbytes
    exact noDataHeader_carries hbytes (Nat.mod_lt _ (by decide))

theorem prepareNextPacket_sound (h : p.prepareNextPacket t slot timing plan = some r) :
    Sound p plan r := by
  unfold prepareNextPacket at h
  split at h
  · cases h
  · split_ifs at h
    · obtain rfl := Option.some.inj h
      exact dataPacket_sound _
    · obtain rfl := Option.some.inj h
      exact noDataPacket_sound _

/-- Turning a data packet back takes exactly its blocks off the counter again. -/
theorem revertToNoData_sound (h : Sound p plan r) :
    Sound p plan (revertToNoData r) ∧ (revertToNoData r).packet.isData = false := by
  unfold revertToNoData
  by_cases hdata : r.packet.isData = false
  · rw [if_pos hdata]
    exact ⟨h, hdata⟩
  · rw [if_neg hdata]
    have hback : r.packetizer.dbcCounter.rewindDataBlocks r.packet.framesInPacket =
        p.dbcCounter := by
      rw [h.counter]
      simp only [dataBlocks, hdata, if_true]
      exact DbcCounter.rewind_advance _ _
    dsimp only
    rw [hback]
    refine ⟨⟨h.policy, h.epoch, (advance_zero _).symm, ?_, h.frame, ?_⟩, rfl⟩
    · simp only [dataBlocks, DbcCounter.valueForNextPacket, Bool.false_eq_true, ite_self,
        Nat.add_zero]
      exact (Nat.mod_eq_of_lt p.dbcCounter.bound).symm
    · intro hbytes
      dsimp only [noDataPacketBytes] at hbytes ⊢
      split_ifs at hbytes ⊢
      · exact absurd rfl hbytes
      · exact ⟨_, rfl, CipHeaderConfig.q0_mod _ p.dbcCounter.bound⟩

end AmdtpTxPacketizer

end ASFireWire.AMDTP
