import ASFireWire.DiceTxStreamEngine
import ASFireWire.RingSlots
import ASFireWire.TimelineSlots

/-! The slots of the timeline along a stream: every slot shows the last packet prepared for its
position, and the lookup of a frame finds the exposed packets among the last ones. -/
namespace ASFireWire.AMDTP

open AmdtpTxPacketizer DiceTxStreamEngine RingSlots EventLog Runs

def kTimelineSlots : ℕ := 1024

/-- What a call of `PrepareNextTransmitSlot` leaves in the timeline. -/
inductive TimelineEntry
  | exposed (packet : PreparedTxPacket)
  | reverted (packet : PreparedTxPacket)
  | noData (packetIndex : ℕ)
  deriving DecidableEq, Repr

def PreparedTxPacket.Covers (packet : PreparedTxPacket) (absoluteFrame : ℕ) : Prop :=
  packet.firstAudioFrame ≤ absoluteFrame ∧
    absoluteFrame < packet.firstAudioFrame + packet.framesInPacket

instance (packet : PreparedTxPacket) (absoluteFrame : ℕ) :
    Decidable (packet.Covers absoluteFrame) := inferInstanceAs (Decidable (_ ∧ _))

namespace TimelineEntry

def packetIndex : TimelineEntry → ℕ
  | exposed packet | reverted packet => packet.packetIndex
  | noData packetIndex => packetIndex

/-- The entry is an exposed packet that has the frame. -/
def has (absoluteFrame : ℕ) : TimelineEntry → Bool
  | exposed packet => packet.Covers absoluteFrame
  | reverted _ | noData _ => false

/-- The packet that was exposed, whether it was turned back or not. -/
def packet? : TimelineEntry → Option PreparedTxPacket
  | exposed packet | reverted packet => some packet
  | noData _ => none

/-- The copy is one of the packet. -/
def IsOf (snap : PacketSlotSnapshot) (packet : PreparedTxPacket) : Prop :=
  snap.packetIndex = packet.packetIndex ∧ snap.packetSizeBytes = packet.byteCount ∧
    snap.firstAudioFrame = packet.firstAudioFrame ∧
    snap.framesInPacket = packet.framesInPacket ∧ snap.dbs = packet.dbs

/-- What a slot shows of its last entry, between two writes. -/
def Shows (slot : PacketTimelineSlot) (entry : TimelineEntry) : Prop :=
  slot.generation % 2 = 0 ∧
    match entry with
    | exposed packet =>
      slot.state = .exposedForAudio ∧ slot.isData = true ∧ slot.hasBytes = true ∧
        packet.dbs ≠ 0 ∧ IsOf (slot.snapshot 0) packet
    | reverted _ | noData _ => slot.state = .completed

def Cleared (slot : PacketTimelineSlot) : Prop :=
  slot.generation % 2 = 0 ∧ slot.state = .empty

variable {slot : PacketTimelineSlot} {entry : TimelineEntry} {absoluteFrame : ℕ}

lemma Cleared.carries (h : Cleared slot) : slot.carries absoluteFrame = false := by
  simp [PacketTimelineSlot.carries, h.2]

lemma Shows.carries (h : Shows slot entry) : slot.carries absoluteFrame = entry.has absoluteFrame := by
  cases entry with
  | exposed packet =>
    obtain ⟨heven, hstate, hdata, hbytes, hdbs, -, -, hfirst, hframes, hsame⟩ := h
    simp only [PacketTimelineSlot.snapshot] at hfirst hframes hsame
    rw [Bool.eq_iff_iff]
    simp [PacketTimelineSlot.carries, has, PreparedTxPacket.Covers, heven, hstate, hdata, hbytes,
      hfirst, hframes, hsame, hdbs]
    exact decide_eq_true_iff.symm
  | reverted packet => simp [PacketTimelineSlot.carries, has, h.2]
  | noData packetIndex => simp [PacketTimelineSlot.carries, has, h.2]

lemma has_iff : entry.has absoluteFrame = true ↔
    ∃ packet, entry = .exposed packet ∧ packet.Covers absoluteFrame := by
  cases entry <;> simp [has]

lemma shows_clear (packetIndex : ℕ) (heven : slot.generation % 2 = 0)
    (hentry : ∀ packet, entry ≠ .exposed packet) :
    Shows (slot.clear packetIndex .completed) entry := by
  have hcleared : (slot.clear packetIndex .completed).generation % 2 = 0 :=
    PacketTimelineSlot.even_endSlotWrite heven rfl
  cases entry with
  | exposed packet => exact absurd rfl (hentry packet)
  | reverted packet => exact ⟨hcleared, rfl⟩
  | noData packetIndex => exact ⟨hcleared, rfl⟩

lemma shows_expose {packet : PreparedTxPacket} {packetCapacityBytes : ℕ}
    (heven : slot.generation % 2 = 0) (hdbs : packet.dbs ≠ 0) :
    Shows (slot.expose packet packetCapacityBytes) (.exposed packet) :=
  ⟨PacketTimelineSlot.even_endSlotWrite heven rfl, rfl, rfl, rfl, hdbs, rfl, rfl, rfl, rfl, rfl⟩

lemma cleared_clear (packetIndex : ℕ) (heven : slot.generation % 2 = 0) :
    Cleared (slot.clear packetIndex .empty) :=
  ⟨PacketTimelineSlot.even_endSlotWrite heven rfl, rfl⟩

end TimelineEntry

/-! ### A stream with its slots -/

namespace DiceTxStreamEngine

/-- The packet a call prepares, in the slot it is given. -/
def preparedPacket (e : DiceTxStreamEngine) (call : PrepareCall) :
    Option (TxPacketSlotView × Prepared) :=
  if e.hasSlotProvider = false then none
  else call.slot.bind fun view =>
    (e.packetizer.prepareNextPacket e.timeline view call.timing (e.plan call)).map fun r => (view, r)

end DiceTxStreamEngine

/-- `PrepareNextPacket` on the slots. -/
def recordPacket (slots : TimelineSlots) (view : TxPacketSlotView) (packet : PreparedTxPacket) :
    TimelineSlots :=
  if packet.isData then
    (slots.exposeDataPacket packet view.hasBytes view.capacityBytes).getD slots
  else slots.markNoDataPacket view.packetIndex

/-- `RevertToNoData` on the slots, where the stamper has no time. -/
def recordStamp (slots : TimelineSlots) (call : PrepareCall) (r : Prepared) : TimelineSlots :=
  if stampResult call r = some .timingUnavailable then
    slots.markNoDataPacket r.packet.packetIndex
  else slots

def timelineEntry (call : PrepareCall) (view : TxPacketSlotView) (r : Prepared) : TimelineEntry :=
  if r.packet.isData = false then .noData view.packetIndex
  else if stampResult call r = some .timingUnavailable then .reverted r.packet
  else .exposed r.packet

/-- The engine, its slots, and what was prepared, newest first. -/
structure TimelineStream where
  engine : DiceTxStreamEngine
  slots : TimelineSlots
  log : List TimelineEntry := []

namespace TimelineStream

def step (s : TimelineStream) : TxOp → TimelineStream
  | .prepare call =>
    let engine := (s.engine.prepareNextTransmitSlot call).1
    match s.engine.preparedPacket call with
    | none => { s with engine := engine }
    | some (view, r) =>
      { engine := engine
        slots := recordStamp (recordPacket s.slots view r.packet) call r
        log := timelineEntry call view r :: s.log }
  | .alignFrameCursorOnce frameIndex =>
    { s with engine := (s.engine.alignFrameCursorOnce frameIndex).1 }
  | .reArmFrameCursorAlignment => { s with engine := s.engine.reArmFrameCursorAlignment }

/-- `ResetForStart`. -/
def started (e : DiceTxStreamEngine) (slots : TimelineSlots) (initialDbc initialAudioFrame : ℕ) :
    TimelineStream where
  engine := e.resetForStart initialDbc initialAudioFrame
  slots := slots.reset

/-- The provider hands out the slot of the packet behind the last one. -/
def InOrder (s : TimelineStream) : TxOp → Prop
  | .prepare call => ∀ view ∈ call.slot, ∀ last ∈ s.log.head?,
    view.packetIndex = (last.packetIndex + 1) % 2 ^ 32
  | _ => True

instance (s : TimelineStream) : DecidablePred (InOrder s)
  | .prepare call => inferInstanceAs (Decidable (∀ view ∈ call.slot, ∀ last ∈ s.log.head?,
    view.packetIndex = (last.packetIndex + 1) % 2 ^ 32))
  | .alignFrameCursorOnce _ => isTrue trivial
  | .reArmFrameCursorAlignment => isTrue trivial

/-! ### What is prepared -/

section Prepared

variable {p : AmdtpTxPacketizer} {t : AmdtpPacketTimeline} {view : TxPacketSlotView}
  {timing : AmdtpTimingState} {plan : TxPresentationPlan} {r : Prepared}

/-- A prepared packet goes into the slot it was made for, and fits it. -/
structure FitsSlot (p : AmdtpTxPacketizer) (view : TxPacketSlotView) (r : Prepared) : Prop where
  packetIndex : r.packet.packetIndex = view.packetIndex
  hasBytes : view.hasBytes = true
  dbs : r.packet.dbs = p.streamConfig.dbs
  frames : r.packet.isData = true → 0 < r.packet.framesInPacket
  capacity : r.packet.byteCount ≤ view.capacityBytes
  config : r.packetizer.streamConfig = p.streamConfig

lemma prepareNextPacket_fitsSlot (h : p.prepareNextPacket t view timing plan = some r) :
    FitsSlot p view r := by
  unfold prepareNextPacket at h
  split at h
  · cases h
  · split_ifs at h with hbytes hepoch hdata hmany hroom hroom
    · obtain rfl := Option.some.inj h
      rw [not_or, Bool.not_eq_false, Bool.not_eq_false] at hbytes
      exact ⟨rfl, hbytes.2, rfl, fun _ => hdata.2, Nat.not_lt.mp hroom, rfl⟩
    · obtain rfl := Option.some.inj h
      rw [not_or, Bool.not_eq_false, Bool.not_eq_false] at hbytes
      exact ⟨rfl, hbytes.2, rfl, fun hno => (by cases hno), Nat.not_lt.mp hroom, rfl⟩

lemma streamConfig_revertToNoData (r : Prepared) :
    (revertToNoData r).packetizer.streamConfig = r.packetizer.streamConfig := by
  unfold revertToNoData
  split_ifs <;> rfl

end Prepared

variable {e : DiceTxStreamEngine} {call : PrepareCall} {view : TxPacketSlotView} {r : Prepared}

lemma preparedPacket_some (h : e.preparedPacket call = some (view, r)) :
    call.slot = some view ∧ FitsSlot e.packetizer view r := by
  unfold preparedPacket at h
  split_ifs at h
  cases hslot : call.slot with
  | none =>
    rw [hslot] at h
    cases h
  | some other =>
    rw [hslot, Option.bind_some, Option.map_eq_some_iff] at h
    obtain ⟨r', hr', heq⟩ := h
    obtain ⟨rfl, rfl⟩ := Prod.mk.inj heq
    exact ⟨rfl, prepareNextPacket_fitsSlot hr'⟩

/-- The configuration stays through a stream. -/
lemma streamConfig_prepareNextTransmitSlot (e : DiceTxStreamEngine) (call : PrepareCall) :
    (e.prepareNextTransmitSlot call).1.packetizer.streamConfig = e.packetizer.streamConfig := by
  unfold prepareNextTransmitSlot
  by_cases hprovider : e.hasSlotProvider = false
  · rw [if_pos hprovider]
  · rw [if_neg hprovider]
    cases call.slot with
    | none => rfl
    | some slot =>
      dsimp only
      cases hr : e.packetizer.prepareNextPacket e.timeline slot call.timing (e.plan call) with
      | none => rfl
      | some r =>
        have hconfig : (stamp call r).packetizer.streamConfig = e.packetizer.streamConfig := by
          unfold stamp
          split_ifs
          · exact (streamConfig_revertToNoData r).trans (prepareNextPacket_fitsSlot hr).config
          · exact (prepareNextPacket_fitsSlot hr).config
        dsimp only
        split_ifs <;> exact hconfig

lemma streamConfig_step (s : TimelineStream) (op : TxOp) :
    (s.step op).engine.packetizer.streamConfig = s.engine.packetizer.streamConfig := by
  cases op with
  | prepare call =>
    unfold step
    dsimp only
    cases s.engine.preparedPacket call <;> exact streamConfig_prepareNextTransmitSlot s.engine call
  | alignFrameCursorOnce frameIndex =>
    unfold step alignFrameCursorOnce
    dsimp only
    split_ifs <;> rfl
  | reArmFrameCursorAlignment =>
    unfold step reArmFrameCursorAlignment
    dsimp only
    split_ifs <;> rfl

/-! ### The invariant -/

/-- Every slot shows the last packet prepared for its position, and the packets are numbered one
after the other. -/
structure Recorded (s : TimelineStream) : Prop where
  length : s.slots.length = kTimelineSlots
  dbs : s.engine.packetizer.streamConfig.dbs ≠ 0
  holds : Holds TimelineEntry.packetIndex TimelineEntry.Shows TimelineEntry.Cleared s.slots s.log
  numbered : Throughout (Follows (2 ^ 32) TimelineEntry.packetIndex) s.log

variable {s : TimelineStream} {op : TxOp}

lemma Recorded.even (h : Recorded s) : ∀ slot ∈ s.slots, slot.generation % 2 = 0 :=
  h.holds.forall_cells (fun _ _ hshows => hshows.1) fun _ hcleared => hcleared.1

lemma Recorded.even_slotOf (h : Recorded s) (packetIndex : ℕ) :
    (s.slots.slotOf packetIndex).generation % 2 = 0 := by
  have hlt : packetIndex % s.slots.length < s.slots.length := by
    apply Nat.mod_lt
    rw [h.length]
    decide
  unfold TimelineSlots.slotOf
  rw [List.getD_eq_getElem _ _ hlt]
  exact h.even _ (List.getElem_mem hlt)

lemma Recorded.attached (h : Recorded s) : s.slots ≠ [] := by
  intro hnil
  have hlength := h.length
  rw [hnil] at hlength
  cases hlength

/-- `ExposeDataPacket` takes every data packet the packetizer makes. -/
lemma recordPacket_data (h : Recorded s) (hfits : FitsSlot s.engine.packetizer view r)
    (hdata : r.packet.isData = true) :
    recordPacket s.slots view r.packet = s.slots.set (r.packet.packetIndex % s.slots.length)
      ((s.slots.slotOf r.packet.packetIndex).expose r.packet view.capacityBytes) := by
  have hframes := hfits.frames hdata
  unfold recordPacket TimelineSlots.exposeDataPacket
  rw [if_pos hdata, if_neg (by simp [h.attached, hfits.hasBytes]), if_neg (by simp [hdata]; omega),
    if_neg (Nat.not_lt.mpr hfits.capacity)]
  rfl

lemma recordPacket_noData (h : Recorded s) (hdata : r.packet.isData = false) :
    recordPacket s.slots view r.packet = s.slots.set (view.packetIndex % s.slots.length)
      ((s.slots.slotOf view.packetIndex).clear view.packetIndex .completed) := by
  unfold recordPacket TimelineSlots.markNoDataPacket
  rw [if_neg (by simp [hdata]), if_neg h.attached]

/-- A call writes its entry, in one or two writes to its slot. -/
lemma Recorded.write (h : Recorded s) (hfits : FitsSlot s.engine.packetizer view r)
    (call : PrepareCall) : ∃ slot, TimelineEntry.Shows slot (timelineEntry call view r) ∧
      (timelineEntry call view r).packetIndex = view.packetIndex ∧
      recordStamp (recordPacket s.slots view r.packet) call r =
        s.slots.set (view.packetIndex % s.slots.length) slot := by
  have heven := h.even_slotOf view.packetIndex
  have hdbs : r.packet.dbs ≠ 0 := by
    rw [hfits.dbs]
    exact h.dbs
  unfold timelineEntry
  by_cases hdata : r.packet.isData = false
  · have hstamp : stampResult call r = none := by simp [stampResult, hdata]
    rw [if_pos hdata, recordPacket_noData h hdata]
    refine ⟨_, TimelineEntry.shows_clear view.packetIndex heven (by simp), rfl, ?_⟩
    rw [recordStamp, hstamp, if_neg (by simp)]
  · unfold recordStamp
    rw [if_neg hdata, recordPacket_data h hfits (by simpa using hdata), hfits.packetIndex]
    split_ifs with hlost
    · have hexposed : TimelineEntry.Shows
          ((s.slots.slotOf view.packetIndex).expose r.packet view.capacityBytes)
          (.exposed r.packet) := TimelineEntry.shows_expose heven hdbs
      exact ⟨_, TimelineEntry.shows_clear view.packetIndex hexposed.1 (by simp),
        hfits.packetIndex, TimelineSlots.markNoDataPacket_set h.attached _ _⟩
    · exact ⟨_, TimelineEntry.shows_expose heven hdbs, hfits.packetIndex, rfl⟩

/-- The step lemma. -/
lemma Recorded.step (h : Recorded s) (hop : s.InOrder op) : Recorded (s.step op) := by
  have hconfig := streamConfig_step s op
  cases op with
  | alignFrameCursorOnce frameIndex =>
    exact ⟨h.length, hconfig ▸ h.dbs, h.holds, h.numbered⟩
  | reArmFrameCursorAlignment =>
    exact ⟨h.length, hconfig ▸ h.dbs, h.holds, h.numbered⟩
  | prepare call =>
    unfold TimelineStream.step at hconfig ⊢
    dsimp only at hconfig ⊢
    cases hprepared : s.engine.preparedPacket call with
    | none =>
      rw [hprepared] at hconfig
      exact ⟨h.length, hconfig ▸ h.dbs, h.holds, h.numbered⟩
    | some prepared =>
      obtain ⟨view, r⟩ := prepared
      rw [hprepared] at hconfig
      obtain ⟨hslot, hfits⟩ := preparedPacket_some hprepared
      obtain ⟨slot, hshows, hindex, hslots⟩ := h.write hfits call
      refine ⟨?_, hconfig ▸ h.dbs, ?_, ?_, h.numbered⟩
      · dsimp only
        rw [hslots, List.length_set]
        exact h.length
      · dsimp only
        rw [hslots, ← hindex]
        exact h.holds.write hshows
      · intro last hlast
        rw [hindex]
        exact hop view hslot last hlast

lemma dbs_packetizer_configure {p p' : AmdtpTxPacketizer} {config : AmdtpStreamConfig}
    {policy : AmdtpTxPolicy} (h : p.configure config policy = some p') :
    p'.streamConfig.dbs ≠ 0 := by
  unfold AmdtpTxPacketizer.configure at h
  cases hgeometry : amdtpRateGeometryForSampleRate config.sampleRate with
  | none =>
    rw [hgeometry] at h
    cases h
  | some geometry =>
    rw [hgeometry] at h
    dsimp -zeta only at h
    obtain ⟨-, h⟩ := Option.ite_none_left_eq_some.mp h
    extract_lets dbs config' cadence at h
    obtain ⟨hzero, h⟩ := Option.ite_none_left_eq_some.mp h
    obtain ⟨-, h⟩ := Option.ite_none_left_eq_some.mp h
    obtain ⟨cadence, -, rfl⟩ := Option.map_eq_some_iff.mp h
    exact fun hdbs => hzero (Or.inl hdbs)

lemma dbs_configure {e₀ : DiceTxStreamEngine} {hostToDevice : Bool}
    {txConfig : AmdtpStreamConfig} {policy : AmdtpTxPolicy}
    (h : e₀.configure hostToDevice txConfig policy = some e) :
    e.packetizer.streamConfig.dbs ≠ 0 := by
  unfold DiceTxStreamEngine.configure at h
  split_ifs at h
  dsimp only at h
  obtain ⟨p, hp, rfl⟩ := Option.map_eq_some_iff.mp h
  exact dbs_packetizer_configure hp

lemma recorded_started {slots : TimelineSlots} (hlength : slots.length = kTimelineSlots)
    (hidle : ∀ slot ∈ slots, slot.generation % 2 = 0)
    (hdbs : e.packetizer.streamConfig.dbs ≠ 0) (initialDbc initialAudioFrame : ℕ) :
    Recorded (started e slots initialDbc initialAudioFrame) where
  length := by
    simp only [started, TimelineSlots.reset, List.length_map]
    exact hlength
  dbs := hdbs
  holds := by
    apply holds_nil
    intro cell hcell
    obtain ⟨slot, hslot, rfl⟩ := List.mem_map.mp hcell
    exact TimelineEntry.cleared_clear 0 (hidle slot hslot)
  numbered := trivial

/-! ### Cursors that only move forward -/

/-- Packets are published, and an alignment does not take the cursor back. -/
def Forward (s : TimelineStream) : TxOp → Prop
  | .prepare call => call.publishes = true
  | .alignFrameCursorOnce frameIndex =>
    s.engine.frameCursorAligned = false → s.engine.nextAudioFrame ≤ frameIndex
  | .reArmFrameCursorAlignment => True

instance (s : TimelineStream) : DecidablePred (Forward s)
  | .prepare call => inferInstanceAs (Decidable (call.publishes = true))
  | .alignFrameCursorOnce frameIndex => inferInstanceAs (Decidable
    (s.engine.frameCursorAligned = false → s.engine.nextAudioFrame ≤ frameIndex))
  | .reArmFrameCursorAlignment => isTrue trivial

/-- The exposed packets end before the cursor, and no two of them have a frame together. -/
structure Ascending (s : TimelineStream) : Prop where
  behind : ∀ packet, .exposed packet ∈ s.log →
    packet.firstAudioFrame + packet.framesInPacket ≤ s.engine.nextAudioFrame
  single : ∀ absoluteFrame, s.log.countP (TimelineEntry.has absoluteFrame) ≤ 1

lemma Ascending.none_ahead (h : Ascending s) {absoluteFrame : ℕ}
    (hahead : s.engine.nextAudioFrame ≤ absoluteFrame) :
    s.log.countP (TimelineEntry.has absoluteFrame) = 0 := by
  rw [List.countP_eq_zero]
  intro entry hentry hhas
  obtain ⟨packet, rfl, hcovers⟩ := TimelineEntry.has_iff.mp hhas
  have hbehind := h.behind packet hentry
  exact absurd hcovers.2 (by omega)

lemma Ascending.moved (h : Ascending s) {engine : DiceTxStreamEngine} {slots : TimelineSlots}
    (hnext : s.engine.nextAudioFrame ≤ engine.nextAudioFrame) :
    Ascending { s with engine := engine, slots := slots } :=
  ⟨fun packet hpacket => (h.behind packet hpacket).trans hnext, h.single⟩

/-- A packet is exposed at the cursor, which moves over its frames. -/
lemma Ascending.prepared (h : Ascending s) {engine : DiceTxStreamEngine} {slots : TimelineSlots}
    {entry : TimelineEntry} (hnext : s.engine.nextAudioFrame ≤ engine.nextAudioFrame)
    (hentry : ∀ packet, entry = .exposed packet →
      packet.firstAudioFrame = s.engine.nextAudioFrame ∧
        engine.nextAudioFrame = s.engine.nextAudioFrame + packet.framesInPacket) :
    Ascending ⟨engine, slots, entry :: s.log⟩ where
  behind := by
    intro packet hpacket
    rcases List.mem_cons.mp hpacket with rfl | holder
    · obtain ⟨hfirst, hend⟩ := hentry packet rfl
      dsimp only
      omega
    · exact (h.behind packet holder).trans hnext
  single := by
    intro absoluteFrame
    rw [List.countP_cons]
    split_ifs with hhas
    · obtain ⟨packet, rfl, hcovers⟩ := TimelineEntry.has_iff.mp hhas
      have hfirst := (hentry packet rfl).1
      rw [h.none_ahead (hfirst ▸ hcovers.1)]
    · exact h.single absoluteFrame

lemma preparedPacket_none (h : e.preparedPacket call = none) :
    (e.prepareNextTransmitSlot call).1 = e := by
  unfold preparedPacket at h
  unfold prepareNextTransmitSlot
  by_cases hprovider : e.hasSlotProvider = false
  · rw [if_pos hprovider]
  · rw [if_neg hprovider] at h ⊢
    cases hslot : call.slot with
    | none => rfl
    | some view =>
      rw [hslot, Option.bind_some, Option.map_eq_none_iff] at h
      dsimp only
      rw [h]

lemma nextAudioFrame_prepared (hpublishes : call.publishes = true)
    (h : e.preparedPacket call = some (view, r)) :
    r.packet.firstAudioFrame = e.nextAudioFrame ∧
      (e.prepareNextTransmitSlot call).1.nextAudioFrame =
        e.nextAudioFrame + dataBlocks (stamp call r).packet := by
  unfold preparedPacket at h
  unfold prepareNextTransmitSlot
  by_cases hprovider : e.hasSlotProvider = false
  · rw [if_pos hprovider] at h
    cases h
  rw [if_neg hprovider] at h ⊢
  cases hslot : call.slot with
  | none =>
    rw [hslot] at h
    cases h
  | some other =>
    rw [hslot, Option.bind_some, Option.map_eq_some_iff] at h
    obtain ⟨r', hr, heq⟩ := h
    obtain ⟨rfl, rfl⟩ := Prod.mk.inj heq
    dsimp only
    rw [hr]
    dsimp only
    rw [if_neg (by simp [hpublishes])]
    refine ⟨(prepareNextPacket_sound hr).frame, ?_⟩
    simp only [advanceFrames, accept, countStamp_nextAudioFrame]

lemma Ascending.step (h : Ascending s) (hop : s.Forward op) : Ascending (s.step op) := by
  cases op with
  | alignFrameCursorOnce frameIndex =>
    apply h.moved
    unfold DiceTxStreamEngine.alignFrameCursorOnce
    by_cases haligned : s.engine.frameCursorAligned = true
    · rw [if_pos haligned]
    · rw [if_neg haligned]
      exact hop (Bool.not_eq_true _ ▸ haligned)
  | reArmFrameCursorAlignment =>
    apply h.moved
    unfold DiceTxStreamEngine.reArmFrameCursorAlignment
    split_ifs <;> exact le_rfl
  | prepare call =>
    unfold TimelineStream.step
    dsimp only
    cases hprepared : s.engine.preparedPacket call with
    | none =>
      apply h.moved
      rw [preparedPacket_none hprepared]
    | some prepared =>
      obtain ⟨view, r⟩ := prepared
      obtain ⟨hfirst, hnext⟩ := nextAudioFrame_prepared hop hprepared
      apply h.prepared
      · rw [hnext]
        exact Nat.le_add_right _ _
      · intro packet hexposed
        unfold timelineEntry at hexposed
        split_ifs at hexposed with hdata hlost
        obtain rfl := TimelineEntry.exposed.inj hexposed
        rw [hnext, stamp, if_neg hlost, dataBlocks, if_pos (by simpa using hdata)]
        exact ⟨hfirst, rfl⟩

/-! ### The lookup -/

variable {absoluteFrame : ℕ}

/-- A slot that carries the frame shows one of the last exposed packets that has it. -/
lemma Recorded.carrying (h : Recorded s) {i : ℕ} {slot : PacketTimelineSlot}
    (hslot : s.slots[i]? = some slot) (hcarries : slot.carries absoluteFrame = true) :
    ∃ packet, .exposed packet ∈ s.log.take kTimelineSlots ∧ packet.Covers absoluteFrame ∧
      TimelineEntry.IsOf (slot.snapshot i) packet := by
  have hsome : ¬ TimelineEntry.Cleared slot := by
    intro hcleared
    rw [hcleared.carries] at hcarries
    cases hcarries
  obtain ⟨entry, hlatest, hshows⟩ := h.holds.entry hslot hsome
  rw [hshows.carries] at hcarries
  obtain ⟨packet, rfl, hcovers⟩ := TimelineEntry.has_iff.mp hcarries
  have hposition := (latest_eq_some_iff.mp hlatest).1
  rw [← hposition, h.length] at hlatest
  refine ⟨packet, ?_, hcovers, hshows.2.2.2.2.2⟩
  exact (latest_iff_recent (by decide) (by decide) h.numbered).mp hlatest

/-- Every one of the last exposed packets is in its slot. -/
lemma Recorded.recent (h : Recorded s) {packet : PreparedTxPacket}
    (hrecent : .exposed packet ∈ s.log.take kTimelineSlots)
    (hcovers : packet.Covers absoluteFrame) :
    (s.slots.snapshotSlotForAudioFrame absoluteFrame).isSome = true := by
  have hlatest := (latest_iff_recent (by decide) (by decide) h.numbered).mpr hrecent
  have hlt : (TimelineEntry.exposed packet).packetIndex % kTimelineSlots < s.slots.length := by
    rw [h.length]
    exact Nat.mod_lt _ (by decide)
  rw [← h.length] at hlatest hlt
  obtain ⟨slot, hslot, hshows⟩ := h.holds.shown hlatest hlt
  apply TimelineSlots.isSome_snapshotSlotForAudioFrame (List.mem_of_getElem? hslot)
  rw [hshows.carries]
  exact TimelineEntry.has_iff.mpr ⟨packet, rfl, hcovers⟩

/-- Where one of the last packets has the frame and no other, it is the last packet exposed with
the frame. -/
lemma find?_of_single {entries : List TimelineEntry} {entry : TimelineEntry} {n : ℕ}
    (hrecent : entry ∈ entries.take n) (hhas : entry.has absoluteFrame = true)
    (hsingle : (entries.take n).countP (TimelineEntry.has absoluteFrame) = 1) :
    entries.find? (TimelineEntry.has absoluteFrame) = some entry := by
  rw [List.countP_eq_length_filter, List.length_eq_one_iff] at hsingle
  obtain ⟨only, honly⟩ := hsingle
  have hmem : entry ∈ (entries.take n).filter (TimelineEntry.has absoluteFrame) :=
    List.mem_filter.mpr ⟨hrecent, hhas⟩
  rw [honly, List.mem_singleton] at hmem
  have hfind : (entries.take n).find? (TimelineEntry.has absoluteFrame) = some only := by
    rw [← List.head?_filter, honly]
    rfl
  rw [← List.take_append_drop n entries, List.find?_append, hfind, hmem]
  rfl

/-- In every stream of a configured engine whose packets are prepared one behind the other: a
lookup returns one of the last `kTimelineSlots` packets, exposed with the frame and not turned back,
and the last one exposed with it unless another of these has the frame too, which needs an alignment
that takes the cursor back; it succeeds for every frame of each of these; and where it fails,
whatever was exposed with the frame was turned back or is no longer among these. -/
theorem frame_lookup {e₀ : DiceTxStreamEngine} {hostToDevice : Bool}
    {txConfig : AmdtpStreamConfig} {policy : AmdtpTxPolicy}
    (hconfigured : e₀.configure hostToDevice txConfig policy = some e) {slots : TimelineSlots}
    (hlength : slots.length = kTimelineSlots) (hidle : ∀ slot ∈ slots, slot.generation % 2 = 0)
    (initialDbc initialAudioFrame : ℕ) (ops : List TxOp)
    (hops : Meets step InOrder (started e slots initialDbc initialAudioFrame) ops)
    (absoluteFrame : ℕ) :
    let s := run step (started e slots initialDbc initialAudioFrame) ops
    let recent := s.log.take kTimelineSlots
    (∀ snap, s.slots.snapshotSlotForAudioFrame absoluteFrame = some snap →
      ∃ packet, .exposed packet ∈ recent ∧ packet.Covers absoluteFrame ∧
        TimelineEntry.IsOf snap packet ∧
        (recent.countP (TimelineEntry.has absoluteFrame) = 1 →
          s.log.find? (TimelineEntry.has absoluteFrame) = some (.exposed packet))) ∧
    (Meets step Forward (started e slots initialDbc initialAudioFrame) ops →
      recent.countP (TimelineEntry.has absoluteFrame) ≤ 1) ∧
    (∀ packet, .exposed packet ∈ recent → packet.Covers absoluteFrame →
      (s.slots.snapshotSlotForAudioFrame absoluteFrame).isSome = true) ∧
    (s.slots.snapshotSlotForAudioFrame absoluteFrame = none →
      ∀ entry ∈ s.log, ∀ packet ∈ entry.packet?, packet.Covers absoluteFrame →
        entry = .reverted packet ∨ entry ∈ s.log.drop kTimelineSlots) := by
  have hstart := recorded_started hlength hidle (dbs_configure hconfigured) initialDbc
    initialAudioFrame
  have hlast := invariant_run_of_meets (I := Recorded) (fun s op hs hop => hs.step hop) hstart hops
  dsimp only
  refine ⟨fun snap hsnap => ?_, fun hforward => ?_, fun packet => hlast.recent, fun hnone entry hentry packet hpacket
    hcovers => ?_⟩
  · obtain ⟨i, slot, hslot, hcarries, rfl⟩ := TimelineSlots.snapshotSlotForAudioFrame_some hsnap
    obtain ⟨packet, hrecent, hcovers, hsame⟩ := hlast.carrying hslot hcarries
    refine ⟨packet, hrecent, hcovers, hsame, fun hsingle => ?_⟩
    exact find?_of_single hrecent (TimelineEntry.has_iff.mpr ⟨packet, rfl, hcovers⟩) hsingle
  · have hascending := invariant_run_of_meets (I := Ascending)
      (fun s op hs hop => hs.step hop) ⟨by simp [started], by simp [started]⟩ hforward
    exact (List.take_sublist _ _).countP_le.trans (hascending.single absoluteFrame)
  · cases entry with
    | noData packetIndex => cases hpacket
    | reverted other =>
      obtain rfl := Option.some.inj hpacket
      exact Or.inl rfl
    | exposed other =>
      obtain rfl := Option.some.inj hpacket
      rw [← List.take_append_drop kTimelineSlots (run step _ ops).log, List.mem_append] at hentry
      rcases hentry with hrecent | hevicted
      · have hfound := hlast.recent hrecent hcovers
        rw [hnone] at hfound
        cases hfound
      · exact Or.inr hevicted

open TxStream (eightChannels replayedCall)

def idleSlots : TimelineSlots := List.replicate kTimelineSlots {}

lemma eightChannels_configured :
    (({ hasSlotProvider := true } : DiceTxStreamEngine).configure true
      { dbs := 8, pcmChannels := 8 } { dbcIsEndEvent := true }) = some eightChannels := rfl

lemma idleSlots_even : ∀ slot ∈ idleSlots, slot.generation % 2 = 0 := by
  intro slot hslot
  simp [List.eq_of_mem_replicate hslot]

/-- Two packets with frames, one turned back in between, and a cursor taken forward. -/
def forwardStream : List TxOp :=
  [.alignFrameCursorOnce 1000, .prepare (replayedCall 0 none),
    .prepare (replayedCall 1 (some .timingUnavailable)), .reArmFrameCursorAlignment,
    .alignFrameCursorOnce 5000, .prepare (replayedCall 2 none)]

theorem frame_lookup_forwardStream :
    let s := run step (started eightChannels idleSlots 0 0) forwardStream
    (s.slots.snapshotSlotForAudioFrame 5003).map PacketSlotSnapshot.packetIndex = some 2 ∧
    (s.log.take kTimelineSlots).countP (TimelineEntry.has 5003) ≤ 1 := by
  refine ⟨by decide +kernel, ?_⟩
  have hlookup := frame_lookup eightChannels_configured (by simp [idleSlots]) idleSlots_even 0 0
    forwardStream (by decide +kernel) 5003
  exact hlookup.2.1 (by decide +kernel)

/-! ### Idle laps -/

/-- An engine that sends packets without data on idle cycles. -/
structure Idle (e : DiceTxStreamEngine) : Prop where
  provider : e.hasSlotProvider = true
  timeline : e.packetizer.hasTimeline = true
  cadence : e.packetizer.cadence ≠ none
  epoch : e.packetizer.cursorEpoch = e.cursorEpoch

def idleView (packetIndex : ℕ) : TxPacketSlotView where
  packetIndex := packetIndex
  capacityBytes := 264

/-- The call of a cycle without data. -/
def idleCall (packetIndex : ℕ) : PrepareCall where
  packetIndex := packetIndex
  slot := some (idleView packetIndex)
  timing := { disposition := .noData, replayValid := true }

def idleLap (packetIndex : ℕ) : ℕ → List TxOp
  | 0 => []
  | packets + 1 =>
    .prepare (idleCall (packetIndex % 2 ^ 32)) :: idleLap (packetIndex + 1) packets

lemma prepareNextPacket_idle {cadence : AmdtpCadence} (h : Idle e)
    (hcadence : e.packetizer.cadence = some cadence) (packetIndex : ℕ) :
    e.packetizer.prepareNextPacket e.timeline (idleView packetIndex) (idleCall packetIndex).timing
        (e.plan (idleCall packetIndex)) =
      some (e.packetizer.noDataPacket e.timeline cadence (idleView packetIndex)
        (e.plan (idleCall packetIndex))) := by
  have hroom : ¬ 264 < e.packetizer.noDataPacketBytes := by
    unfold noDataPacketBytes
    split_ifs <;> simp [kCipHeaderBytes]
  unfold prepareNextPacket
  rw [hcadence]
  simp [h.timeline, h.epoch, plan, carriesData, idleCall, idleView, hroom]

lemma idle_prepareNextTransmitSlot (h : Idle e) (packetIndex : ℕ) :
    Idle (e.prepareNextTransmitSlot (idleCall packetIndex)).1 := by
  obtain ⟨cadence, hcadence⟩ := Option.ne_none_iff_exists'.mp h.cadence
  have hpacket := prepareNextPacket_idle h hcadence packetIndex
  have hslot : (idleCall packetIndex).slot = some (idleView packetIndex) := rfl
  have hpublishes : ¬ (idleCall packetIndex).publishes = false := by simp [idleCall]
  rw [prepareNextTransmitSlot, if_neg (by simp [h.provider]), hslot]
  dsimp only
  rw [hpacket]
  dsimp only
  rw [if_neg hpublishes]
  exact ⟨h.provider, h.timeline, by simp [advanceFrames, accept, stamp, stampResult, noDataPacket],
    h.epoch⟩

lemma idle_step (h : Idle s.engine) (packetIndex : ℕ) :
    Idle (s.step (.prepare (idleCall packetIndex))).engine ∧
      (s.step (.prepare (idleCall packetIndex))).log = .noData packetIndex :: s.log := by
  obtain ⟨cadence, hcadence⟩ := Option.ne_none_iff_exists'.mp h.cadence
  have hprepared : s.engine.preparedPacket (idleCall packetIndex) =
      some (idleView packetIndex, s.engine.packetizer.noDataPacket s.engine.timeline cadence
        (idleView packetIndex) (s.engine.plan (idleCall packetIndex))) := by
    rw [preparedPacket, if_neg (by simp [h.provider])]
    exact congrArg (Option.map _) (prepareNextPacket_idle h hcadence packetIndex)
  have hidle := idle_prepareNextTransmitSlot h packetIndex
  unfold step
  dsimp only
  rw [hprepared]
  exact ⟨hidle, rfl⟩

/-- Cycles without data are prepared in order, and only they are on top of the log. -/
lemma idleLap_spec (h : Idle s.engine) {packetIndex : ℕ}
    (hnext : ∀ last ∈ s.log.head?, packetIndex % 2 ^ 32 = (last.packetIndex + 1) % 2 ^ 32)
    (packets : ℕ) :
    Meets step InOrder s (idleLap packetIndex packets) ∧
      ∃ idles : List TimelineEntry, idles.length = packets ∧
        (∀ entry ∈ idles, entry.packet? = none) ∧
        (run step s (idleLap packetIndex packets)).log = idles ++ s.log := by
  induction packets generalizing s packetIndex with
  | zero => exact ⟨trivial, [], rfl, by simp, rfl⟩
  | succ packets ih =>
    obtain ⟨hidle, hlog⟩ := idle_step h (packetIndex % 2 ^ 32)
    have hhead : ∀ last ∈ (s.step (.prepare (idleCall (packetIndex % 2 ^ 32)))).log.head?,
        (packetIndex + 1) % 2 ^ 32 = (last.packetIndex + 1) % 2 ^ 32 := by
      intro last hlast
      rw [hlog, List.head?_cons, Option.mem_some_iff] at hlast
      rw [← hlast]
      simp [TimelineEntry.packetIndex]
    obtain ⟨hmeets, idles, hlength, hnone, hrun⟩ := ih hidle hhead
    refine ⟨⟨?_, hmeets⟩, idles ++ [.noData (packetIndex % 2 ^ 32)], by simp [hlength], ?_, ?_⟩
    · intro view hview last hlast
      rw [← hnext last hlast]
      obtain rfl := Option.some.inj hview
      rfl
    · simp only [List.mem_append, List.mem_singleton]
      rintro entry (hentry | rfl)
      · exact hnone entry hentry
      · rfl
    · rw [idleLap, run_cons, hrun, hlog, List.append_assoc, List.singleton_append]

/-- A lap of cycles without data takes every exposed packet out of the timeline. -/
theorem idleLap_evicts (hrecorded : Recorded s) (h : Idle s.engine) {packetIndex : ℕ}
    (hnext : ∀ last ∈ s.log.head?, packetIndex % 2 ^ 32 = (last.packetIndex + 1) % 2 ^ 32)
    (absoluteFrame : ℕ) :
    (run step s (idleLap packetIndex kTimelineSlots)).slots.snapshotSlotForAudioFrame
      absoluteFrame = none := by
  obtain ⟨hmeets, idles, hlength, hnone, hlog⟩ := idleLap_spec h hnext kTimelineSlots
  have hlast := invariant_run_of_meets (I := Recorded) (fun s op hs hop => hs.step hop) hrecorded
    hmeets
  by_contra hfound
  obtain ⟨snap, hsnap⟩ := Option.ne_none_iff_exists'.mp hfound
  obtain ⟨i, slot, hslot, hcarries, -⟩ := TimelineSlots.snapshotSlotForAudioFrame_some hsnap
  obtain ⟨packet, hrecent, -⟩ := hlast.carrying hslot hcarries
  rw [hlog, List.take_left' hlength] at hrecent
  cases hnone _ hrecent

lemma recorded_eightChannels : Recorded (started eightChannels idleSlots 0 0) :=
  recorded_started (by simp [idleSlots]) idleSlots_even (dbs_configure eightChannels_configured) 0 0

def firstExposed : TimelineStream :=
  ((started eightChannels idleSlots 0 0).step (.alignFrameCursorOnce 1000)).step
    (.prepare (replayedCall 0 none))

def firstPacket : PreparedTxPacket where
  packetIndex := 0
  byteCount := 264
  isData := true
  dbc := 8
  firstAudioFrame := 1000
  framesInPacket := 8
  dbs := 8

lemma recorded_firstExposed : Recorded firstExposed :=
  (recorded_eightChannels.step (show InOrder _ (.alignFrameCursorOnce 1000) from trivial)).step
    (show InOrder _ (.prepare (replayedCall 0 none)) by decide +kernel)

lemma idle_firstExposed : Idle firstExposed.engine :=
  ⟨by decide +kernel, by decide +kernel, by decide +kernel, by decide +kernel⟩

/-- In an eight channel stream, a lap of cycles without data takes the only exposed packet out of
the timeline; and after an alignment that takes the cursor back, a lookup returns the older one of
two packets with the frame. -/
theorem eightChannels_astray :
    (let start := started eightChannels idleSlots 0 0
      let ops := .alignFrameCursorOnce 1000 :: .prepare (replayedCall 0 none) ::
        idleLap 1 kTimelineSlots
      Meets step InOrder start ops ∧
        (∃ packet idles, (run step start ops).log = idles ++ [.exposed packet] ∧
          (∀ entry ∈ idles, entry.packet? = none) ∧ packet.Covers 1003) ∧
        (run step start ops).slots.snapshotSlotForAudioFrame 1003 = none) ∧
    (let start := started eightChannels idleSlots 0 0
      let ops := [.alignFrameCursorOnce 0, .prepare (replayedCall 0 none),
        .reArmFrameCursorAlignment, .alignFrameCursorOnce 0, .prepare (replayedCall 1 none)]
      Meets step InOrder start ops ∧
        ((run step start ops).log.find? (TimelineEntry.has 3)).map TimelineEntry.packetIndex =
          some 1 ∧
        ((run step start ops).slots.snapshotSlotForAudioFrame 3).map
          PacketSlotSnapshot.packetIndex = some 0) := by
  constructor
  · have hlog : firstExposed.log = [.exposed firstPacket] := by decide +kernel
    have hnext : ∀ last ∈ firstExposed.log.head?, 1 % 2 ^ 32 = (last.packetIndex + 1) % 2 ^ 32 := by
      simp [hlog, TimelineEntry.packetIndex, firstPacket]
    obtain ⟨hmeets, idles, -, hnone, hrun⟩ := idleLap_spec idle_firstExposed hnext kTimelineSlots
    have hevicts := idleLap_evicts recorded_firstExposed idle_firstExposed hnext 1003
    rw [hlog] at hrun
    dsimp only
    rw [run_cons, run_cons]
    exact ⟨⟨trivial, by decide +kernel, hmeets⟩, ⟨firstPacket, idles, hrun, hnone, by decide⟩,
      hevicts⟩
  · decide +kernel

end TimelineStream

end ASFireWire.AMDTP
