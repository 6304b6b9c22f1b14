import ASFireWire.Quadlets
import ASFireWire.RecordWrites
import ASFireWire.TimelineSlots

/-! The PCM writer of AMDTP packets (`Audio/Wire/AMDTP/AmdtpPayloadWriter.cpp`) over the packets the
packetizer has exposed. The memory of a packet is kept under its position in the timeline, and the
codec of a sample is a parameter. -/
namespace ASFireWire.AMDTP

open Quadlets RecordWrites

inductive PcmSlotEncoding | am824MBLA | rawSigned24In32BE | rawSigned24In32LE
  deriving DecidableEq, Repr

/-- A map without slots is the identity. -/
structure PcmSlotMap where
  slotForChannel : List ℕ := []
  slotCount : ℕ := 0
  channelCount : ℕ := 0
  deriving DecidableEq, Repr

namespace PcmSlotMap

def fitsWithin (m : PcmSlotMap) (channels dataBlockSize : ℕ) : Bool :=
  if m.slotCount = 0 then true
  else if m.channelCount ≠ channels ∨ m.slotCount < channels then false
  else (List.range channels).all fun channel => m.slotForChannel.getD channel 0 < dataBlockSize

def slotFor (m : PcmSlotMap) (channel : ℕ) : ℕ :=
  if m.slotCount = 0 then channel else m.slotForChannel.getD channel 0

lemma slotFor_lt {m : PcmSlotMap} {channels dataBlockSize channel : ℕ}
    (hfits : m.fitsWithin channels dataBlockSize = true) (hle : channels ≤ dataBlockSize)
    (hchannel : channel < channels) : m.slotFor channel < dataBlockSize := by
  unfold slotFor
  split_ifs with hidentity
  · omega
  · rw [fitsWithin, if_neg hidentity] at hfits
    split_ifs at hfits
    rw [List.all_eq_true] at hfits
    simpa using hfits channel (List.mem_range.mpr hchannel)

end PcmSlotMap

/-- The configuration with what only the payload writer reads of it. -/
structure WriterStreamConfig extends AmdtpStreamConfig where
  sourceChannelOffset : ℕ := 0

/-- The policy with what only the payload writer reads of it. -/
structure WriterTxPolicy extends AmdtpTxPolicy where
  hostToDevicePcmEncoding : PcmSlotEncoding := .am824MBLA
  playbackChannelMap : PcmSlotMap := {}

/-- A window of the host's frames; without a ring its capacity is zero. -/
structure HostAudioBufferView (α : Type*) where
  interleavedFloat32 : Option (List α)
  firstFrame : ℕ := 0
  frameCount : ℕ := 0
  frameCapacity : ℕ := 0
  channels : ℕ := 0

structure AmdtpPayloadWriter where
  streamConfig : WriterStreamConfig := {}
  txPolicy : WriterTxPolicy := {}
  hasTimeline : Bool := false

/-- The bytes of the packet at each position of the timeline. -/
abbrev PacketMemory := ℕ → List UInt8

namespace AmdtpPayloadWriter

variable {α : Type*} [Zero α] (encodeFloat32 : α → PcmSlotEncoding → ℕ)

def pcmSlots (w : AmdtpPayloadWriter) (dbs : ℕ) : ℕ :=
  if w.streamConfig.pcmChannels < dbs then w.streamConfig.pcmChannels else dbs

/-- The slot of a channel; a map that does not fit the packet is not used. -/
def slotOf (w : AmdtpPayloadWriter) (dbs ch : ℕ) : ℕ :=
  if w.txPolicy.playbackChannelMap.fitsWithin (w.pcmSlots dbs) dbs then
    w.txPolicy.playbackChannelMap.slotFor ch
  else ch

/-- The sample of channel `ch` in frame `i` of the window. -/
def sample (w : AmdtpPayloadWriter) (host : HostAudioBufferView α) (i ch : ℕ) : α :=
  let sourceFrame :=
    if host.frameCapacity ≠ 0 then (host.firstFrame + i) % host.frameCapacity else i
  let srcCh := w.streamConfig.sourceChannelOffset + ch
  if srcCh < host.channels then
    (host.interleavedFloat32.getD []).getD (sourceFrame * host.channels + srcCh) 0
  else 0

/-- The word of that sample. -/
def word (w : AmdtpPayloadWriter) (host : HostAudioBufferView α) (i ch : ℕ) : ℕ :=
  encodeFloat32 (w.sample host i ch) w.txPolicy.hostToDevicePcmEncoding

/-- The writes of frame `i` into the packet of the snapshot, channel after channel. -/
def frameWrites (w : AmdtpPayloadWriter) (host : HostAudioBufferView α) (i : ℕ)
    (snap : PacketSlotSnapshot) : List (ℕ × List UInt8) :=
  let frameInPacket := host.firstFrame + i - snap.firstAudioFrame
  let dest := kCipHeaderBytes + frameInPacket * snap.dbs * kBytesPerSlot
  (List.range (w.pcmSlots snap.dbs)).map fun ch =>
    (dest + w.slotOf snap.dbs ch * kBytesPerSlot, beBytes (w.word encodeFloat32 host i ch))

/-- The frames of the window that have a packet, each with the snapshot of it. -/
def writtenFrames (w : AmdtpPayloadWriter) (slots : TimelineSlots) (host : HostAudioBufferView α) :
    List (ℕ × PacketSlotSnapshot) :=
  if w.hasTimeline = false ∨ host.interleavedFloat32 = none ∨ host.channels = 0 ∨
      host.frameCount = 0 then []
  else (List.range host.frameCount).filterMap fun i =>
    (slots.snapshotSlotForAudioFrame (host.firstFrame + i)).map fun snap => (i, snap)

/-- The loop over those frames. -/
def writeFrames (w : AmdtpPayloadWriter) (host : HostAudioBufferView α) :
    List (ℕ × PacketSlotSnapshot) → PacketMemory → PacketMemory
  | [], memory => memory
  | (i, snap) :: frames, memory =>
    w.writeFrames host frames (Function.update memory snap.position
      (writeAll (memory snap.position) (w.frameWrites encodeFloat32 host i snap)))

def writeFloat32Interleaved (w : AmdtpPayloadWriter) (slots : TimelineSlots)
    (host : HostAudioBufferView α) (memory : PacketMemory) : PacketMemory :=
  w.writeFrames encodeFloat32 host (w.writtenFrames slots host) memory

end AmdtpPayloadWriter

/-! ### What the packetizer writes -/

namespace SlotImage

def headerWrites (image : SlotImage) : List (ℕ × List UInt8) :=
  match image.header with
  | none => []
  | some header => [(0, beBytes header.q0), (4, beBytes header.q1)]

/-- The quadlets of a payload that are written, from byte `start` on. -/
def payloadWrites : ℕ → List (Option ℕ) → List (ℕ × List UInt8)
  | _, [] => []
  | start, none :: payload => payloadWrites (start + kBytesPerSlot) payload
  | start, some word :: payload =>
    (start, beBytes word) :: payloadWrites (start + kBytesPerSlot) payload

def write (image : SlotImage) (bytes : List UInt8) : List UInt8 :=
  writeAll bytes (image.headerWrites ++ payloadWrites kCipHeaderBytes image.payload)

variable {payload : List (Option ℕ)} {start : ℕ}

lemma mem_payloadWrites {entry : ℕ × List UInt8} (h : entry ∈ payloadWrites start payload) :
    ∃ j word, payload[j]? = some (some word) ∧ entry = (start + 4 * j, beBytes word) := by
  induction payload generalizing start with
  | nil => simp [payloadWrites] at h
  | cons head payload ih =>
    cases head with
    | none =>
      obtain ⟨j, word, hj, rfl⟩ := ih h
      exact ⟨j + 1, word, hj, by simp [kBytesPerSlot]; ring⟩
    | some first =>
      rcases List.mem_cons.mp h with rfl | hrest
      · exact ⟨0, first, rfl, rfl⟩
      · obtain ⟨j, word, hj, rfl⟩ := ih hrest
        exact ⟨j + 1, word, hj, by simp [kBytesPerSlot]; ring⟩

lemma payloadWrites_mem {j word : ℕ} (h : payload[j]? = some (some word)) :
    (start + 4 * j, beBytes word) ∈ payloadWrites start payload := by
  induction payload generalizing start j with
  | nil => simp at h
  | cons head payload ih =>
    cases j with
    | zero =>
      rw [List.getElem?_cons_zero, Option.some_inj] at h
      rw [h, payloadWrites]
      exact List.mem_cons_self
    | succ j =>
      rw [List.getElem?_cons_succ] at h
      have hrest : (start + kBytesPerSlot + 4 * j, beBytes word) ∈
          payloadWrites (start + kBytesPerSlot) payload := ih h
      rw [show start + kBytesPerSlot + 4 * j = start + 4 * (j + 1) by simp [kBytesPerSlot]; ring]
        at hrest
      cases head with
      | none => exact hrest
      | some first => exact List.mem_cons_of_mem _ hrest

lemma payloadWrites_apart : (payloadWrites start payload).Pairwise Apart := by
  induction payload generalizing start with
  | nil => exact List.Pairwise.nil
  | cons head payload ih =>
    cases head with
    | none => exact ih
    | some first =>
      refine List.Pairwise.cons ?_ ih
      intro entry hentry j hboth
      obtain ⟨k, word, -, rfl⟩ := mem_payloadWrites hentry
      simp only [Covers, length_beBytes, kBytesPerSlot] at hboth
      omega

/-- A written quadlet is there, and a quadlet that is not keeps its bytes. -/
lemma write_payload (image : SlotImage) {bytes : List UInt8} {j i : ℕ}
    (hfits : kCipHeaderBytes + 4 * j + 4 ≤ bytes.length) (hi : i < 4) :
    (image.write bytes)[kCipHeaderBytes + 4 * j + i]? =
      match image.payload[j]? with
      | some (some word) => (beBytes word)[i]?
      | _ => bytes[kCipHeaderBytes + 4 * j + i]? := by
  have hheader : ∀ entry ∈ image.headerWrites, entry.1 + entry.2.length ≤ kCipHeaderBytes := by
    unfold headerWrites
    cases image.header <;> simp [kCipHeaderBytes]
  have hbehind : ∀ entry ∈ image.headerWrites, ¬ Covers entry (kCipHeaderBytes + 4 * j + i) := by
    rintro entry hentry ⟨-, hlast⟩
    have hle := hheader entry hentry
    omega
  unfold write
  rw [writeAll_append]
  rcases hpayload : image.payload[j]? with _ | _ | word
  · rw [writeAll_outside, writeAll_outside hbehind]
    intro entry hentry hcovers
    obtain ⟨k, word, hk, rfl⟩ := mem_payloadWrites hentry
    simp only [Covers, length_beBytes] at hcovers
    rw [show k = j by omega, hpayload] at hk
    cases hk
  · rw [writeAll_outside, writeAll_outside hbehind]
    intro entry hentry hcovers
    obtain ⟨k, word, hk, rfl⟩ := mem_payloadWrites hentry
    simp only [Covers, length_beBytes] at hcovers
    rw [show k = j by omega, hpayload] at hk
    cases hk
  · exact writeAll_inside (kCipHeaderBytes + 4 * j, beBytes word) payloadWrites_apart
      (payloadWrites_mem hpayload) (by rwa [length_writeAll]) hi

lemma length_writeImage (image : SlotImage) (bytes : List UInt8) :
    (image.write bytes).length = bytes.length := length_writeAll

/-- Behind the payload nothing is written. -/
lemma write_behind (image : SlotImage) {bytes : List UInt8} {j : ℕ}
    (h : kCipHeaderBytes + 4 * image.payload.length ≤ j) :
    (image.write bytes)[j]? = bytes[j]? := by
  apply writeAll_outside
  intro entry hentry hcovers
  rcases List.mem_append.mp hentry with hheader | hpayload
  · have hle : entry.1 + entry.2.length ≤ kCipHeaderBytes := by
      revert hheader
      unfold headerWrites
      cases image.header <;> simp [kCipHeaderBytes]
      rintro (rfl | rfl) <;> simp
    have hlast := hcovers.2
    omega
  · obtain ⟨k, word, hk, rfl⟩ := mem_payloadWrites hpayload
    have hlt := (List.getElem?_eq_some_iff.mp hk).1
    simp only [Covers, length_beBytes] at hcovers
    omega

end SlotImage

namespace AmdtpTxPacketizer

variable {p : AmdtpTxPacketizer} {t : AmdtpPacketTimeline} {view : TxPacketSlotView}
  {timing : AmdtpTimingState} {plan : TxPresentationPlan} {r : Prepared}

lemma prepareNextPacket_data (h : p.prepareNextPacket t view timing plan = some r)
    (hdata : r.packet.isData = true) : ∃ cadence, r = p.dataPacket t cadence view timing plan ∧
      0 < plan.frameCount ∧ p.dataPacketBytes plan.frameCount ≤ view.capacityBytes := by
  unfold prepareNextPacket at h
  cases hcadence : p.cadence with
  | none =>
    rw [hcadence] at h
    cases h
  | some cadence =>
    rw [hcadence] at h
    dsimp only at h
    split_ifs at h with hbytes hepoch hframes hmany hroom hroom
    · obtain rfl := Option.some.inj h
      exact ⟨cadence, rfl, hframes.2, Nat.not_lt.mp hroom⟩
    · obtain rfl := Option.some.inj h
      cases hdata

/-- What the defaults put into slot `s` of a frame. -/
def defaultWord (p : AmdtpTxPacketizer) (s : ℕ) : Option ℕ :=
  if p.txPolicy.initializeNonAudioSlots ∧ p.streamConfig.pcmChannels ≤ s then
    some p.txPolicy.defaultNonAudioSlotWord
  else if p.txPolicy.clearPayloadBeforeExposure then some 0
  else none

lemma dataPacketDefaults_length (frames : ℕ) :
    (p.dataPacketDefaults frames).length = frames * p.streamConfig.dbs := by
  simp [dataPacketDefaults]

lemma dataPacketDefaults_getElem {frames frame s : ℕ} (hframe : frame < frames)
    (hs : s < p.streamConfig.dbs) :
    (p.dataPacketDefaults frames)[frame * p.streamConfig.dbs + s]? = some (p.defaultWord s) := by
  have hblock : p.dataPacketDefaults frames =
      (List.replicate frames ((List.range p.streamConfig.dbs).map p.defaultWord)).flatten := rfl
  rw [hblock]
  clear hblock
  induction frames generalizing frame with
  | zero => omega
  | succ frames ih =>
    rw [List.replicate_succ, List.flatten_cons]
    cases frame with
    | zero =>
      rw [List.getElem?_append_left (by simpa using hs)]
      simp [hs]
    | succ frame =>
      rw [List.getElem?_append_right (by simp [Nat.add_mul]; omega)]
      simp only [List.length_map, List.length_range]
      rw [show (frame + 1) * p.streamConfig.dbs + s - p.streamConfig.dbs =
        frame * p.streamConfig.dbs + s by rw [Nat.add_mul]; omega]
      exact ih (by omega)

end AmdtpTxPacketizer

namespace AmdtpPayloadWriter

variable {α : Type*} [Zero α] {encodeFloat32 : α → PcmSlotEncoding → ℕ} {w : AmdtpPayloadWriter}
  {host : HostAudioBufferView α} {slots : TimelineSlots}

/-! ### Where the writer writes -/

/-- All writes into the packet at the position. -/
def writesAt (encodeFloat32 : α → PcmSlotEncoding → ℕ) (w : AmdtpPayloadWriter)
    (host : HostAudioBufferView α) (position : ℕ) (frames : List (ℕ × PacketSlotSnapshot)) :
    List (ℕ × List UInt8) :=
  (frames.filter fun frame => frame.2.position = position).flatMap fun frame =>
    w.frameWrites encodeFloat32 host frame.1 frame.2

lemma writeFrames_apply (frames : List (ℕ × PacketSlotSnapshot)) (memory : PacketMemory)
    (position : ℕ) : w.writeFrames encodeFloat32 host frames memory position =
      writeAll (memory position) (w.writesAt encodeFloat32 host position frames) := by
  induction frames generalizing memory with
  | nil => rfl
  | cons frame frames ih =>
    obtain ⟨i, snap⟩ := frame
    rw [writeFrames, ih]
    by_cases hhere : snap.position = position
    · subst hhere
      rw [Function.update_self, ← writeAll_append]
      simp [writesAt]
    · rw [Function.update_of_ne (Ne.symm hhere)]
      simp [writesAt, hhere]

lemma pcmSlots_le (dbs : ℕ) : w.pcmSlots dbs ≤ dbs := by
  unfold pcmSlots
  split_ifs <;> omega

lemma slotOf_lt {dbs ch : ℕ} (hch : ch < w.pcmSlots dbs) : w.slotOf dbs ch < dbs := by
  have hle := w.pcmSlots_le dbs
  unfold slotOf
  split_ifs with hfits
  · exact PcmSlotMap.slotFor_lt hfits hle hch
  · omega

omit [Zero α] in
lemma mem_writtenFrames {i : ℕ} {snap : PacketSlotSnapshot}
    (h : (i, snap) ∈ w.writtenFrames slots host) :
    slots.snapshotSlotForAudioFrame (host.firstFrame + i) = some snap := by
  unfold writtenFrames at h
  split_ifs at h
  · cases h
  · obtain ⟨k, -, hk⟩ := List.mem_filterMap.mp h
    obtain ⟨other, hother, heq⟩ := Option.map_eq_some_iff.mp hk
    obtain ⟨rfl, rfl⟩ := Prod.mk.inj heq
    exact hother

omit [Zero α] in
lemma writtenFrames_ascending : (w.writtenFrames slots host).Pairwise fun a b => a.1 < b.1 := by
  unfold writtenFrames
  split_ifs
  · exact List.Pairwise.nil
  · rw [List.pairwise_filterMap]
    apply List.pairwise_lt_range.imp
    intro a b hlt x hx y hy
    obtain ⟨_, -, rfl⟩ := Option.map_eq_some_iff.mp hx
    obtain ⟨_, -, rfl⟩ := Option.map_eq_some_iff.mp hy
    exact hlt

/-! ### A packet prepared and played into -/

/-- The writer and the packetizer have one configuration, and a packet with frames has been prepared
and exposed. -/
structure Exposed (w : AmdtpPayloadWriter) (p : AmdtpTxPacketizer) (t : AmdtpPacketTimeline)
    (slots : TimelineSlots) (view : TxPacketSlotView) (timing : AmdtpTimingState)
    (plan : TxPresentationPlan) (r : AmdtpTxPacketizer.Prepared) (slots' : TimelineSlots) : Prop where
  config : w.streamConfig.toAmdtpStreamConfig = p.streamConfig
  policy : w.txPolicy.toAmdtpTxPolicy = p.txPolicy
  prepared : p.prepareNextPacket t view timing plan = some r
  isData : r.packet.isData = true
  exposed : slots.exposeDataPacket r.packet view.hasBytes view.capacityBytes = some slots'

/-- The bytes of the packet after both calls. -/
def played (encodeFloat32 : α → PcmSlotEncoding → ℕ) (w : AmdtpPayloadWriter)
    (host : HostAudioBufferView α) (r : AmdtpTxPacketizer.Prepared) (slots' : TimelineSlots)
    (position : ℕ) (memory : PacketMemory) : List UInt8 :=
  w.writeFloat32Interleaved encodeFloat32 slots' host
    (Function.update memory position (r.image.write (memory position))) position

/-- Quadlet `q` of the payload is the word. -/
def HoldsWord (bytes : List UInt8) (q word : ℕ) : Prop :=
  ∀ i < 4, bytes[kCipHeaderBytes + 4 * q + i]? = (beBytes word)[i]?

def Unmapped (w : AmdtpPayloadWriter) (dbs s : ℕ) : Prop :=
  ∀ ch < w.pcmSlots dbs, w.txPolicy.playbackChannelMap.slotFor ch ≠ s

/-- What is to be found in the packet, and nowhere else. -/
structure RightContent (encodeFloat32 : α → PcmSlotEncoding → ℕ) (w : AmdtpPayloadWriter)
    (host : HostAudioBufferView α) (r : AmdtpTxPacketizer.Prepared) (slots' : TimelineSlots)
    (position : ℕ) (memory : PacketMemory) : Prop where
  prepared : ∀ j, r.packet.byteCount ≤ j →
    (r.image.write (memory position))[j]? = (memory position)[j]?
  inside : ∀ entry ∈ w.writesAt encodeFloat32 host position (w.writtenFrames slots' host),
    kCipHeaderBytes ≤ entry.1 ∧ entry.1 + entry.2.length ≤ r.packet.byteCount
  samples : ∀ i snap, (i, snap) ∈ w.writtenFrames slots' host → snap.position = position →
    ∀ ch < w.pcmSlots r.packet.dbs,
      HoldsWord (w.played encodeFloat32 host r slots' position memory)
        ((host.firstFrame + i - r.packet.firstAudioFrame) * r.packet.dbs +
          w.txPolicy.playbackChannelMap.slotFor ch) (w.word encodeFloat32 host i ch)
  defaults : ∀ frame < r.packet.framesInPacket, ∀ s < r.packet.dbs, w.Unmapped r.packet.dbs s →
    HoldsWord (w.played encodeFloat32 host r slots' position memory)
      (frame * r.packet.dbs + s) w.txPolicy.defaultNonAudioSlotWord

variable {p : AmdtpTxPacketizer} {t : AmdtpPacketTimeline} {view : TxPacketSlotView}
  {timing : AmdtpTimingState} {plan : TxPresentationPlan} {r : AmdtpTxPacketizer.Prepared}
  {slots' : TimelineSlots} {memory : PacketMemory}

/-- A frame that goes to the position of the packet is a frame of the packet. -/
lemma Exposed.snapshot (h : Exposed w p t slots view timing plan r slots') {absoluteFrame : ℕ}
    {snap : PacketSlotSnapshot}
    (hsnap : slots'.snapshotSlotForAudioFrame absoluteFrame = some snap)
    (hposition : snap.position = r.packet.packetIndex % slots.length) :
    snap.firstAudioFrame = r.packet.firstAudioFrame ∧ snap.dbs = r.packet.dbs ∧
      r.packet.firstAudioFrame ≤ absoluteFrame ∧
      absoluteFrame < r.packet.firstAudioFrame + r.packet.framesInPacket := by
  have hexposed := h.exposed
  unfold TimelineSlots.exposeDataPacket at hexposed
  split_ifs at hexposed with hnone
  obtain rfl := Option.some.inj hexposed
  have hlt : r.packet.packetIndex % slots.length < slots.length :=
    Nat.mod_lt _ (List.length_pos_iff.mpr fun hnil => hnone (Or.inl hnil))
  obtain ⟨i, slot, hslot, hcarries, rfl⟩ := TimelineSlots.snapshotSlotForAudioFrame_some hsnap
  obtain rfl : i = r.packet.packetIndex % slots.length := hposition
  rw [List.getElem?_set_self hlt] at hslot
  obtain rfl := Option.some.inj hslot
  simp only [PacketTimelineSlot.carries, Bool.and_eq_true, decide_eq_true_eq] at hcarries
  obtain ⟨⟨⟨⟨-, hfrom⟩, hto⟩, -⟩, -⟩ := hcarries
  exact ⟨rfl, rfl, hfrom, hto⟩

/-- Places of different slots of one frame, or of slots of different frames, are different. -/
lemma place_inj {dbs frame frame' s s' : ℕ} (hs : s < dbs) (hs' : s' < dbs)
    (h : frame * dbs + s = frame' * dbs + s') : frame = frame' ∧ s = s' := by
  have hmod := congrArg (· % dbs) h
  simp only [Nat.mul_add_mod_self_right, Nat.mod_eq_of_lt hs, Nat.mod_eq_of_lt hs'] at hmod
  subst hmod
  exact ⟨Nat.eq_of_mul_eq_mul_right (by omega) (Nat.add_right_cancel h), rfl⟩

/-- The place and the word of a write into the packet. -/
lemma Exposed.mem_writesAt (h : Exposed w p t slots view timing plan r slots')
    (hfits : w.txPolicy.playbackChannelMap.fitsWithin (w.pcmSlots r.packet.dbs) r.packet.dbs = true)
    {entry : ℕ × List UInt8} (hentry : entry ∈ w.writesAt encodeFloat32 host
      (r.packet.packetIndex % slots.length) (w.writtenFrames slots' host)) :
    ∃ frame < r.packet.framesInPacket, ∃ ch < w.pcmSlots r.packet.dbs, ∃ word,
      entry = (kCipHeaderBytes + 4 * (frame * r.packet.dbs +
        w.txPolicy.playbackChannelMap.slotFor ch), beBytes word) := by
  obtain ⟨⟨i, snap⟩, hframe, hwrite⟩ := List.mem_flatMap.mp hentry
  obtain ⟨hmem, hposition⟩ := List.mem_filter.mp hframe
  obtain ⟨hfirst, hdbs, hfrom, hto⟩ := h.snapshot (mem_writtenFrames hmem)
    (of_decide_eq_true hposition)
  obtain ⟨ch, hch, rfl⟩ := List.mem_map.mp hwrite
  rw [List.mem_range, hdbs] at hch
  refine ⟨host.firstFrame + i - r.packet.firstAudioFrame, by omega, ch, hch,
    w.word encodeFloat32 host i ch, ?_⟩
  simp only [hfirst, hdbs, slotOf, hfits, if_true, kBytesPerSlot]
  congr 1
  ring

/-- Every channel of a frame is written at its slot. -/
lemma Exposed.writesAt_mem (h : Exposed w p t slots view timing plan r slots')
    (hfits : w.txPolicy.playbackChannelMap.fitsWithin (w.pcmSlots r.packet.dbs) r.packet.dbs = true)
    {i ch : ℕ} {snap : PacketSlotSnapshot} (hmem : (i, snap) ∈ w.writtenFrames slots' host)
    (hposition : snap.position = r.packet.packetIndex % slots.length)
    (hch : ch < w.pcmSlots r.packet.dbs) :
    (kCipHeaderBytes + 4 * ((host.firstFrame + i - r.packet.firstAudioFrame) * r.packet.dbs +
        w.txPolicy.playbackChannelMap.slotFor ch), beBytes (w.word encodeFloat32 host i ch)) ∈
      w.writesAt encodeFloat32 host (r.packet.packetIndex % slots.length)
        (w.writtenFrames slots' host) := by
  obtain ⟨hfirst, hdbs, -, -⟩ := h.snapshot (mem_writtenFrames hmem) hposition
  apply List.mem_flatMap.mpr
  refine ⟨(i, snap), List.mem_filter.mpr ⟨hmem, by simp [hposition]⟩, ?_⟩
  simp only [frameWrites, hfirst, hdbs, slotOf, hfits, if_true, kBytesPerSlot, List.mem_map,
    List.mem_range]
  refine ⟨ch, hch, ?_⟩
  congr 1
  ring

lemma Exposed.writesAt_apart (h : Exposed w p t slots view timing plan r slots')
    (hfits : w.txPolicy.playbackChannelMap.fitsWithin (w.pcmSlots r.packet.dbs) r.packet.dbs = true)
    (hdistinct : ∀ ch < w.pcmSlots r.packet.dbs, ∀ ch' < w.pcmSlots r.packet.dbs,
      w.txPolicy.playbackChannelMap.slotFor ch = w.txPolicy.playbackChannelMap.slotFor ch' →
        ch = ch') :
    (w.writesAt encodeFloat32 host (r.packet.packetIndex % slots.length)
      (w.writtenFrames slots' host)).Pairwise Apart := by
  have happart {frame frame' s s' : ℕ} {word word' : ℕ} (hs : s < r.packet.dbs)
      (hs' : s' < r.packet.dbs) (hne : frame = frame' → s ≠ s') :
      Apart (kCipHeaderBytes + frame * r.packet.dbs * kBytesPerSlot + s * kBytesPerSlot,
          beBytes word)
        (kCipHeaderBytes + frame' * r.packet.dbs * kBytesPerSlot + s' * kBytesPerSlot,
          beBytes word') := by
    intro j hboth
    have hplace : frame * r.packet.dbs + s ≠ frame' * r.packet.dbs + s' := by
      intro heq
      obtain ⟨hframe, hslot⟩ := place_inj hs hs' heq
      exact hne hframe hslot
    simp only [Covers, length_beBytes, kBytesPerSlot] at hboth
    omega
  rw [writesAt, List.pairwise_flatMap]
  constructor
  · rintro ⟨i, snap⟩ hframe
    obtain ⟨hmem, hposition⟩ := List.mem_filter.mp hframe
    obtain ⟨hfirst, hdbs, -, -⟩ := h.snapshot (mem_writtenFrames hmem)
      (of_decide_eq_true hposition)
    simp only [frameWrites, hdbs, hfirst]
    rw [List.pairwise_map]
    apply (List.nodup_range (n := w.pcmSlots r.packet.dbs)).pairwise_of_forall_ne
    intro ch hch ch' hch' hne
    rw [List.mem_range] at hch hch'
    apply happart (slotOf_lt hch) (slotOf_lt hch')
    intro _ hsame
    simp only [slotOf, hfits, if_true] at hsame
    exact hne (hdistinct ch hch ch' hch' hsame)
  · apply ((writtenFrames_ascending (w := w)).filter _).imp_of_mem
    rintro ⟨i, snap⟩ ⟨i', snap'⟩ hframe hframe' hlt entry hentry entry' hentry'
    obtain ⟨hmem, hposition⟩ := List.mem_filter.mp hframe
    obtain ⟨hmem', hposition'⟩ := List.mem_filter.mp hframe'
    obtain ⟨hfirst, hdbs, hfrom, -⟩ := h.snapshot (mem_writtenFrames hmem)
      (of_decide_eq_true hposition)
    obtain ⟨hfirst', hdbs', hfrom', -⟩ := h.snapshot (mem_writtenFrames hmem')
      (of_decide_eq_true hposition')
    simp only [frameWrites, hdbs, hfirst] at hentry
    simp only [frameWrites, hdbs', hfirst'] at hentry'
    obtain ⟨ch, hch, rfl⟩ := List.mem_map.mp hentry
    obtain ⟨ch', hch', rfl⟩ := List.mem_map.mp hentry'
    apply happart (slotOf_lt (List.mem_range.mp hch)) (slotOf_lt (List.mem_range.mp hch'))
    dsimp only at hlt
    omega

omit [Zero α] in
lemma beBytes_zero_iff (word : ℕ) : beBytes 0 = beBytes word ↔ word % 2 ^ 32 = 0 := by
  have hread : ∀ v, le32At (beBytes v).reverse 0 = v % 2 ^ 32 := by
    intro v
    have hstored := le32At_stored v []
    rwa [List.append_nil, ← List.reverse_reverse (leBytes v)] at hstored
  constructor
  · intro h
    rw [← hread word, ← h, hread]
    rfl
  · intro h
    unfold beBytes
    congr 1
    simp only [leBytes, ← UInt8.toNat_inj, byteAt_ofNat, List.cons.injEq, and_true]
    omega

lemma played_apply (position : ℕ) : w.played encodeFloat32 host r slots' position memory =
    writeAll (r.image.write (memory position))
      (w.writesAt encodeFloat32 host position (w.writtenFrames slots' host)) := by
  rw [played, writeFloat32Interleaved, writeFrames_apply, Function.update_self]

/-- The word `word` is in the slot before the packet is prepared, or the packetizer puts it there. -/
def Defaulted (p : AmdtpTxPacketizer) (before : List UInt8) (frame s : ℕ) : Prop :=
  (p.txPolicy.initializeNonAudioSlots = true ∧ p.streamConfig.pcmChannels ≤ s) ∨
    if p.txPolicy.clearPayloadBeforeExposure then p.txPolicy.defaultNonAudioSlotWord % 2 ^ 32 = 0
    else HoldsWord before (frame * p.streamConfig.dbs + s) p.txPolicy.defaultNonAudioSlotWord

omit [Zero α] in
/-- What a prepared packet holds in a slot. -/
lemma holdsWord_prepared {cadence : AmdtpCadence} {bytes : List UInt8} {frame s : ℕ}
    (hframe : frame < plan.frameCount) (hs : s < p.streamConfig.dbs)
    (hfits : kCipHeaderBytes + 4 * (frame * p.streamConfig.dbs + s) + 4 ≤ bytes.length) :
    HoldsWord ((p.dataPacket t cadence view timing plan).image.write bytes)
        (frame * p.streamConfig.dbs + s) p.txPolicy.defaultNonAudioSlotWord ↔
      Defaulted p bytes frame s := by
  have hbytes (i : ℕ) (hi : i < 4) := SlotImage.write_payload
    (p.dataPacket t cadence view timing plan).image hfits hi
  have hpayload : (p.dataPacket t cadence view timing plan).image.payload =
      p.dataPacketDefaults plan.frameCount := rfl
  simp only [hpayload, AmdtpTxPacketizer.dataPacketDefaults_getElem hframe hs] at hbytes
  have hheld (word : ℕ) (hword : p.defaultWord s = some word) :
      HoldsWord ((p.dataPacket t cadence view timing plan).image.write bytes)
        (frame * p.streamConfig.dbs + s) p.txPolicy.defaultNonAudioSlotWord ↔
          beBytes word = beBytes p.txPolicy.defaultNonAudioSlotWord := by
    simp only [hword] at hbytes
    constructor
    · intro hholds
      apply List.ext_getElem?
      intro i
      by_cases hi : i < 4
      · rw [← hbytes i hi, hholds i hi]
      · rw [List.getElem?_eq_none (by simp; omega), List.getElem?_eq_none (by simp; omega)]
    · intro heq i hi
      rw [hbytes i hi, heq]
  unfold Defaulted
  by_cases hinit : p.txPolicy.initializeNonAudioSlots = true ∧ p.streamConfig.pcmChannels ≤ s
  · rw [hheld _ (if_pos hinit)]
    simp [hinit]
  · have hword : p.defaultWord s =
        if p.txPolicy.clearPayloadBeforeExposure then some 0 else none := if_neg hinit
    simp only [hinit, false_or]
    split_ifs with hclear
    · rw [if_pos hclear] at hword
      rw [hheld 0 hword, beBytes_zero_iff]
    · rw [if_neg hclear] at hword
      simp only [hword] at hbytes
      constructor
      · intro hholds i hi
        rw [← hbytes i hi, hholds i hi]
      · intro hholds i hi
        rw [hbytes i hi, hholds i hi]

/-- The packet is right exactly when each slot without a channel gets the default word from the
packetizer, which goes by the position of the slot, or holds it already. -/
theorem rightContent_iff (h : Exposed w p t slots view timing plan r slots')
    (hfits : w.txPolicy.playbackChannelMap.fitsWithin (w.pcmSlots r.packet.dbs) r.packet.dbs = true)
    (hdistinct : ∀ ch < w.pcmSlots r.packet.dbs, ∀ ch' < w.pcmSlots r.packet.dbs,
      w.txPolicy.playbackChannelMap.slotFor ch = w.txPolicy.playbackChannelMap.slotFor ch' →
        ch = ch')
    (hmemory : (memory (r.packet.packetIndex % slots.length)).length = view.capacityBytes) :
    RightContent encodeFloat32 w host r slots' (r.packet.packetIndex % slots.length) memory ↔
      ∀ frame < r.packet.framesInPacket, ∀ s < r.packet.dbs, w.Unmapped r.packet.dbs s →
        Defaulted p (memory (r.packet.packetIndex % slots.length)) frame s := by
  have happart : (w.writesAt encodeFloat32 host (r.packet.packetIndex % slots.length)
      (w.writtenFrames slots' host)).Pairwise Apart := h.writesAt_apart hfits hdistinct
  have hwrites {entry : ℕ × List UInt8} (hentry : entry ∈ w.writesAt encodeFloat32 host
      (r.packet.packetIndex % slots.length) (w.writtenFrames slots' host)) :=
    h.mem_writesAt hfits hentry
  set position := r.packet.packetIndex % slots.length
  obtain ⟨cadence, hr, -, hroom⟩ := AmdtpTxPacketizer.prepareNextPacket_data h.prepared h.isData
  have hdbs : r.packet.dbs = p.streamConfig.dbs := by rw [hr]; rfl
  have hframes : r.packet.framesInPacket = plan.frameCount := by rw [hr]; rfl
  have hcount : r.packet.byteCount = kCipHeaderBytes + 4 * (r.packet.framesInPacket * r.packet.dbs) := by
    rw [hdbs, hframes, hr]
    simp only [AmdtpTxPacketizer.dataPacket, AmdtpTxPacketizer.dataPacketBytes, kBytesPerSlot]
    ring
  have hlength : r.image.payload.length = r.packet.framesInPacket * r.packet.dbs := by
    rw [hdbs, hframes, hr]
    exact AmdtpTxPacketizer.dataPacketDefaults_length plan.frameCount
  have hcapacity : r.packet.byteCount ≤ (memory position).length := by
    rw [hmemory, hr]
    exact hroom
  have hplace {frame s : ℕ} (hframe : frame < r.packet.framesInPacket) (hs : s < r.packet.dbs) :
      frame * r.packet.dbs + s < r.packet.framesInPacket * r.packet.dbs := by
    have hle := Nat.mul_le_mul_right r.packet.dbs (Nat.succ_le_of_lt hframe)
    rw [Nat.succ_mul] at hle
    omega
  have hslot {ch : ℕ} (hch : ch < w.pcmSlots r.packet.dbs) :
      w.txPolicy.playbackChannelMap.slotFor ch < r.packet.dbs :=
    PcmSlotMap.slotFor_lt hfits (pcmSlots_le _) hch
  have hplayed : w.played encodeFloat32 host r slots' position memory = _ := played_apply position
  have hunmapped {frame s : ℕ} (hframe : frame < r.packet.framesInPacket) (hs : s < r.packet.dbs)
      (hfree : w.Unmapped r.packet.dbs s) (word : ℕ) :
      HoldsWord (w.played encodeFloat32 host r slots' position memory)
          (frame * r.packet.dbs + s) word ↔
        HoldsWord (r.image.write (memory position)) (frame * r.packet.dbs + s) word := by
    have hsame : ∀ i < 4, (w.played encodeFloat32 host r slots' position memory)[
        kCipHeaderBytes + 4 * (frame * r.packet.dbs + s) + i]? =
          (r.image.write (memory position))[
            kCipHeaderBytes + 4 * (frame * r.packet.dbs + s) + i]? := by
      intro i hi
      rw [hplayed]
      apply writeAll_outside
      intro entry hentry hcovers
      obtain ⟨frame', -, ch, hch, word, rfl⟩ := hwrites hentry
      simp only [Covers, length_beBytes] at hcovers
      have hplaces : frame * r.packet.dbs + s =
          frame' * r.packet.dbs + w.txPolicy.playbackChannelMap.slotFor ch := by omega
      obtain ⟨-, hsame⟩ := place_inj hs (hslot hch) hplaces
      exact hfree ch hch hsame.symm
    constructor
    · intro hholds i hi
      rw [← hsame i hi, hholds i hi]
    · intro hholds i hi
      rw [hsame i hi, hholds i hi]
  have hdefault {frame s : ℕ} (hframe : frame < r.packet.framesInPacket) (hs : s < r.packet.dbs)
      (hfree : w.Unmapped r.packet.dbs s) :
      HoldsWord (w.played encodeFloat32 host r slots' position memory) (frame * r.packet.dbs + s)
        w.txPolicy.defaultNonAudioSlotWord ↔ Defaulted p (memory position) frame s := by
    have hroom' := hplace hframe hs
    rw [hunmapped hframe hs hfree, h.policy, hdbs, hr]
    apply holdsWord_prepared
    · rwa [← hframes]
    · rwa [← hdbs]
    · rw [← hdbs]
      omega
  constructor
  · intro hright frame hframe s hs hfree
    exact (hdefault hframe hs hfree).mp (hright.defaults frame hframe s hs hfree)
  · intro hdefaulted
    refine ⟨?_, ?_, ?_, fun frame hframe s hs hfree =>
      (hdefault hframe hs hfree).mpr (hdefaulted frame hframe s hs hfree)⟩
    · intro j hj
      apply SlotImage.write_behind
      omega
    · intro entry hentry
      obtain ⟨frame, hframe, ch, hch, word, rfl⟩ := hwrites hentry
      have hroom' := hplace hframe (hslot hch)
      rw [length_beBytes]
      omega
    · intro i snap hmem hhere ch hch j hj
      obtain ⟨hfirst, hsnap, hfrom, hto⟩ := h.snapshot (mem_writtenFrames hmem) hhere
      have hroom' : (host.firstFrame + i - r.packet.firstAudioFrame) * r.packet.dbs +
          w.txPolicy.playbackChannelMap.slotFor ch < _ := hplace (by omega) (hslot hch)
      have hwritten : _ ∈ w.writesAt encodeFloat32 host position (w.writtenFrames slots' host) :=
        h.writesAt_mem hfits hmem hhere hch
      rw [hplayed]
      refine writeAll_inside (_, beBytes (w.word encodeFloat32 host i ch)) happart hwritten ?_ hj
      rw [SlotImage.length_writeImage, length_beBytes]
      omega

/-! ### Two channels in blocks of three slots -/

def threeSlots : WriterStreamConfig where
  dbs := 3
  pcmChannels := 2
  framesPerDataPacket := 1

def twoOfThree : AmdtpTxPacketizer :=
  (({ hasTimeline := true } : AmdtpTxPacketizer).configure threeSlots.toAmdtpStreamConfig {}).getD {}

def twoOfThreeView : TxPacketSlotView where
  packetIndex := 0
  capacityBytes := 20

def oneFrame : TxPresentationPlan where
  frameCount := 1
  disposition := .data

def twoOfThreePrepared : AmdtpTxPacketizer.Prepared :=
  (twoOfThree.prepareNextPacket {} twoOfThreeView {} oneFrame).getD ⟨{}, {}, {}, {}⟩

def twoOfThreeSlots : TimelineSlots :=
  (TimelineSlots.exposeDataPacket [{}] twoOfThreePrepared.packet true 20).getD []

def twoOfThreeWriter (playbackChannelMap : PcmSlotMap) : AmdtpPayloadWriter where
  streamConfig := { threeSlots with fdf := 2 }
  txPolicy := { playbackChannelMap := playbackChannelMap }
  hasTimeline := true

def twoSamples : HostAudioBufferView ℕ where
  interleavedFloat32 := some [7, 9]
  frameCount := 1
  channels := 2

lemma twoOfThree_exposed (playbackChannelMap : PcmSlotMap) :
    Exposed (twoOfThreeWriter playbackChannelMap) twoOfThree {} [{}] twoOfThreeView {} oneFrame
      twoOfThreePrepared twoOfThreeSlots :=
  ⟨rfl, rfl, by decide, by decide, by decide⟩

/-- With the channels in wire order the third slot is the one that gets the default. -/
theorem rightContent_wireOrder :
    RightContent (fun word _ => word) (twoOfThreeWriter {}) twoSamples twoOfThreePrepared
      twoOfThreeSlots 0 fun _ => List.replicate 20 0 := by
  apply (rightContent_iff (twoOfThree_exposed {}) (by decide) (by decide) (by simp; rfl)).mpr
  intro frame _ s hs hfree
  refine Or.inl ⟨by decide, ?_⟩
  by_contra hchannel
  exact hfree s (Nat.not_le.mp hchannel) rfl

/-- The second channel in the third slot: the second slot holds zero and not the default. -/
theorem not_rightContent_gap :
    let playbackChannelMap : PcmSlotMap := {
      slotForChannel := [0, 2], slotCount := 2, channelCount := 2 }
    let w := twoOfThreeWriter playbackChannelMap
    playbackChannelMap.fitsWithin (w.pcmSlots 3) 3 = true ∧
      (∀ ch < w.pcmSlots 3, ∀ ch' < w.pcmSlots 3,
        playbackChannelMap.slotFor ch = playbackChannelMap.slotFor ch' → ch = ch') ∧
      Exposed w twoOfThree {} [{}] twoOfThreeView {} oneFrame twoOfThreePrepared twoOfThreeSlots ∧
      ¬ RightContent (fun word _ => word) w twoSamples twoOfThreePrepared twoOfThreeSlots 0
        fun _ => List.replicate 20 0 := by
  refine ⟨by decide, by decide, twoOfThree_exposed _, ?_⟩
  intro hright
  have hdefault := hright.defaults 0 (by decide) 1 (by decide) (by unfold Unmapped; decide) 0
    (by decide)
  revert hdefault
  decide

end AmdtpPayloadWriter

end ASFireWire.AMDTP
