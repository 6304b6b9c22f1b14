import ASFireWire.AmdtpTxPacketizer

/-! The slots of the packet timeline (`Audio/Wire/AMDTP/AmdtpPacketTimeline.cpp`): one slot for each
position of the ring, rewritten between two increments of its generation, and the lookup of the
packet for an audio frame. The mark of the exposed frames is `AmdtpPacketTimeline`. -/
namespace ASFireWire.AMDTP

inductive PacketSlotState | empty | exposedForAudio | published | completed
  deriving DecidableEq, Repr

/-- `hasBytes` is that the slot points at the memory of its packet. -/
structure PacketTimelineSlot where
  packetIndex : ℕ := 0
  hasBytes : Bool := false
  packetCapacityBytes : ℕ := 0
  packetSizeBytes : ℕ := 0
  isData : Bool := false
  firstAudioFrame : ℕ := 0
  framesInPacket : ℕ := 0
  dbs : ℕ := 0
  generation : ℕ := 0
  state : PacketSlotState := .empty
  deriving DecidableEq, Repr

/-- The copy a lookup takes; `position` is the slot it was taken of. -/
structure PacketSlotSnapshot where
  position : ℕ
  generation : ℕ
  packetIndex : ℕ
  packetSizeBytes : ℕ
  firstAudioFrame : ℕ
  framesInPacket : ℕ
  dbs : ℕ
  deriving DecidableEq, Repr

namespace PacketTimelineSlot

/-- `BeginSlotWrite`, and `EndSlotWrite`, which counts the same. -/
def beginSlotWrite (slot : PacketTimelineSlot) : PacketTimelineSlot :=
  { slot with generation := (slot.generation + 1) % 2 ^ 32 }

def endSlotWrite (slot : PacketTimelineSlot) : PacketTimelineSlot :=
  { slot with generation := (slot.generation + 1) % 2 ^ 32 }

/-- The slot without a packet, in the state. -/
def clear (slot : PacketTimelineSlot) (packetIndex : ℕ) (state : PacketSlotState) :
    PacketTimelineSlot :=
  { slot.beginSlotWrite with
    packetIndex := packetIndex
    hasBytes := false
    packetCapacityBytes := 0
    packetSizeBytes := 0
    isData := false
    firstAudioFrame := 0
    framesInPacket := 0
    dbs := 0
    state := state : PacketTimelineSlot }.endSlotWrite

def expose (slot : PacketTimelineSlot) (packet : PreparedTxPacket) (packetCapacityBytes : ℕ) :
    PacketTimelineSlot :=
  { slot.beginSlotWrite with
    packetIndex := packet.packetIndex
    hasBytes := true
    packetCapacityBytes := packetCapacityBytes
    packetSizeBytes := packet.byteCount
    isData := true
    firstAudioFrame := packet.firstAudioFrame
    framesInPacket := packet.framesInPacket
    dbs := packet.dbs
    state := .exposedForAudio : PacketTimelineSlot }.endSlotWrite

/-- A slot a lookup may take: not being rewritten, and with an exposed packet that has the frame. -/
def carries (slot : PacketTimelineSlot) (absoluteFrame : ℕ) : Bool :=
  slot.generation % 2 = 0 && slot.state = .exposedForAudio && slot.isData &&
    slot.firstAudioFrame ≤ absoluteFrame &&
    absoluteFrame < slot.firstAudioFrame + slot.framesInPacket && slot.hasBytes && slot.dbs ≠ 0

def snapshot (slot : PacketTimelineSlot) (position : ℕ) : PacketSlotSnapshot where
  position := position
  generation := slot.generation
  packetIndex := slot.packetIndex
  packetSizeBytes := slot.packetSizeBytes
  firstAudioFrame := slot.firstAudioFrame
  framesInPacket := slot.framesInPacket
  dbs := slot.dbs

/-- Two increments bring the generation back to even. -/
lemma even_endSlotWrite {slot other : PacketTimelineSlot} (h : slot.generation % 2 = 0)
    (hother : other.generation = slot.beginSlotWrite.generation) :
    other.endSlotWrite.generation % 2 = 0 := by
  unfold beginSlotWrite at hother
  unfold endSlotWrite
  dsimp only at hother ⊢
  omega

end PacketTimelineSlot

/-- The slots of a timeline; none are attached where the list is empty. -/
abbrev TimelineSlots := List PacketTimelineSlot

namespace TimelineSlots

def reset (slots : TimelineSlots) : TimelineSlots := slots.map fun slot => slot.clear 0 .empty

def attachSlots (slots : TimelineSlots) : Option TimelineSlots :=
  if slots = [] then none else some (reset slots)

/-- The slot of a packet. -/
def slotOf (slots : TimelineSlots) (packetIndex : ℕ) : PacketTimelineSlot :=
  slots.getD (packetIndex % slots.length) {}

def exposeDataPacket (slots : TimelineSlots) (packet : PreparedTxPacket) (hasBytes : Bool)
    (packetCapacityBytes : ℕ) : Option TimelineSlots :=
  if slots = [] ∨ hasBytes = false then none
  else if packet.isData = false ∨ packet.framesInPacket = 0 then none
  else if packetCapacityBytes < packet.byteCount then none
  else some (slots.set (packet.packetIndex % slots.length)
    ((slots.slotOf packet.packetIndex).expose packet packetCapacityBytes))

def markNoDataPacket (slots : TimelineSlots) (packetIndex : ℕ) : TimelineSlots :=
  if slots = [] then slots
  else slots.set (packetIndex % slots.length)
    ((slots.slotOf packetIndex).clear packetIndex .completed)

/-- The loop of `SnapshotSlotForAudioFrame`, from a position on. -/
def snapshotFrom (absoluteFrame : ℕ) : ℕ → TimelineSlots → Option PacketSlotSnapshot
  | _, [] => none
  | position, slot :: slots =>
    if slot.carries absoluteFrame then some (slot.snapshot position)
    else snapshotFrom absoluteFrame (position + 1) slots

def snapshotSlotForAudioFrame (slots : TimelineSlots) (absoluteFrame : ℕ) :
    Option PacketSlotSnapshot := snapshotFrom absoluteFrame 0 slots

variable {slots : TimelineSlots} {absoluteFrame position : ℕ} {snap : PacketSlotSnapshot}

/-- A packet written over another in the same slot. -/
lemma markNoDataPacket_set (hattached : slots ≠ []) (packetIndex : ℕ) (slot : PacketTimelineSlot) :
    markNoDataPacket (slots.set (packetIndex % slots.length) slot) packetIndex =
      slots.set (packetIndex % slots.length) (slot.clear packetIndex .completed) := by
  have hlt : packetIndex % slots.length < slots.length :=
    Nat.mod_lt _ (List.length_pos_iff.mpr hattached)
  have hslot : slotOf (slots.set (packetIndex % slots.length) slot) packetIndex = slot := by
    unfold slotOf
    rw [List.length_set, List.getD_eq_getElem _ _ (by rwa [List.length_set]),
      List.getElem_set_self]
  unfold markNoDataPacket
  rw [if_neg (by simp [hattached]), List.length_set, hslot, List.set_set]

lemma snapshotFrom_some (h : snapshotFrom absoluteFrame position slots = some snap) :
    ∃ (i : ℕ) (slot : PacketTimelineSlot), slots[i]? = some slot ∧
      slot.carries absoluteFrame = true ∧
      snap = slot.snapshot (position + i) := by
  induction slots generalizing position with
  | nil => cases h
  | cons slot slots ih =>
    unfold snapshotFrom at h
    split_ifs at h with hcarries
    · exact ⟨0, slot, rfl, hcarries, (Option.some.inj h).symm⟩
    · obtain ⟨i, other, hother, hfound, hsnap⟩ := ih h
      exact ⟨i + 1, other, hother, hfound, by rw [hsnap]; congr 1; ring⟩

lemma snapshotFrom_none (h : snapshotFrom absoluteFrame position slots = none) :
    ∀ slot ∈ slots, slot.carries absoluteFrame = false := by
  induction slots generalizing position with
  | nil => simp
  | cons slot slots ih =>
    unfold snapshotFrom at h
    split_ifs at h with hcarries
    intro other hother
    rcases List.mem_cons.mp hother with rfl | hrest
    · simpa using hcarries
    · exact ih h other hrest

/-- A lookup takes the first slot, in the order of the ring, that carries the frame. -/
lemma snapshotSlotForAudioFrame_some
    (h : slots.snapshotSlotForAudioFrame absoluteFrame = some snap) :
    ∃ (i : ℕ) (slot : PacketTimelineSlot), slots[i]? = some slot ∧
      slot.carries absoluteFrame = true ∧ snap = slot.snapshot i := by
  obtain ⟨i, slot, hslot, hcarries, hsnap⟩ := snapshotFrom_some h
  exact ⟨i, slot, hslot, hcarries, by rw [hsnap, Nat.zero_add]⟩

lemma isSome_snapshotSlotForAudioFrame {slot : PacketTimelineSlot} (hslot : slot ∈ slots)
    (hcarries : slot.carries absoluteFrame = true) :
    (slots.snapshotSlotForAudioFrame absoluteFrame).isSome = true := by
  by_contra hnone
  rw [Option.not_isSome_iff_eq_none] at hnone
  rw [snapshotFrom_none hnone slot hslot] at hcarries
  cases hcarries

end TimelineSlots

end ASFireWire.AMDTP
