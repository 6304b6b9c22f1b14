import ASFireWire.MotuEventOffsetCache
import ASFireWire.RecordWrites

/-! The replay of MOTU presentation times (`Audio/Wire/MOTU/MotuSph.hpp`, `MotuTxTiming.hpp`): the
offsets captured from a received packet are stamped onto the blocks of a packet to be sent. -/
namespace ASFireWire.MOTU

open RecordWrites MotuEventOffsetCache

def sphFromTick (tick : ℕ) : ℕ :=
  let wrapped := tick % kTicksPerSecond
  (wrapped / kTicksPerCycle) <<< 12 ||| wrapped % kTicksPerCycle

def replaySph (cachedOffset baseTick : ℕ) : ℕ :=
  sphFromTick ((baseTick + cachedOffset) % 2 ^ 32 % kTicksPerSecond)

def sphBytes (sph : ℕ) : List UInt8 :=
  [UInt8.ofNat (sph / 2 ^ 24), UInt8.ofNat (sph / 2 ^ 16), UInt8.ofNat (sph / 2 ^ 8),
    UInt8.ofNat sph]

def writeSph (payload : List UInt8) (blockStart sph : ℕ) : List UInt8 :=
  writeAt payload blockStart (sphBytes sph)

def advanceCycleCount (cycleCount : ℕ) : ℕ := (cycleCount + 1) % 2 ^ 32 % kCyclesPerSecond

/-- How the blocks of a packet to be sent lie in its payload, and the cycle it is sent in. -/
structure SentPacket where
  dbs : UInt32
  dataBlocks : UInt32
  cycleCount : ℕ
  cipHeaderBytes : ℕ := 8
  deriving DecidableEq, Repr

def SentPacket.blockStart (p : SentPacket) (block : ℕ) : ℕ :=
  p.cipHeaderBytes + block * (p.dbs.toNat * 4)

structure SphStampResult where
  blocksStamped : ℕ := 0
  nextCycleCount : ℕ := 0
  deriving DecidableEq, Repr

/-- The loop over the blocks: the payload, and how many were stamped. -/
def stampBlocks (p : SentPacket) (offsets : List ℕ) : ℕ → ℕ → List UInt8 → List UInt8 × ℕ
  | 0, block, payload => (payload, block)
  | left + 1, block, payload =>
    match offsets[block]? with
    | none => (payload, block)
    | some offset =>
      if payload.length < p.blockStart block + 4 then (payload, block)
      else
        stampBlocks p offsets left (block + 1)
          (writeSph payload (p.blockStart block)
            (replaySph offset (baseTickForCycle p.cycleCount)))

def writePacketSph (payload : List UInt8) (p : SentPacket) (offsets : List ℕ) :
    List UInt8 × SphStampResult :=
  if p.dbs = 0 ∨ p.dataBlocks = 0 then
    (payload, { nextCycleCount := advanceCycleCount p.cycleCount })
  else
    let (stamped, blocksStamped) := stampBlocks p offsets p.dataBlocks.toNat 0 payload
    (stamped, ⟨blocksStamped, advanceCycleCount p.cycleCount⟩)

/-! ### Ticks -/

/-- A presentation time within the second. -/
def ValidSph (sph : ℕ) : Prop :=
  sph / 2 ^ 12 % 2 ^ 13 < kCyclesPerSecond ∧ sph % 2 ^ 12 < kTicksPerCycle

lemma tickFromSph_lt {sph : ℕ} (h : ValidSph sph) : tickFromSph sph < kTicksPerSecond := by
  unfold ValidSph kCyclesPerSecond at h
  unfold tickFromSph kTicksPerSecond
  unfold kTicksPerCycle at h ⊢
  omega

lemma sphFromTick_eq (tick : ℕ) :
    sphFromTick tick =
      tick % kTicksPerSecond / kTicksPerCycle * 2 ^ 12 + tick % kTicksPerSecond % kTicksPerCycle := by
  have hlow : tick % kTicksPerSecond % kTicksPerCycle < 2 ^ 12 :=
    (Nat.mod_lt _ (by decide)).trans (by decide)
  dsimp only [sphFromTick]
  rw [← Nat.shiftLeft_add_eq_or_of_lt hlow, Nat.shiftLeft_eq]

lemma sphFromTick_lt (tick : ℕ) : sphFromTick tick < 2 ^ 32 := by
  have hsecond : tick % kTicksPerSecond < kTicksPerSecond := Nat.mod_lt _ (by decide)
  rw [sphFromTick_eq]
  unfold kTicksPerSecond at hsecond ⊢
  unfold kTicksPerCycle
  omega

/-- Composing a header and reading its tick is reduction to the second. -/
lemma tickFromSph_sphFromTick (tick : ℕ) :
    tickFromSph (sphFromTick tick) = tick % kTicksPerSecond := by
  have hsecond : tick % kTicksPerSecond < kTicksPerSecond := Nat.mod_lt _ (by decide)
  rw [sphFromTick_eq]
  unfold tickFromSph
  unfold kTicksPerSecond at hsecond ⊢
  unfold kTicksPerCycle
  omega

/-- An offset is below a second, and takes the base back to the tick within a second. -/
lemma tickOffsetFromBase_spec {sph : ℕ} (h : ValidSph sph) (r : ℕ) :
    tickOffsetFromBase sph (baseTickForCycle r) < kTicksPerSecond ∧
      (baseTickForCycle r + tickOffsetFromBase sph (baseTickForCycle r) = tickFromSph sph ∨
        baseTickForCycle r + tickOffsetFromBase sph (baseTickForCycle r) =
          tickFromSph sph + kTicksPerSecond) := by
  have htick := tickFromSph_lt h
  unfold tickOffsetFromBase baseTickForCycle
  unfold kTicksPerSecond at htick ⊢
  unfold kTicksPerCycle kCyclesPerSecond
  split_ifs with hfold
  · omega
  · omega

lemma baseTickForCycle_modEq (t : ℕ) :
    (baseTickForCycle t : ℤ) ≡ t * kTicksPerCycle [ZMOD kTicksPerSecond] := by
  unfold baseTickForCycle kCyclesPerSecond kTicksPerCycle kTicksPerSecond
  rw [Int.ModEq]
  push_cast
  omega

/-- An offset folded on capture in cycle `r` and unfolded in cycle `t`: the tick is moved by the
cycles in between. -/
lemma tickFromSph_replaySph {sph : ℕ} (h : ValidSph sph) (r t : ℕ) :
    (tickFromSph (replaySph (tickOffsetFromBase sph (baseTickForCycle r)) (baseTickForCycle t)) : ℤ) =
      (tickFromSph sph + ((t : ℤ) - r) * kTicksPerCycle) % kTicksPerSecond := by
  obtain ⟨hlt, hback⟩ := tickOffsetFromBase_spec h r
  have hr := baseTickForCycle_modEq r
  have ht := baseTickForCycle_modEq t
  have hsmall : baseTickForCycle t < kTicksPerSecond := by
    unfold baseTickForCycle kCyclesPerSecond kTicksPerCycle kTicksPerSecond
    omega
  set offset := tickOffsetFromBase sph (baseTickForCycle r)
  have hword : baseTickForCycle t + offset < 2 ^ 32 := by
    unfold kTicksPerSecond at hlt hsmall
    omega
  have hoffset : (baseTickForCycle r + offset : ℤ) ≡ tickFromSph sph [ZMOD kTicksPerSecond] := by
    rcases hback with hsame | hover
    · rw [← Nat.cast_add, hsame]
    · rw [← Nat.cast_add, hover, Nat.cast_add]
      exact Int.add_modEq_right
  unfold replaySph
  rw [tickFromSph_sphFromTick, Nat.mod_eq_of_lt hword, Nat.mod_mod, Int.natCast_mod, Nat.cast_add]
  calc (baseTickForCycle t + offset : ℤ)
      = baseTickForCycle r + offset + (baseTickForCycle t - baseTickForCycle r) := by ring
    _ ≡ tickFromSph sph + (t * kTicksPerCycle - r * kTicksPerCycle) [ZMOD kTicksPerSecond] :=
        hoffset.add (ht.sub hr)
    _ = tickFromSph sph + ((t : ℤ) - r) * kTicksPerCycle := by ring

/-! ### Stamping -/

variable {s : SentPacket} {offsets : List ℕ} {payload : List UInt8}

lemma length_sphBytes (sph : ℕ) : (sphBytes sph).length = 4 := rfl

/-- Byte `j` is one of the four at the head of a block. -/
def SentPacket.inHead (s : SentPacket) (block j : ℕ) : Prop :=
  s.blockStart block ≤ j ∧ j < s.blockStart block + 4

/-- The record that stamps a block. -/
def SentPacket.stamp (s : SentPacket) (offsets : List ℕ) (block : ℕ) : ℕ × List UInt8 :=
  (s.blockStart block,
    sphBytes (replaySph (offsets.getD block 0) (baseTickForCycle s.cycleCount)))

lemma stampBlocks_eq_writeAll (s : SentPacket) (offsets : List ℕ) (left block : ℕ)
    (payload : List UInt8) :
    block ≤ (stampBlocks s offsets left block payload).2 ∧
      (stampBlocks s offsets left block payload).1 =
        writeAll payload ((List.range' block
          ((stampBlocks s offsets left block payload).2 - block)).map (s.stamp offsets)) := by
  induction left generalizing block payload with
  | zero => simp [stampBlocks, writeAll]
  | succ left ih =>
    rw [stampBlocks]
    cases hoffset : offsets[block]? with
    | none => simp [writeAll]
    | some offset =>
      dsimp only
      split_ifs with hshort
      · simp [writeAll]
      · obtain ⟨hle, hwrites⟩ := ih (block + 1)
          (writeSph payload (s.blockStart block)
            (replaySph offset (baseTickForCycle s.cycleCount)))
        set stamped := stampBlocks s offsets left (block + 1)
          (writeSph payload (s.blockStart block)
            (replaySph offset (baseTickForCycle s.cycleCount)))
        have hcount : stamped.2 - block = stamped.2 - (block + 1) + 1 := by omega
        have hstamp : s.stamp offsets block = (s.blockStart block,
            sphBytes (replaySph offset (baseTickForCycle s.cycleCount))) := by
          rw [SentPacket.stamp, List.getD_eq_getElem?_getD, hoffset, Option.getD_some]
        refine ⟨by omega, ?_⟩
        rw [hwrites, hcount, List.range'_succ, List.map_cons, writeAll, hstamp]
        rfl

/-- With offsets and room for all of them, all blocks are stamped. -/
lemma stampBlocks_all {left block : ℕ} (hoffsets : block + left ≤ offsets.length)
    (hroom : ∀ i, i < block + left → s.blockStart i + 4 ≤ payload.length) :
    (stampBlocks s offsets left block payload).2 = block + left := by
  induction left generalizing block payload with
  | zero => rfl
  | succ left ih =>
    have hsome : offsets[block]? = some offsets[block] :=
      List.getElem?_eq_getElem (by omega)
    have hfits := hroom block (by omega)
    rw [stampBlocks, hsome]
    dsimp only
    rw [if_neg (by omega), ih (by omega)]
    · omega
    · intro i hi
      rw [writeSph, length_writeAt]
      exact hroom i (by omega)

lemma blockStart_add_four (hdbs : s.dbs ≠ 0) {i k : ℕ} (hlt : i < k) :
    s.blockStart i + 4 ≤ s.blockStart k := by
  have hpos : 0 < s.dbs.toNat := by
    rw [Nat.pos_iff_ne_zero]
    exact fun hzero => hdbs (UInt32.toNat_inj.mp hzero)
  have hblocks : (i + 1) * (s.dbs.toNat * 4) ≤ k * (s.dbs.toNat * 4) :=
    Nat.mul_le_mul_right _ hlt
  unfold SentPacket.blockStart
  rw [Nat.add_one_mul] at hblocks
  omega

lemma stamps_apart (hdbs : s.dbs ≠ 0) (count : ℕ) :
    ((List.range' 0 count).map (s.stamp offsets)).Pairwise Apart := by
  rw [List.pairwise_map]
  apply List.Pairwise.imp _ List.pairwise_lt_range'
  intro i k hlt j hboth
  have hstart := blockStart_add_four hdbs hlt
  obtain ⟨hi, hk⟩ := hboth
  simp only [Covers, SentPacket.stamp, length_sphBytes] at hi hk
  omega

lemma readSph_of_bytes {start sph : ℕ} (hsph : sph < 2 ^ 32)
    (h : ∀ i < 4, payload[start + i]? = (sphBytes sph)[i]?) : readSph payload start = sph := by
  have h0 := h 0 (by omega)
  have h1 := h 1 (by omega)
  have h2 := h 2 (by omega)
  have h3 := h 3 (by omega)
  simp only [sphBytes, Nat.add_zero, List.getElem?_cons_zero, List.getElem?_cons_succ] at h0 h1 h2 h3
  simp only [readSph, sphByte, h0, h1, h2, h3, Option.getD_some, UInt8.toNat_ofNat']
  omega

/-- Bytes outside the heads of the stamped blocks are left as they were. -/
lemma writePacketSph_outside (payload : List UInt8) (s : SentPacket) (offsets : List ℕ) (j : ℕ)
    (h : ∀ block < (writePacketSph payload s offsets).2.blocksStamped, ¬ s.inHead block j) :
    (writePacketSph payload s offsets).1[j]? = payload[j]? := by
  unfold writePacketSph at h ⊢
  by_cases hnothing : s.dbs = 0 ∨ s.dataBlocks = 0
  · rw [if_pos hnothing]
  · rw [if_neg hnothing] at h ⊢
    dsimp only at h ⊢
    rw [(stampBlocks_eq_writeAll s offsets s.dataBlocks.toNat 0 payload).2]
    apply writeAll_outside
    intro write hmem
    obtain ⟨block, hblock, rfl⟩ := List.mem_map.mp hmem
    rw [List.mem_range'_1] at hblock
    exact h block (by omega)

lemma length_writePacketSph (payload : List UInt8) (s : SentPacket) (offsets : List ℕ) :
    (writePacketSph payload s offsets).1.length = payload.length := by
  unfold writePacketSph
  by_cases hnothing : s.dbs = 0 ∨ s.dataBlocks = 0
  · rw [if_pos hnothing]
  · rw [if_neg hnothing]
    dsimp only
    rw [(stampBlocks_eq_writeAll s offsets s.dataBlocks.toNat 0 payload).2, length_writeAll]

/-- A packet with room for its blocks and an offset for each carries the replayed headers. -/
lemma writePacketSph_head (hdbs : s.dbs ≠ 0) (hoffsets : s.dataBlocks.toNat ≤ offsets.length)
    (hroom : ∀ i < s.dataBlocks.toNat, s.blockStart i + 4 ≤ payload.length) {i : ℕ}
    (hi : i < s.dataBlocks.toNat) :
    readSph (writePacketSph payload s offsets).1 (s.blockStart i) =
      replaySph (offsets.getD i 0) (baseTickForCycle s.cycleCount) := by
  have hblocks : s.dataBlocks ≠ 0 := by
    intro hzero
    rw [hzero] at hi
    exact absurd hi (Nat.not_lt_zero i)
  have hall := @stampBlocks_all s offsets payload s.dataBlocks.toNat 0 (by omega)
    (by simpa using hroom)
  have hwrites := (stampBlocks_eq_writeAll s offsets s.dataBlocks.toNat 0 payload).2
  rw [hall, Nat.zero_add, Nat.sub_zero] at hwrites
  unfold writePacketSph
  rw [if_neg (not_or.mpr ⟨hdbs, hblocks⟩)]
  dsimp only
  apply readSph_of_bytes (sphFromTick_lt _)
  intro k hk
  rw [hwrites]
  exact writeAll_inside (s.stamp offsets i) (stamps_apart hdbs _)
    (List.mem_map_of_mem (List.mem_range'_1.mpr ⟨Nat.zero_le i, by omega⟩)) (hroom i hi) hk

/-! ### From the cache to the packet -/

variable {p : CapturedPacket}

/-- All blocks are there, with a presentation time within the second each. -/
def CapturedPacket.Valid (p : CapturedPacket) : Prop :=
  p.dbs ≠ 0 ∧ ∀ i < p.dataBlocks.toNat, p.blockStart i + 4 ≤ p.payload.length ∧
    ValidSph (readSph p.payload (p.blockStart i))

/-- After a packet with all its blocks a cell has the offset of the last block that belongs there. -/
lemma captureBlocks_cell (cursor left block : ℕ) (slots : ℕ → Slot)
    (hroom : ∀ i < block + left, p.blockStart i + 4 ≤ p.payload.length) :
    (captureBlocks p cursor left block slots).2 = block + left ∧
      ∀ cell, ((∀ i, block ≤ i → i < block + left → (cursor + i) % kCapacity ≠ cell) ∧
          (captureBlocks p cursor left block slots).1 cell = slots cell) ∨
        ∃ i, block ≤ i ∧ i < block + left ∧ (cursor + i) % kCapacity = cell ∧
          (∀ k, i < k → k < block + left → (cursor + k) % kCapacity ≠ cell) ∧
          (captureBlocks p cursor left block slots).1 cell =
            ⟨(cursor + i) % 2 ^ 32, p.offsetOf i⟩ := by
  induction left generalizing block slots with
  | zero =>
    refine ⟨rfl, fun cell => Or.inl ⟨fun i hle hlt => by omega, rfl⟩⟩
  | succ left ih =>
    have hfits := hroom block (by omega)
    rw [captureBlocks, if_neg (by omega)]
    obtain ⟨hcount, hcells⟩ := ih (block + 1)
      (Function.update slots ((cursor + block) % 2 ^ 32 % kCapacity)
        ⟨(cursor + block) % 2 ^ 32, p.offsetOf block⟩) fun i hi => hroom i (by omega)
    refine ⟨by omega, fun cell => ?_⟩
    rcases hcells cell with ⟨houtside, hkept⟩ | ⟨i, hle, hlt, hcell, hlast, hstored⟩
    · rw [word_mod_capacity] at hkept
      by_cases hhere : (cursor + block) % kCapacity = cell
      · refine Or.inr ⟨block, le_rfl, by omega, hhere, ?_, ?_⟩
        · intro k hk hklt
          exact houtside k hk (by omega)
        · rw [word_mod_capacity, hkept, ← hhere, Function.update_self]
      · refine Or.inl ⟨?_, ?_⟩
        · intro i hle hlt
          rcases Nat.eq_or_lt_of_le hle with heq | hafter
          · rw [← heq]
            exact hhere
          · exact houtside i hafter (by omega)
        · rw [word_mod_capacity, hkept, Function.update_of_ne (Ne.symm hhere)]
    · exact Or.inr ⟨i, by omega, by omega, hcell, fun k hk hklt => hlast k hk (by omega), hstored⟩

lemma readRun_getElem {slots : ℕ → Slot} {start requested : ℕ} {out : List ℕ}
    (h : readRun slots start requested = some out) :
    out.length = requested ∧ ∀ i < requested,
      (slots ((start + i) % kCapacity)).position = (start + i) % 2 ^ 32 ∧
        out.getD i 0 = (slots ((start + i) % kCapacity)).offset := by
  induction requested generalizing start out with
  | zero =>
    rw [readRun, Option.some_inj] at h
    subst h
    exact ⟨rfl, fun i hi => absurd hi (Nat.not_lt_zero i)⟩
  | succ requested ih =>
    rw [readRun, word_mod_capacity] at h
    split_ifs at h with hposition
    obtain ⟨rest, hrest, rfl⟩ := Option.map_eq_some_iff.mp h
    obtain ⟨hlength, hcells⟩ := ih hrest
    refine ⟨by rw [List.length_cons, hlength], fun i hi => ?_⟩
    cases i with
    | zero => exact ⟨not_not.mp hposition, rfl⟩
    | succ i =>
      rw [show start + (i + 1) = start + 1 + i by omega, List.getD_cons_succ]
      exact hcells i (by omega)

lemma exists_readRun {slots : ℕ → Slot} {start requested : ℕ}
    (h : ∀ i < requested,
      (slots ((start + i) % kCapacity)).position = (start + i) % 2 ^ 32) :
    ∃ out, readRun slots start requested = some out := by
  induction requested generalizing start with
  | zero => exact ⟨[], rfl⟩
  | succ requested ih =>
    have hfirst := h 0 (Nat.succ_pos requested)
    obtain ⟨out, hout⟩ := @ih (start + 1) fun i hi => by
      rw [show start + 1 + i = start + (i + 1) by omega]
      exact h (i + 1) (by omega)
    rw [Nat.add_zero] at hfirst
    rw [readRun, word_mod_capacity, hout, if_neg (not_not.mpr hfirst)]
    exact ⟨_, rfl⟩

lemma capture_slots (hdbs : p.dbs ≠ 0) (hblocks : p.dataBlocks ≠ 0) (c : MotuEventOffsetCache) :
    (c.capture p).slots =
      (captureBlocks p c.captureCursor p.dataBlocks.toNat 0 c.slots).1 := by
  unfold capture
  rw [if_neg (not_or.mpr ⟨hdbs, hblocks⟩)]
  dsimp only
  split_ifs <;> rfl

/-- What the cache returns for the blocks of a packet are the offsets of these blocks. -/
lemma readRun_capture (hvalid : p.Valid) (c : MotuEventOffsetCache) {out : List ℕ}
    (h : readRun (c.capture p).slots c.captureCursor p.dataBlocks.toNat = some out) :
    out.length = p.dataBlocks.toNat ∧ ∀ i < p.dataBlocks.toNat, out.getD i 0 = p.offsetOf i := by
  obtain ⟨hlength, hcells⟩ := readRun_getElem h
  refine ⟨hlength, fun i hi => ?_⟩
  have hblocks : p.dataBlocks ≠ 0 := by
    intro hzero
    rw [hzero] at hi
    exact absurd hi (Nat.not_lt_zero i)
  have hword := p.dataBlocks.toNat_lt
  obtain ⟨hposition, hoffset⟩ := hcells i hi
  rw [capture_slots hvalid.1 hblocks] at hposition hoffset
  obtain ⟨-, hcell⟩ := captureBlocks_cell c.captureCursor p.dataBlocks.toNat 0 c.slots
    fun k hk => (hvalid.2 k (by omega)).1
  rcases hcell ((c.captureCursor + i) % kCapacity) with ⟨houtside, -⟩ | ⟨k, -, hk, -, -, hstored⟩
  · exact absurd rfl (houtside i (Nat.zero_le i) (by omega))
  · rw [hstored] at hposition hoffset
    -- the position tells which block of the packet was stored last
    have hsame : k = i := by
      dsimp only at hposition
      omega
    rw [hoffset, hsame]

/-- The blocks of a packet that the ring has room for are all to be had from it. -/
lemma exists_readRun_capture (hvalid : p.Valid) (hring : p.dataBlocks.toNat ≤ kCapacity)
    (c : MotuEventOffsetCache) :
    ∃ out, readRun (c.capture p).slots c.captureCursor p.dataBlocks.toNat = some out := by
  rcases Nat.eq_zero_or_pos p.dataBlocks.toNat with hzero | hpos
  · rw [hzero]
    exact ⟨[], rfl⟩
  · have hblocks : p.dataBlocks ≠ 0 := by
      intro hzero
      rw [hzero] at hpos
      exact absurd hpos (Nat.not_lt_zero 0)
    rw [capture_slots hvalid.1 hblocks]
    obtain ⟨-, hcell⟩ := captureBlocks_cell c.captureCursor p.dataBlocks.toNat 0 c.slots
      fun k hk => (hvalid.2 k (by omega)).1
    apply exists_readRun
    intro i hi
    rcases hcell ((c.captureCursor + i) % kCapacity) with
      ⟨houtside, -⟩ | ⟨k, -, hk, hring', hlast, hstored⟩
    · exact absurd rfl (houtside i (Nat.zero_le i) (by omega))
    · have hsame : c.captureCursor + k = c.captureCursor + i :=
        RingWindows.eq_of_mod_eq (L := c.captureCursor) (m := kCapacity) (by omega) (by omega)
          (by omega) (by omega) hring'
      rw [hstored, hsame]

/-- Presentation times are replayed as a shift: whatever the cache held before, the offsets it
returns for the blocks of a received packet put each block's tick, moved by the cycles between
receiving and sending, at the head of the block sent. Of any packet stamped with any offsets only
the heads of the stamped blocks change. -/
theorem replay_exact :
    (∀ (c : MotuEventOffsetCache) (p : CapturedPacket) (s : SentPacket) (payload : List UInt8),
      p.Valid → s.dataBlocks = p.dataBlocks → s.dbs ≠ 0 →
      (∀ i < s.dataBlocks.toNat, s.blockStart i + 4 ≤ payload.length) →
      (p.dataBlocks.toNat ≤ kCapacity →
        ∃ out, readRun (c.capture p).slots c.captureCursor p.dataBlocks.toNat = some out) ∧
      ∀ out, readRun (c.capture p).slots c.captureCursor p.dataBlocks.toNat = some out →
        ∀ i < p.dataBlocks.toNat,
          (tickFromSph (readSph (writePacketSph payload s out).1 (s.blockStart i)) : ℤ) =
            (tickFromSph (readSph p.payload (p.blockStart i)) +
              ((s.cycleCount : ℤ) - p.receiveCycle) * kTicksPerCycle) % kTicksPerSecond) ∧
    ∀ (payload : List UInt8) (s : SentPacket) (offsets : List ℕ),
      (writePacketSph payload s offsets).1.length = payload.length ∧
        ∀ j, (∀ block < (writePacketSph payload s offsets).2.blocksStamped, ¬ s.inHead block j) →
          (writePacketSph payload s offsets).1[j]? = payload[j]? := by
  refine ⟨?_, fun payload s offsets => ⟨length_writePacketSph payload s offsets, fun j h =>
    writePacketSph_outside payload s offsets j h⟩⟩
  intro c p s payload hvalid hsame hdbs hroom
  refine ⟨fun hring => exists_readRun_capture hvalid hring c, fun out hout i hi => ?_⟩
  obtain ⟨hlength, hoffsets⟩ := readRun_capture hvalid c hout
  rw [writePacketSph_head hdbs (by rw [hsame, hlength]) hroom (by rwa [hsame]), hoffsets i hi]
  exact tickFromSph_replaySph (hvalid.2 i hi).2 p.receiveCycle s.cycleCount

/-- Two blocks received at the end of a second, in cycle 7998, for cycle 7999 and cycle 1. -/
def receivedOverSecond : CapturedPacket :=
  { payload := [0, 0, 0, 0, 0, 0, 0, 0, 0x01, 0xF3, 0xF0, 0x64, 0x00, 0x00, 0x1B, 0xB8], dbs := 1,
    dataBlocks := 2, receiveCycle := 7998 }

def sentOverSecond : SentPacket := { dbs := 2, dataBlocks := 2, cycleCount := 3 }

lemma receivedOverSecond_valid : receivedOverSecond.Valid := by
  refine ⟨by decide, fun i hi => ?_⟩
  have hi' : i < 2 := hi
  interval_cases i <;> exact ⟨by decide, by decide, by decide⟩

/-- Sent five cycles later, in cycle 3, the blocks are for cycle 4 and cycle 6. -/
theorem replay_exact_over_second :
    ∀ i < 2,
      (tickFromSph (readSph (writePacketSph (List.replicate 24 0xFF) sentOverSecond
        [3172, 12216]).1 (sentOverSecond.blockStart i)) : ℤ) =
        (tickFromSph (readSph receivedOverSecond.payload (receivedOverSecond.blockStart i)) +
          ((3 : ℤ) - 7998) * kTicksPerCycle) % kTicksPerSecond := by
  have hroom : ∀ i < 2, sentOverSecond.blockStart i + 4 ≤ 24 := by decide
  have hread : readRun (({} : MotuEventOffsetCache).capture receivedOverSecond).slots 0 2 =
      some [3172, 12216] := by decide
  exact (replay_exact.1 {} receivedOverSecond sentOverSecond (List.replicate 24 0xFF)
    receivedOverSecond_valid rfl (by decide) hroom).2 _ hread

end ASFireWire.MOTU
