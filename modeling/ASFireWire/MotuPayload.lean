import ASFireWire.MotuEventOffsetCache
import ASFireWire.RecordWrites

/-! The data blocks of the MOTU streams: their layout (`Audio/Wire/MOTU/MotuBlockLayout.hpp`), the
order of the ports (`MotuPortLayout.hpp`), and how a frame of samples is written
(`MotuPayloadWriter.cpp`) and read (`MotuPayloadReader.hpp`). Samples are signed 24-bit numbers,
before they are scaled from or to floats. -/
namespace ASFireWire.MOTU

open RecordWrites

/-! ### The layout of a block -/

def kMsgChunks : UInt32 := 2

def kPcmByteOffset : UInt32 := 10

def kBytesPerChunk : UInt32 := 3

def kMidiFlagByteOffset2ndQ : ℕ := 4

def kMidiByteOffset2ndQ : ℕ := 6

def kMidiFlagPresent : UInt8 := 1

def dataBlockQuadlets (pcmChunks : UInt32) : UInt32 :=
  let chunkBytes := (kMsgChunks + pcmChunks) * kBytesPerChunk
  1 + (chunkBytes + 3) / 4

/-! ### The order of the ports -/

structure MotuPort where
  chunk : UInt8
  deriving DecidableEq, Repr

abbrev MotuPortMap := List MotuPort

/-- A table wider than the stream is not used. -/
def effectivePortMap (ports : MotuPortMap) (pcmChunks : UInt32) : MotuPortMap :=
  if ports.length ≤ pcmChunks.toNat then ports else []

def chunkForHostChannel (ports : MotuPortMap) (hostChannel : UInt32) : UInt32 :=
  match ports[hostChannel.toNat]? with
  | some port => port.chunk.toUInt32
  | none => hostChannel

def isChunkPermutation (ports : MotuPortMap) : Bool :=
  (List.range ports.length).all fun chunk => ports.countP (·.chunk.toNat == chunk) = 1

def kV2Playback : MotuPortMap :=
  [⟨10⟩, ⟨11⟩, ⟨2⟩, ⟨3⟩, ⟨4⟩, ⟨5⟩, ⟨6⟩, ⟨7⟩, ⟨8⟩, ⟨9⟩, ⟨12⟩, ⟨13⟩, ⟨0⟩, ⟨1⟩]

def kUltraLiteCapture : MotuPortMap :=
  [⟨2⟩, ⟨3⟩, ⟨4⟩, ⟨5⟩, ⟨6⟩, ⟨7⟩, ⟨8⟩, ⟨9⟩, ⟨10⟩, ⟨11⟩, ⟨0⟩, ⟨1⟩, ⟨12⟩, ⟨13⟩]

def k828mk2Capture : MotuPortMap :=
  [⟨2⟩, ⟨3⟩, ⟨4⟩, ⟨5⟩, ⟨6⟩, ⟨7⟩, ⟨8⟩, ⟨9⟩, ⟨10⟩, ⟨11⟩, ⟨12⟩, ⟨13⟩, ⟨0⟩, ⟨1⟩]

/-! ### Samples -/

/-- A signed 24-bit sample in the high bits of a 32-bit word. -/
def signed24ToMotuSample (sample : ℤ) : ℕ := (sample % 2 ^ 32).toNat * 2 ^ 8 % 2 ^ 32

def pcmBytes (v : ℕ) : List UInt8 :=
  [UInt8.ofNat (v / 2 ^ 24), UInt8.ofNat (v / 2 ^ 16), UInt8.ofNat (v / 2 ^ 8)]

def readPcmSample (bytes : List UInt8) (i : ℕ) : ℤ :=
  MotuEventOffsetCache.toInt32
    (sphByte bytes i * 2 ^ 24 + sphByte bytes (i + 1) * 2 ^ 16 + sphByte bytes (i + 2) * 2 ^ 8)

def readPcmChannel (block : List UInt8) (channel : UInt32) : ℤ :=
  readPcmSample block (kPcmByteOffset + channel * kBytesPerChunk).toNat

/-! ### Writing -/

structure MotuPayloadStreamConfig where
  pcmChunks : UInt32
  sourceChannelOffset : UInt32 := 0
  ports : MotuPortMap := []
  deriving DecidableEq, Repr

/-- Channels the host does not drive are silent. -/
def MotuPayloadStreamConfig.sampleFor (config : MotuPayloadStreamConfig) (source : List ℤ)
    (hostCh : UInt32) : ℤ :=
  source.getD (config.sourceChannelOffset + hostCh).toNat 0

/-- The loop over the host channels. -/
def writeChannels (config : MotuPayloadStreamConfig) (ports : MotuPortMap) (source : List ℤ)
    (block : ℕ) : ℕ → UInt32 → List UInt8 → List UInt8
  | 0, _, packetBytes => packetBytes
  | left + 1, hostCh, packetBytes =>
    let chunk := chunkForHostChannel ports hostCh
    writeChannels config ports source block left (hostCh + 1)
      (writeAt packetBytes (block + kPcmByteOffset.toNat + (chunk * kBytesPerChunk).toNat)
        (pcmBytes (signed24ToMotuSample (config.sampleFor source hostCh))))

def kCipHeaderBytes : ℕ := 8

/-- The block of a frame in its packet. -/
def blockStart (dbs frameInPacket : UInt32) : ℕ :=
  kCipHeaderBytes + (frameInPacket * (dbs * 4)).toNat

/-- One frame of `WriteFloat32Interleaved`; a frame that its block has no room for is dropped. -/
def writeFrame (config : MotuPayloadStreamConfig) (source : List ℤ) (dbs frameInPacket : UInt32)
    (packetBytes : List UInt8) : List UInt8 :=
  if dbs * 4 < kPcmByteOffset + config.pcmChunks * kBytesPerChunk then packetBytes
  else
    writeChannels config (effectivePortMap config.ports config.pcmChunks) source
      (blockStart dbs frameInPacket) config.pcmChunks.toNat 0 packetBytes

def writeMidi2ndQ (packetBytes : List UInt8) (block : ℕ) (midiByte : Option UInt8) : List UInt8 :=
  match midiByte with
  | some byte =>
    (packetBytes.set (block + kMidiFlagByteOffset2ndQ) kMidiFlagPresent).set
      (block + kMidiByteOffset2ndQ) byte
  | none =>
    (packetBytes.set (block + kMidiFlagByteOffset2ndQ) 0).set (block + kMidiByteOffset2ndQ) 0

/-! ### Reading -/

/-- A channel of `DecodeMotuBlock`; a chunk the block does not have is silent. -/
def decodeChannel (block : List UInt8) (pcmChunks : UInt32) (ports : MotuPortMap)
    (hostCh : UInt32) : ℤ :=
  let chunk := chunkForHostChannel ports hostCh
  let chunkEnd := kPcmByteOffset.toNat + ((chunk + 1) * kBytesPerChunk).toNat
  if pcmChunks ≤ chunk ∨ block.length < chunkEnd then 0
  else readPcmChannel block chunk / 2 ^ 8

def decodeMotuBlock (block : List UInt8) (pcmChunks channelOffset outChannels : UInt32)
    (ports : MotuPortMap) : List ℤ :=
  (List.range outChannels.toNat).map fun ch =>
    decodeChannel block pcmChunks (effectivePortMap ports pcmChunks)
      (channelOffset + UInt32.ofNat ch)

def blockAt (payload : List UInt8) (dbs index : UInt32) (cipHeaderBytes : ℕ) : List UInt8 :=
  let blockBytes := dbs.toNat * 4
  let start := cipHeaderBytes + index.toNat * blockBytes
  if dbs = 0 ∨ payload.length < start + blockBytes then []
  else (payload.drop start).take blockBytes

def readMidi2ndQ (block : List UInt8) : Option UInt8 :=
  if (block[kMidiFlagByteOffset2ndQ]?.getD 0) &&& kMidiFlagPresent = 0 then none
  else some (block[kMidiByteOffset2ndQ]?.getD 0)

/-! ### Every chunk has one host channel -/

variable {ports : MotuPortMap} {pcmChunks : UInt32}

lemma chunks_perm (h : isChunkPermutation ports = true) :
    (List.range ports.length).Perm (ports.map (·.chunk.toNat)) := by
  have hits : ∀ chunk ∈ List.range ports.length,
      0 < (ports.map (·.chunk.toNat)).count chunk := by
    intro chunk hmem
    have hone := List.all_eq_true.mp h chunk hmem
    rw [decide_eq_true_eq] at hone
    rw [List.count_eq_countP, List.countP_map]
    show 0 < ports.countP (·.chunk.toNat == chunk)
    omega
  have hsub : List.range ports.length ⊆ ports.map (·.chunk.toNat) := by
    intro chunk hmem
    exact List.count_pos_iff.mp (hits chunk hmem)
  apply (List.nodup_range.subperm hsub).perm_of_length_le
  rw [List.length_map, List.length_range]

lemma isChunkPermutation_effective (h : isChunkPermutation ports = true) (pcmChunks : UInt32) :
    isChunkPermutation (effectivePortMap ports pcmChunks) = true := by
  unfold effectivePortMap
  split_ifs
  · exact h
  · rfl

lemma length_effectivePortMap (ports : MotuPortMap) (pcmChunks : UInt32) :
    (effectivePortMap ports pcmChunks).length ≤ pcmChunks.toNat := by
  unfold effectivePortMap
  split_ifs with hnarrow
  · exact hnarrow
  · exact Nat.zero_le _

variable {hostCh other : UInt32}

/-- A channel in the table has a chunk of the table, the others their own. -/
lemma chunkForHostChannel_cases (h : isChunkPermutation ports = true) (hostCh : UInt32) :
    (∃ hlt : hostCh.toNat < (ports.map (·.chunk.toNat)).length,
        (chunkForHostChannel ports hostCh).toNat = (ports.map (·.chunk.toNat))[hostCh.toNat] ∧
          (chunkForHostChannel ports hostCh).toNat < ports.length) ∨
      ports.length ≤ hostCh.toNat ∧ chunkForHostChannel ports hostCh = hostCh := by
  unfold chunkForHostChannel
  rcases Nat.lt_or_ge hostCh.toNat ports.length with hlt | hge
  · rw [List.getElem?_eq_getElem hlt]
    have hin : hostCh.toNat < (ports.map (·.chunk.toNat)).length := by rwa [List.length_map]
    have hmem := (chunks_perm h).mem_iff.mpr (List.getElem_mem hin)
    simp only [List.getElem_map, List.mem_range] at hmem
    exact Or.inl ⟨hin, by simp, by simpa using hmem⟩
  · rw [List.getElem?_eq_none hge]
    exact Or.inr ⟨hge, rfl⟩

lemma chunkForHostChannel_lt (h : isChunkPermutation ports = true)
    (hwide : ports.length ≤ pcmChunks.toNat) (hlt : hostCh.toNat < pcmChunks.toNat) :
    (chunkForHostChannel ports hostCh).toNat < pcmChunks.toNat := by
  rcases chunkForHostChannel_cases h hostCh with ⟨-, -, hchunk⟩ | ⟨-, hself⟩
  · omega
  · rwa [hself]

lemma chunkForHostChannel_injective (h : isChunkPermutation ports = true)
    (hsame : (chunkForHostChannel ports hostCh).toNat = (chunkForHostChannel ports other).toNat) :
    hostCh.toNat = other.toNat := by
  have hnodup := (chunks_perm h).nodup_iff.mp List.nodup_range
  rcases chunkForHostChannel_cases h hostCh with ⟨hin, hchunk, hlt⟩ | ⟨hbehind, hself⟩
  · rcases chunkForHostChannel_cases h other with ⟨hin', hchunk', -⟩ | ⟨hbehind', hself'⟩
    · rw [hchunk, hchunk'] at hsame
      exact (hnodup.getElem_inj_iff).mp hsame
    · rw [hself'] at hsame
      omega
  · rcases chunkForHostChannel_cases h other with ⟨-, -, hlt'⟩ | ⟨-, hself'⟩
    · rw [hself] at hsame
      omega
    · rwa [hself, hself'] at hsame

/-! ### Samples in their bytes -/

lemma length_pcmBytes (v : ℕ) : (pcmBytes v).length = 3 := rfl

def IsSigned24 (sample : ℤ) : Prop := -2 ^ 23 ≤ sample ∧ sample < 2 ^ 23

/-- Three bytes carry a signed 24-bit sample. -/
lemma readPcmSample_of_bytes {bytes : List UInt8} {start : ℕ} {sample : ℤ}
    (hsample : IsSigned24 sample)
    (h : ∀ i < 3, bytes[start + i]? = (pcmBytes (signed24ToMotuSample sample))[i]?) :
    readPcmSample bytes start / 2 ^ 8 = sample := by
  have h0 := h 0 (by omega)
  have h1 := h 1 (by omega)
  have h2 := h 2 (by omega)
  obtain ⟨hlow, hhigh⟩ := hsample
  have hword : signed24ToMotuSample sample =
      if 0 ≤ sample then (sample * 2 ^ 8).toNat else (sample * 2 ^ 8 + 2 ^ 32).toNat := by
    unfold signed24ToMotuSample
    split_ifs with hsign
    · omega
    · omega
  have hbytes : signed24ToMotuSample sample / 2 ^ 24 % 2 ^ 8 * 2 ^ 24 +
      signed24ToMotuSample sample / 2 ^ 16 % 2 ^ 8 * 2 ^ 16 +
      signed24ToMotuSample sample / 2 ^ 8 % 2 ^ 8 * 2 ^ 8 = signed24ToMotuSample sample := by
    rw [hword]
    split_ifs with hsign
    · omega
    · omega
  simp only [pcmBytes, Nat.add_zero, List.getElem?_cons_zero, List.getElem?_cons_succ] at h0 h1 h2
  simp only [readPcmSample, sphByte, h0, h1, h2, Option.getD_some, UInt8.toNat_ofNat']
  rw [hbytes, hword]
  unfold MotuEventOffsetCache.toInt32
  by_cases hsign : 0 ≤ sample
  · rw [if_pos hsign, if_pos (by omega)]
    omega
  · rw [if_neg hsign, if_neg (by omega)]
    omega

/-! ### The frame in its block -/

variable {config : MotuPayloadStreamConfig} {source : List ℤ} {packetBytes : List UInt8}
  {dbs frameInPacket : UInt32}

/-- The record that a host channel writes. -/
def channelRecord (config : MotuPayloadStreamConfig) (ports : MotuPortMap) (source : List ℤ)
    (block : ℕ) (hostCh : UInt32) : ℕ × List UInt8 :=
  (block + kPcmByteOffset.toNat + (chunkForHostChannel ports hostCh * kBytesPerChunk).toNat,
    pcmBytes (signed24ToMotuSample (config.sampleFor source hostCh)))

lemma writeChannels_eq_writeAll (config : MotuPayloadStreamConfig) (ports : MotuPortMap)
    (source : List ℤ) (block left : ℕ) (hostCh : UInt32) (packetBytes : List UInt8) :
    writeChannels config ports source block left hostCh packetBytes =
      writeAll packetBytes ((List.range left).map fun i =>
        channelRecord config ports source block (hostCh + UInt32.ofNat i)) := by
  induction left generalizing hostCh packetBytes with
  | zero => rfl
  | succ left ih =>
    have hnext : ∀ i, hostCh + UInt32.ofNat (i + 1) = hostCh + 1 + UInt32.ofNat i := by
      intro i
      rw [UInt32.ofNat_add, add_comm (UInt32.ofNat i), ← add_assoc]
      rfl
    have hfirst : hostCh + UInt32.ofNat 0 = hostCh := add_zero hostCh
    rw [writeChannels, ih, List.range_succ_eq_map, List.map_cons, List.map_map, writeAll, hfirst]
    simp only [Function.comp_def, Nat.succ_eq_add_one, hnext]
    rfl

/-- The block is counted in 32 bits; a count of chunks is one byte in every stream. -/
def BlockFits (pcmChunks : UInt32) : Prop := 4 * (1 + (3 * (pcmChunks.toNat + 2) + 3) / 4) < 2 ^ 32

lemma toNat_dataBlockQuadlets (hfits : BlockFits pcmChunks) :
    (dataBlockQuadlets pcmChunks).toNat = 1 + (3 * (pcmChunks.toNat + 2) + 3) / 4 := by
  unfold BlockFits at hfits
  unfold dataBlockQuadlets kMsgChunks kBytesPerChunk
  simp only [UInt32.toNat_add, UInt32.toNat_mul, UInt32.toNat_div, UInt32.reduceToNat]
  have hchunkBytes : 3 * (pcmChunks.toNat + 2) + 3 < 2 ^ 32 := by omega
  rw [Nat.mod_eq_of_lt (by omega : 2 + pcmChunks.toNat < 2 ^ 32),
    Nat.mod_eq_of_lt (by omega : (2 + pcmChunks.toNat) * 3 < 2 ^ 32),
    Nat.mod_eq_of_lt (by omega : (2 + pcmChunks.toNat) * 3 + 3 < 2 ^ 32),
    show (2 + pcmChunks.toNat) * 3 + 3 = 3 * (pcmChunks.toNat + 2) + 3 by omega,
    Nat.mod_eq_of_lt (by omega)]

/-- The packet has the block of the frame, and its bytes are counted in 32 bits. -/
structure Carries (packetBytes : List UInt8) (pcmChunks frameInPacket : UInt32) : Prop where
  fits : BlockFits pcmChunks
  inside : kCipHeaderBytes +
    (frameInPacket.toNat + 1) * ((dataBlockQuadlets pcmChunks).toNat * 4) ≤ packetBytes.length
  word : packetBytes.length < 2 ^ 32

lemma Carries.blockStart_eq (h : Carries packetBytes pcmChunks frameInPacket) :
    blockStart (dataBlockQuadlets pcmChunks) frameInPacket =
      kCipHeaderBytes + frameInPacket.toNat * ((dataBlockQuadlets pcmChunks).toNat * 4) := by
  have hinside := h.inside
  have hword := h.word
  rw [Nat.add_one_mul] at hinside
  unfold blockStart
  simp only [UInt32.toNat_mul, UInt32.reduceToNat]
  rw [Nat.mod_eq_of_lt (by omega : (dataBlockQuadlets pcmChunks).toNat * 4 < 2 ^ 32),
    Nat.mod_eq_of_lt (by omega)]

/-- The header, the messages and the chunks have room in the block. -/
lemma chunks_fit (hfits : BlockFits pcmChunks) :
    10 + 3 * pcmChunks.toNat ≤ (dataBlockQuadlets pcmChunks).toNat * 4 := by
  rw [toNat_dataBlockQuadlets hfits]
  omega

lemma channelRecord_start (hfits : BlockFits config.pcmChunks) {block : ℕ}
    (hchunk : (chunkForHostChannel ports hostCh).toNat < config.pcmChunks.toNat) :
    (channelRecord config ports source block hostCh).1 =
      block + 10 + 3 * (chunkForHostChannel ports hostCh).toNat := by
  unfold BlockFits at hfits
  unfold channelRecord kBytesPerChunk
  simp only [UInt32.toNat_mul, UInt32.reduceToNat]
  rw [Nat.mod_eq_of_lt (by omega)]
  unfold kPcmByteOffset
  simp only [UInt32.reduceToNat]
  omega

/-- The records of a frame, one for each host channel. -/
def frameRecords (config : MotuPayloadStreamConfig) (source : List ℤ) (frameInPacket : UInt32) :
    List (ℕ × List UInt8) :=
  (List.range config.pcmChunks.toNat).map fun i =>
    channelRecord config (effectivePortMap config.ports config.pcmChunks) source
      (blockStart (dataBlockQuadlets config.pcmChunks) frameInPacket) (UInt32.ofNat i)

lemma writeFrame_eq_writeAll (source : List ℤ)
    (h : Carries packetBytes config.pcmChunks frameInPacket) :
    writeFrame config source (dataBlockQuadlets config.pcmChunks) frameInPacket packetBytes =
      writeAll packetBytes (frameRecords config source frameInPacket) := by
  have hfits := h.fits
  have hquadlets := toNat_dataBlockQuadlets hfits
  have hchunks := chunks_fit hfits
  unfold BlockFits at hfits
  have hroom : ¬ dataBlockQuadlets config.pcmChunks * 4 <
      kPcmByteOffset + config.pcmChunks * kBytesPerChunk := by
    rw [UInt32.lt_iff_toNat_lt, kPcmByteOffset, kBytesPerChunk]
    simp only [UInt32.toNat_add, UInt32.toNat_mul, UInt32.reduceToNat]
    rw [Nat.mod_eq_of_lt (by omega : (dataBlockQuadlets config.pcmChunks).toNat * 4 < 2 ^ 32),
      Nat.mod_eq_of_lt (by omega : config.pcmChunks.toNat * 3 < 2 ^ 32),
      Nat.mod_eq_of_lt (by omega)]
    omega
  rw [writeFrame, if_neg hroom, writeChannels_eq_writeAll]
  simp only [zero_add]
  rfl

lemma toNat_ofNat_channel {i : ℕ} (hi : i < pcmChunks.toNat) : (UInt32.ofNat i).toNat = i := by
  have hword := pcmChunks.toNat_lt
  rw [UInt32.toNat_ofNat', Nat.mod_eq_of_lt (by omega)]

section Permutation

variable (hperm : isChunkPermutation config.ports = true)
include hperm

lemma chunk_lt {i : ℕ} (hi : i < config.pcmChunks.toNat) :
    (chunkForHostChannel (effectivePortMap config.ports config.pcmChunks)
      (UInt32.ofNat i)).toNat < config.pcmChunks.toNat :=
  chunkForHostChannel_lt (isChunkPermutation_effective hperm _) (length_effectivePortMap _ _)
    (by rwa [toNat_ofNat_channel hi])

/-- All records of a frame lie between the messages and the padding of its block. -/
lemma frameRecords_inside (hfits : BlockFits config.pcmChunks) {write : ℕ × List UInt8}
    (hmem : write ∈ frameRecords config source frameInPacket) :
    blockStart (dataBlockQuadlets config.pcmChunks) frameInPacket + 10 ≤ write.1 ∧
      write.1 + write.2.length ≤ blockStart (dataBlockQuadlets config.pcmChunks) frameInPacket +
        (10 + 3 * config.pcmChunks.toNat) := by
  obtain ⟨i, hi, rfl⟩ := List.mem_map.mp hmem
  have hchunk := chunk_lt hperm (List.mem_range.mp hi)
  rw [channelRecord_start hfits hchunk]
  simp only [channelRecord, length_pcmBytes]
  omega

lemma frameRecords_apart (hfits : BlockFits config.pcmChunks) :
    (frameRecords config source frameInPacket).Pairwise Apart := by
  rw [frameRecords, List.pairwise_map]
  apply List.Pairwise.imp_of_mem _ List.nodup_range
  intro i k hi hk hne j hboth
  rw [List.mem_range] at hi hk
  have hchunks : (chunkForHostChannel (effectivePortMap config.ports config.pcmChunks)
      (UInt32.ofNat i)).toNat ≠
        (chunkForHostChannel (effectivePortMap config.ports config.pcmChunks)
          (UInt32.ofNat k)).toNat := by
    intro hsame
    have hchannels := chunkForHostChannel_injective (isChunkPermutation_effective hperm _) hsame
    rw [toNat_ofNat_channel hi, toNat_ofNat_channel hk] at hchannels
    exact hne hchannels
  obtain ⟨hcover, hcover'⟩ := hboth
  rw [Covers, channelRecord_start hfits (chunk_lt hperm hi)] at hcover
  rw [Covers, channelRecord_start hfits (chunk_lt hperm hk)] at hcover'
  simp only [channelRecord, length_pcmBytes] at hcover hcover'
  omega

lemma writeFrame_outside (source : List ℤ)
    (h : Carries packetBytes config.pcmChunks frameInPacket) {j : ℕ}
    (hj : j < blockStart (dataBlockQuadlets config.pcmChunks) frameInPacket + 10 ∨
      blockStart (dataBlockQuadlets config.pcmChunks) frameInPacket +
        (10 + 3 * config.pcmChunks.toNat) ≤ j) :
    (writeFrame config source (dataBlockQuadlets config.pcmChunks) frameInPacket packetBytes)[j]? =
      packetBytes[j]? := by
  rw [writeFrame_eq_writeAll source h]
  apply writeAll_outside
  intro write hmem hcover
  have hinside := frameRecords_inside hperm h.fits hmem
  unfold Covers at hcover
  omega

lemma writeFrame_channel (source : List ℤ)
    (h : Carries packetBytes config.pcmChunks frameInPacket) {i : ℕ}
    (hi : i < config.pcmChunks.toNat) {k : ℕ} (hk : k < 3) :
    (writeFrame config source (dataBlockQuadlets config.pcmChunks) frameInPacket packetBytes)[
        blockStart (dataBlockQuadlets config.pcmChunks) frameInPacket + 10 +
          3 * (chunkForHostChannel (effectivePortMap config.ports config.pcmChunks)
            (UInt32.ofNat i)).toNat + k]? =
      (pcmBytes (signed24ToMotuSample (config.sampleFor source (UInt32.ofNat i))))[k]? := by
  have hinside := h.inside
  have hstart := h.blockStart_eq
  have hchunks := chunks_fit h.fits
  have hchunk := chunk_lt hperm hi
  rw [Nat.add_one_mul] at hinside
  rw [writeFrame_eq_writeAll source h, ← channelRecord_start h.fits hchunk]
  apply writeAll_inside _ (frameRecords_apart hperm h.fits)
  · exact List.mem_map_of_mem (List.mem_range.mpr hi)
  · rw [channelRecord_start h.fits hchunk]
    simp only [channelRecord, length_pcmBytes]
    omega
  · exact hk

end Permutation

lemma length_writeFrame (source : List ℤ)
    (h : Carries packetBytes config.pcmChunks frameInPacket) :
    (writeFrame config source (dataBlockQuadlets config.pcmChunks) frameInPacket
      packetBytes).length = packetBytes.length := by
  rw [writeFrame_eq_writeAll source h, length_writeAll]

/-! ### The block read back -/

lemma Carries.of_length {other : List UInt8} (h : Carries packetBytes pcmChunks frameInPacket)
    (hlength : other.length = packetBytes.length) : Carries other pcmChunks frameInPacket where
  fits := h.fits
  inside := hlength ▸ h.inside
  word := hlength ▸ h.word

lemma Carries.blockAt_eq (h : Carries packetBytes pcmChunks frameInPacket) :
    blockAt packetBytes (dataBlockQuadlets pcmChunks) frameInPacket kCipHeaderBytes =
      (packetBytes.drop (blockStart (dataBlockQuadlets pcmChunks) frameInPacket)).take
        ((dataBlockQuadlets pcmChunks).toNat * 4) := by
  have hinside := h.inside
  have hquadlets := toNat_dataBlockQuadlets h.fits
  have hdbs : dataBlockQuadlets pcmChunks ≠ 0 := by
    intro hzero
    rw [hzero, UInt32.toNat_zero] at hquadlets
    omega
  rw [Nat.add_one_mul] at hinside
  unfold blockAt
  dsimp only
  rw [if_neg, h.blockStart_eq]
  rw [not_or]
  exact ⟨hdbs, by omega⟩

lemma Carries.blockAt_length (h : Carries packetBytes pcmChunks frameInPacket) :
    (blockAt packetBytes (dataBlockQuadlets pcmChunks) frameInPacket kCipHeaderBytes).length =
      (dataBlockQuadlets pcmChunks).toNat * 4 := by
  have hinside := h.inside
  rw [Nat.add_one_mul] at hinside
  rw [h.blockAt_eq, List.length_take, List.length_drop, h.blockStart_eq]
  omega

lemma Carries.blockAt_getElem? (h : Carries packetBytes pcmChunks frameInPacket) {k : ℕ}
    (hk : k < (dataBlockQuadlets pcmChunks).toNat * 4) :
    (blockAt packetBytes (dataBlockQuadlets pcmChunks) frameInPacket kCipHeaderBytes)[k]? =
      packetBytes[blockStart (dataBlockQuadlets pcmChunks) frameInPacket + k]? := by
  rw [h.blockAt_eq, List.getElem?_take_of_lt hk, List.getElem?_drop]

/-- A host channel reads back the sample written for it. -/
lemma decodeChannel_writeFrame (hperm : isChunkPermutation config.ports = true)
    (hsource : ∀ sample ∈ source, IsSigned24 sample)
    (h : Carries packetBytes config.pcmChunks frameInPacket) {i : ℕ}
    (hi : i < config.pcmChunks.toNat) :
    decodeChannel
      (blockAt (writeFrame config source (dataBlockQuadlets config.pcmChunks) frameInPacket
        packetBytes) (dataBlockQuadlets config.pcmChunks) frameInPacket kCipHeaderBytes)
      config.pcmChunks (effectivePortMap config.ports config.pcmChunks) (UInt32.ofNat i) =
    config.sampleFor source (UInt32.ofNat i) := by
  have hwritten := h.of_length (length_writeFrame source h)
  have hchunks := chunks_fit h.fits
  have hfits := h.fits
  have hchunk := chunk_lt hperm hi
  unfold BlockFits at hfits
  set chunk := chunkForHostChannel (effectivePortMap config.ports config.pcmChunks)
    (UInt32.ofNat i) with hchunkdef
  have hsample : IsSigned24 (config.sampleFor source (UInt32.ofNat i)) := by
    unfold MotuPayloadStreamConfig.sampleFor
    rw [List.getD_eq_getElem?_getD]
    cases hget : source[(config.sourceChannelOffset + UInt32.ofNat i).toNat]? with
    | none => exact ⟨by decide, by decide⟩
    | some sample => exact hsource sample (List.mem_of_getElem? hget)
  have hend : ((chunk + 1) * kBytesPerChunk).toNat = 3 * (chunk.toNat + 1) := by
    unfold kBytesPerChunk
    simp only [UInt32.toNat_add, UInt32.toNat_mul, UInt32.reduceToNat]
    rw [Nat.mod_eq_of_lt (by omega : chunk.toNat + 1 < 2 ^ 32), Nat.mod_eq_of_lt (by omega)]
    omega
  have hoffset : (kPcmByteOffset + chunk * kBytesPerChunk).toNat = 10 + 3 * chunk.toNat := by
    unfold kBytesPerChunk kPcmByteOffset
    simp only [UInt32.toNat_add, UInt32.toNat_mul, UInt32.reduceToNat]
    rw [Nat.mod_eq_of_lt (by omega : chunk.toNat * 3 < 2 ^ 32), Nat.mod_eq_of_lt (by omega)]
    omega
  have hthere : ¬ (config.pcmChunks ≤ chunk ∨
      (blockAt (writeFrame config source (dataBlockQuadlets config.pcmChunks) frameInPacket
        packetBytes) (dataBlockQuadlets config.pcmChunks) frameInPacket kCipHeaderBytes).length <
        kPcmByteOffset.toNat + ((chunk + 1) * kBytesPerChunk).toNat) := by
    rw [hwritten.blockAt_length, hend, not_or, UInt32.le_iff_toNat_le]
    unfold kPcmByteOffset
    simp only [UInt32.reduceToNat]
    omega
  unfold decodeChannel
  dsimp only
  rw [← hchunkdef, if_neg hthere, readPcmChannel, hoffset]
  apply readPcmSample_of_bytes hsample
  intro k hk
  rw [hwritten.blockAt_getElem? (by omega), ← writeFrame_channel hperm source h hi hk, ← hchunkdef]
  congr 1
  omega

lemma length_writeMidi2ndQ (packetBytes : List UInt8) (block : ℕ) (midiByte : Option UInt8) :
    (writeMidi2ndQ packetBytes block midiByte).length = packetBytes.length := by
  cases midiByte with
  | none => simp [writeMidi2ndQ]
  | some byte => simp [writeMidi2ndQ]

/-- The two message bytes carry a MIDI byte, or tell that there is none. -/
lemma readMidi2ndQ_of_written {block : List UInt8} {start : ℕ} {midiByte : Option UInt8}
    (hroom : start + 6 < packetBytes.length)
    (hflag : block[4]? = (writeMidi2ndQ packetBytes start midiByte)[start + 4]?)
    (hbyte : block[6]? = (writeMidi2ndQ packetBytes start midiByte)[start + 6]?) :
    readMidi2ndQ block = midiByte := by
  unfold readMidi2ndQ
  have hroom' : start + 4 < packetBytes.length := by omega
  cases midiByte with
  | none =>
    have hset : (writeMidi2ndQ packetBytes start none)[start + 4]? = some 0 := by
      simp [writeMidi2ndQ, kMidiFlagByteOffset2ndQ, kMidiByteOffset2ndQ, hroom']
    rw [hset] at hflag
    simp [kMidiFlagByteOffset2ndQ, hflag]
  | some byte =>
    have hset : (writeMidi2ndQ packetBytes start (some byte))[start + 4]? = some 1 := by
      simp [writeMidi2ndQ, kMidiFlagByteOffset2ndQ, kMidiByteOffset2ndQ, kMidiFlagPresent,
        hroom']
    have hmidi : (writeMidi2ndQ packetBytes start (some byte))[start + 6]? = some byte := by
      simp [writeMidi2ndQ, kMidiFlagByteOffset2ndQ, kMidiByteOffset2ndQ, hroom]
    rw [hset] at hflag
    rw [hmidi] at hbyte
    simp [kMidiFlagByteOffset2ndQ, kMidiByteOffset2ndQ, kMidiFlagPresent, hflag, hbyte]

/-- Whatever the port table, a frame of signed 24-bit samples is read back as it was written, channel
by channel; only the chunks of its block change, and a MIDI byte placed before it is still there. -/
theorem writeFrame_roundTrip (config : MotuPayloadStreamConfig) (source : List ℤ)
    (frameInPacket : UInt32) (packetBytes : List UInt8)
    (hperm : isChunkPermutation config.ports = true)
    (hsource : ∀ sample ∈ source, IsSigned24 sample)
    (h : Carries packetBytes config.pcmChunks frameInPacket) :
    let dbs := dataBlockQuadlets config.pcmChunks
    let start := blockStart dbs frameInPacket
    let written := writeFrame config source dbs frameInPacket packetBytes
    (∀ channelOffset outChannels : UInt32,
      channelOffset.toNat + outChannels.toNat ≤ config.pcmChunks.toNat →
      decodeMotuBlock (blockAt written dbs frameInPacket kCipHeaderBytes) config.pcmChunks
          channelOffset outChannels config.ports =
        (List.range outChannels.toNat).map fun ch =>
          config.sampleFor source (channelOffset + UInt32.ofNat ch)) ∧
      (written.length = packetBytes.length ∧
        10 + 3 * config.pcmChunks.toNat ≤ dbs.toNat * 4 ∧
        ∀ j, j < start + 10 ∨ start + (10 + 3 * config.pcmChunks.toNat) ≤ j →
          written[j]? = packetBytes[j]?) ∧
      ∀ midiByte, readMidi2ndQ (blockAt (writeFrame config source dbs frameInPacket
        (writeMidi2ndQ packetBytes start midiByte)) dbs frameInPacket kCipHeaderBytes) =
          midiByte := by
  refine ⟨?_, ⟨length_writeFrame source h, chunks_fit h.fits, fun j hj =>
    writeFrame_outside hperm source h hj⟩, ?_⟩
  · intro channelOffset outChannels hchannels
    apply List.map_congr_left
    intro ch hch
    rw [List.mem_range] at hch
    have hword := config.pcmChunks.toNat_lt
    have hchannel : channelOffset + UInt32.ofNat ch =
        UInt32.ofNat (channelOffset.toNat + ch) := by
      rw [UInt32.ofNat_add, UInt32.ofNat_toNat]
    rw [hchannel]
    exact decodeChannel_writeFrame hperm hsource h (by omega)
  · intro midiByte
    have hmidi := h.of_length
      (length_writeMidi2ndQ packetBytes (blockStart (dataBlockQuadlets config.pcmChunks)
        frameInPacket) midiByte)
    have hwritten := hmidi.of_length (length_writeFrame source hmidi)
    have hinside := h.inside
    have hchunks := chunks_fit h.fits
    have hstart := h.blockStart_eq
    rw [Nat.add_one_mul] at hinside
    apply @readMidi2ndQ_of_written packetBytes _
      (blockStart (dataBlockQuadlets config.pcmChunks) frameInPacket)
    · omega
    · rw [hwritten.blockAt_getElem? (by omega)]
      exact writeFrame_outside hperm source hmidi (Or.inl (by omega))
    · rw [hwritten.blockAt_getElem? (by omega)]
      exact writeFrame_outside hperm source hmidi (Or.inl (by omega))

example : isChunkPermutation kV2Playback = true ∧ isChunkPermutation kUltraLiteCapture = true ∧
    isChunkPermutation k828mk2Capture = true := by decide

/-- Three chunks in an order of their own, in the second block of a packet. -/
theorem writeFrame_roundTrip_three :
    let config : MotuPayloadStreamConfig := { pcmChunks := 3, ports := [⟨1⟩, ⟨0⟩] }
    dataBlockQuadlets 3 = 5 ∧
      decodeMotuBlock (blockAt (writeFrame config [-1, 8388607, -8388608] (dataBlockQuadlets 3) 1
        (List.replicate 48 0)) (dataBlockQuadlets 3) 1 kCipHeaderBytes) 3 0 3 config.ports =
          [-1, 8388607, -8388608] := by
  intro config
  have hcarries : Carries (List.replicate 48 0) config.pcmChunks 1 := by
    constructor
    · unfold BlockFits
      decide
    · rw [List.length_replicate]
      decide
    · rw [List.length_replicate]
      decide
  have hsource : ∀ sample ∈ ([-1, 8388607, -8388608] : List ℤ), IsSigned24 sample := by
    intro sample hmem
    simp only [List.mem_cons, List.not_mem_nil, or_false] at hmem
    rcases hmem with rfl | rfl | rfl <;> exact ⟨by decide, by decide⟩
  have hround := (writeFrame_roundTrip config [-1, 8388607, -8388608] 1 (List.replicate 48 0)
    (by decide) hsource hcarries).1 0 3 (by decide)
  have hsamples : ((List.range (3 : UInt32).toNat).map fun ch =>
      config.sampleFor [-1, 8388607, -8388608] (0 + UInt32.ofNat ch)) =
        [-1, 8388607, -8388608] := by decide
  exact ⟨by decide, hround.trans hsamples⟩

end ASFireWire.MOTU
