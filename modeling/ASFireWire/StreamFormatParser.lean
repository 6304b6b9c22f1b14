import Mathlib

/-! The AM824 stream-format blocks (`Protocols/AVC/StreamFormats`): which byte strings are accepted,
and what is reported of them. A format code is kept as the byte it is. -/
namespace ASFireWire.AVC

inductive FormatHierarchy
  | am824 | legacyGeneric | legacySimple | audioPack | floatingPoint | unknown
  deriving DecidableEq

/-- The compound hierarchy has the code of AM824. -/
abbrev FormatHierarchy.compoundAM824 : FormatHierarchy := am824

inductive AM824Subtype
  | simple | compound | unknown
  deriving DecidableEq

inductive SampleRate
  | k22050Hz | k24000Hz | k32000Hz | k44100Hz | k48000Hz | k96000Hz | k176400Hz | k192000Hz
  | k88200Hz | dontCare | unknown
  deriving DecidableEq

inductive SyncMode
  | noSync | synchronized | unknown
  deriving DecidableEq

def musicSubunitCodeToSampleRate : UInt8 → SampleRate
  | 0x00 => .k32000Hz
  | 0x01 => .k44100Hz
  | 0x02 => .k48000Hz
  | 0x03 => .k88200Hz
  | 0x04 => .k96000Hz
  | 0x05 => .k176400Hz
  | 0x06 => .k192000Hz
  | _ => .unknown

structure ChannelFormatInfo where
  channelCount : UInt8 := 0
  formatCode : UInt8 := 0xFF
  deriving DecidableEq

structure AudioStreamFormat where
  formatHierarchy : FormatHierarchy := .unknown
  subtype : AM824Subtype := .unknown
  sampleRate : SampleRate := .unknown
  syncMode : SyncMode := .unknown
  totalChannels : UInt8 := 0
  channelFormats : List ChannelFormatInfo := []
  rawFormatBlock : List UInt8 := []
  deriving DecidableEq

namespace StreamFormatParser

def isAM824 (formatHierarchy : UInt8) : Bool := formatHierarchy = 0x90

def isCompound (subtype : UInt8) : Bool := subtype = 0x40

def isSimple (subtype : UInt8) : Bool := subtype = 0x00 ∨ subtype = 0x01 ∨ subtype = 0x90

def validateLength (length minRequired : ℕ) : Bool := minRequired ≤ length

def extractSampleRate : UInt8 → SampleRate
  | 0x00 => .k22050Hz
  | 0x01 => .k24000Hz
  | 0x02 => .k32000Hz
  | 0x03 => .k44100Hz
  | 0x04 => .k48000Hz
  | 0x05 => .k96000Hz
  | 0x06 => .k176400Hz
  | 0x07 => .k192000Hz
  | 0x0A => .k88200Hz
  | 0x0F => .dontCare
  | _ => .unknown

def extractSampleRateFromNibble (byte : UInt8) : SampleRate :=
  extractSampleRate ((byte >>> 4) &&& 0x0F)

def extractSyncMode (syncByte : UInt8) : SyncMode :=
  if syncByte &&& 0x04 ≠ 0 then .synchronized else .noSync

/-- The memory at the parser's pointer, of which the first `length` bytes are the block. -/
def block (data : ℕ → UInt8) (length : ℕ) : List UInt8 := (List.range length).map data

/-- The loop over the format fields, `numFields` of them left. -/
def parseChannelFormats (data : ℕ → UInt8) (length : ℕ) : ℕ → ℕ → List ChannelFormatInfo
  | _, 0 => []
  | offset, numFields + 1 =>
    if length < offset + 2 then []
    else
      { channelCount := data offset, formatCode := data (offset + 1) } ::
        parseChannelFormats data length (offset + 2) numFields

def parseCompoundAM824 (data : ℕ → UInt8) (length : ℕ) : Option AudioStreamFormat :=
  if validateLength length 5 = false then none
  else
    let numFormatFields := (data 4).toNat
    let requiredLength := 5 + numFormatFields * 2
    if length < requiredLength then none
    else
      let channelFormats :=
        if 0 < numFormatFields then
          parseChannelFormats (fun i => data (5 + i)) (length - 5) 0 numFormatFields
        else []
      some {
        formatHierarchy := .compoundAM824
        subtype := .compound
        sampleRate := extractSampleRate (data 2)
        syncMode := extractSyncMode (data 3)
        totalChannels := channelFormats.foldl (fun total chFmt => total + chFmt.channelCount) 0
        channelFormats := channelFormats
        rawFormatBlock := block data length }

def parseSimpleAM824_6Byte (data : ℕ → UInt8) (length : ℕ) : Option AudioStreamFormat :=
  if validateLength length 6 = false then none
  else
    let fdfNibble := (data 2 >>> 4) &&& 0x0F
    let rate := if fdfNibble ≠ 0 then extractSampleRateFromNibble (data 2) else .unknown
    let musicRate := musicSubunitCodeToSampleRate (data 5)
    let rate :=
      if (rate = .unknown ∨ rate = .dontCare) ∧ musicRate ≠ .unknown ∧ musicRate ≠ .dontCare then
        musicRate
      else rate
    let rate :=
      if (rate = .unknown ∨ rate = .dontCare) ∧ data 4 &&& 0xF0 ≠ 0 then
        extractSampleRateFromNibble (data 4)
      else rate
    some {
      formatHierarchy := .am824
      subtype := .simple
      sampleRate := rate
      syncMode := .noSync
      totalChannels := 0
      rawFormatBlock := block data length }

def parseSimpleAM824_3Byte (data : ℕ → UInt8) (length : ℕ) : Option AudioStreamFormat :=
  if validateLength length 3 = false then none
  else some {
    formatHierarchy := .am824
    subtype := .simple
    sampleRate := .dontCare
    syncMode := .noSync
    totalChannels := 0
    rawFormatBlock := block data length }

/-- `Parse`; no memory stands for a null pointer. -/
def parse (data : Option (ℕ → UInt8)) (length : ℕ) : Option AudioStreamFormat :=
  match data with
  | none => none
  | some data =>
    if length < 2 then none
    else
      let formatHierarchy := data 0
      let subtype := data 1
      if isAM824 formatHierarchy = false then none
      else if isCompound subtype then parseCompoundAM824 data length
      else if isSimple subtype then
        if 6 ≤ length then parseSimpleAM824_6Byte data length
        else if 3 ≤ length then parseSimpleAM824_3Byte data length
        else none
      else none

/-! ### The grammar -/

/-- Field `i` of a compound block. -/
def field (data : ℕ → UInt8) (i : ℕ) : ChannelFormatInfo :=
  { channelCount := data (5 + 2 * i), formatCode := data (6 + 2 * i) }

def fields (data : ℕ → UInt8) : List ChannelFormatInfo :=
  (List.range (data 4).toNat).map (field data)

def channelSum (formats : List ChannelFormatInfo) : ℕ :=
  (formats.map fun chFmt => chFmt.channelCount.toNat).sum

def Compound (data : ℕ → UInt8) (length : ℕ) : Prop :=
  data 0 = 0x90 ∧ data 1 = 0x40 ∧ 5 ≤ length ∧ 5 + 2 * (data 4).toNat ≤ length

def Simple (data : ℕ → UInt8) (length : ℕ) : Prop :=
  data 0 = 0x90 ∧ isSimple (data 1) = true ∧ 3 ≤ length

def AgreeBelow (length : ℕ) (data data' : ℕ → UInt8) : Prop := ∀ i < length, data i = data' i

variable {data data' : ℕ → UInt8} {length length' offset numFields : ℕ}

lemma parseChannelFormats_eq (h : offset + 2 * numFields ≤ length) :
    parseChannelFormats data length offset numFields =
      (List.range numFields).map fun i =>
        { channelCount := data (offset + 2 * i), formatCode := data (offset + 2 * i + 1) } := by
  induction numFields generalizing offset with
  | zero => simp [parseChannelFormats]
  | succ numFields ih =>
    rw [parseChannelFormats, if_neg (by omega), ih (by omega), List.range_succ_eq_map,
      List.map_cons, List.map_map]
    congr 1
    apply List.map_congr_left
    intro i _
    simp only [Function.comp_apply]
    rw [show offset + 2 + 2 * i = offset + 2 * i.succ by omega]

/-- The fold over the counts is their sum in eight bits. -/
lemma foldl_channelCount (formats : List ChannelFormatInfo) (total : UInt8) :
    (formats.foldl (fun total chFmt => total + chFmt.channelCount) total).toNat =
      (total.toNat + channelSum formats) % 2 ^ 8 := by
  induction formats generalizing total with
  | nil => simp [channelSum]
  | cons chFmt formats ih =>
    rw [List.foldl_cons, ih, UInt8.toNat_add]
    simp only [channelSum, List.map_cons, List.sum_cons]
    omega

lemma block_congr (h : AgreeBelow length data data') : block data length = block data' length := by
  apply List.map_congr_left
  intro i hi
  exact h i (List.mem_range.mp hi)

/-- A compound block that is long enough, with the fields read where they stand. -/
lemma parseCompound_eq (h5 : 5 ≤ length) (hfields : 5 + 2 * (data 4).toNat ≤ length) :
    parseCompoundAM824 data length = some {
      formatHierarchy := .compoundAM824
      subtype := .compound
      sampleRate := extractSampleRate (data 2)
      syncMode := extractSyncMode (data 3)
      totalChannels := (fields data).foldl (fun total chFmt => total + chFmt.channelCount) 0
      channelFormats := fields data
      rawFormatBlock := block data length } := by
  have hlist : (if 0 < (data 4).toNat then
      parseChannelFormats (fun i => data (5 + i)) (length - 5) 0 (data 4).toNat else []) =
        fields data := by
    split_ifs with hpos
    · rw [parseChannelFormats_eq (by omega)]
      apply List.map_congr_left
      intro i _
      simp only [field, Nat.zero_add]
      rw [show 5 + (2 * i + 1) = 6 + 2 * i by omega]
    · simp [fields, Nat.eq_zero_of_not_pos hpos]
  have hlong : ¬ length < 5 + (data 4).toNat * 2 := by omega
  simp [parseCompoundAM824, validateLength, h5, hlist, hlong]

lemma parse_compound (h : Compound data length) :
    parse (some data) length = parseCompoundAM824 data length := by
  obtain ⟨h0, h1, h5, -⟩ := h
  simp [parse, isAM824, isCompound, h0, h1, Nat.not_lt.mpr (by omega : 2 ≤ length)]

/-- The strings that are accepted are those of the grammar. -/
lemma parse_isSome_iff :
    (parse (some data) length).isSome = true ↔ Compound data length ∨ Simple data length := by
  by_cases hhierarchy : data 0 = 0x90
  · by_cases hcompound : data 1 = 0x40
    · by_cases hshort : length < 5 + 2 * (data 4).toNat ∨ length < 5
      · have hrejected : parse (some data) length = none := by
          by_cases hnone : length < 5
          · simp [parse, parseCompoundAM824, validateLength, isAM824, isCompound, hhierarchy,
              hcompound, Nat.not_le.mpr hnone]
          · simp [parse, parseCompoundAM824, validateLength, isAM824, isCompound, hhierarchy,
              hcompound, Nat.not_lt.mp hnone, (by omega : length < 5 + (data 4).toNat * 2)]
        simp [hrejected, Compound, Simple, isSimple, hcompound]
        omega
      · have hgrammar : Compound data length := ⟨hhierarchy, hcompound, by omega, by omega⟩
        simp [parse_compound hgrammar, parseCompound_eq hgrammar.2.2.1 hgrammar.2.2.2, hgrammar]
    · by_cases hsimple : isSimple (data 1) = true
      · have hsix : (parseSimpleAM824_6Byte data length).isSome = true ↔ 6 ≤ length := by
          simp [parseSimpleAM824_6Byte, validateLength]
        have hthree : (parseSimpleAM824_3Byte data length).isSome = true ↔ 3 ≤ length := by
          simp [parseSimpleAM824_3Byte, validateLength]
        have hparse : parse (some data) length =
            if 6 ≤ length then parseSimpleAM824_6Byte data length
            else if 3 ≤ length then parseSimpleAM824_3Byte data length else none := by
          by_cases h2 : length < 2
          · rw [if_neg (by omega), if_neg (by omega)]
            simp [parse, h2]
          · simp [parse, isAM824, isCompound, hhierarchy, hcompound, hsimple, h2]
        rw [hparse]
        split_ifs with h6 h3
        · simp [hsix, h6, Simple, hhierarchy, hsimple, (by omega : 3 ≤ length)]
        · simp [hthree, h3, Simple, hhierarchy, hsimple]
        · simp [Compound, hcompound, Simple, h3]
      · simp [parse, isAM824, isCompound, hhierarchy, hcompound, hsimple, Compound, Simple]
  · simp [parse, isAM824, hhierarchy, Compound, Simple]

lemma parseChannelFormats_congr {length : ℕ} (h : AgreeBelow length data data') :
    parseChannelFormats data length offset numFields =
      parseChannelFormats data' length offset numFields := by
  induction numFields generalizing offset with
  | zero => rfl
  | succ numFields ih =>
    rw [parseChannelFormats, parseChannelFormats, ih]
    split_ifs with hshort
    · rfl
    · rw [h offset (by omega), h (offset + 1) (by omega)]

/-- Only the bytes below the length are read. -/
lemma parse_congr (h : AgreeBelow length data data') :
    parse (some data) length = parse (some data') length := by
  have hblock := block_congr h
  by_cases h2 : length < 2
  · simp [parse, h2]
  · have hcompound : parseCompoundAM824 data length = parseCompoundAM824 data' length := by
      by_cases h5 : 5 ≤ length
      · have hfields : parseChannelFormats (fun i => data (5 + i)) (length - 5) 0 (data' 4).toNat =
            parseChannelFormats (fun i => data' (5 + i)) (length - 5) 0 (data' 4).toNat := by
          apply parseChannelFormats_congr
          intro i hi
          exact h (5 + i) (by omega)
        simp only [parseCompoundAM824, h 2 (by omega), h 3 (by omega), h 4 (by omega), hblock,
          hfields]
      · simp [parseCompoundAM824, validateLength, h5]
    have hsix : parseSimpleAM824_6Byte data length = parseSimpleAM824_6Byte data' length := by
      by_cases h6 : 6 ≤ length
      · rw [parseSimpleAM824_6Byte, parseSimpleAM824_6Byte, h 2 (by omega), h 4 (by omega),
          h 5 (by omega), hblock]
      · simp [parseSimpleAM824_6Byte, validateLength, h6]
    have hthree : parseSimpleAM824_3Byte data length = parseSimpleAM824_3Byte data' length := by
      rw [parseSimpleAM824_3Byte, parseSimpleAM824_3Byte, hblock]
    simp only [parse, h 0 (by omega), h 1 (by omega), hcompound, hsix, hthree]

/-- Bytes behind an accepted compound block only lengthen the raw block. -/
lemma parse_append (hgrammar : Compound data length) (hlength : length ≤ length')
    (h : AgreeBelow length data data') :
    parse (some data') length' =
      (parse (some data) length).map ({ · with rawFormatBlock := block data' length' }) := by
  obtain ⟨h0, h1, h5, hfields⟩ := id hgrammar
  have hgrammar' : Compound data' length' := by
    refine ⟨?_, ?_, h5.trans hlength, ?_⟩
    · rw [← h 0 (by omega), h0]
    · rw [← h 1 (by omega), h1]
    · rw [← h 4 (by omega)]
      exact hfields.trans hlength
  have hsame : fields data' = fields data := by
    unfold fields
    rw [h 4 (by omega)]
    apply List.map_congr_left
    intro i hi
    have hlast := List.mem_range.mp hi
    rw [← h 4 (by omega)] at hlast
    simp only [field, h (5 + 2 * i) (by omega), h (6 + 2 * i) (by omega)]
  rw [parse_compound hgrammar, parse_compound hgrammar', parseCompound_eq h5 hfields,
    parseCompound_eq hgrammar'.2.2.1 hgrammar'.2.2.2, hsame, h 2 (by omega), h 3 (by omega)]
  rfl

/-- What the parser is to do with the block of `length` bytes at the pointer. -/
structure Exact (data : ℕ → UInt8) (length : ℕ) : Prop where
  accepted : (parse (some data) length).isSome = true ↔ Compound data length ∨ Simple data length
  reported : Compound data length → ∀ format, parse (some data) length = some format →
    format.channelFormats = fields data ∧ format.totalChannels.toNat = channelSum (fields data)
  bounded : ∀ data', AgreeBelow length data data' →
    parse (some data') length = parse (some data) length
  appended : Compound data length → ∀ data' length', AgreeBelow length data data' →
    length ≤ length' → parse (some data') length' =
      (parse (some data) length).map ({ · with rawFormatBlock := block data' length' })

/-- The report is exact unless the counts of an accepted compound block exceed eight bits. -/
theorem exact_iff (data : ℕ → UInt8) (length : ℕ) :
    Exact data length ↔ (Compound data length → channelSum (fields data) < 2 ^ 8) := by
  constructor
  · intro hexact hgrammar
    have hparse := parse_compound hgrammar
    rw [parseCompound_eq hgrammar.2.2.1 hgrammar.2.2.2] at hparse
    rw [← (hexact.reported hgrammar _ hparse).2]
    exact UInt8.toNat_lt _
  · intro hsum
    refine ⟨parse_isSome_iff, ?_, fun data' h => (parse_congr h).symm,
      fun hgrammar data' length' h hlength => parse_append hgrammar hlength h⟩
    intro hgrammar format hformat
    rw [parse_compound hgrammar, parseCompound_eq hgrammar.2.2.1 hgrammar.2.2.2] at hformat
    obtain rfl := Option.some.inj hformat
    refine ⟨rfl, ?_⟩
    rw [foldl_channelCount, UInt8.toNat_zero, Nat.zero_add, Nat.mod_eq_of_lt (hsum hgrammar)]

/-- Two fields of 128 channels each are reported as no channel at all. -/
theorem not_exact_wrapped :
    let bytes : List UInt8 := [0x90, 0x40, 0x04, 0x00, 0x02, 0x80, 0x06, 0x80, 0x06]
    let data : ℕ → UInt8 := fun i => bytes.getD i 0
    (parse (some data) bytes.length).map (·.totalChannels) = some 0 ∧
      channelSum (fields data) = 256 ∧ ¬ Exact data bytes.length := by
  intro bytes data
  have hparse : (parse (some data) bytes.length).map (·.totalChannels) = some 0 := by decide
  have hsum : channelSum (fields data) = 256 := by decide
  refine ⟨hparse, hsum, ?_⟩
  intro hexact
  obtain ⟨format, hformat, hzero⟩ := Option.map_eq_some_iff.mp hparse
  have hreported := (hexact.reported ⟨by decide, by decide, by decide, by decide⟩ format hformat).2
  rw [hzero, hsum] at hreported
  simp at hreported

end StreamFormatParser

end ASFireWire.AVC
