import ASFireWire.DICETypes
import ASFireWire.Quadlets

/-! The stream-format sections of a DICE device: the entries of a section, the label blob of an
entry and the channel names in it. -/
namespace ASFireWire.DICE.DICETransaction

open Quadlets

/-! ### Labels -/

/-- `sizeof(StreamFormatEntry::labels)`. -/
def kLabelBytes : ℕ := 256

/-- Whole quadlets are emitted with their least significant byte first. The bytes behind the last
whole quadlet are copied as they stand. -/
def copyLabelBlob (src : List UInt8) (bytesAvailable : ℕ) : List UInt8 :=
  if bytesAvailable = 0 then List.replicate kLabelBytes 0
  else
    let copyBytes := min bytesAvailable (kLabelBytes - 1)
    let quadlets := (List.range (copyBytes / 4)).flatMap fun q => leBytes (be32At src (4 * q))
    let remainder := (src.drop (4 * (copyBytes / 4))).take (copyBytes % 4)
    (quadlets ++ remainder).rightpad kLabelBytes 0

/-- The backslash. -/
def kSeparator : UInt8 := 0x5C

/-- The text before the first double backslash, all of it where there is none. -/
def beforeTerminator : List UInt8 → List UInt8
  | [] => []
  | c :: rest =>
    if c = kSeparator ∧ rest.head? = some kSeparator then [] else c :: beforeTerminator rest

/-- The loop of `SplitDiceLabels`: a separator at the very end opens no further name. -/
def splitNames (text : List UInt8) : List (List UInt8) :=
  if text = [] then []
  else
    let name := text.takeWhile (· ≠ kSeparator)
    name :: splitNames (text.drop (name.length + 1))
termination_by text.length
decreasing_by
  have hpos : 0 < text.length := List.length_pos_of_ne_nil ‹_›
  rw [List.length_drop]
  omega

/-- The C string that starts the blob, split. -/
def splitDiceLabels (labels : List UInt8) : List (List UInt8) :=
  splitNames (beforeTerminator (labels.takeWhile (· ≠ 0)))

/-! ### Stream entries -/

/-- `-1` is a disabled stream. -/
structure StreamFormatEntry where
  isoChannel : ℤ := -1
  seqStart : ℕ := 0
  pcmChannels : ℕ := 0
  midiPorts : ℕ := 0
  speed : ℕ := 0
  hasSeqStart : Bool := false
  hasSpeed : Bool := false
  labels : List UInt8 := List.replicate kLabelBytes 0
  deriving DecidableEq, Repr

/-- `streams` holds the entries that were parsed. -/
structure StreamConfig where
  numStreams : ℕ := 0
  entrySizeBytes : ℕ := 0
  parsedEntrySizeBytes : ℕ := 0
  isRxLayout : Bool := false
  streams : List StreamFormatEntry := []
  deriving DecidableEq, Repr

/-- Entry `i` of the array of four, a default one where none was parsed. -/
def StreamConfig.stream (config : StreamConfig) (i : ℕ) : StreamFormatEntry :=
  config.streams.getD i {}

def kStreamSectionHeaderBytes : ℕ := 8
def kStreamLabelsOffset : ℕ := 16
def kStreamLabelsBytes : ℕ := 256
def kStreamEntryMinCoreBytes : ℕ := 16
def kStreamEntryMinWithLabelsBytes : ℕ := kStreamLabelsOffset + kStreamLabelsBytes

/-- A quadlet as a two's complement number. -/
def toSigned (quadlet : ℕ) : ℤ := if quadlet < 2 ^ 31 then quadlet else (quadlet : ℤ) - 2 ^ 32

def readSignedQuadlet (data : List UInt8) (i : ℕ) : ℤ := toSigned (be32At data i)

def clampStreamCount (count : ℕ) : ℕ := if count > 4 then 4 else count

/-- The stride in 32 bits. -/
def entrySizeBytes (data : List UInt8) : ℕ := be32At data 4 * 4 % 2 ^ 32

/-- Where entry `i` starts. -/
def entryBase (data : List UInt8) (i : ℕ) : ℕ := kStreamSectionHeaderBytes + i * entrySizeBytes data

/-- Four quadlets in the order of the layout; the labels where the entry and the data have them. -/
def parseEntry (data : List UInt8) (isRxLayout : Bool) (i : ℕ) : StreamFormatEntry :=
  let base := entryBase data i
  let labels :=
    if entrySizeBytes data ≥ kStreamEntryMinWithLabelsBytes ∧
        base + kStreamEntryMinWithLabelsBytes ≤ data.length then
      copyLabelBlob (data.drop (base + kStreamLabelsOffset)) kStreamLabelsBytes
    else List.replicate kLabelBytes 0
  if isRxLayout then
    { isoChannel := readSignedQuadlet data base, hasSeqStart := true, hasSpeed := false
      seqStart := be32At data (base + 0x04), pcmChannels := be32At data (base + 0x08)
      midiPorts := be32At data (base + 0x0C), speed := 0, labels }
  else
    { isoChannel := readSignedQuadlet data base, hasSeqStart := false, hasSpeed := true
      seqStart := 0, pcmChannels := be32At data (base + 0x04)
      midiPorts := be32At data (base + 0x08), speed := be32At data (base + 0x0C), labels }

/-- The loop over `remaining` entries from entry `i` on: it ends at the first one that the data
does not hold. -/
def parseEntries (data : List UInt8) (isRxLayout : Bool) : ℕ → ℕ → List StreamFormatEntry
  | 0, _ => []
  | remaining + 1, i =>
    if entryBase data i + kStreamEntryMinCoreBytes > data.length then []
    else parseEntry data isRxLayout i :: parseEntries data isRxLayout remaining (i + 1)

def parseStreamConfig (data : List UInt8) (isRxLayout : Bool) : StreamConfig :=
  if data.length < kStreamSectionHeaderBytes then { isRxLayout }
  else
    let size := entrySizeBytes data
    if size < kStreamEntryMinCoreBytes then
      { isRxLayout, entrySizeBytes := size, parsedEntrySizeBytes := size, numStreams := 0 }
    else
      let streams := parseEntries data isRxLayout (clampStreamCount (be32At data 0)) 0
      { isRxLayout, entrySizeBytes := size, parsedEntrySizeBytes := size
        numStreams := streams.length, streams }

/-! ### What is parsed -/

variable {data : List UInt8} {isRxLayout : Bool} {remaining i k : ℕ}

lemma clampStreamCount_eq (count : ℕ) : clampStreamCount count = min count 4 := by
  unfold clampStreamCount
  split <;> omega

lemma entryBase_mono (data : List UInt8) (h : i ≤ k) : entryBase data i ≤ entryBase data k :=
  Nat.add_le_add_left (Nat.mul_le_mul_right _ h) _

/-- Entry `k` of the loop is parsed exactly when it is asked for and the data hold its core. -/
lemma lt_length_parseEntries :
    k < (parseEntries data isRxLayout remaining i).length ↔
      k < remaining ∧ entryBase data (i + k) + kStreamEntryMinCoreBytes ≤ data.length := by
  induction remaining generalizing i k with
  | zero => simp [parseEntries]
  | succ remaining ih =>
    simp only [parseEntries]
    split
    · have hbase := entryBase_mono data (Nat.le_add_right i k)
      simp only [List.length_nil, Nat.not_lt_zero, false_iff, not_and]
      omega
    · cases k with
      | zero =>
        simp only [List.length_cons, Nat.zero_lt_succ, Nat.add_zero, true_and, true_iff]
        omega
      | succ k =>
        rw [List.length_cons, Nat.add_lt_add_iff_right, ih, Nat.add_lt_add_iff_right,
          show i + 1 + k = i + (k + 1) by omega]

lemma getD_parseEntries (h : k < (parseEntries data isRxLayout remaining i).length) :
    (parseEntries data isRxLayout remaining i).getD k {} = parseEntry data isRxLayout (i + k) := by
  induction remaining generalizing i k with
  | zero => simp [parseEntries] at h
  | succ remaining ih =>
    simp only [parseEntries] at h ⊢
    split at h
    · simp at h
    · rw [if_neg ‹_›]
      cases k with
      | zero => simp
      | succ k =>
        rw [List.getD_cons_succ, ih (by simpa using h), show i + 1 + k = i + (k + 1) by omega]

/-- A stream is reported exactly when the header counts it among the first four, its entry has a
size that can be parsed and the data hold the core of the entry. -/
theorem lt_numStreams_parseStreamConfig :
    i < (parseStreamConfig data isRxLayout).numStreams ↔
      kStreamSectionHeaderBytes ≤ data.length ∧ kStreamEntryMinCoreBytes ≤ entrySizeBytes data ∧
        i < min (be32At data 0) 4 ∧ entryBase data i + kStreamEntryMinCoreBytes ≤ data.length := by
  simp only [parseStreamConfig]
  split
  · simp only [Nat.not_lt_zero, false_iff]
    omega
  · split
    · simp only [Nat.not_lt_zero, false_iff]
      omega
    · rw [lt_length_parseEntries, clampStreamCount_eq, Nat.zero_add]
      omega

theorem numStreams_parseStreamConfig_le (data : List UInt8) (isRxLayout : Bool) :
    (parseStreamConfig data isRxLayout).numStreams ≤ 4 := by
  by_contra hmore
  have hfifth := lt_numStreams_parseStreamConfig.mp (Nat.lt_of_not_le hmore)
  omega

/-- Every reported stream is the entry at its place. -/
theorem stream_parseStreamConfig (h : i < (parseStreamConfig data isRxLayout).numStreams) :
    (parseStreamConfig data isRxLayout).stream i = parseEntry data isRxLayout i := by
  simp only [parseStreamConfig, StreamConfig.stream] at h ⊢
  split at h
  · simp at h
  · rw [if_neg ‹_›]
    split at h
    · simp at h
    · rw [if_neg ‹_›, getD_parseEntries h, Nat.zero_add]

end ASFireWire.DICE.DICETransaction
