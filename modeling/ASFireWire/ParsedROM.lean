import ASFireWire.ConfigROMParser

/-! A parsed Config ROM (`Discovery/DiscoveryTypes.hpp`) and the recognized entries of its root
directory (`ConfigROMParser::ParseRootDirectory`). Texts are byte lists. -/
namespace ASFireWire.Discovery

open ASFireWire.ConfigROM

inductive CfgKey
  | textDescriptor | vendorId | modelId | unitSpecId | unitSwVersion | logicalUnitNumber
  | nodeCapabilities | unitDirectory | managementAgentOffset | unitCharacteristics | fastStart
  deriving DecidableEq, Repr

structure RomEntry where
  key : CfgKey
  value : ℕ
  entryType : ℕ := 0
  leafOffsetQuadlets : ℕ := 0
  deriving DecidableEq, Repr

structure UnitDirectory where
  offsetQuadlets : ℕ := 0
  unitSpecId : ℕ := 0
  unitSwVersion : ℕ := 0
  logicalUnitNumber : Option ℕ := none
  modelId : Option ℕ := none
  modelName : Option (List UInt8) := none
  deriving DecidableEq, Repr

inductive ROMState | fresh | validated | suspended | invalid
  deriving DecidableEq, Repr

def kInvalidNodeId : ℕ := 0xFFFF

/-- `rawQuadlets` is in wire order. -/
structure ConfigROM where
  gen : ℕ := 0
  nodeId : ℕ := kInvalidNodeId
  bib : BusInfoBlock := {}
  rootDirMinimal : List RomEntry := []
  vendorName : List UInt8 := []
  modelName : List UInt8 := []
  unitDirectories : List UnitDirectory := []
  rawQuadlets : List ℕ := []
  state : ROMState := .fresh
  firstSeen : ℕ := 0
  lastValidated : ℕ := 0
  deriving DecidableEq, Repr

namespace ConfigKey

def kTextualDescriptor : ℕ := 0x01

def kModuleVendorId : ℕ := 0x03

def kUnitDirectory : ℕ := 0x11

def kUnitSpecId : ℕ := 0x12

def kUnitSwVersion : ℕ := 0x13

def kUnitDependentInfo : ℕ := 0x14

def kModelId : ℕ := 0x17

end ConfigKey

/-- An entry kept only under the type its key wants. -/
def recognized (keyType wanted value targetOffset : ℕ) (key : CfgKey) : List RomEntry :=
  if keyType = wanted then
    [{ key := key, value := value, entryType := keyType, leafOffsetQuadlets := targetOffset }]
  else []

/-- `AppendRecognizedEntry`, as the entries it appends. -/
def recognizedEntries (keyType keyId value targetOffset : ℕ) : List RomEntry :=
  match keyId with
  | 0x01 =>
    if keyType ≠ EntryType.kLeaf ∧ keyType ≠ EntryType.kDirectory then []
    else if targetOffset = 0 then []
    else recognized keyType keyType value targetOffset .textDescriptor
  | 0x03 => recognized keyType EntryType.kImmediate value 0 .vendorId
  | 0x17 => recognized keyType EntryType.kImmediate value 0 .modelId
  | 0x12 => recognized keyType EntryType.kImmediate value 0 .unitSpecId
  | 0x13 => recognized keyType EntryType.kImmediate value 0 .unitSwVersion
  | 0x14 =>
    if keyType = EntryType.kImmediate then
      recognized keyType EntryType.kImmediate value 0 .logicalUnitNumber
    else recognized keyType EntryType.kCSROffset value 0 .managementAgentOffset
  | 0x0C => recognized keyType EntryType.kImmediate value 0 .nodeCapabilities
  | 0x11 => recognized keyType EntryType.kDirectory value targetOffset .unitDirectory
  | 0x38 => recognized keyType EntryType.kCSROffset value 0 .managementAgentOffset
  | 0x39 => recognized keyType EntryType.kImmediate value 0 .unitCharacteristics
  | 0x3A =>
    if targetOffset = 0 then [] else recognized keyType EntryType.kLeaf value targetOffset .fastStart
  | _ => []

def kMaxDirectoryEntriesToScan : ℕ := 64

def parseRootDirectory (dirQuadletsBE : List ℕ) (maxQuadlets : ℕ) :
    Except ParseError (List RomEntry) :=
  if min maxQuadlets dirQuadletsBE.length = 0 then .error ⟨.tooShort, 0⟩
  else
    (parseDirectory (dirQuadletsBE.take maxQuadlets) kMaxDirectoryEntriesToScan).map fun parsed =>
      parsed.flatMap fun entry =>
        recognizedEntries entry.keyType entry.keyId entry.value
          (if entry.hasTarget then entry.targetRel else 0)

/-- A directory that does not parse has no entries. -/
def parseDirectoryBestEffort (dirBE : List ℕ) (entryCap : ℕ) : List DirectoryEntry :=
  match parseDirectory dirBE entryCap with
  | .ok entries => entries
  | .error _ => []

lemma length_parseDirectoryBestEffort (dirBE : List ℕ) (entryCap : ℕ) :
    (parseDirectoryBestEffort dirBE entryCap).length ≤ entryCap := by
  unfold parseDirectoryBestEffort parseDirectory
  by_cases hempty : dirBE = []
  · simp [hempty]
  · simp only [hempty, if_false]
    split_ifs <;> simp

end ASFireWire.Discovery
