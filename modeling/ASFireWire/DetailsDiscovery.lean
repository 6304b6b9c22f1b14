import ASFireWire.ParsedROM
import ASFireWire.Resumptions

/-! The details discovery of a scanned node (`ConfigROM/Remote/ROMScanSessionDetails.cpp`): vendor
and model names, then every unit directory, each read as far as it is needed. The state it carries
from callback to callback is the node's ROM; its questions are `EnsurePrefix` calls, answered by
whether the ROM now has that many quadlets. -/
namespace ASFireWire.Discovery

open ASFireWire.ConfigROM Resumptions Resumption

abbrev DetailsDiscovery := Resumption ConfigROM ℕ Bool

/-- The length field of the directory or leaf header at `absOffset`. -/
def headerLength (rom : ConfigROM) (absOffset : ℕ) : ℕ :=
  readBEQuadlet rom.rawQuadlets absOffset / 2 ^ 16 % 2 ^ 16

/-! ### Text descriptors -/

/-- A leaf is read header first; whatever goes wrong, the text is empty. -/
def fetchLeaf (rom : ConfigROM) (absOffset : ℕ)
    (completion : List UInt8 → ConfigROM → DetailsDiscovery) : DetailsDiscovery :=
  .ask rom (absOffset + 1) fun ok rom =>
    if !ok then completion [] rom
    else if rom.rawQuadlets.length ≤ absOffset then completion [] rom
    else if headerLength rom absOffset = 0 then completion [] rom
    else .ask rom (absOffset + 1 + headerLength rom absOffset) fun ok rom =>
      if !ok then completion [] rom
      else
        match parseTextDescriptorLeaf rom.rawQuadlets absOffset with
        | .ok text => completion text rom
        | .error _ => completion [] rom

/-- The candidates are tried until one has a text. -/
def fetchNextCandidate (completion : List UInt8 → ConfigROM → DetailsDiscovery) :
    List ℕ → ConfigROM → DetailsDiscovery
  | [], rom => completion [] rom
  | leafAbs :: candidates, rom =>
    fetchLeaf rom leafAbs fun text rom =>
      if text ≠ [] then completion text rom else fetchNextCandidate completion candidates rom

/-- `ParseDirectoryAndFetchCandidates`: the leaves a descriptor directory lists. -/
def descriptorCandidates (rom : ConfigROM) (absOffset dirLen : ℕ) : List ℕ :=
  if rom.rawQuadlets.length < absOffset + 1 + dirLen then []
  else
    match parseDirectory ((rom.rawQuadlets.drop absOffset).take (1 + dirLen)) 32 with
    | .error _ => []
    | .ok entries => entries.filterMap fun entry =>
      if !entry.hasTarget || entry.targetRel = 0 then none
      else if entry.keyId ≠ ConfigKey.kTextualDescriptor || entry.keyType ≠ EntryType.kLeaf then
        none
      else some (absOffset + entry.targetRel)

def fetchDescriptorDirectory (rom : ConfigROM) (absOffset : ℕ)
    (completion : List UInt8 → ConfigROM → DetailsDiscovery) : DetailsDiscovery :=
  .ask rom (absOffset + 1) fun ok rom =>
    if !ok then completion [] rom
    else if rom.rawQuadlets.length ≤ absOffset then completion [] rom
    else if headerLength rom absOffset = 0 then completion [] rom
    else
      let dirLen := min (headerLength rom absOffset) 32
      .ask rom (absOffset + 1 + dirLen) fun ok rom =>
        if !ok then completion [] rom
        else fetchNextCandidate completion (descriptorCandidates rom absOffset dirLen) rom

/-- `TextDescriptorFetcher::Start`. -/
def textDescriptorFetcher (rom : ConfigROM) (absOffset keyType : ℕ)
    (completion : List UInt8 → ConfigROM → DetailsDiscovery) : DetailsDiscovery :=
  if keyType = EntryType.kLeaf then fetchLeaf rom absOffset completion
  else if keyType = EntryType.kDirectory then fetchDescriptorDirectory rom absOffset completion
  else completion [] rom

/-! ### The flow over a root directory -/

structure DescriptorRef where
  keyType : ℕ
  targetRel : ℕ

/-- The descriptor of an entry is the entry right behind it. -/
def findDescriptorRef (ownerKeyId : ℕ) : List DirectoryEntry → Option DescriptorRef
  | [] => none
  | owner :: rest =>
    if owner.keyType ≠ EntryType.kImmediate ∨ owner.keyId ≠ ownerKeyId then
      findDescriptorRef ownerKeyId rest
    else
      match rest with
      | [] => none
      | descriptor :: _ =>
        if descriptor.keyId ≠ ConfigKey.kTextualDescriptor then none
        else if descriptor.keyType ≠ EntryType.kLeaf ∧ descriptor.keyType ≠ EntryType.kDirectory
          then none
        else if !descriptor.hasTarget ∨ descriptor.targetRel = 0 then none
        else some ⟨descriptor.keyType, descriptor.targetRel⟩

/-- The text a reference leads to, or none without a reference. -/
def fetchReferenced (rom : ConfigROM) (base : ℕ) (ref : Option DescriptorRef)
    (completion : List UInt8 → ConfigROM → DetailsDiscovery) : DetailsDiscovery :=
  match ref with
  | none => completion [] rom
  | some ref => textDescriptorFetcher rom (base + ref.targetRel) ref.keyType completion

def unitField (unit : UnitDirectory) (entry : DirectoryEntry) : UnitDirectory :=
  if entry.keyType ≠ EntryType.kImmediate then unit
  else if entry.keyId = ConfigKey.kUnitSpecId then { unit with unitSpecId := entry.value }
  else if entry.keyId = ConfigKey.kUnitSwVersion then { unit with unitSwVersion := entry.value }
  else if entry.keyId = ConfigKey.kUnitDependentInfo then
    { unit with logicalUnitNumber := some entry.value }
  else if entry.keyId = ConfigKey.kModelId then { unit with modelId := some entry.value }
  else unit

def kUnitDirectoryEntryCap : ℕ := 32

/-- The entries of the unit directory at `absUnitDir`. -/
def unitEntries (rom : ConfigROM) (absUnitDir unitDirLen : ℕ) : List DirectoryEntry :=
  parseDirectoryBestEffort ((rom.rawQuadlets.drop absUnitDir).take (unitDirLen + 1))
    kUnitDirectoryEntryCap

/-- `OnUnitModelNameFetched`, and the push without a model reference. -/
def pushUnit (rom : ConfigROM) (unit : UnitDirectory) (text : List UInt8) : ConfigROM :=
  { rom with
    unitDirectories := rom.unitDirectories ++
      [if text ≠ [] then { unit with modelName := some text } else unit] }

/-- A unit directory that cannot be read is skipped; one outside the ROM ends the discovery. -/
def startNextUnitDir (rootDirStart : ℕ) : List ℕ → ConfigROM → DetailsDiscovery
  | [], rom => .done rom
  | unitRel :: units, rom =>
    let absUnitDir := rootDirStart + unitRel
    .ask rom (absUnitDir + 1) fun ok rom =>
      if !ok then startNextUnitDir rootDirStart units rom
      else if rom.rawQuadlets.length ≤ absUnitDir then .done rom
      else if headerLength rom absUnitDir = 0 then startNextUnitDir rootDirStart units rom
      else
        let unitDirLen := min (headerLength rom absUnitDir) 32
        .ask rom (absUnitDir + 1 + unitDirLen) fun ok rom =>
          if !ok then startNextUnitDir rootDirStart units rom
          else if rom.rawQuadlets.length ≤ absUnitDir + unitDirLen then .done rom
          else
            let entries := unitEntries rom absUnitDir unitDirLen
            let parsedUnit := entries.foldl unitField { offsetQuadlets := unitRel }
            fetchReferenced rom absUnitDir (findDescriptorRef ConfigKey.kModelId entries)
              fun text rom => startNextUnitDir rootDirStart units (pushUnit rom parsedUnit text)

def unitDirRelOffsets (rootEntries : List DirectoryEntry) : List ℕ :=
  rootEntries.filterMap fun entry =>
    if entry.keyType = EntryType.kDirectory ∧ entry.keyId = ConfigKey.kUnitDirectory ∧
        entry.hasTarget ∧ entry.targetRel ≠ 0 then some entry.targetRel
    else none

/-- From `AppendRootDirAndParse` on: the root directory goes behind what was read so far, also
when the prefix before it could not be read. -/
def appendRootDirAndParse (rootDirStart : ℕ) (rootDirBE : List ℕ) (rom : ConfigROM) :
    DetailsDiscovery :=
  let rootEntries := parseDirectoryBestEffort rootDirBE 64
  let rom := { rom with rawQuadlets := rom.rawQuadlets ++ rootDirBE }
  fetchReferenced rom rootDirStart (findDescriptorRef ConfigKey.kModuleVendorId rootEntries)
    fun text rom =>
      let rom := if text ≠ [] then { rom with vendorName := text } else rom
      fetchReferenced rom rootDirStart (findDescriptorRef ConfigKey.kModelId rootEntries)
        fun text rom =>
          let rom := if text ≠ [] then { rom with modelName := text } else rom
          startNextUnitDir rootDirStart (unitDirRelOffsets rootEntries) rom

/-- `DetailsDiscovery::Start`. -/
def startDetailsDiscovery (rootDirStart : ℕ) (rootDirBE : List ℕ) (rom : ConfigROM) :
    DetailsDiscovery :=
  .ask rom rootDirStart fun _ok rom => appendRootDirAndParse rootDirStart rootDirBE rom

/-! ### The discovery is bounded -/

/-- The ROM of a node whose bus information block is not the one-quadlet format. -/
structure GeneralROM (nodeId : ℕ) (rom : ConfigROM) : Prop where
  nodeId : rom.nodeId = nodeId
  format : rom.bib.format ≠ .minimal1212

variable {nodeId n : ℕ} {completion : List UInt8 → ConfigROM → DetailsDiscovery} {rom : ConfigROM}

lemma fetchLeaf_within
    (h : ∀ text rom, GeneralROM nodeId rom → Within (GeneralROM nodeId) n (completion text rom))
    (hrom : GeneralROM nodeId rom) (absOffset : ℕ) :
    Within (GeneralROM nodeId) (n + 2) (fetchLeaf rom absOffset completion) := by
  apply within_ask.mpr
  refine ⟨hrom, fun ok header hheader => ?_⟩
  have hend : Within (GeneralROM nodeId) (n + 1) (completion [] header) :=
    (h [] header hheader).mono (by omega)
  split_ifs
  · exact hend
  · exact hend
  · exact hend
  · refine ⟨hheader, fun ok rom hrom => ?_⟩
    dsimp only
    split_ifs
    · exact h [] rom hrom
    · cases parseTextDescriptorLeaf rom.rawQuadlets absOffset with
      | ok text => exact h text rom hrom
      | error e => exact h [] rom hrom

lemma fetchNextCandidate_within
    (h : ∀ text rom, GeneralROM nodeId rom → Within (GeneralROM nodeId) n (completion text rom))
    (candidates : List ℕ) (hrom : GeneralROM nodeId rom) :
    Within (GeneralROM nodeId) (n + 2 * candidates.length)
      (fetchNextCandidate completion candidates rom) := by
  induction candidates generalizing rom with
  | nil => exact h [] rom hrom
  | cons leafAbs candidates ih =>
    have hnext : ∀ (text : List UInt8) rom, GeneralROM nodeId rom →
        Within (GeneralROM nodeId) (n + 2 * candidates.length)
          (if text ≠ [] then completion text rom
            else fetchNextCandidate completion candidates rom) := by
      intro text rom hrom
      split_ifs
      · exact (h text rom hrom).mono (by omega)
      · exact ih hrom
    exact (fetchLeaf_within hnext hrom leafAbs).mono (by simp only [List.length_cons]; omega)

lemma length_descriptorCandidates (rom : ConfigROM) (absOffset dirLen : ℕ) :
    (descriptorCandidates rom absOffset dirLen).length ≤ 32 := by
  unfold descriptorCandidates
  split_ifs
  · simp
  · have hbound := length_parseDirectoryBestEffort
      ((rom.rawQuadlets.drop absOffset).take (1 + dirLen)) 32
    unfold parseDirectoryBestEffort at hbound
    cases hparsed : parseDirectory ((rom.rawQuadlets.drop absOffset).take (1 + dirLen)) 32 with
    | error e => simp
    | ok entries =>
      rw [hparsed] at hbound
      exact (List.length_filterMap_le _ _).trans hbound

lemma fetchDescriptorDirectory_within
    (h : ∀ text rom, GeneralROM nodeId rom → Within (GeneralROM nodeId) n (completion text rom))
    (hrom : GeneralROM nodeId rom) (absOffset : ℕ) :
    Within (GeneralROM nodeId) (n + 66) (fetchDescriptorDirectory rom absOffset completion) := by
  apply within_ask.mpr
  refine ⟨hrom, fun ok header hheader => ?_⟩
  have hend : Within (GeneralROM nodeId) (n + 65) (completion [] header) :=
    (h [] header hheader).mono (by omega)
  split_ifs
  · exact hend
  · exact hend
  · exact hend
  · refine ⟨hheader, fun ok rom hrom => ?_⟩
    dsimp only
    split_ifs
    · exact (h [] rom hrom).mono (by omega)
    · have hlength := length_descriptorCandidates rom absOffset
        (min (headerLength header absOffset) 32)
      exact (fetchNextCandidate_within h _ hrom).mono (by omega)

/-- A text takes 66 questions at most: a directory with 32 leaves. -/
lemma fetchReferenced_within
    (h : ∀ text rom, GeneralROM nodeId rom → Within (GeneralROM nodeId) n (completion text rom))
    (hrom : GeneralROM nodeId rom) (base : ℕ) (ref : Option DescriptorRef) :
    Within (GeneralROM nodeId) (n + 66) (fetchReferenced rom base ref completion) := by
  cases ref with
  | none => exact (h [] rom hrom).mono (by omega)
  | some ref =>
    simp only [fetchReferenced, textDescriptorFetcher]
    split_ifs
    · exact (fetchLeaf_within h hrom _).mono (by omega)
    · exact fetchDescriptorDirectory_within h hrom _
    · exact (h [] rom hrom).mono (by omega)

lemma startNextUnitDir_within (rootDirStart : ℕ) (units : List ℕ) (hrom : GeneralROM nodeId rom) :
    Within (GeneralROM nodeId) (68 * units.length) (startNextUnitDir rootDirStart units rom) := by
  induction units generalizing rom with
  | nil => exact within_done.mpr hrom
  | cons unitRel units ih =>
    rw [List.length_cons, show 68 * (units.length + 1) = 68 * units.length + 66 + 1 + 1 by ring]
    refine ⟨hrom, fun ok header hheader => ?_⟩
    have hskip : Within (GeneralROM nodeId) (68 * units.length + 66 + 1)
        (startNextUnitDir rootDirStart units header) := (ih hheader).mono (by omega)
    dsimp only
    split_ifs
    · exact hskip
    · exact within_done.mpr hheader
    · exact hskip
    · refine ⟨hheader, fun ok rom hrom => ?_⟩
      dsimp only
      split_ifs
      · exact (ih hrom).mono (by omega)
      · exact within_done.mpr hrom
      · apply fetchReferenced_within _ hrom
        intro text rom hrom
        apply ih
        exact ⟨hrom.nodeId, hrom.format⟩

/-- How many times the discovery of one node may ask for a longer prefix. -/
def kDetailsBound : ℕ := 4485

lemma appendRootDirAndParse_within (rootDirStart : ℕ) (rootDirBE : List ℕ)
    (hrom : GeneralROM nodeId rom) :
    Within (GeneralROM nodeId) (68 * 64 + 66 + 66)
      (appendRootDirAndParse rootDirStart rootDirBE rom) := by
  have hunits : (unitDirRelOffsets (parseDirectoryBestEffort rootDirBE 64)).length ≤ 64 :=
    (List.length_filterMap_le _ _).trans (length_parseDirectoryBestEffort _ _)
  unfold appendRootDirAndParse
  dsimp only
  apply fetchReferenced_within (n := 68 * 64 + 66)
  · intro text rom hrom
    apply fetchReferenced_within (n := 68 * 64)
    · intro text rom hrom
      apply (startNextUnitDir_within rootDirStart _ _).mono (by omega)
      split_ifs
      · exact ⟨hrom.nodeId, hrom.format⟩
      · exact hrom
    · split_ifs
      · exact ⟨hrom.nodeId, hrom.format⟩
      · exact hrom
  · exact ⟨hrom.nodeId, hrom.format⟩

theorem startDetailsDiscovery_within (rootDirStart : ℕ) (rootDirBE : List ℕ)
    (hrom : GeneralROM nodeId rom) :
    Within (GeneralROM nodeId) kDetailsBound
      (startDetailsDiscovery rootDirStart rootDirBE rom) := by
  have hnext : ∀ (ok : Bool) rom, GeneralROM nodeId rom → Within (GeneralROM nodeId) 4484
      (appendRootDirAndParse rootDirStart rootDirBE rom) :=
    fun ok rom hrom => appendRootDirAndParse_within rootDirStart rootDirBE hrom
  exact ⟨hrom, hnext⟩

end ASFireWire.Discovery
