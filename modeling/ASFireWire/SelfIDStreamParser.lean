import ASFireWire.TopologyTypes

/-! `SelfIDStreamParser::Parse`: Self-ID quadlets of a capture to one record per node. Quadlets
are 32-bit numbers, and masks with shifts are division and remainder by powers of two. -/
namespace ASFireWire.Topology

/-- `SelfIDCapture::Result`; a sequence is a start index into `quads` and a quadlet count. -/
structure SelfIDCaptureResult where
  quads : List ℕ := []
  sequences : List (ℕ × ℕ) := []
  generation : ℕ := 0
  valid : Bool := false
  timedOut : Bool := false
  crcError : Bool := false
  deriving DecidableEq, Repr

def kMaxFireWireNodes : ℕ := 63

def kSpeedToMbps : List ℕ := [100, 200, 400, 800, 1600, 3200, 6400, 12800]

def decodePort (code : ℕ) : PortState :=
  match code % 4 with
  | 0 => .notPresent
  | 1 => .notActive
  | 2 => .parent
  | _ => .child

def decodeSpeed (code : ℕ) : ℕ :=
  kSpeedToMbps.getD (if code < kSpeedToMbps.length then code else kSpeedToMbps.length - 1) 0

def extractPhyID (quad : ℕ) : ℕ := quad / 2 ^ 24 % 2 ^ 6

def isLinkActive (quad : ℕ) : Bool := quad / 2 ^ 22 % 2 ≠ 0

def isInitiatedReset (quad : ℕ) : Bool := quad / 2 % 2 ≠ 0

def extractGapCount (quad : ℕ) : ℕ := quad / 2 ^ 16 % 2 ^ 6

def extractSeq (quad : ℕ) : ℕ := quad / 2 ^ 20 % 2 ^ 3

def isContender (quad : ℕ) : Bool := quad / 2 ^ 11 % 2 ≠ 0

def extractPowerClass (quad : ℕ) : ℕ := quad / 2 ^ 8 % 2 ^ 3

def extractSpeedCode (quad : ℕ) : ℕ := quad / 2 ^ 14 % 2 ^ 2

/-- Ports of the base quadlet only. -/
def extractPortState (quad portIndex : ℕ) : PortState :=
  if 2 < portIndex then .notPresent else decodePort (quad / 2 ^ (6 - portIndex * 2))

def setPort (ports : Port → PortState) (index : ℕ) (state : PortState) : Port → PortState :=
  fun port => if port.val = index then state else ports port

/-- The loop over the port fields of an extended quadlet, from bits 23:22 downwards. -/
def storeExtendedPorts (first count extQuad : ℕ) (ports : Port → PortState) : Port → PortState :=
  (List.range count).foldl
    (fun ports p => setPort ports (first + p) (decodePort (extQuad / 2 ^ (22 - p * 2)))) ports

/-- One extended quadlet: packet 0 carries p3..p10 and packet 1 p11..p15. -/
def decodeExtended (record : SelfIDNodeRecord) (extQuad : ℕ) : SelfIDNodeRecord :=
  if extractSeq extQuad = 0 then
    { record with
      ports := storeExtendedPorts 3 8 extQuad record.ports
      portCount := max record.portCount 11 }
  else if extractSeq extQuad = 1 then
    { record with
      ports := storeExtendedPorts 11 5 extQuad record.ports
      portCount := max record.portCount 16 }
  else record

def decodeBase (baseQuad : ℕ) : SelfIDNodeRecord where
  physicalId := extractPhyID baseQuad
  linkActive := isLinkActive baseQuad
  contender := isContender baseQuad
  initiatedReset := isInitiatedReset baseQuad
  gapCount := extractGapCount baseQuad
  powerClass := extractPowerClass baseQuad
  speedCode := extractSpeedCode baseQuad
  maxSpeedMbps := decodeSpeed (extractSpeedCode baseQuad)
  baseRaw := baseQuad
  hasBasePacket := true
  ports := setPort (setPort (setPort (fun _ => .notPresent) 0 (extractPortState baseQuad 0))
    1 (extractPortState baseQuad 1)) 2 (extractPortState baseQuad 2)
  portCount := 3

/-- Highest port that is not absent, plus one. -/
def highestPort (ports : Port → PortState) : ℕ :=
  (List.finRange kMaxPhyPorts).foldl
    (fun actualCount p => if ports p ≠ .notPresent then p.val + 1 else actualCount) 0

/-- The record of one node from its base and extended quadlets. -/
def decodeNode (baseQuad : ℕ) (extQuads : List ℕ) : SelfIDNodeRecord :=
  let record := extQuads.foldl decodeExtended (decodeBase baseQuad)
  { record with portCount := highestPort record.ports }

abbrev NodeMap := ℕ → Option SelfIDNodeRecord

def parseSequence (quads : List ℕ) (nodeMap : NodeMap) (seq : ℕ × ℕ) :
    Except TopologyBuildError NodeMap :=
  if quads.length ≤ seq.1 ∨ quads.length < seq.1 + seq.2 then
    .error ⟨.invalidSelfID, "Self-ID sequence bounds exceed buffer"⟩
  else
    match (quads.drop seq.1).take seq.2 with
    | [] => .ok nodeMap
    | baseQuad :: extQuads =>
      let phyId := extractPhyID baseQuad
      if kMaxFireWireNodes ≤ phyId then
        .error ⟨.invalidSelfID,
          "Self-ID packet contains out-of-range physical ID: " ++ toString phyId⟩
      else if (nodeMap phyId).isSome then
        .error ⟨.duplicatePhysicalId,
          "Duplicate physical ID in Self-ID stream: " ++ toString phyId⟩
      else .ok (Function.update nodeMap phyId (some (decodeNode baseQuad extQuads)))

def validateContiguousPhysicalIds (records : List SelfIDNodeRecord) : Bool :=
  !records.isEmpty && records.map (·.physicalId) == List.range records.length

/-- The map's entries in the order of their keys. -/
def NodeMap.records (nodeMap : NodeMap) : List SelfIDNodeRecord :=
  (List.range kMaxFireWireNodes).filterMap nodeMap

/-- `SelfIDStreamParser::Parse`. -/
def parse (result : SelfIDCaptureResult) : Except TopologyBuildError (List SelfIDNodeRecord) :=
  if !result.valid then .error ⟨.invalidSelfID, "Self-ID capture result is invalid"⟩
  else if result.quads = [] then .error ⟨.emptySequenceSet, "Self-ID quadlet buffer is empty"⟩
  else do
    let nodeMap ← result.sequences.foldlM (parseSequence result.quads) fun _ => none
    if nodeMap.records = [] then
      .error ⟨.emptySequenceSet, "No valid Self-ID sequences found in stream"⟩
    else if !validateContiguousPhysicalIds nodeMap.records then
      .error ⟨.nonContiguousPhysicalIds,
        "Self-ID physical IDs are not contiguous from 0 to root"⟩
    else .ok nodeMap.records

end ASFireWire.Topology
