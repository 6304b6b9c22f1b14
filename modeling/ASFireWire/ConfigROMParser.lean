import ASFireWire.ConfigROMBuilder

/-! The Config ROM parser (`ConfigROM/Parse/ConfigROMParser.cpp`): bus information block, generic
directories and textual descriptor leaves, all from big-endian quadlets. -/
namespace ASFireWire.ConfigROM

open Quadlets

inductive ErrorCode
  | nullInput | tooShort | outOfBounds | invalidHeader | unsupportedTextDescriptor
  | unsupportedTextEncoding
  deriving DecidableEq, Repr

structure ParseError where
  code : ErrorCode
  offsetQuadlets : ℕ
  deriving DecidableEq, Repr

inductive CRCStatus | notPresent | notCheckable | ok | mismatch
  deriving DecidableEq, Repr

inductive ConfigROMFormat | unknown | minimal1212 | general1394
  deriving DecidableEq, Repr

structure BusInfoBlock where
  format : ConfigROMFormat := .unknown
  busInfoLength : ℕ := 0
  crcLength : ℕ := 0
  crc : ℕ := 0
  irmc : Bool := false
  cmc : Bool := false
  isc : Bool := false
  bmc : Bool := false
  pmc : Bool := false
  cycClkAcc : ℕ := 0
  maxRec : ℕ := 0
  maxRom : ℕ := 0
  generation : ℕ := 0
  linkSpd : ℕ := 0
  guid : ℕ := 0
  deriving DecidableEq, Repr

structure BIBParseResult where
  bib : BusInfoBlock := {}
  crcStatus : CRCStatus := .notCheckable
  computed : Option UInt16 := none
  deriving DecidableEq, Repr

/-- `index` is 1-based; `targetRel` counts from the directory header. -/
structure DirectoryEntry where
  index : ℕ := 0
  keyType : ℕ := 0
  keyId : ℕ := 0
  value : ℕ := 0
  hasTarget : Bool := false
  targetRel : ℕ := 0
  deriving DecidableEq, Repr

/-- The host value of a quadlet of the span. -/
def readBEQuadlet (quadletsBE : List ℕ) (index : ℕ) : ℕ := swap32 (quadletsBE.getD index 0)

def kMinimal1212BusInfoLength : ℕ := 1

def kGeneral1394MinBusInfoLength : ℕ := 4

/-- The fields of quadlet 2 and the GUID of quadlets 3 and 4. -/
def generalBIB (bib : BusInfoBlock) (q2 q3 q4 : ℕ) : BusInfoBlock :=
  { bib with
    format := .general1394
    irmc := q2.testBit 31
    cmc := q2.testBit 30
    isc := q2.testBit 29
    bmc := q2.testBit 28
    pmc := q2.testBit 27
    cycClkAcc := q2 / 2 ^ 16 % 2 ^ 8
    maxRec := q2 / 2 ^ 12 % 2 ^ 4
    maxRom := q2 / 2 ^ 8 % 2 ^ 2
    generation := q2 / 2 ^ 4 % 2 ^ 4
    linkSpd := q2 % 2 ^ 3
    guid := q3 * 2 ^ 32 + q4 }

/-- A CRC mismatch is reported and does not stop the parse. -/
def checkBIBCRC (bib : BusInfoBlock) (bibQuadletsBE : List ℕ) : BIBParseResult :=
  if bib.crcLength = 0 then { bib := bib, crcStatus := .notPresent }
  else if bibQuadletsBE.length - 1 < bib.crcLength then { bib := bib, crcStatus := .notCheckable }
  else
    let crcInput := (List.range bib.crcLength).map fun i => readBEQuadlet bibQuadletsBE (i + 1)
    let computed := computeCRC16 crcInput
    { bib := bib
      computed := some computed
      crcStatus := if computed.toNat = bib.crc then .ok else .mismatch }

def parseBIB (bibQuadletsBE : List ℕ) : Except ParseError BIBParseResult :=
  if bibQuadletsBE = [] then .error ⟨.tooShort, 0⟩
  else
    let q0 := readBEQuadlet bibQuadletsBE 0
    let bib : BusInfoBlock :=
      { busInfoLength := q0 / 2 ^ 24 % 2 ^ 8
        crcLength := q0 / 2 ^ 16 % 2 ^ 8
        crc := q0 % 2 ^ 16 }
    if bib.busInfoLength = kMinimal1212BusInfoLength then
      .ok { bib := { bib with format := .minimal1212 }, crcStatus := .notCheckable }
    else if bib.busInfoLength < kGeneral1394MinBusInfoLength then .error ⟨.invalidHeader, 0⟩
    else if bib.crcLength ≠ 0 ∧ bib.crcLength < bib.busInfoLength then .error ⟨.invalidHeader, 0⟩
    else if bibQuadletsBE.length < bib.busInfoLength + 1 then
      .error ⟨.tooShort, bibQuadletsBE.length⟩
    else if readBEQuadlet bibQuadletsBE 1 ≠ kBusNameQuadlet then .error ⟨.invalidHeader, 1⟩
    else
      .ok (checkBIBCRC (generalBIB bib (readBEQuadlet bibQuadletsBE 2)
        (readBEQuadlet bibQuadletsBE 3) (readBEQuadlet bibQuadletsBE 4)) bibQuadletsBE)

/-- The 24-bit offset field as a signed number. -/
def signedOffset (value : ℕ) : ℤ := if value.testBit 23 then (value : ℤ) - 2 ^ 24 else value

def decodeEntry (index entry : ℕ) : DirectoryEntry :=
  let keyType := entry / 2 ^ 30 % 2 ^ 2
  let value := entry % 2 ^ 24
  let rel := (index : ℤ) + signedOffset value
  let hasTarget := (keyType = EntryType.kLeaf || keyType = EntryType.kDirectory) && 0 ≤ rel
  { index := index
    keyType := keyType
    keyId := entry / 2 ^ 24 % 2 ^ 6
    value := value
    hasTarget := hasTarget
    targetRel := if hasTarget then rel.toNat else 0 }

def parseDirectory (dirQuadletsBE : List ℕ) (entryCap : ℕ) :
    Except ParseError (List DirectoryEntry) :=
  if dirQuadletsBE = [] then .error ⟨.tooShort, 0⟩
  else
    let len := readBEQuadlet dirQuadletsBE 0 / 2 ^ 16 % 2 ^ 16
    let available := dirQuadletsBE.length - 1
    if available < len then .error ⟨.outOfBounds, available + 1⟩
    else
      .ok ((List.range (min len entryCap)).map fun i =>
        decodeEntry (i + 1) (readBEQuadlet dirQuadletsBE (i + 1)))

/-- The text of a descriptor leaf ends at the first zero byte. -/
def parseTextDescriptorLeaf (allQuadletsBE : List ℕ) (leafOffsetQuadlets : ℕ) :
    Except ParseError (List UInt8) :=
  let totalQuadlets := allQuadletsBE.length
  if totalQuadlets ≤ (leafOffsetQuadlets + 2) % 2 ^ 32 then
    .error ⟨.outOfBounds, leafOffsetQuadlets⟩
  else
    let leafLength := readBEQuadlet allQuadletsBE leafOffsetQuadlets / 2 ^ 16 % 2 ^ 16
    if leafLength < 2 ∨ totalQuadlets < (leafOffsetQuadlets + 1 + leafLength) % 2 ^ 32 then
      .error ⟨.invalidHeader, leafOffsetQuadlets⟩
    else if readBEQuadlet allQuadletsBE (leafOffsetQuadlets + 1) ≠ 0 then
      .error ⟨.unsupportedTextDescriptor, leafOffsetQuadlets + 1⟩
    else if readBEQuadlet allQuadletsBE (leafOffsetQuadlets + 2) ≠ 0 then
      .error ⟨.unsupportedTextEncoding, leafOffsetQuadlets + 2⟩
    else
      let textStartQuadlet := leafOffsetQuadlets + 3
      let textQuadlets := leafLength - 2
      if textQuadlets = 0 ∨ totalQuadlets < (textStartQuadlet + textQuadlets) % 2 ^ 32 then
        .error ⟨.tooShort, leafOffsetQuadlets⟩
      else
        .ok (((List.range textQuadlets).flatMap fun i =>
          beBytes (readBEQuadlet allQuadletsBE (textStartQuadlet + i))).takeWhile
            fun byte => byte ≠ 0)

end ASFireWire.ConfigROM
