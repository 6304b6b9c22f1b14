import ASFireWire.Quadlets

/-! The driver's own Config ROM (`ConfigROM/Local/ConfigROMBuilder.cpp`): a bus information block
of five quadlets, then a root directory into which entries and text leaves are appended in call
order. -/
namespace ASFireWire.ConfigROM

open Quadlets

/-! ### CRC-16 of IEEE 1212 -/

def kConfigROMCRCPolynomial : UInt16 := 0x1021

def crcShift (crc : UInt16) : UInt16 :=
  if crc &&& 0x8000 ≠ 0 then (crc <<< 1) ^^^ kConfigROMCRCPolynomial else crc <<< 1

def crcStep (crc data : UInt16) : UInt16 := crcShift^[16] (crc ^^^ data)

/-- The CRC of host-order quadlets; builder and parser spell the same loop. -/
def computeCRC16 (quadlets : List ℕ) : UInt16 :=
  quadlets.foldl
    (fun crc q => crcStep (crcStep crc (UInt16.ofNat (q / 65536))) (UInt16.ofNat q)) 0

/-! ### Fields -/

namespace EntryType

def kImmediate : ℕ := 0

def kCSROffset : ℕ := 1

def kLeaf : ℕ := 2

def kDirectory : ℕ := 3

end EntryType

def kBusNameQuadlet : ℕ := 0x31333934

def makeDirectoryEntry (key type value24 : ℕ) : ℕ :=
  type % 4 * 2 ^ 30 + key % 64 * 2 ^ 24 + value24 % 2 ^ 24

/-- `SetGeneration`: bits 7..4 of the bus options. -/
def setGeneration (busOptions gen4 : ℕ) : ℕ :=
  busOptions / 256 * 256 + gen4 % 16 * 16 + busOptions % 16

/-- A length above a CRC, as directories and leaves begin. -/
def lengthAndCRC (length : ℕ) (crc : UInt16) : ℕ := length * 65536 + crc.toNat

/-! ### The builder -/

def kMaxQuadlets : ℕ := 256

/-- `words` holds the first `quadCount_` quadlets of the image, in host order. -/
structure ConfigROMBuilder where
  words : List ℕ := []
  rootDirHeaderIndex : Option ℕ := none
  lastBusOptions : ℕ := 0
  begun : Bool := false
  finalized : Bool := false
  deriving DecidableEq, Repr

namespace ConfigROMBuilder

def append (b : ConfigROMBuilder) (value : ℕ) : ConfigROMBuilder :=
  if b.words.length < kMaxQuadlets then { b with words := b.words ++ [value] } else b

def store (b : ConfigROMBuilder) (index value : ℕ) : ConfigROMBuilder :=
  { b with words := b.words.set index value }

def computeCRC (b : ConfigROMBuilder) (start count : ℕ) : UInt16 :=
  computeCRC16 ((b.words.drop start).take count)

def finaliseBIB (b : ConfigROMBuilder) : ConfigROMBuilder :=
  if b.words.length < 5 then b
  else b.store 0 (4 * 2 ^ 24 + 4 * 2 ^ 16 + (b.computeCRC 1 4).toNat)

def beginImage (busOptions : UInt32) (guid : UInt64) : ConfigROMBuilder :=
  let b : ConfigROMBuilder := { begun := true, lastBusOptions := busOptions.toNat }
  let b := (b.append 0).append kBusNameQuadlet
  let b := b.append (setGeneration busOptions.toNat 0)
  let b := (b.append (guid.toNat / 2 ^ 32)).append (guid.toNat % 2 ^ 32)
  b.finaliseBIB

def ensureRootDirectory (b : ConfigROMBuilder) : ConfigROMBuilder :=
  match b.rootDirHeaderIndex with
  | some _ => b
  | none => { b with rootDirHeaderIndex := some b.words.length }.append 0

def addImmediateEntry (b : ConfigROMBuilder) (key : UInt8) (value24 : UInt32) :
    Bool × ConfigROMBuilder :=
  if !b.begun || b.finalized then (false, b)
  else
    let b := b.ensureRootDirectory
    if kMaxQuadlets ≤ b.words.length then (false, b)
    else
      (true, b.append (makeDirectoryEntry key.toNat EntryType.kImmediate value24.toNat))

/-- The quadlets of a text, padded with zero bytes. -/
def textQuadlets (text : List UInt8) : List ℕ :=
  (List.range ((text.length + 3) / 4)).map fun i => be32At text (i * 4)

/-- The leaf holds the text alone; the handle is its offset from the start of the image. -/
def writeTextLeaf (b : ConfigROMBuilder) (text : List UInt8) : ℕ × ConfigROMBuilder :=
  let leafOffset := b.words.length
  let payloadQuadlets := (text.length + 3) / 4
  if kMaxQuadlets < leafOffset + 1 + payloadQuadlets then (0, b)
  else
    let b := (textQuadlets text).foldl append (b.append 0)
    let crc := b.computeCRC (leafOffset + 1) payloadQuadlets
    (leafOffset, b.store leafOffset (lengthAndCRC payloadQuadlets crc))

def addTextLeaf (b : ConfigROMBuilder) (key : UInt8) (text : List UInt8) :
    ℕ × ConfigROMBuilder :=
  if !b.begun || b.finalized then (0, b)
  else
    let b := b.ensureRootDirectory
    if kMaxQuadlets ≤ b.words.length then (0, b)
    else
      let entryIndex := b.words.length
      let r := (b.append 0).writeTextLeaf text
      if r.1 = 0 then (0, r.2)
      else (r.1, r.2.store entryIndex (makeDirectoryEntry key.toNat EntryType.kLeaf r.1))

def finaliseRootDirectory (b : ConfigROMBuilder) : ConfigROMBuilder :=
  match b.rootDirHeaderIndex with
  | none => b
  | some headerIndex =>
    if b.words.length ≤ headerIndex then b
    else
      let entries := b.words.length - headerIndex - 1
      b.store headerIndex (lengthAndCRC entries (b.computeCRC (headerIndex + 1) entries))

def finalize (b : ConfigROMBuilder) : ConfigROMBuilder :=
  if !b.begun || b.finalized then b else { b.finaliseRootDirectory with finalized := true }

def updateGeneration (b : ConfigROMBuilder) (generation : UInt8) : ConfigROMBuilder :=
  if b.words.length < 3 then b
  else (b.store 2 (setGeneration b.lastBusOptions generation.toNat)).finaliseBIB

/-- `ImageBE`: the quadlets as a big-endian reader finds them in memory. -/
def imageBE (b : ConfigROMBuilder) : List ℕ := b.words.map swap32

/-! ### Sequences of calls -/

end ConfigROMBuilder

inductive RomCall
  | immediate (key : UInt8) (value24 : UInt32)
  | text (key : UInt8) (text : List UInt8)
  deriving DecidableEq, Repr

def RomCall.isText : RomCall → Bool
  | .immediate _ _ => false
  | .text _ _ => true

namespace ConfigROMBuilder

/-- One call, with what it reports. -/
def addCall (b : ConfigROMBuilder) : RomCall → Bool × ConfigROMBuilder
  | .immediate key value24 => b.addImmediateEntry key value24
  | .text key text =>
    let r := b.addTextLeaf key text
    (decide (r.1 ≠ 0), r.2)

/-- The calls in order; `none` as soon as one of them reports a failure. -/
def addCalls (b : ConfigROMBuilder) : List RomCall → Option ConfigROMBuilder
  | [] => some b
  | call :: calls =>
    let r := b.addCall call
    if r.1 then r.2.addCalls calls else none

/-- `Begin`, the calls, `Finalize`, then generation updates. -/
def image (busOptions : UInt32) (guid : UInt64) (calls : List RomCall)
    (generations : List UInt8) : Option (List ℕ) :=
  ((beginImage busOptions guid).addCalls calls).map fun b =>
    (generations.foldl updateGeneration b.finalize).imageBE

end ConfigROMBuilder

end ASFireWire.ConfigROM
