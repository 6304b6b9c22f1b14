import ASFireWire.Quadlets

/-! Echo Fireworks Command frames (`Audio/Protocols/Fireworks/EfcProtocol`): six big-endian header
quadlets and parameters. -/
namespace ASFireWire.Fireworks

open Quadlets

inductive Category | hwInfo | transport | hwCtl
  deriving DecidableEq, Repr

def Category.code : Category → ℕ
  | hwInfo => 0
  | transport => 2
  | hwCtl => 3

def kHeaderQuadlets : ℕ := 6

def kHeaderBytes : ℕ := 24

def kProtocolVersion : ℕ := 1

def kSeqnumFirst : ℕ := 0x00010000

def kSeqnumStep : ℕ := 2

def kSeqnumLast : ℕ := 0xFFFFFFFC

def kMaxAttempts : ℕ := 3

/-- The status of a command that worked. -/
def kStatusOk : ℕ := 0

def nextSeqnum (current : ℕ) : ℕ :=
  if current < kSeqnumFirst ∨ kSeqnumLast ≤ current then kSeqnumFirst else current + kSeqnumStep

structure Header where
  lengthQuadlets : ℕ := 0
  version : ℕ := 0
  seqnum : ℕ := 0
  category : ℕ := 0
  command : ℕ := 0
  status : ℕ := 0
  deriving DecidableEq, Repr

structure Response where
  header : Header := {}
  paramBytes : List UInt8 := []
  deriving DecidableEq, Repr

def encodeCommand (seqnum : ℕ) (category : Category) (command : ℕ) (params : List ℕ) : List UInt8 :=
  beBytes (kHeaderQuadlets + params.length) ++ beBytes kProtocolVersion ++ beBytes seqnum ++
    beBytes category.code ++ beBytes command ++ beBytes 0 ++ params.flatMap beBytes

/-- `DecodeResponse`; the shorter of advertised and delivered length counts. -/
def decodeResponse (wire : List UInt8) : Option Response :=
  if wire.length < kHeaderBytes then none
  else
    let header : Header := {
      lengthQuadlets := be32At wire 0, version := be32At wire 4, seqnum := be32At wire 8
      category := be32At wire 12, command := be32At wire 16, status := be32At wire 20 }
    if header.lengthQuadlets < kHeaderQuadlets then none
    else if header.version < kProtocolVersion then none
    else
      let availableBytes := min (header.lengthQuadlets * 4) wire.length
      some ⟨header, (wire.drop kHeaderBytes).take (availableBytes - kHeaderBytes)⟩

/-- The sequence number a device answers with. -/
def echoed (commandSeqnum : ℕ) : ℕ := (commandSeqnum + 1) % 2 ^ 32

def responseMatches (response : Response) (commandSeqnum : ℕ) (category : Category)
    (command : ℕ) : Bool :=
  response.header.seqnum = echoed commandSeqnum && response.header.category = category.code &&
    response.header.command = command

end ASFireWire.Fireworks
