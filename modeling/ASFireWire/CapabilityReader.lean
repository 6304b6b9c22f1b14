import ASFireWire.DICETransaction

/-! The chain of block reads behind the capabilities of a DICE device. A continuation stands for
each completion callback; every read takes the next answer of the device. -/
namespace ASFireWire.DICE.DICETransaction

open Quadlets
open Async (AsyncStatus)

/-! ### Block reads -/

inductive SectionKind
  | global | txStreamFormat | rxStreamFormat
  deriving DecidableEq, Repr

/-- The row of the section table. -/
def SectionKind.row : SectionKind → ℕ
  | .global => 0
  | .txStreamFormat => 1
  | .rxStreamFormat => 2

/-- What a device holds and how it answers: the `n`-th read, of that length, ends with a status
and, on success, so many bytes. -/
structure BlockDevice where
  memory : BitVec 48 → UInt8
  answer : ℕ → ℕ → AsyncStatus × ℕ

/-- The bytes of memory from an address on. -/
def bytesAt (memory : BitVec 48 → UInt8) (address : BitVec 48) (length : ℕ) : List UInt8 :=
  (List.range length).map fun k => memory (address + BitVec.ofNat 48 k)

/-- No payload is longer than what was asked for, none comes with a failure. -/
def BlockDevice.delivered (device : BlockDevice) (n length : ℕ) : ℕ :=
  if (device.answer n length).1 = .success then min (device.answer n length).2 length else 0

/-- A read as it was issued, with the section it was for (`none` for the section table) and the
bytes that came. -/
structure BlockRead where
  kind : Option SectionKind
  address : BitVec 48
  length : ℕ
  delivered : ℕ
  deriving DecidableEq, Repr

structure GlobalState where
  owner : ℕ := 0
  notification : ℕ := 0
  nickname : List UInt8 := []
  clockSelect : ℕ := 0
  enabled : Bool := false
  status : ℕ := 0
  extStatus : ℕ := 0
  sampleRate : ℕ := 0
  version : ℕ := 0
  clockCaps : ℕ := 0
  deriving DecidableEq, Repr

structure DICECapabilities where
  global : GlobalState := {}
  txStreams : StreamConfig := {}
  rxStreams : StreamConfig := {}
  valid : Bool := false
  deriving DecidableEq, Repr

/-- The reads issued and the calls of the client's callback so far. -/
structure Session where
  reads : List BlockRead := []
  callbacks : List (IOReturn × DICECapabilities) := []
  deriving DecidableEq, Repr

/-- The bus reply under a register read, and whether the route was current before and after. -/
structure BusReply where
  routeCurrent : Bool := true
  status : AsyncStatus := .success
  stillCurrent : Bool := true
  count : ℕ := 0
  deriving DecidableEq, Repr

/-- `ProtocolRegisterIO::ReadBlock`: the answer that a reply becomes. -/
def registerAnswer (reply : BusReply) (length : ℕ) : AsyncStatus × ℕ :=
  if !reply.routeCurrent then (.staleGeneration, 0)
  else if !reply.stillCurrent then (.staleGeneration, 0)
  else if reply.status ≠ .success then (reply.status, 0)
  else if reply.count < length then (.shortRead, reply.count)
  else (.success, reply.count)

/-- Behind the register reads of the driver. -/
def behindRegisterReads (memory : BitVec 48 → UInt8) (bus : ℕ → BusReply) : BlockDevice :=
  { memory, answer := fun n length => registerAnswer (bus n) length }

abbrev Callback (α : Type) := IOReturn → α → Session → Session

/-- The device answers in turn. -/
def readBlock (device : BlockDevice) (kind : Option SectionKind) (address : BitVec 48) (length : ℕ)
    (callback : AsyncStatus → List UInt8 → Session → Session) (session : Session) : Session :=
  let n := session.reads.length
  let count := device.delivered n length
  callback (device.answer n length).1 (bytesAt device.memory address count)
    { session with reads := session.reads ++ [⟨kind, address, length, count⟩] }

/-! ### Section table and global state -/

def Section.deserialize (data : List UInt8) : Section :=
  { offset := BitVec.ofNat 32 (be32At data 0 * 4), size := BitVec.ofNat 32 (be32At data 4 * 4) }

def GeneralSections.kWireSize : ℕ := 40

def GeneralSections.deserialize (data : List UInt8) : GeneralSections :=
  { global := Section.deserialize data, txStreamFormat := Section.deserialize (data.drop 8)
    rxStreamFormat := Section.deserialize (data.drop 16) }

def readGeneralSections (device : BlockDevice) (callback : Callback GeneralSections) :
    Session → Session :=
  readBlock device none (makeDICEAddress 0) GeneralSections.kWireSize fun status payload =>
    if status ≠ .success ∨ payload.length < GeneralSections.kWireSize then
      callback (mapTransportStatus status) {}
    else callback .success (GeneralSections.deserialize payload)

/-- Sixteen quadlets of text with their first character in the least significant byte, up to a NUL
or 63 characters. -/
def decodeDiceNickname (data : List UInt8) : List UInt8 :=
  let quadlets := min 16 ((data.length - 0x0C) / 4)
  let text := (List.range quadlets).flatMap fun q => leBytes (be32At data (0x0C + 4 * q))
  (text.takeWhile (· ≠ 0)).take 63

/-- The quadlet at `i`, where the payload reaches its end. -/
def quadletWithin (data : List UInt8) (i : ℕ) : ℕ :=
  if i + 4 ≤ data.length then be32At data i else 0

/-- The fields that the payload reaches. -/
def parseGlobalState (data : List UInt8) : GlobalState :=
  { owner := if 8 ≤ data.length then be32At data 0 * 2 ^ 32 + be32At data 4 else 0
    notification := quadletWithin data 0x08
    nickname := if 0x4C ≤ data.length then decodeDiceNickname data else []
    clockSelect := quadletWithin data 0x4C
    enabled := quadletWithin data 0x50 ≠ 0
    status := quadletWithin data 0x54
    extStatus := quadletWithin data 0x58
    sampleRate := quadletWithin data 0x5C
    version := quadletWithin data 0x60
    clockCaps := quadletWithin data 0x64 }

/-- `ReadGlobalState`: at most the standard fields. -/
def globalReadSize (sections : GeneralSections) : ℕ :=
  if sections.global.size.toNat ≥ 0x68 then 0x68 else sections.global.size.toNat

def readGlobalState (device : BlockDevice) (sections : GeneralSections)
    (callback : Callback GlobalState) : Session → Session :=
  readBlock device (some .global) (makeDICEAddress sections.global.offset) (globalReadSize sections)
    fun status payload =>
      if status ≠ .success then callback (mapTransportStatus status) {}
      else callback .success (parseGlobalState payload)

/-! ### Stream sections -/

def kSectionReadChunkBytes : ℕ := 512
def kMaxSectionReadBytes : ℕ := 4096

/-- `turns` bounds the recursion: a loop that used it up would call nothing. -/
def readSectionChunked (device : BlockDevice) (kind : SectionKind) (sectionOffsetBytes : Quadlet)
    (totalBytes : ℕ) (done : Callback (List UInt8)) :
    ℕ → List UInt8 → Session → Session
  | 0, _ => id
  | turns + 1, accumulated =>
    if accumulated.length ≥ totalBytes then done .success accumulated
    else
      let chunk := min kSectionReadChunkBytes (totalBytes - accumulated.length)
      readBlock device (some kind)
        (makeDICEAddress (sectionOffsetBytes + BitVec.ofNat 32 accumulated.length)) chunk
        fun status payload =>
          if status ≠ .success ∨ payload = [] then
            if accumulated = [] then done (mapTransportStatus status) accumulated
            else done .success accumulated
          else
            readSectionChunked device kind sectionOffsetBytes totalBytes done turns
              (accumulated ++ payload)

def sectionReadSize (sec : Section) : ℕ := min sec.size.toNat kMaxSectionReadBytes

/-- `ReadTxStreamConfig` and `ReadRxStreamConfig`. -/
def readStreamConfig (device : BlockDevice) (kind : SectionKind) (sec : Section)
    (isRxLayout : Bool) (callback : Callback StreamConfig) : Session → Session :=
  readSectionChunked device kind sec.offset (sectionReadSize sec)
    (fun status accumulated =>
      if status ≠ .success then callback status {}
      else callback .success (parseStreamConfig accumulated isRxLayout))
    (sectionReadSize sec + 1) []

def readTxStreamConfig (device : BlockDevice) (sections : GeneralSections)
    (callback : Callback StreamConfig) : Session → Session :=
  readStreamConfig device .txStreamFormat sections.txStreamFormat false callback

def readRxStreamConfig (device : BlockDevice) (sections : GeneralSections)
    (callback : Callback StreamConfig) : Session → Session :=
  readStreamConfig device .rxStreamFormat sections.rxStreamFormat true callback

/-! ### Capabilities -/

def readCapabilities (device : BlockDevice) (callback : Callback DICECapabilities) :
    Session → Session :=
  readGeneralSections device fun status sections =>
    if status ≠ .success then callback status {}
    else readGlobalState device sections fun status global =>
      if status ≠ .success then callback status {}
      else readTxStreamConfig device sections fun status txStreams =>
        if status ≠ .success then callback status {}
        else readRxStreamConfig device sections fun status rxStreams =>
          if status ≠ .success then callback status {}
          else callback .success { global, txStreams, rxStreams, valid := true }

/-- A client that notes what it is told. -/
def note : Callback DICECapabilities := fun status caps session =>
  { session with callbacks := session.callbacks ++ [(status, caps)] }

/-- One request from its start to where nothing is left to be answered. -/
def BlockDevice.session (device : BlockDevice) : Session := readCapabilities device note {}

end ASFireWire.DICE.DICETransaction
