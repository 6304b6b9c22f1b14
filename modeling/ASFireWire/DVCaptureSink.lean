import ASFireWire.Quadlets
import ASFireWire.RingWindows
import ASFireWire.Runs

/-! The DV capture sink: what it makes of a received packet, and the record ring it shares with an
application that reads at its own pace, byte by byte. -/
namespace ASFireWire.DV

open Quadlets

def kRecordBytes : ℕ := 480

def kTransportPrefixBytes : ℕ := 8

def kCipHeaderBytes : ℕ := 8

def kSphBytes : ℕ := 4

/-- Event code `ack_complete` of a completed receive descriptor. -/
def kAckComplete : ℕ := 0x11

/-- Bytes of the ring header in front of the first record. -/
def headerBytes : ℕ := 192

structure IsochReceivePacket where
  transferStatus : ℕ
  payload : List UInt8
  deriving DecidableEq, Repr

structure CIPHeader where
  sourceNodeId : ℕ
  dataBlockSize : ℕ
  sourcePacketHeader : Bool
  dataBlockCounter : ℕ
  format : ℕ
  fdf : ℕ
  syt : ℕ
  deriving DecidableEq, Repr

/-- The two quadlets as the bus carries them, already in host order. -/
def CIPHeader.decode (q0 q1 : ℕ) : Option CIPHeader :=
  if q0 / 2 ^ 31 % 2 ≠ 0 then none
  else if q1 / 2 ^ 31 % 2 ≠ 1 then none
  else some {
    sourceNodeId := q0 / 2 ^ 24 % 2 ^ 6
    dataBlockSize := q0 / 2 ^ 16 % 2 ^ 8
    sourcePacketHeader := q0 / 2 ^ 10 % 2 = 1
    dataBlockCounter := q0 % 2 ^ 8
    format := q1 / 2 ^ 24 % 2 ^ 6
    fdf := q1 / 2 ^ 16 % 2 ^ 8
    syt := q1 % 2 ^ 16 }

/-- Section and sequence number of each of the six DIF blocks are ones DV uses. -/
def hasPlausibleDifIds (chunk : List UInt8) : Bool :=
  (List.range 6).all fun block =>
    byteAt chunk (80 * block) / 2 ^ 5 ≤ 4 ∧ byteAt chunk (80 * block + 1) / 2 ^ 4 < 12

/-- What `ConsumePacket` makes of a packet before it looks at the ring: the two quadlets reported
with a rejected one, or the block counter and the source packets of an accepted one. -/
inductive Verdict
  | reject (q0 q1 : ℕ)
  | accept (dbc : ℕ) (sources : List (List UInt8))
  deriving DecidableEq, Repr

/-- The source packets of a payload, without their headers. -/
def sourcePackets (media : List UInt8) (sourcePacketBytes sourceHeaderBytes : ℕ) :
    List (List UInt8) :=
  (List.range (media.length / sourcePacketBytes)).map fun i =>
    (media.drop (i * sourcePacketBytes + sourceHeaderBytes)).take kRecordBytes

def examine (packet : IsochReceivePacket) : Verdict :=
  if packet.transferStatus % 2 ^ 5 ≠ kAckComplete ∨
      packet.payload.length < kTransportPrefixBytes + kCipHeaderBytes then .reject 0 0
  else
    let content := packet.payload.drop kTransportPrefixBytes
    -- the rejected quadlets are reported as they lie in memory
    let reject := Verdict.reject (le32At content 0) (le32At content 4)
    match CIPHeader.decode (be32At content 0) (be32At content 4) with
    | none => reject
    | some cip =>
      if cip.format ≠ 0 then reject
      else
        let media := content.drop kCipHeaderBytes
        if media ≠ [] ∧ cip.dataBlockSize ≠ kRecordBytes / 4 then reject
        else
          let sourceHeaderBytes := if cip.sourcePacketHeader then kSphBytes else 0
          let sourcePacketBytes := kRecordBytes + sourceHeaderBytes
          if media.length % sourcePacketBytes ≠ 0 then reject
          else .accept cip.dataBlockCounter
            (sourcePackets media sourcePacketBytes sourceHeaderBytes)

/-- The counters and indices of the shared ring header; all are 32 bits wide. -/
structure DVRingHeader where
  packetsSeen : ℕ := 0
  dvSourcePackets : ℕ := 0
  nonDvPackets : ℕ := 0
  overruns : ℕ := 0
  lastRejectLen : ℕ := 0
  lastRejectQ0 : ℕ := 0
  lastRejectQ1 : ℕ := 0
  lastXferStatus : ℕ := 0
  dbcDiscontinuities : ℕ := 0
  invalidDifBlocks : ℕ := 0
  writeIndex : ℕ := 0
  readIndex : ℕ := 0
  deriving DecidableEq, Repr

/-- The sink with the memory it shares: `data` is the record area behind the header. -/
structure DVCaptureSink where
  header : DVRingHeader
  data : ℕ → UInt8
  numRecords : ℕ
  expectedDbc : ℕ
  dbcInitialized : Bool

def next32 (counter : ℕ) : ℕ := (counter + 1) % 2 ^ 32

namespace DVCaptureSink

def requiredBytes (numRecords : UInt32) : ℕ := headerBytes + numRecords.toNat * kRecordBytes

/-- `InitializeAndAttach` on a mapping of `bytes` bytes. -/
def initializeAndAttach (bytes : ℕ) (numRecords : UInt32) : Option DVCaptureSink :=
  if numRecords = 0 ∨ bytes < requiredBytes numRecords then none
  else some {
    header := {}, data := fun _ => 0, numRecords := numRecords.toNat
    expectedDbc := 0, dbcInitialized := false }

def reject (s : DVCaptureSink) (packet : IsochReceivePacket) (q0 q1 : ℕ) : DVCaptureSink :=
  { s with header := { s.header with
      nonDvPackets := next32 s.header.nonDvPackets
      lastRejectLen := packet.payload.length % 2 ^ 32
      lastRejectQ0 := q0
      lastRejectQ1 := q1 } }

/-- The block counter of an accepted packet with `blocks` source packets. -/
def continueDbc (s : DVCaptureSink) (dbc blocks : ℕ) : DVCaptureSink :=
  if blocks = 0 then s
  else {
    s with
    header := if s.dbcInitialized ∧ dbc ≠ s.expectedDbc then
        { s.header with dbcDiscontinuities := next32 s.header.dbcDiscontinuities }
      else s.header
    expectedDbc := (dbc + blocks % 2 ^ 8) % 2 ^ 8
    dbcInitialized := true }

/-- `ConsumePacket` up to its loop over the source packets, and what that loop runs over. -/
def beginPacket (s : DVCaptureSink) (packet : IsochReceivePacket) :
    DVCaptureSink × List (List UInt8) :=
  let s := { s with header := { s.header with
    packetsSeen := next32 s.header.packetsSeen
    lastXferStatus := packet.transferStatus } }
  match examine packet with
  | .reject q0 q1 => (s.reject packet q0 q1, [])
  | .accept dbc sources => (s.continueDbc dbc sources.length, sources)

/-- Records written and not read, by the 32-bit indices. -/
def occupancy (s : DVCaptureSink) : ℕ :=
  (s.header.writeIndex + 2 ^ 32 - s.header.readIndex) % 2 ^ 32

def slot (s : DVCaptureSink) (index : ℕ) : ℕ := index % s.numRecords

def storeByte (s : DVCaptureSink) (address : ℕ) (value : UInt8) : DVCaptureSink :=
  { s with data := Function.update s.data address value }

end DVCaptureSink

/-! ### The driver's and the application's accesses, one at a time -/

/-- Where the driver stands in `ConsumePacket`: in the loop over the source packets, or in the copy
of one to its slot. -/
inductive WriterPc
  | idle
  | sources (left : List (List UInt8))
  | copying (source : List UInt8) (write copied : ℕ) (left : List (List UInt8))
  deriving DecidableEq, Repr

inductive ReaderPc
  | idle
  | copying (read : ℕ) (copied : List UInt8)
  deriving DecidableEq, Repr

/-- The ring between its two sides. `consumed`, `kept` and `obtained` are the history: the packets
handed to the sink, each plausible source packet so far with whether it was stored, and what the
application has read. -/
structure CaptureRing where
  sink : DVCaptureSink
  writer : WriterPc
  reader : ReaderPc
  consumed : List IsochReceivePacket
  kept : List (List UInt8 × Bool)
  obtained : List (List UInt8)

inductive CaptureEvent
  | packet (packet : IsochReceivePacket)
  | write
  | read
  deriving DecidableEq, Repr

namespace CaptureRing

def attached (sink : DVCaptureSink) : CaptureRing := ⟨sink, .idle, .idle, [], [], []⟩

/-- `ConsumePacket` is entered only after its last call returned. -/
def consume (w : CaptureRing) (packet : IsochReceivePacket) : CaptureRing :=
  match w.writer with
  | .idle =>
    let (sink, sources) := w.sink.beginPacket packet
    { w with sink := sink, writer := .sources sources, consumed := w.consumed ++ [packet] }
  | _ => w

/-- One access of the driver to the shared memory. -/
def write (w : CaptureRing) : CaptureRing :=
  let header := w.sink.header
  match w.writer with
  | .idle => w
  | .sources [] => { w with writer := .idle }
  | .sources (dif :: left) =>
    if !hasPlausibleDifIds dif then
      { w with
        sink := { w.sink with header := { header with
          invalidDifBlocks := next32 header.invalidDifBlocks } }
        writer := .sources left }
    else if w.sink.occupancy ≥ w.sink.numRecords then
      { w with
        sink := { w.sink with header := { header with
          overruns := next32 header.overruns
          dvSourcePackets := next32 header.dvSourcePackets } }
        writer := .sources left
        kept := w.kept ++ [(dif, false)] }
    else { w with writer := .copying dif header.writeIndex 0 left }
  | .copying source index copied left =>
    if copied < kRecordBytes then
      { w with
        sink := w.sink.storeByte (w.sink.slot index * kRecordBytes + copied) (source.getD copied 0)
        writer := .copying source index (copied + 1) left }
    else
      { w with
        sink := { w.sink with header := { header with
          writeIndex := next32 index
          dvSourcePackets := next32 header.dvSourcePackets } }
        writer := .sources left
        kept := w.kept ++ [(source, true)] }

/-- One access of the application, which reads a record only while the indices differ. -/
def read (w : CaptureRing) : CaptureRing :=
  let header := w.sink.header
  match w.reader with
  | .idle =>
    if header.readIndex ≠ header.writeIndex then
      { w with reader := .copying header.readIndex [] }
    else w
  | .copying index copied =>
    if copied.length < kRecordBytes then
      let byte := w.sink.data (w.sink.slot index * kRecordBytes + copied.length)
      { w with reader := .copying index (copied ++ [byte]) }
    else
      { w with
        sink := { w.sink with header := { header with readIndex := next32 index } }
        reader := .idle
        obtained := w.obtained ++ [copied] }

def step (w : CaptureRing) : CaptureEvent → CaptureRing
  | .packet packet => w.consume packet
  | .write => w.write
  | .read => w.read

end CaptureRing

end ASFireWire.DV
