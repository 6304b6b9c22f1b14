import ASFireWire.Quadlets

/-! Received packets as AR DMA leaves them in memory: the parser (`Async/Rx/ARPacketParser`), the
header field helpers (`Async/PacketHelpers.hpp`), the dispatch view of `PacketRouter` and the
request context of `LocalRequestDispatch`. Header quadlets are little-endian in memory. -/
namespace ASFireWire.Async

open Quadlets

inductive ParseFailure | needMoreBytes | unknownTCode | zeroGarbage | oversizedPayload
  deriving DecidableEq, Repr

def kMaxAsyncPayloadBytes : ℕ := 4096

def kMaxPacketBytes : ℕ := 16 + kMaxAsyncPayloadBytes + 4

/-- `packetStart` is the memory from the first header byte on. -/
structure PacketInfo where
  packetStart : List UInt8
  headerLength : ℕ
  dataLength : ℕ
  totalLength : ℕ
  tCode : ℕ
  rCode : ℕ
  xferStatus : ℕ
  timeStamp : ℕ
  deriving DecidableEq, Repr

/-- Header bytes by tCode; zero for the tCodes the parser does not know. -/
def getHeaderLength (tCode : ℕ) : ℕ :=
  match tCode with
  | 0x0 | 0x6 | 0x5 | 0x1 | 0x7 | 0x9 | 0xB => 16
  | 0x2 | 0x4 | 0xE => 12
  | _ => 0

def getDataLength (header : List UInt8) (tCode : ℕ) : ℕ :=
  match tCode with
  | 0x1 | 0x7 | 0x9 | 0xB => if header.length < 16 then 0 else le32At header 12 / 2 ^ 16
  | _ => 0

/-- Bytes of header and data, rounded up to a quadlet. -/
def quadletAligned (n : ℕ) : ℕ := (n + 3) / 4 * 4

/-- Response packets carry an rCode, others the value 0xFF. -/
def rCodeOf (tCode q1 : ℕ) : ℕ :=
  match tCode with
  | 0x2 | 0x6 | 0x7 | 0xB => q1 / 2 ^ 12 % 16
  | _ => 0xFF

/-- `ParseNext`. -/
def parseNext (buffer : List UInt8) (offset : ℕ) : Except ParseFailure PacketInfo :=
  let packetStart := buffer.drop offset
  if packetStart.length < 8 then .error .needMoreBytes
  else
    let q0 := le32At packetStart 0
    let q1 := le32At packetStart 4
    let tCode := q0 / 16 % 16
    let headerLength := getHeaderLength tCode
    if headerLength = 0 then .error .unknownTCode
    else if packetStart.length < headerLength then .error .needMoreBytes
    else
      let dataLength := getDataLength (packetStart.take headerLength) tCode
      if kMaxAsyncPayloadBytes < dataLength then .error .oversizedPayload
      else
        let quadletAlignedLen := quadletAligned (headerLength + dataLength)
        if packetStart.length < quadletAlignedLen + 4 then .error .needMoreBytes
        else
          let trailer := le32At packetStart quadletAlignedLen
          let xferStatus := trailer / 2 ^ 16
          let timeStamp := trailer % 2 ^ 16
          if q0 = 0 ∧ q1 = 0 ∧ xferStatus = 0 ∧ timeStamp = 0 then .error .zeroGarbage
          else .ok {
            packetStart := packetStart, headerLength := headerLength, dataLength := dataLength
            totalLength := quadletAlignedLen + 4, tCode := tCode, rCode := rCodeOf tCode q1
            xferStatus := xferStatus, timeStamp := timeStamp }

/-! ### Header fields -/

/-- `ExtractDestOffset`: twelve bits of `offset_high`, sign-extended to sixteen. -/
def extractDestOffset (header : List UInt8) : ℕ :=
  if header.length < 12 then 0
  else
    let offsetHigh12 := byteAt header 5 % 16 * 2 ^ 8 + byteAt header 4
    let offsetHigh := if 0x800 ≤ offsetHigh12 then offsetHigh12 + 0xF000 else offsetHigh12
    offsetHigh * 2 ^ 32 + le32At header 8

def extractDataLength (header : List UInt8) : ℕ :=
  if header.length < 16 then 0 else byteAt header 14 + 2 ^ 8 * byteAt header 15

def extractExtendedTCode (header : List UInt8) : ℕ :=
  if header.length < 16 then 0 else byteAt header 12 + 2 ^ 8 * byteAt header 13

def extractSourceID (header : List UInt8) : ℕ :=
  if header.length < 8 then 0 else 2 ^ 8 * byteAt header 7 + byteAt header 6

def extractDestID (header : List UInt8) : ℕ :=
  if header.length < 4 then 0 else 2 ^ 8 * byteAt header 3 + byteAt header 2

def extractTLabel (header : List UInt8) : ℕ :=
  if header.length < 2 then 0 else byteAt header 1 / 4 % 64

/-! ### The dispatch view -/

structure ARPacketView where
  header : List UInt8
  payload : List UInt8
  tCode : ℕ
  sourceID : ℕ
  destID : ℕ
  tLabel : ℕ
  xferStatus : ℕ
  timeStamp : ℕ
  deriving DecidableEq, Repr

def kPayloadScratchBytes : ℕ := 4096

/-- `CopyAlignedPayload`: an empty result for no payload and for one too long for the scratch. -/
def copyAlignedPayload (source : List UInt8) : List UInt8 :=
  if kPayloadScratchBytes < source.length then [] else source

/-- The view `RouteParsedPacket` builds; `none` drops the packet. -/
def buildView (info : PacketInfo) : Option ARPacketView :=
  let header := info.packetStart.take info.headerLength
  let payload := copyAlignedPayload ((info.packetStart.drop info.headerLength).take info.dataLength)
  if 0 < info.dataLength ∧ payload = [] then none
  else some {
    header := header
    payload := if 0 < info.dataLength then payload else []
    tCode := info.tCode
    sourceID := if 6 ≤ info.headerLength then extractSourceID header else 0
    destID := if 6 ≤ info.headerLength then extractDestID header else 0
    tLabel := if 6 ≤ info.headerLength then extractTLabel header else 0
    xferStatus := info.xferStatus % 2 ^ 16
    timeStamp := info.timeStamp % 2 ^ 16 }

/-! ### The request context -/

def kTcodeWriteQuad : ℕ := 0x0
def kTcodeWriteBlock : ℕ := 0x1
def kTcodeReadQuad : ℕ := 0x4
def kTcodeReadBlock : ℕ := 0x5
def kTcodeLockRequest : ℕ := 0x9

structure LocalRequestContext where
  destOffset : ℕ := 0
  tCode : ℕ := 0
  sourceID : ℕ := 0
  generation : ℕ := 0
  quadletData : ℕ := 0
  writePayload : List UInt8 := []
  dataLength : ℕ := 0
  extendedTCode : ℕ := 0
  deriving DecidableEq, Repr

/-- `ReadQuadletDataLE`. -/
def readQuadletDataLE (header : List UInt8) : ℕ := if header.length < 16 then 0 else le32At header 12

/-- The context `DispatchView` hands to the handlers. -/
def requestContext (view : ARPacketView) (generation : ℕ) : LocalRequestContext :=
  let ctx : LocalRequestContext := {
    tCode := view.tCode, sourceID := view.sourceID, generation := generation
    destOffset := extractDestOffset view.header }
  if view.tCode = kTcodeWriteQuad ∧ 16 ≤ view.header.length then
    { ctx with
      quadletData := readQuadletDataLE view.header
      writePayload := (view.header.drop 12).take 4 }
  else if view.tCode = kTcodeWriteBlock then
    { ctx with writePayload := view.payload, dataLength := extractDataLength view.header }
  else if view.tCode = kTcodeReadBlock then
    { ctx with dataLength := extractDataLength view.header }
  else if view.tCode = kTcodeLockRequest then
    { ctx with
      writePayload := view.payload
      dataLength := extractDataLength view.header
      extendedTCode := extractExtendedTCode view.header }
  else ctx

end ASFireWire.Async
