import ASFireWire.FCPTransport
import ASFireWire.InfoBlockTrees

/-! Reading a whole AV/C descriptor in chunks (`Protocols/AVC/Descriptors/DescriptorAccessor.cpp`)
with READ DESCRIPTOR commands (`AVCDescriptorCommands.hpp`, `AVCCommand.hpp`). -/
namespace ASFireWire.AVC

open AVCInfoBlock InfoTree Quadlets

def isSuccess (result : AVCResult) : Bool :=
  result = .accepted || result = .implementedStable || result = .changed

def MAX_DESCRIPTOR_CHUNK_SIZE : ℕ := 128

def kAVCOperandMaxLength : ℕ := kAVCFrameMaxSize - kAVCFrameMinSize

namespace ReadResultStatus

def kComplete : UInt8 := 0x10

def kMoreToRead : UInt8 := 0x11

end ReadResultStatus

/-- A command or a response; the operand length is that of the list. -/
structure AVCCdb where
  ctype : UInt8
  subunit : UInt8
  opcode : UInt8
  operands : List UInt8
  deriving DecidableEq, Repr

/-- Zero bytes up to a whole quadlet. -/
def padding (unpaddedLength : ℕ) : List UInt8 := List.replicate ((4 - unpaddedLength % 4) % 4) 0

namespace AVCCdb

def encode (cdb : AVCCdb) : List UInt8 :=
  [cdb.ctype, cdb.subunit, cdb.opcode] ++ cdb.operands ++ padding (3 + cdb.operands.length)

def decode (frame : List UInt8) : Option AVCCdb :=
  if frame.length < kAVCFrameMinSize ∨ kAVCFrameMaxSize < frame.length then none
  else some {
    ctype := frame.getD 0 0
    subunit := frame.getD 1 0
    opcode := frame.getD 2 0
    operands := (frame.drop 3).take kAVCOperandMaxLength }

end AVCCdb

def cTypeToResult (ctype : UInt8) : AVCResult :=
  if ctype = 0x09 then .accepted
  else if ctype = 0x0C then .implementedStable
  else if ctype = 0x0D then .changed
  else if ctype = 0x0B then .inTransition
  else if ctype = kInterim then .interim
  else if ctype = 0x08 then .notImplemented
  else if ctype = 0x0A then .rejected
  else .invalidResponse

def mapFCPStatus : FCPStatus → AVCResult
  | .ok => .accepted
  | .timeout => .timeout
  | .busReset => .busReset
  | .busy => .busy
  | _ => .transportError

/-- What becomes of a command frame, by its attempt. -/
abbrev Transport := ℕ → List UInt8 → FCPStatus × List UInt8

/-- `AVCCommand::Submit` with `OnFCPComplete`. -/
def AVCCdb.submit (cdb : AVCCdb) (transport : Transport) (attempt : ℕ) : AVCResult × AVCCdb :=
  if kAVCOperandMaxLength < cdb.operands.length then (.invalidResponse, cdb)
  else
    match transport attempt cdb.encode with
    | (.ok, response) =>
      match AVCCdb.decode response with
      | none => (.invalidResponse, cdb)
      | some responseCdb => (cTypeToResult responseCdb.ctype, responseCdb)
    | (fcpStatus, _) => (mapFCPStatus fcpStatus, cdb)

/-- A specifier leaves room among the operands for a header and a chunk. -/
structure DescriptorSpecifier where
  type : UInt8
  typeSpecificFields : List UInt8 := []
  fits : typeSpecificFields.length + 7 + MAX_DESCRIPTOR_CHUNK_SIZE ≤ kAVCOperandMaxLength := by decide
  deriving DecidableEq, Repr

namespace DescriptorSpecifier

def buildSpecifier (specifier : DescriptorSpecifier) : List UInt8 :=
  specifier.type :: specifier.typeSpecificFields

def size (specifier : DescriptorSpecifier) : ℕ := 1 + specifier.typeSpecificFields.length

end DescriptorSpecifier

namespace AVCReadDescriptorCommand

structure ReadResult where
  data : List UInt8 := []
  status : UInt8 := ReadResultStatus.kComplete
  dataLength : ℕ := 0
  offset : ℕ := 0
  deriving DecidableEq, Repr

def buildCdb (subunitAddr : UInt8) (specifier : DescriptorSpecifier) (offset length : ℕ) :
    AVCCdb where
  ctype := 0x00
  subunit := subunitAddr
  opcode := 0x09
  operands := specifier.buildSpecifier ++ ([0xFF, 0x00] ++ be16Bytes length ++ be16Bytes offset)

/-- What `Submit` reads from the response. -/
def readResult (specSize : ℕ) (result : AVCResult) (response : AVCCdb) : ReadResult :=
  let headerSize := specSize + 6
  if isSuccess result && headerSize ≤ response.operands.length then
    let dataLength := readBE16 response.operands (specSize + 2)
    { status := response.operands.getD specSize 0
      dataLength := dataLength
      offset := readBE16 response.operands (specSize + 4)
      data := (response.operands.drop headerSize).take
        (min dataLength (response.operands.length - headerSize)) }
  else {}

end AVCReadDescriptorCommand

open AVCReadDescriptorCommand (ReadResult)

structure ReadDescriptorResult where
  success : Bool
  data : List UInt8 := []
  avcResult : AVCResult
  deriving DecidableEq, Repr

structure ReadChunkState where
  accumulatedData : List UInt8 := []
  totalDescriptorLength : ℕ := 0
  bytesReadSoFar : ℕ := 0
  attemptCount : ℕ := 0
  deriving DecidableEq, Repr

/-- A command that was submitted, in its state, and the data that came back. -/
structure ChunkRead where
  attempt : ℕ
  offset : ℕ
  length : ℕ
  totalDescriptorLength : ℕ
  data : List UInt8
  deriving DecidableEq, Repr

/-- The commands of a read, and the calls of its completion. -/
structure ReadTrace where
  reads : List ChunkRead := []
  completions : List ReadDescriptorResult := []
  deriving DecidableEq, Repr

namespace DescriptorAccessor

def kMaxAttempts : ℕ := 50

def kMaxDescriptorLength : ℕ := 4096

def kApogeeExtraBytes : ℕ := 64

/-- The length of the next command; what remains is a 16-bit difference. -/
def chunkSize (state : ReadChunkState) : ℕ :=
  if 0 < state.totalDescriptorLength then
    min MAX_DESCRIPTOR_CHUNK_SIZE
      ((state.totalDescriptorLength + 2 ^ 16 - state.bytesReadSoFar) % 2 ^ 16)
  else MAX_DESCRIPTOR_CHUNK_SIZE

/-- The status of the device, overridden by the declared length, overridden by an empty chunk. -/
def shouldContinue (state : ReadChunkState) (r : ReadResult) : Bool :=
  let byStatus := decide (r.status = ReadResultStatus.kMoreToRead)
  let byLength := if 0 < state.totalDescriptorLength then
      decide (state.bytesReadSoFar < (state.totalDescriptorLength + kApogeeExtraBytes) % 2 ^ 16)
    else byStatus
  if r.data = [] ∧ r.status = ReadResultStatus.kMoreToRead then false else byLength

/-- The state behind a chunk, or the result that the read ends with. -/
def handleReadChunk (state : ReadChunkState) (result : AVCResult) (r : ReadResult) :
    Except ReadDescriptorResult ReadChunkState :=
  if isSuccess result = false then .error { success := false, avcResult := result }
  else
    let total := if state.bytesReadSoFar = 0 ∧ 2 ≤ r.data.length then readBE16 r.data 0
      else state.totalDescriptorLength
    if state.bytesReadSoFar = 0 ∧ 2 ≤ r.data.length ∧ kMaxDescriptorLength < total then
      .error { success := false, avcResult := .invalidResponse }
    else
      let state := { state with
        totalDescriptorLength := total
        accumulatedData := state.accumulatedData ++ r.data
        bytesReadSoFar := (state.bytesReadSoFar + r.data.length) % 2 ^ 16 }
      if shouldContinue state r then .ok state
      else .error { success := true, data := state.accumulatedData, avcResult := result }

/-- The attempts end the recursion; 51 turns are enough. -/
def readNextChunk (transport : Transport) (subunitAddr : UInt8) (specifier : DescriptorSpecifier) :
    ℕ → ReadChunkState → ReadTrace
  | 0, _ => {}
  | turns + 1, state =>
    let state := { state with attemptCount := state.attemptCount + 1 }
    if kMaxAttempts < state.attemptCount then
      { completions := [{ success := false, avcResult := .timeout }] }
    else
      let cdb := AVCReadDescriptorCommand.buildCdb subunitAddr specifier state.bytesReadSoFar
        (chunkSize state)
      let response := cdb.submit transport state.attemptCount
      let r := AVCReadDescriptorCommand.readResult specifier.size response.1 response.2
      let read : ChunkRead := {
        attempt := state.attemptCount, offset := state.bytesReadSoFar, length := chunkSize state
        totalDescriptorLength := state.totalDescriptorLength, data := r.data }
      match handleReadChunk state response.1 r with
      | .error result => { reads := [read], completions := [result] }
      | .ok state =>
        let rest := readNextChunk transport subunitAddr specifier turns state
        { rest with reads := read :: rest.reads }

def readComplete (transport : Transport) (subunitAddr : UInt8) (specifier : DescriptorSpecifier) :
    ReadTrace :=
  readNextChunk transport subunitAddr specifier (kMaxAttempts + 1) {}

end DescriptorAccessor

end ASFireWire.AVC
