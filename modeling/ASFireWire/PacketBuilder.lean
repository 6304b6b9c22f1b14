import ASFireWire.ARPacket
import ASFireWire.AsyncTypes

/-! Request headers (`Async/Tx/PacketBuilder`) in the controller's AT format: quadlet 0 without
the destination, quadlet 1 with destination and `offset_high`. -/
namespace ASFireWire.Async

open Quadlets

structure PacketContext where
  sourceNodeID : UInt16 := 0
  generation : ℕ := 0
  speedCode : UInt8 := 0
  deriving DecidableEq, Repr

namespace PacketBuilder

def kRetryX : ℕ := 1

def validateAddressHigh (addressHigh : UInt32) : Bool := addressHigh.toNat ≤ 0xFFFF

/-- An unknown generation is only logged. -/
def validateContext (context : PacketContext) : Bool := context.sourceNodeID.toNat ≠ 0

/-- Bus number of the local node, node number of the destination. -/
def destID (context : PacketContext) (destinationID : UInt16) : ℕ :=
  context.sourceNodeID.toNat / 64 % 1024 * 64 + destinationID.toNat % 64

def speed (requested : UInt8) (context : PacketContext) : ℕ :=
  (if requested.toNat ≠ 0xFF then requested.toNat else context.speedCode.toNat) % 8

/-- The first three quadlets every request has. -/
def headerNoData (tCode : ℕ) (destinationID : UInt16) (addressHigh addressLow : UInt32)
    (speedCode : UInt8) (label : UInt8) (context : PacketContext) : List UInt8 :=
  let quadlet0 := speed speedCode context * 2 ^ 16 + label.toNat % 64 * 2 ^ 10 + kRetryX * 2 ^ 8 +
    tCode * 2 ^ 4
  let quadlet1 := destID context destinationID * 2 ^ 16 + addressHigh.toNat % 2 ^ 16
  leBytes quadlet0 ++ (leBytes quadlet1 ++ leBytes addressLow.toNat)

def buildReadQuadlet (params : ReadParams) (label : UInt8) (context : PacketContext)
    (bufferSize : ℕ) : Option (List UInt8) :=
  if bufferSize < 12 then none
  else if params.length ≠ 0 ∧ params.length ≠ 4 then none
  else if !validateAddressHigh params.addressHigh then none
  else if !validateContext context then none
  else some (headerNoData kTcodeReadQuad params.destinationID params.addressHigh params.addressLow
    params.speedCode label context)

def buildReadBlock (params : ReadParams) (label : UInt8) (context : PacketContext)
    (bufferSize : ℕ) : Option (List UInt8) :=
  if bufferSize < 16 then none
  else if params.length = 0 ∨ 0xFFFF < params.length.toNat then none
  else if !validateAddressHigh params.addressHigh then none
  else if !validateContext context then none
  else some (headerNoData kTcodeReadBlock params.destinationID params.addressHigh params.addressLow
    params.speedCode label context ++ leBytes (params.length.toNat * 2 ^ 16))

/-- The payload quadlet is copied as it stands in memory. -/
def buildWriteQuadlet (params : WriteParams) (label : UInt8) (context : PacketContext)
    (bufferSize : ℕ) : Option (List UInt8) :=
  if bufferSize < 16 then none
  else
    match params.payload with
    | none => none
    | some payload =>
      if params.length ≠ 4 then none
      else if !validateAddressHigh params.addressHigh then none
      else if !validateContext context then none
      else some (headerNoData kTcodeWriteQuad params.destinationID params.addressHigh
        params.addressLow params.speedCode label context ++ leBytes (le32At payload 0))

def buildWriteBlock (params : WriteParams) (label : UInt8) (context : PacketContext)
    (bufferSize : ℕ) : Option (List UInt8) :=
  if bufferSize < 16 then none
  else if params.length = 0 ∨ 0xFFFF < params.length.toNat then none
  else if !validateAddressHigh params.addressHigh then none
  else if !validateContext context then none
  else some (headerNoData kTcodeWriteBlock params.destinationID params.addressHigh params.addressLow
    params.speedCode label context ++ leBytes (params.length.toNat * 2 ^ 16))

def buildLock (params : LockParams) (label : UInt8) (extendedTCode : UInt16)
    (context : PacketContext) (bufferSize : ℕ) : Option (List UInt8) :=
  if bufferSize < 16 then none
  else if params.operandLength = 0 ∨ 0xFFFF < params.operandLength.toNat then none
  else if params.operandLength.toNat % 4 ≠ 0 then none
  else if !validateAddressHigh params.addressHigh then none
  else if !validateContext context then none
  else some (headerNoData kTcodeLockRequest params.destinationID params.addressHigh
    params.addressLow params.speedCode label context ++
      leBytes (params.operandLength.toNat * 2 ^ 16 + extendedTCode.toNat))

end PacketBuilder

/-- One call of the builder. -/
inductive BuildCall
  | readQuadlet (params : ReadParams)
  | readBlock (params : ReadParams)
  | writeQuadlet (params : WriteParams)
  | writeBlock (params : WriteParams)
  | lock (params : LockParams) (extendedTCode : UInt16)
  deriving DecidableEq, Repr

namespace BuildCall

def build (call : BuildCall) (label : UInt8) (context : PacketContext) (bufferSize : ℕ) :
    Option (List UInt8) :=
  match call with
  | readQuadlet params => PacketBuilder.buildReadQuadlet params label context bufferSize
  | readBlock params => PacketBuilder.buildReadBlock params label context bufferSize
  | writeQuadlet params => PacketBuilder.buildWriteQuadlet params label context bufferSize
  | writeBlock params => PacketBuilder.buildWriteBlock params label context bufferSize
  | lock params extendedTCode =>
    PacketBuilder.buildLock params label extendedTCode context bufferSize

/-- The 48-bit address of the request. -/
def address : BuildCall → ℕ
  | readQuadlet params | readBlock params =>
    params.addressHigh.toNat * 2 ^ 32 + params.addressLow.toNat
  | writeQuadlet params | writeBlock params =>
    params.addressHigh.toNat * 2 ^ 32 + params.addressLow.toNat
  | lock params _ => params.addressHigh.toNat * 2 ^ 32 + params.addressLow.toNat

def destinationID : BuildCall → UInt16
  | readQuadlet params | readBlock params => params.destinationID
  | writeQuadlet params | writeBlock params => params.destinationID
  | lock params _ => params.destinationID

/-- Block length of the request; quadlet requests have none. -/
def dataLength : BuildCall → ℕ
  | readBlock params => params.length.toNat
  | writeBlock params => params.length.toNat
  | lock params _ => params.operandLength.toNat
  | _ => 0

/-- The bytes the payload descriptor sends behind the header. -/
def payload : BuildCall → List UInt8
  | writeBlock params => (params.payload.getD []).takeD params.length.toNat 0
  | lock params _ => (params.operand.getD []).takeD params.operandLength.toNat 0
  | _ => []

end BuildCall

end ASFireWire.Async
