import ASFireWire.CSRResponder
import ASFireWire.AddressSpaceManager

/-! The local address handlers `WireLocalRequestDispatch` registers for CSR, FCP, DICE, Fireworks
and SBP-2. Each sees the data of a quadlet write twice: as a number decoded little-endian and as
the raw bytes. -/
namespace ASFireWire.Service

open Async Bus SBP2 Quadlets

/-! ### Where the handlers deliver -/

/-- `FCPResponseRouter`: the nodes with a transport, and the frames delivered (source, generation,
bytes). -/
structure FCPResponseRouter where
  transports : ℕ → Bool
  delivered : List (ℕ × ℕ × List UInt8) := []

def kFCPResponseAddress : ℕ := 0xFFFFF0000D00

def kFCPResponseAddressEnd : ℕ := kFCPResponseAddress + 0x200

inductive BlockWriteDisposition | complete | addressError
  deriving DecidableEq, Repr

/-- `RouteBlockWrite` with a receive generation. -/
def FCPResponseRouter.routeBlockWrite (fcp : FCPResponseRouter)
    (sourceID destOffset generation : ℕ) (payload : List UInt8) :
    BlockWriteDisposition × FCPResponseRouter :=
  if destOffset < kFCPResponseAddress ∨ kFCPResponseAddressEnd ≤ destOffset then
    (.addressError, fcp)
  else if !fcp.transports sourceID then (.complete, fcp)
  else (.complete, { fcp with delivered := fcp.delivered ++ [(sourceID, generation, payload)] })

/-- DICE notification mailbox: latched bits, and the bits passed to an observer. -/
structure NotificationMailbox where
  latchedBits : ℕ := 0
  observer : Bool := false
  observed : List ℕ := []

namespace NotificationMailbox

def kHandlerOffset : ℕ := 0x000100000000

def kLegacyHandlerOffset : ℕ := 0x00FF0000D1CC

def matchesDestOffset (destOffset : ℕ) : Bool :=
  destOffset = kHandlerOffset || destOffset = kLegacyHandlerOffset

def publish (mailbox : NotificationMailbox) (bits : ℕ) : NotificationMailbox :=
  { mailbox with
    latchedBits := mailbox.latchedBits ||| bits
    observed := if mailbox.observer then mailbox.observed ++ [bits] else mailbox.observed }

/-- `DecodeWireQuadlet`: most significant byte first. -/
def decodeWireQuadlet (data : List UInt8) : ℕ := be32At data 0

end NotificationMailbox

/-- Fireworks response mailbox: the live observers, and the frames offered to them. -/
structure EfcResponseMailbox where
  observers : List (ℕ → List UInt8 → Bool) := []
  offered : List (ℕ × List UInt8) := []

namespace EfcResponseMailbox

def kWindowOffset : ℕ := 0xECC080000000

def kAltWindowOffset : ℕ := 0xFCC080000000

def kWindowBytes : ℕ := 0x200

def kHeaderBytes : ℕ := 24

def matchesDestOffset (destOffset : ℕ) : Bool :=
  (kWindowOffset ≤ destOffset && destOffset < kWindowOffset + kWindowBytes) ||
    (kAltWindowOffset ≤ destOffset && destOffset < kAltWindowOffset + kWindowBytes)

def publish (mailbox : EfcResponseMailbox) (sourceID : ℕ) (payload : List UInt8) :
    Bool × EfcResponseMailbox :=
  (mailbox.observers.any fun observer => observer sourceID payload,
    { mailbox with offered := mailbox.offered ++ [(sourceID, payload)] })

end EfcResponseMailbox

structure LocalWorld where
  csrResponder : Option CSRResponder := none
  fcpResponseRouter : Option FCPResponseRouter := none
  notificationMailbox : NotificationMailbox := {}
  efcResponseMailbox : EfcResponseMailbox := {}
  sbp2AddressSpaceManager : Option AddressSpaceManager := none

/-! ### The handlers -/

namespace LocalWorld

/-- `CSRResponder::WriteQuadlet` with the responder put back. -/
def csrWrite (w : LocalWorld) (csr : CSRResponder) (off value : ℕ) :
    LocalRequestResult × LocalWorld :=
  let r := csr.writeQuadlet off value
  (if r.1.mine then .write r.1.rcode else .notMine, { w with csrResponder := some r.2 })

/-- `FcpLocalHandler::Route`. -/
def fcpRoute (w : LocalWorld) (fcp : FCPResponseRouter) (ctx : LocalRequestContext)
    (payload : List UInt8) : LocalRequestResult × LocalWorld :=
  let r := fcp.routeBlockWrite ctx.sourceID ctx.destOffset ctx.generation payload
  (if r.1 = .addressError then .notMine else .write .complete,
    { w with fcpResponseRouter := some r.2 })

/-- An SBP-2 write of these bytes. -/
def sbp2Write (w : LocalWorld) (mgr : AddressSpaceManager) (destOffset : ℕ)
    (payload : List UInt8) : LocalRequestResult × LocalWorld :=
  let r := mgr.applyRemoteWrite destOffset payload
  (if r.1 = .addressError then .notMine else .write r.1,
    { w with sbp2AddressSpaceManager := some r.2 })

def dicePublish (w : LocalWorld) (bits : ℕ) : LocalRequestResult × LocalWorld :=
  (.write .complete, { w with notificationMailbox := w.notificationMailbox.publish bits })

end LocalWorld

def csrLocalHandler : LocalAddressHandler LocalWorld := fun ctx w =>
  match w.csrResponder with
  | none => (.notMine, w)
  | some csr =>
    if ctx.destOffset / 2 ^ 32 ≠ 0xFFFF then (.notMine, w)
    else
      let off := ctx.destOffset % 2 ^ 32
      if ctx.tCode = kTcodeWriteQuad then w.csrWrite csr off ctx.quadletData
      else if ctx.tCode = kTcodeReadQuad then
        let r := csr.readQuadlet off
        (if r.1.mine then .quadlet r.1.rcode r.1.readValue else .notMine,
          { w with csrResponder := some r.2 })
      else if ctx.tCode = kTcodeReadBlock then
        let r := csr.blockReadClaim off ctx.dataLength
        (if !r.mine then .notMine else .block r.rcode r.readBlockDeviceAddress r.readBlockLength, w)
      else (.notMine, w)

/-- A quadlet write is rebuilt as a four-byte frame from the decoded number. -/
def fcpLocalHandler : LocalAddressHandler LocalWorld := fun ctx w =>
  match w.fcpResponseRouter with
  | none => (.notMine, w)
  | some fcp =>
    if ctx.tCode = kTcodeWriteBlock then
      if ctx.writePayload = [] then (.notMine, w) else w.fcpRoute fcp ctx ctx.writePayload
    else if ctx.tCode = kTcodeWriteQuad then w.fcpRoute fcp ctx (beBytes ctx.quadletData)
    else (.notMine, w)

def diceLocalHandler : LocalAddressHandler LocalWorld := fun ctx w =>
  if ctx.tCode ≠ kTcodeWriteQuad then (.notMine, w)
  else if !NotificationMailbox.matchesDestOffset ctx.destOffset then (.notMine, w)
  else if ctx.writePayload.length < 4 then (.write .typeError, w)
  else w.dicePublish (NotificationMailbox.decodeWireQuadlet ctx.writePayload)

def fireworksEfcLocalHandler : LocalAddressHandler LocalWorld := fun ctx w =>
  if !EfcResponseMailbox.matchesDestOffset ctx.destOffset then (.notMine, w)
  else if ctx.tCode ≠ kTcodeWriteBlock ∧ ctx.tCode ≠ kTcodeWriteQuad then (.notMine, w)
  else if ctx.writePayload.length < EfcResponseMailbox.kHeaderBytes then (.write .dataError, w)
  else
    let r := w.efcResponseMailbox.publish ctx.sourceID ctx.writePayload
    (.write (if r.1 then .complete else .typeError), { w with efcResponseMailbox := r.2 })

def sbp2LocalHandler : LocalAddressHandler LocalWorld := fun ctx w =>
  match w.sbp2AddressSpaceManager with
  | none => (.notMine, w)
  | some mgr =>
    if ctx.tCode = kTcodeWriteQuad ∨ ctx.tCode = kTcodeWriteBlock then
      if ctx.writePayload = [] then (.notMine, w) else w.sbp2Write mgr ctx.destOffset ctx.writePayload
    else if ctx.tCode = kTcodeReadQuad then
      let r := mgr.readQuadlet ctx.destOffset
      (if r.1 = .addressError then .notMine else .quadlet r.1 r.2, w)
    else if ctx.tCode = kTcodeReadBlock then
      if ctx.dataLength = 0 then (.notMine, w)
      else
        let r := mgr.resolveReadSlice ctx.destOffset ctx.dataLength
        if r.1 = .addressError then (.notMine, w)
        else if r.1 = .complete then (.block r.1 r.2.1 r.2.2, w)
        else ({ claimed := true, rcode := r.1 }, w)
    else (.notMine, w)

inductive WiredHandler | csr | fcp | dice | fireworksEfc | sbp2
  deriving DecidableEq, Repr

namespace WiredHandler

def handle : WiredHandler → LocalAddressHandler LocalWorld
  | csr => csrLocalHandler
  | fcp => fcpLocalHandler
  | dice => diceLocalHandler
  | fireworksEfc => fireworksEfcLocalHandler
  | sbp2 => sbp2LocalHandler

end WiredHandler

end ASFireWire.Service
