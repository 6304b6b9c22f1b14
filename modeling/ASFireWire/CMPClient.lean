import ASFireWire.AsyncTypes
import ASFireWire.DeviceRegistry
import ASFireWire.IRMClient
import ASFireWire.PCRCodec

/-! The connection manager (`Protocols/AVC/CMP/CMPClient.cpp`): connections to remote plugs made and
broken by reading a plug control register and swapping it, among other hosts that do the same. -/
namespace ASFireWire.CMP

open Async (AsyncStatus)
open Discovery (DeviceRouteToken)
open IRM (AllocationStatus)

inductive PCRDirection | output | input
  deriving DecidableEq, Repr

structure LeaseKey where
  route : DeviceRouteToken
  direction : PCRDirection
  plugNum : ℕ
  deriving DecidableEq, Repr

inductive LeaseState | connecting | connected | disconnecting
  deriving DecidableEq, Repr

/-- A lease is kept under the route of its own device. -/
structure Lease where
  channel : BitVec 8
  state : LeaseState
  deriving DecidableEq, Repr

def kMaxPlugNumber : ℕ := 30

def kMaxCompareSwapAttempts : ℕ := 3

inductive Request
  | readMPR
  | readPCR
  | compareSwap (expected desired : BitVec 32)
  deriving DecidableEq, Repr

inductive OperationKind | connect | disconnect
  deriving DecidableEq, Repr

/-- An operation waits for one request: what the callbacks hold of it, and the device's reply once
there is one. -/
structure Operation where
  kind : OperationKind
  key : LeaseKey
  channel : BitVec 8
  speed : BitVec 32 := 0
  attempt : ℕ := 0
  request : Request
  reply : Option (BitVec 32) := none
  requests : ℕ := 0
  deriving DecidableEq, Repr

/-- The client, the routes the registry takes for current, and the plug control registers.
`connected` is whether this client's connection is in a register, `others` how many connections of
other hosts are. -/
structure CMPBus where
  leases : LeaseKey → Option Lease := fun _ => none
  operations : ℕ → Option Operation := fun _ => none
  calls : ℕ := 0
  callbacks : List (ℕ × AllocationStatus) := []
  isCurrent : DeviceRouteToken → Bool
  wasCurrent : DeviceRouteToken → Bool
  registers : LeaseKey → BitVec 32
  connected : LeaseKey → Bool := fun _ => false
  others : LeaseKey → ℕ

/-! ### The client -/

def mapAsyncStatus : AsyncStatus → AllocationStatus
  | .success => .success
  | .timeout => .timeout
  | .staleGeneration => .generationMismatch
  | _ => .failed

def bandwidthOverheadForGapCount (gapCount : ℕ) : ℕ :=
  if gapCount < 63 then gapCount * 97 / 10 + 89 else 512

/-- The first of the identifiers 1 to 15 whose step is over the overhead. -/
def overheadIdForGapCount (gapCount : ℕ) : BitVec 8 :=
  ((((List.range 15).map (· + 1)).find? fun id =>
    bandwidthOverheadForGapCount gapCount < id * 2 ^ 5).getD 0 : ℕ)

namespace CMPBus

def callback (w : CMPBus) (id : ℕ) (status : AllocationStatus) : CMPBus :=
  { w with
    operations := Function.update w.operations id none
    callbacks := (id, status) :: w.callbacks }

def completeConnect (w : CMPBus) (id : ℕ) (key : LeaseKey) (channel : BitVec 8)
    (status : AllocationStatus) : CMPBus :=
  callback
    (match w.leases key with
      | none => w
      | some lease =>
        if lease.channel = channel then
          { w with
            leases := Function.update w.leases key
              (if status = .success then some { lease with state := .connected } else none) }
        else w)
    id status

def completeDisconnect (w : CMPBus) (id : ℕ) (key : LeaseKey) (status : AllocationStatus) : CMPBus :=
  callback
    (match w.leases key with
      | none => w
      | some lease =>
        { w with
          leases := Function.update w.leases key
            (if status = .success then none else some { lease with state := .connected }) })
    id status

def complete (w : CMPBus) (id : ℕ) (op : Operation) (status : AllocationStatus) : CMPBus :=
  match op.kind with
  | .connect => w.completeConnect id op.key op.channel status
  | .disconnect => w.completeDisconnect id op.key status

/-- `ReadQuadlet` and `CompareSwap`: nothing is asked over a route that is not current. -/
def submit (w : CMPBus) (id : ℕ) (op : Operation) (request : Request) : CMPBus :=
  if w.isCurrent op.key.route then
    { w with
      operations := Function.update w.operations id
        (some { op with request, reply := none, requests := op.requests + 1 }) }
  else w.complete id op .failed

/-- `ConnectOPCR` and `ConnectIPCR`, with `BeginConnect`. -/
def connect (w : CMPBus) (key : LeaseKey) (channel : BitVec 8) (routeSpeed : BitVec 32) : CMPBus :=
  let id := w.calls
  let w := { w with calls := w.calls + 1 }
  if w.isCurrent key.route = false ∨ kMaxPlugNumber < key.plugNum ∨ 63 < channel.toNat ∨
      (w.leases key).isSome then
    w.callback id .failed
  else
    { w with leases := Function.update w.leases key (some ⟨channel, .connecting⟩) }.submit id
      { kind := .connect, key, channel, speed := routeSpeed, request := .readMPR } .readMPR

/-- `DisconnectOPCR` and `DisconnectIPCR`, with `BeginDisconnect`. -/
def disconnect (w : CMPBus) (key : LeaseKey) : CMPBus :=
  let id := w.calls
  let w := { w with calls := w.calls + 1 }
  match w.leases key with
  | none => w.callback id .success
  | some lease =>
    if w.isCurrent key.route = false ∨ kMaxPlugNumber < key.plugNum ∨ lease.state ≠ .connected then
      w.callback id .success
    else
      { w with
        leases := Function.update w.leases key (some { lease with state := .disconnecting }) }.submit
          id { kind := .disconnect, key, channel := lease.channel, request := .readPCR } .readPCR

/-- The value of a quadlet that was read. -/
def answer (w : CMPBus) (op : Operation) (status : AsyncStatus) (sized : Bool) : Option (BitVec 32) :=
  if w.isCurrent op.key.route ∧ status = .success ∧ sized then op.reply else none

/-- The callback of `ReadMPR`. -/
def readMPRDone (w : CMPBus) (id : ℕ) (op : Operation) : Option (BitVec 32) → CMPBus
  | none => w.complete id op .failed
  | some mpr =>
    if (mpr &&& 0x1F).toNat ≤ op.key.plugNum then w.complete id op .notFound
    else
      let mprSpeed := (mpr >>> 30) &&& 0x03
      w.submit id { op with speed := if op.speed < mprSpeed then op.speed else mprSpeed } .readPCR

/-- What a connection makes of a register that is not in use. -/
def desiredPCR (op : Operation) (current : BitVec 32) (gapCount : ℕ) : BitVec 32 :=
  let desired := PCRBits.setChannel (PCRBits.setP2P current 1) op.channel
  if op.key.direction = .output then
    PCRBits.setOverheadId (PCRBits.setDataRate desired op.speed) (overheadIdForGapCount gapCount)
  else desired

/-- The callback of the read in `AttemptConnect` and `AttemptDisconnect`. -/
def readPCRDone (w : CMPBus) (id : ℕ) (op : Operation) (gapCount : ℕ) :
    Option (BitVec 32) → CMPBus
  | none => w.complete id op .failed
  | some current =>
    match op.kind with
    | .connect =>
      if PCRBits.isOnline current = false then w.complete id op .notFound
      else if PCRBits.isInUse current then w.complete id op .noResources
      else w.submit id op (.compareSwap current (desiredPCR op current gapCount))
    | .disconnect =>
      if PCRBits.getP2P current ≠ 1 ∨ PCRBits.getChannel current ≠ op.channel ∨
          current &&& PCRBits.kBcastMask ≠ 0 then
        w.complete id op .failed
      else w.submit id op (.compareSwap current (PCRBits.setP2P current 0))

/-- The callbacks of `CompareSwap`. -/
def compareSwapDone (w : CMPBus) (id : ℕ) (op : Operation) (expected : BitVec 32)
    (status : AsyncStatus) (sized : Bool) : CMPBus :=
  if w.isCurrent op.key.route = false then w.complete id op .failed
  else if status ≠ .success then w.complete id op (mapAsyncStatus status)
  else if sized = false then w.complete id op .failed
  else if op.reply = some expected then w.complete id op .success
  else if kMaxCompareSwapAttempts ≤ op.attempt + 1 then
    w.complete id op (match op.kind with | .connect => .noResources | .disconnect => .failed)
  else w.submit id { op with attempt := op.attempt + 1 } .readPCR

/-- A request completes with a status and, if it was carried out, the reply of four bytes or another
payload. -/
def requestDone (w : CMPBus) (id : ℕ) (status : AsyncStatus) (sized : Bool) (gapCount : ℕ) :
    CMPBus :=
  match w.operations id with
  | none => w
  | some op =>
    if status = .success ∧ sized ∧ op.reply = none then w
    else
      match op.request with
      | .readMPR => w.readMPRDone id op (w.answer op status sized)
      | .readPCR => w.readPCRDone id op gapCount (w.answer op status sized)
      | .compareSwap expected _ => w.compareSwapDone id op expected status sized

def invalidateRoute (w : CMPBus) (route : DeviceRouteToken) : CMPBus :=
  { w with leases := fun key => if key.route = route ∧ route.valid then none else w.leases key }

/-! ### The bus -/

/-- The reply waits for the request to complete. -/
def withReply (w : CMPBus) (id : ℕ) (op : Operation) (value : BitVec 32) : CMPBus :=
  { w with operations := Function.update w.operations id (some { op with reply := some value }) }

def swapRegister (w : CMPBus) (op : Operation) (desired : BitVec 32) : CMPBus :=
  { w with
    registers := Function.update w.registers op.key desired
    connected := Function.update w.connected op.key (op.kind = .connect) }

/-- The device carries out the request of an operation, once; `mpr` is its master plug register. -/
def execute (w : CMPBus) (id : ℕ) (mpr : BitVec 32) : CMPBus :=
  match w.operations id with
  | none => w
  | some op =>
    if op.reply.isSome then w
    else
      match op.request with
      | .readMPR => w.withReply id op mpr
      | .readPCR => w.withReply id op (w.registers op.key)
      | .compareSwap expected desired =>
        if w.registers op.key = expected then
          (w.swapRegister op desired).withReply id op expected
        else w.withReply id op (w.registers op.key)

/-- The calls of the client, the bus, other hosts, and the registry. -/
inductive Event
  | connect (key : LeaseKey) (channel : BitVec 8) (routeSpeed : BitVec 32)
  | disconnect (key : LeaseKey)
  | execute (id : ℕ) (mpr : BitVec 32)
  | requestDone (id : ℕ) (status : AsyncStatus) (sized : Bool) (gapCount : ℕ)
  | otherHost (key : LeaseKey) (pcr : BitVec 32) (others : ℕ)
  | invalidateRoute (route : DeviceRouteToken)
  | invalidateAllLeasesForBusReset
  | routesChange (isCurrent : DeviceRouteToken → Bool)

def step (w : CMPBus) : Event → CMPBus
  | .connect key channel routeSpeed => w.connect key channel routeSpeed
  | .disconnect key => w.disconnect key
  | .execute id mpr => w.execute id mpr
  | .requestDone id status sized gapCount => w.requestDone id status sized gapCount
  | .otherHost key pcr others =>
    { w with
      registers := Function.update w.registers key pcr
      others := Function.update w.others key others }
  | .invalidateRoute route => w.invalidateRoute route
  | .invalidateAllLeasesForBusReset => { w with leases := fun _ => none }
  | .routesChange isCurrent =>
    { w with isCurrent, wasCurrent := fun route => w.wasCurrent route || isCurrent route }

end CMPBus

end ASFireWire.CMP
