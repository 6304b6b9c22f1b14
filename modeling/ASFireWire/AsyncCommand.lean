import ASFireWire.ATManager
import ASFireWire.PacketBuilder
import ASFireWire.PayloadRegistry
import ASFireWire.Tracking

/-! Asynchronous commands (`Async/Commands`) and their submission: a transaction is registered,
its header and descriptors are built and the chain goes to the AT request context. -/
namespace ASFireWire.Async

open Quadlets

structure PhyParams where
  quadlet1 : UInt32 := 0
  quadlet2 : UInt32 := 0
  deriving DecidableEq, Repr

/-- `BuildPhyPacket`: the configuration quadlets go out in wire order. -/
def PacketBuilder.buildPhyPacket (label : UInt8) (params : PhyParams) (bufferSize : ℕ) :
    Option (List UInt8) :=
  if bufferSize < 16 then none
  else some (leBytes (label.toNat % 64 * 2 ^ 10 + 0xE * 2 ^ 4) ++
    (beBytes params.quadlet1.toNat ++ beBytes params.quadlet2.toNat))

structure TransactionContext where
  sourceNodeID : UInt16
  generation : ℕ
  packetContext : PacketContext
  deriving DecidableEq, Repr

/-- The four commands with the parameters they are constructed from. -/
inductive AsyncCommand
  | read (params : ReadParams)
  | write (params : WriteParams)
  | lock (params : LockParams) (extendedTCode : UInt16)
  | phy (params : PhyParams)
  deriving DecidableEq, Repr

namespace AsyncCommand

def readIsQuadlet (params : ReadParams) : Bool :=
  !params.forceBlock && (params.length = 0 || params.length = 4)

def writeIsQuadlet (params : WriteParams) : Bool := !params.forceBlock && params.length = 4

def buildMetadata (cmd : AsyncCommand) (txCtx : TransactionContext) : TxMetadata :=
  match cmd with
  | read params => {
      generation := txCtx.generation, destinationNodeID := params.destinationID.toNat
      tCode := if readIsQuadlet params then 0x4 else 0x5, completionStrategy := .completeOnAR }
  | write params => {
      generation := txCtx.generation, destinationNodeID := params.destinationID.toNat
      tCode := if writeIsQuadlet params then 0x0 else 0x1 }
  | lock params _ => {
      generation := txCtx.generation, destinationNodeID := params.destinationID.toNat
      tCode := 0x9, completionStrategy := .completeOnAR }
  | phy _ => {
      generation := txCtx.generation, destinationNodeID := 0xFFFF
      tCode := 0xE, completionStrategy := .completeOnPHY }

/-- `BuildHeader`; `none` is a header of size zero. -/
def buildHeader (cmd : AsyncCommand) (label : UInt8) (pktCtx : PacketContext) :
    Option (List UInt8) :=
  match cmd with
  | read params =>
    if readIsQuadlet params then PacketBuilder.buildReadQuadlet params label pktCtx 16
    else PacketBuilder.buildReadBlock params label pktCtx 20
  | write params =>
    if writeIsQuadlet params then PacketBuilder.buildWriteQuadlet params label pktCtx 20
    else PacketBuilder.buildWriteBlock params label pktCtx 20
  | lock params extendedTCode => PacketBuilder.buildLock params label extendedTCode pktCtx 20
  | phy params => PacketBuilder.buildPhyPacket label params 16

/-- Bytes of DMA buffer the command asks for. -/
def payloadLength : AsyncCommand → Option ℕ
  | write params =>
    if writeIsQuadlet params || params.length = 0 then none else some params.length.toNat
  | lock params _ =>
    if params.operandLength = 0 ∨ params.operand = none then none
    else some params.operandLength.toNat
  | read _ | phy _ => none

/-- `PreparePayload`: device address and length of the buffer `hw` allocates, if it can. -/
def preparePayload (cmd : AsyncCommand) (hw : ℕ → Option ℕ) : Option (ℕ × ℕ) :=
  cmd.payloadLength.bind fun length => (hw length).map fun address => (address, length)

end AsyncCommand

/-- What a submission reads off the rest of the driver. The fields from `headerBuilder` on are
looked up after the registration, when a teardown may have removed what was there before. -/
structure SubmitEnv where
  acceptingSubmissions : Bool := true
  busResetInProgress : Bool := false
  packetBuilder : Bool := true
  descriptorBuilder : Bool := true
  atRequestContext : Bool := true
  nodeIDRegister : ℕ
  generation : ℕ
  headerBuilder : Bool := true
  requestContext : Bool := true
  requestManager : Bool := true
  hw : ℕ → Option ℕ := fun _ => none
  polled : Option ℕ := none
  nowUsec : ℕ := 0

def kDefaultAsyncSpeed : UInt8 := 0

/-- Bit 31 of the NodeID register. -/
def nodeIDValid (nodeIDRegister : ℕ) : Bool := nodeIDRegister / 2 ^ 31 % 2 = 1

/-- `PrepareTransactionContext`. -/
def prepareTransactionContext (env : SubmitEnv) : Option TransactionContext :=
  if !env.acceptingSubmissions then none
  else if env.busResetInProgress then none
  else if !env.packetBuilder || !env.descriptorBuilder || !env.atRequestContext then none
  else if !nodeIDValid env.nodeIDRegister then none
  else
    let sourceNodeID := UInt16.ofNat env.nodeIDRegister
    some {
      sourceNodeID := sourceNodeID, generation := env.generation
      packetContext := ⟨sourceNodeID, env.generation, kDefaultAsyncSpeed⟩ }

/-- A destination without bus number is taken to be on the local bus. -/
def normalizeDestination (txCtx : TransactionContext) (txMeta : TxMetadata) : TxMetadata :=
  if txMeta.destinationNodeID / 64 % 1024 = 0 then
    { txMeta with destinationNodeID :=
        txCtx.sourceNodeID.toNat / 64 * 64 + txMeta.destinationNodeID % 64 }
  else txMeta

def kDefaultTimeoutUsec : ℕ := 500000

/-- The parts of the async subsystem a submission works on. A payload is its device address. -/
structure AsyncSubsystem where
  tracking : Tracking := {}
  atRequest : ATContext
  payloads : PayloadRegistry ℕ := {}

/-- `handle` is what `Submit` returns; `registration` is the number under which the tracker has
stored the command's callback, if it has. -/
structure Submission where
  subsystem : AsyncSubsystem
  handle : ℕ
  registration : Option ℕ := none

namespace AsyncCommand

/-- The request for descriptors: block payloads ask for a flush. -/
def chainRequest (header : List UInt8) (payload : Option (ℕ × ℕ)) : ChainRequest :=
  let payloadLen := (payload.map (·.2)).getD 0
  { headerData := header, payloadDeviceAddress := (payload.map (·.1)).getD 0
    payloadSize := payloadLen, needsFlush := 4 < payloadLen }

/-- `submit_tx_chain`; without a manager the chain is refused. -/
def submitTxChain (s : ATContext) (chain : SubmittedChain) (env : SubmitEnv) :
    ATContext × SubmitStatus :=
  if !env.requestManager then (s, .notReady)
  else
    let r := s.submitChain chain.toDescriptorChain env.polled
    if r.2 = .success then
      ({ r.1 with inRing := r.1.inRing ++ [chain], pending := r.1.pending ++ [chain] }, r.2)
    else r

/-- The steps of `Submit` from the label on. -/
def submitRegistered (cmd : AsyncCommand) (s : AsyncSubsystem) (env : SubmitEnv)
    (txCtx : TransactionContext) (handle : ℕ) : AsyncSubsystem × ℕ :=
  match s.tracking.getLabelFromHandle handle with
  | none => (s, 0)
  | some label =>
    if !env.headerBuilder then (s, 0)
    else
      match cmd.buildHeader (UInt8.ofNat label) txCtx.packetContext with
      | none => (s, 0)
      | some header =>
        let payload := cmd.preparePayload env.hw
        let req := chainRequest header payload
        match buildTransactionChain s.atRequest.ring req with
        | (ring, none) => ({ s with atRequest := { s.atRequest with ring := ring } }, 0)
        | (ring, some chain) =>
          let s := { s with atRequest := { s.atRequest with ring := ring } }
          if !env.requestContext then (s, 0)
          else
            let r := submitTxChain s.atRequest ⟨chain, req⟩ env
            let s := { s with atRequest := r.1 }
            if r.2 ≠ .success then (s, 0)
            else
              ({ s with
                tracking := s.tracking.onTxPosted handle env.nowUsec kDefaultTimeoutUsec
                payloads := match payload with
                  | none => s.payloads
                  | some (address, _) => s.payloads.attach handle address txCtx.generation },
                handle)

/-- `Submit`. -/
def submit (cmd : AsyncCommand) (s : AsyncSubsystem) (env : SubmitEnv) : Submission :=
  match prepareTransactionContext env with
  | none => ⟨s, 0, none⟩
  | some txCtx =>
    let txMeta := normalizeDestination txCtx (cmd.buildMetadata txCtx)
    match s.tracking.registerTx txMeta with
    | (tracking, 0) => ⟨{ s with tracking := tracking }, 0, none⟩
    | (tracking, handle) =>
      let r := cmd.submitRegistered { s with tracking := tracking } env txCtx handle
      ⟨r.1, r.2, some s.tracking.registered⟩

end AsyncCommand

end ASFireWire.Async
