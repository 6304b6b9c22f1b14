import ASFireWire.AsyncTypes
import ASFireWire.BusGeneration
import ASFireWire.ConfigROMBuilder
import ASFireWire.Runs

/-! The Config ROM reader (`ConfigROM/Remote/ROMReader.cpp`) on top of the bus port
(`Async/FireWireBusImpl.cpp`): an operation is a chain of quadlet reads, each issued from the
completion of the one before it, and its callback may itself start a second chain. A read that is
answered inside `ReadQuad` is the completion event that comes next. -/
namespace ASFireWire.ConfigROM

open Quadlets ASFireWire.Async Runs

inductive QuadletReadPolicy | allOrNothing | allowPartialEOF
  deriving DecidableEq, Repr

def kConfigROMAddressLo : ℕ := 0xF0000400

/-- The low half of the address of a byte of the Config ROM. -/
def romAddress (offsetBytes : ℕ) : ℕ := (kConfigROMAddressLo + offsetBytes) % 2 ^ 32

def kQuadletBytes : ℕ := 4

def kHeaderFirstMaxEntries : ℕ := 64

/-- `quadletsBE` are quadlets as they lie in memory, in wire order. -/
structure ReadResult where
  success : Bool := false
  nodeId : ℕ := 0xFF
  generation : ℕ := 0
  address : ℕ := 0
  status : AsyncStatus := .hardwareError
  quadletsBE : List ℕ := []
  deriving DecidableEq, Repr

/-- Node, generation and speed, as every context and lambda of one operation captures them. -/
structure ReadTarget where
  nodeId : ℕ
  generation : ℕ
  speed : ℕ
  deriving DecidableEq, Repr

/-- The callbacks that end an operation: the caller's own, and the ones that put the two parts of
a read together for it. -/
inductive FinalCallback
  | user
  | bibTrailing (q0 busInfoLength : ℕ)
  | rootEntries (offsetBytes entryCount hdrBe : ℕ)
  deriving DecidableEq, Repr

/-- The callbacks of a quadlet read: the header lambdas start a second read. -/
inductive RomCallback
  | final (callback : FinalCallback)
  | bibHeader
  | rootHeader (offsetBytes : ℕ)
  deriving DecidableEq, Repr

structure QuadletReadContext where
  userCallback : RomCallback
  target : ReadTarget
  baseAddress : ℕ
  quadletCount : ℕ
  policy : QuadletReadPolicy
  buffer : List ℕ
  quadletIndex : ℕ := 0
  successCount : ℕ := 0
  deriving DecidableEq, Repr

/-- A callback the bus still holds. `posted` marks the ones `CompleteStaleGenerationAsync` put on
the work loop: they come with `kStaleGeneration` and no payload. -/
structure PendingRead where
  ctx : QuadletReadContext
  address : ℕ
  posted : Bool
  deriving DecidableEq, Repr

/-- What `AsyncCommand::Submit` makes of a read: a handle; a null handle with the callback
dropped; a null handle after the transaction was registered, with its callback still to come. -/
inductive SubmitOutcome | accepted | failed | failedRegistered
  deriving DecidableEq, Repr

/-- One operation of a reader. `refused` counts the reads that came back with a null handle and a
callback still to come. -/
structure RomReadWorld where
  generation16 : ℕ
  usesQueue : Bool
  outstanding : List PendingRead := []
  tasks : List QuadletReadContext := []
  results : List ReadResult := []
  refused : ℕ := 0
  deriving DecidableEq, Repr

def canTreatAsEOF (policy : QuadletReadPolicy) (status : AsyncStatus)
    (payloadSizeBytes completedQuadlets : ℕ) : Bool :=
  if policy ≠ .allowPartialEOF then false
  else if completedQuadlets = 0 then false
  else status ≠ .success || payloadSizeBytes ≠ kQuadletBytes

/-- The result `EmitQuadletReadResult` hands to the callback of the context. -/
def quadletReadResult (ctx : QuadletReadContext) (success : Bool) (status : AsyncStatus)
    (quadletsToReturn : ℕ) : ReadResult where
  success := success
  nodeId := ctx.target.nodeId
  generation := ctx.target.generation
  address := ctx.baseAddress
  status := status
  quadletsBE := if 0 < quadletsToReturn then ctx.buffer.take quadletsToReturn else []

def failedResult (target : ReadTarget) (address : ℕ) (status : AsyncStatus) : ReadResult where
  nodeId := target.nodeId
  generation := target.generation
  address := address
  status := status

/-- What the caller gets from the second half of an operation. -/
def finalResult (target : ReadTarget) (r : ReadResult) : FinalCallback → ReadResult
  | .user => r
  | .bibTrailing q0 busInfoLength =>
    if !r.success ∨ r.quadletsBE.length ≠ busInfoLength - 1 then
      failedResult target kConfigROMAddressLo r.status
    else
      { success := true
        nodeId := target.nodeId
        generation := target.generation
        address := kConfigROMAddressLo
        status := .success
        quadletsBE := q0 :: swap32 kBusNameQuadlet :: r.quadletsBE }
  | .rootEntries offsetBytes entryCount hdrBe =>
    { success := r.success && r.status = .success && r.quadletsBE.length = entryCount
      nodeId := target.nodeId
      generation := target.generation
      address := romAddress offsetBytes
      status := if r.quadletsBE.length < entryCount then .shortRead else r.status
      quadletsBE := hdrBe :: r.quadletsBE }

namespace RomReadWorld

/-- `ReadQuad` of `FireWireBusImpl`: whether a handle came back, and what the bus keeps. -/
def readQuad (w : RomReadWorld) (ctx : QuadletReadContext) (submit : SubmitOutcome) :
    Bool × RomReadWorld :=
  let address := (ctx.baseAddress + ctx.quadletIndex * kQuadletBytes) % 2 ^ 32
  let kept (posted : Bool) : List PendingRead := w.outstanding ++ [⟨ctx, address, posted⟩]
  if !hasCurrentGeneration ⟨w.generation16, 0, 0⟩ ctx.target.generation then
    (false, { w with outstanding := kept true, refused := w.refused + 1 })
  else
    match submit with
    | .accepted => (true, { w with outstanding := kept false })
    | .failed => (false, w)
    | .failedRegistered =>
      (false, { w with outstanding := kept false, refused := w.refused + 1 })

/-- `ScheduleQuadletReadStep`, with the callback of the context as a function. -/
def scheduleQuadletReadStep (callback : RomReadWorld → ReadResult → RomReadWorld)
    (submit : SubmitOutcome) (w : RomReadWorld) (ctx : QuadletReadContext) : RomReadWorld :=
  if ctx.quadletCount ≤ ctx.quadletIndex then
    callback w (quadletReadResult ctx true .success ctx.quadletCount)
  else
    let r := w.readQuad ctx submit
    if r.1 then r.2 else callback r.2 (quadletReadResult ctx false .hardwareError 0)

def readQuadletsBEImpl (callback : RomReadWorld → ReadResult → RomReadWorld)
    (submit : SubmitOutcome) (w : RomReadWorld) (userCallback : RomCallback)
    (target : ReadTarget) (offsetBytes quadletCount : ℕ) (policy : QuadletReadPolicy) :
    RomReadWorld :=
  if quadletCount = 0 then
    callback w { failedResult target (romAddress offsetBytes) .success with success := true }
  else
    scheduleQuadletReadStep callback submit w
      { userCallback := userCallback
        target := target
        baseAddress := romAddress offsetBytes
        quadletCount := quadletCount
        policy := policy
        buffer := List.replicate quadletCount 0 }

def answer (w : RomReadWorld) (r : ReadResult) : RomReadWorld :=
  { w with results := w.results ++ [r] }

/-- A callback without a further read: the caller is answered. -/
def callFinal (target : ReadTarget) (callback : FinalCallback) (w : RomReadWorld)
    (r : ReadResult) : RomReadWorld :=
  w.answer (finalResult target r callback)

/-- The callback of a quadlet read: the header lambdas answer the caller at once, or read the rest
of the block information or the entries of the directory. -/
def call (submit : SubmitOutcome) (target : ReadTarget) :
    RomCallback → RomReadWorld → ReadResult → RomReadWorld
  | .final callback, w, r => callFinal target callback w r
  | .bibHeader, w, q0 =>
    if !q0.success ∨ q0.quadletsBE.length ≠ 1 then
      w.answer (failedResult target kConfigROMAddressLo q0.status)
    else
      let q0Wire := q0.quadletsBE.headD 0
      let q0Host := swap32 q0Wire
      let busInfoLength := q0Host / 2 ^ 24 % 2 ^ 8
      if q0Host = 0 ∨ busInfoLength < 4 then
        w.answer { q0 with address := kConfigROMAddressLo, status := .success }
      else
        let trailing := FinalCallback.bibTrailing q0Wire busInfoLength
        readQuadletsBEImpl (callFinal target trailing) submit w (.final trailing) target 8
          (busInfoLength - 1) .allOrNothing
  | .rootHeader offsetBytes, w, header =>
    if !header.success ∨ header.quadletsBE.length ≠ 1 then
      w.answer (failedResult target (romAddress offsetBytes) header.status)
    else
      let hdrBe := header.quadletsBE.headD 0
      let entryCount := min (swap32 hdrBe / 2 ^ 16 % 2 ^ 16) kHeaderFirstMaxEntries
      if entryCount = 0 then
        w.answer { failedResult target (romAddress offsetBytes) .success with
          success := true
          quadletsBE := header.quadletsBE }
      else
        let entries := FinalCallback.rootEntries offsetBytes entryCount hdrBe
        readQuadletsBEImpl (callFinal target entries) submit w (.final entries) target
          (offsetBytes + kQuadletBytes) entryCount .allowPartialEOF

/-- `ScheduleQuadletReadStep` of a context. -/
def scheduleStep (submit : SubmitOutcome) (w : RomReadWorld) (ctx : QuadletReadContext) :
    RomReadWorld :=
  scheduleQuadletReadStep (call submit ctx.target ctx.userCallback) submit w ctx

/-- The next step runs on the dispatch queue when the reader has one, and right here otherwise. -/
def scheduleNextQuadlet (submit : SubmitOutcome) (w : RomReadWorld) (ctx : QuadletReadContext) :
    RomReadWorld :=
  if w.usesQueue then { w with tasks := w.tasks ++ [ctx] } else w.scheduleStep submit ctx

def handleQuadletReadComplete (submit : SubmitOutcome) (w : RomReadWorld)
    (ctx : QuadletReadContext) (status : AsyncStatus) (payload : List UInt8) : RomReadWorld :=
  let emit := call submit ctx.target ctx.userCallback w
  if canTreatAsEOF ctx.policy status payload.length ctx.successCount then
    emit (quadletReadResult ctx true status ctx.successCount)
  else if status ≠ .success ∨ payload.length ≠ kQuadletBytes then
    emit (quadletReadResult ctx false status 0)
  else
    w.scheduleNextQuadlet submit
      { ctx with
        buffer := ctx.buffer.set ctx.quadletIndex (le32At payload 0)
        successCount := ctx.successCount + 1
        quadletIndex := ctx.quadletIndex + 1 }

end RomReadWorld

/-- The operations of the reader. -/
inductive RomOperation
  | quadlets (offsetBytes quadletCount : ℕ) (policy : QuadletReadPolicy)
  | bib
  | rootDir (offsetBytes count : ℕ)
  deriving DecidableEq, Repr

inductive RomReadEvent
  | complete (i : ℕ) (status : AsyncStatus) (payload : List UInt8) (submit : SubmitOutcome)
  | runTask (i : ℕ) (submit : SubmitOutcome)
  | generationChanged (generation16 : ℕ)
  deriving DecidableEq, Repr

namespace RomReadWorld

/-- The operation as the reader starts it; a directory read with a count takes what it gets. -/
def begin (w : RomReadWorld) (target : ReadTarget) (submit : SubmitOutcome) :
    RomOperation → RomReadWorld
  | .quadlets offsetBytes quadletCount policy =>
    readQuadletsBEImpl (callFinal target .user) submit w (.final .user) target offsetBytes
      quadletCount policy
  | .bib =>
    readQuadletsBEImpl (call submit target .bibHeader) submit w .bibHeader target 0 1
      .allOrNothing
  | .rootDir offsetBytes count =>
    if count ≠ 0 then
      readQuadletsBEImpl (callFinal target .user) submit w (.final .user) target offsetBytes
        count .allowPartialEOF
    else
      readQuadletsBEImpl (call submit target (.rootHeader offsetBytes)) submit w
        (.rootHeader offsetBytes) target offsetBytes 1 .allOrNothing

def step (w : RomReadWorld) : RomReadEvent → RomReadWorld
  | .complete i status payload submit =>
    match w.outstanding[i]? with
    | none => w
    | some read =>
      let w := { w with outstanding := w.outstanding.eraseIdx i }
      if read.posted then w.handleQuadletReadComplete submit read.ctx .staleGeneration []
      else w.handleQuadletReadComplete submit read.ctx status payload
  | .runTask i submit =>
    match w.tasks[i]? with
    | none => w
    | some ctx => { w with tasks := w.tasks.eraseIdx i }.scheduleStep submit ctx
  | .generationChanged generation16 => { w with generation16 := generation16 }

end RomReadWorld

end ASFireWire.ConfigROM
