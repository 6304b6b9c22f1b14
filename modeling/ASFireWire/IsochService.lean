import ASFireWire.Runs

/-! The isochronous service: a receive and a transmit context for each stream, created on first
use and kept, prepared and started for one session after the other. What the hardware and the
allocators answer to a call is given with the call. -/
namespace ASFireWire.Isoch

/-- The status codes the isochronous and the duplex code tells apart. -/
inductive KernReturn
  | success | noMemory | badArgument | notReady | busy | invalid | notPrivileged | aborted
  | noDevice | timeout | unsupported | internalError | noResources | notPermitted | dmaError
  | other (code : ℕ)
  deriving DecidableEq, Repr

/-! ### Contexts -/

structure IsochReceiveContext where
  channel : ℕ := 0xFF
  contextIndex : ℕ := 0xFF
  running : Bool := false
  consumer : Option ℕ := none
  deriving DecidableEq, Repr

namespace IsochReceiveContext

/-- The channel is taken over before the rings are set up. -/
def configure (c : IsochReceiveContext) (channel contextIndex : ℕ) (setupRings : KernReturn) :
    IsochReceiveContext × KernReturn :=
  if contextIndex ≥ 4 then (c, .badArgument)
  else ({ c with contextIndex := contextIndex, channel := channel }, setupRings)

/-- `answer` is what becomes of the register writes. -/
def start (answer : KernReturn) (c : IsochReceiveContext) : IsochReceiveContext × KernReturn :=
  if c.running then (c, .invalid)
  else if answer = .success then ({ c with running := true }, .success)
  else (c, answer)

/-- `answer` is whether ACTIVE cleared. -/
def stop (answer : KernReturn) (c : IsochReceiveContext) : IsochReceiveContext × KernReturn :=
  if !c.running then (c, .success)
  else if answer = .success then ({ c with running := false }, .success)
  else (c, answer)

end IsochReceiveContext

inductive ITState | unconfigured | configured | running | stopped
  deriving DecidableEq, Repr

structure IsochTransmitContext where
  channel : ℕ := 0
  sid : ℕ := 0
  speed : ℕ := 2
  contextIndex : ℕ := 0
  state : ITState := .unconfigured
  deriving DecidableEq, Repr

namespace IsochTransmitContext

def running (c : IsochTransmitContext) : Bool := c.state = .running

def configure (c : IsochTransmitContext) (channel sid speed : ℕ) (setupRings : KernReturn) :
    IsochTransmitContext × KernReturn :=
  if c.state ≠ .unconfigured ∧ c.state ≠ .stopped then (c, .busy)
  else
    let c := { c with channel := channel, sid := sid, speed := speed }
    if setupRings ≠ .success then (c, setupRings)
    else ({ c with state := .configured }, .success)

def start (answer : KernReturn) (c : IsochTransmitContext) : IsochTransmitContext × KernReturn :=
  if c.state ≠ .configured ∧ c.state ≠ .stopped then (c, .notReady)
  else if answer = .success then ({ c with state := .running }, .success)
  else (c, answer)

def stop (answer : KernReturn) (c : IsochTransmitContext) : IsochTransmitContext × KernReturn :=
  if c.state = .running then
    if answer = .success then ({ c with state := .stopped }, .success) else (c, answer)
  else if c.state = .configured then ({ c with state := .stopped }, .success)
  else (c, .success)

end IsochTransmitContext

/-! ### Loops over the contexts of a direction -/

def kMaxStreamsPerDirection : ℕ := 4

variable {C : Type}

/-- Starts the contexts there are, up to the first that fails. -/
def startEach (start : ℕ → C → C × KernReturn) :
    List ℕ → (ℕ → Option C) → (ℕ → Option C) × KernReturn
  | [], table => (table, .success)
  | i :: streams, table =>
    match table i with
    | none => startEach start streams table
    | some c =>
      let (c, status) := start i c
      let table := Function.update table i (some c)
      if status ≠ .success then (table, status) else startEach start streams table

/-- Stops the contexts there are and reports the first failure. -/
def stopEach (stop : ℕ → C → C × KernReturn) :
    List ℕ → (ℕ → Option C) → (ℕ → Option C) × KernReturn
  | [], table => (table, .success)
  | i :: streams, table =>
    match table i with
    | none => stopEach stop streams table
    | some c =>
      let (c, status) := stop i c
      let (table, rest) := stopEach stop streams (Function.update table i (some c))
      (table, if status ≠ .success then status else rest)

/-! ### The service -/

structure ReservedDuplexResources where
  playbackActive : Bool := false
  playbackChannel : ℕ := 0xFF
  playbackBandwidthUnits : ℕ := 0
  captureActive : Bool := false
  captureChannel : ℕ := 0xFF
  captureBandwidthUnits : ℕ := 0
  deriving DecidableEq, Repr

/-- `streamingActive` is the flag last given to the hardware interface. -/
structure IsochService where
  receive : ℕ → Option IsochReceiveContext := fun _ => none
  transmit : ℕ → Option IsochTransmitContext := fun _ => none
  receiveConsumers : ℕ → Option ℕ := fun _ => none
  captureChannelOffset : ℕ → ℕ := fun _ => 0
  activeGuid : ℕ := 0
  reserved : ReservedDuplexResources := {}
  hardware : Bool := false
  streamingActive : Bool := false

/-- What one call finds: whether a context can be created, its rings set up and its shared memory
mapped (`none` where the stream has no slab), what starting and stopping each context comes to, and
whether the provider is gone. -/
structure HardwareAnswers where
  create : Bool := true
  setupRings : KernReturn := .success
  sharedMemory : Option KernReturn := some .success
  startReceive : ℕ → KernReturn := fun _ => .success
  startTransmit : ℕ → KernReturn := fun _ => .success
  stopReceive : ℕ → KernReturn := fun _ => .success
  stopTransmit : ℕ → KernReturn := fun _ => .success
  hardwareGone : Bool := false

namespace IsochService

def streams : List ℕ := List.range kMaxStreamsPerDirection

def secondaries : List ℕ := streams.tail

def anyRunning (s : IsochService) : Bool :=
  streams.any fun i => (s.receive i).any (·.running) || (s.transmit i).any (·.running)

def updateStreamingActiveState (s : IsochService) : IsochService :=
  if !s.hardware then s else { s with streamingActive := s.anyRunning }

def setReceiveConsumer (s : IsochService) (streamIndex : ℕ) (consumer : Option ℕ) : IsochService :=
  if streamIndex ≥ kMaxStreamsPerDirection then s
  else { s with
    receiveConsumers := Function.update s.receiveConsumers streamIndex consumer
    receive := Function.update s.receive streamIndex
      ((s.receive streamIndex).map fun c => { c with consumer := consumer }) }

/-- Creates the receive context of a stream on first use and configures it. -/
def prepareReceiveContext (s : IsochService) (streamIndex channel : ℕ) (a : HardwareAnswers) :
    IsochService × KernReturn :=
  let s := { s with hardware := true }
  match s.receive streamIndex, a.create with
  | none, false => (s, .noMemory)
  | none, true =>
    let (c, status) := IsochReceiveContext.configure
      { consumer := s.receiveConsumers streamIndex } channel streamIndex a.setupRings
    ({ s with receive := Function.update s.receive streamIndex (some c) }, status)
  | some c, _ =>
    let (c, status) := IsochReceiveContext.configure
      { c with consumer := s.receiveConsumers streamIndex } channel streamIndex a.setupRings
    ({ s with receive := Function.update s.receive streamIndex (some c) }, status)

def prepareReceive (s : IsochService) (channel : ℕ) (a : HardwareAnswers) :
    IsochService × KernReturn := s.prepareReceiveContext 0 channel a

def prepareReceiveStream (s : IsochService) (streamIndex channel channelOffset : ℕ)
    (a : HardwareAnswers) : IsochService × KernReturn :=
  if streamIndex = 0 ∨ streamIndex ≥ kMaxStreamsPerDirection then
    ({ s with hardware := true }, .badArgument)
  else
    let (s, status) := s.prepareReceiveContext streamIndex channel a
    if status ≠ .success then (s, status)
    else ({ s with
      captureChannelOffset := Function.update s.captureChannelOffset streamIndex channelOffset },
      .success)

def startPreparedReceive (s : IsochService) (a : HardwareAnswers) : IsochService × KernReturn :=
  match s.receive 0 with
  | none => (s, .notReady)
  | some c =>
    let (c, status) := c.start (a.startReceive 0)
    let s := { s with receive := Function.update s.receive 0 (some c) }
    if status ≠ .success then (s, status)
    else
      let (table, status) :=
        startEach (fun i => IsochReceiveContext.start (a.startReceive i)) secondaries s.receive
      ({ s with receive := table }.updateStreamingActiveState, status)

def stopReceive (s : IsochService) (a : HardwareAnswers) : IsochService × KernReturn :=
  let (table, status) :=
    stopEach (fun i => IsochReceiveContext.stop (a.stopReceive i)) streams s.receive
  ({ s with receive := table }, status)

/-- The contexts and the answer, and whether `StartPreparedReceive` was reached. -/
def startPacketReceive (s : IsochService) (channel : ℕ) (consumer : Option ℕ)
    (a : HardwareAnswers) : IsochService × KernReturn × Bool :=
  if consumer = none then (s, .badArgument, false)
  else if (s.receive 0).any (·.running) then (s, .busy, false)
  else
    let (s, prepared) := (s.setReceiveConsumer 0 consumer).prepareReceive channel a
    if prepared ≠ .success then (s.setReceiveConsumer 0 none, prepared, false)
    else
      let (s, started) := s.startPreparedReceive a
      if started ≠ .success then (s.setReceiveConsumer 0 none, started, true)
      else (s, .success, true)

def stopPacketReceive (s : IsochService) (consumer : Option ℕ) (a : HardwareAnswers) :
    IsochService × KernReturn :=
  if consumer = none ∨ s.receiveConsumers 0 ≠ consumer then (s, .badArgument)
  else
    let (s, status) := s.stopReceive a
    if status = .success then (s.setReceiveConsumer 0 none, .success) else (s, status)

/-- Creates the transmit context of a stream on first use and configures it; the master may do
without a slab, a secondary stream may not. -/
def prepareTransmitContext (s : IsochService) (streamIndex channel sid speed : ℕ)
    (a : HardwareAnswers) : IsochService × KernReturn :=
  let s := { s with hardware := true }
  let configure (c : IsochTransmitContext) : IsochService × KernReturn :=
    let (c, status) := { c with contextIndex := streamIndex }.configure channel sid speed a.setupRings
    let s := { s with transmit := Function.update s.transmit streamIndex (some c) }
    if status ≠ .success then (s, status)
    else match a.sharedMemory with
      | some status => (s, status)
      | none => (s, if streamIndex = 0 then .success else .notReady)
  match s.transmit streamIndex, a.create with
  | none, false => (s, .noMemory)
  | none, true => configure {}
  | some c, _ => configure c

def prepareTransmit (s : IsochService) (channel sid speed : ℕ) (a : HardwareAnswers) :
    IsochService × KernReturn := s.prepareTransmitContext 0 channel sid speed a

def prepareTransmitStream (s : IsochService) (streamIndex channel sid speed : ℕ)
    (a : HardwareAnswers) : IsochService × KernReturn :=
  if streamIndex = 0 ∨ streamIndex ≥ kMaxStreamsPerDirection then
    ({ s with hardware := true }, .badArgument)
  else s.prepareTransmitContext streamIndex channel sid speed a

def startPreparedTransmit (s : IsochService) (a : HardwareAnswers) : IsochService × KernReturn :=
  match s.transmit 0 with
  | none => (s, .notReady)
  | some c =>
    let (c, status) := c.start (a.startTransmit 0)
    let s := { s with transmit := Function.update s.transmit 0 (some c) }
    if status ≠ .success then (s, status)
    else
      let (table, status) :=
        startEach (fun i => IsochTransmitContext.start (a.startTransmit i)) secondaries s.transmit
      ({ s with transmit := table }.updateStreamingActiveState, status)

def stopTransmit (s : IsochService) (a : HardwareAnswers) : IsochService × KernReturn :=
  let (table, status) :=
    stopEach (fun i => IsochTransmitContext.stop (a.stopTransmit i)) streams s.transmit
  ({ s with transmit := table }.updateStreamingActiveState, status)

def claimDuplexGuid (s : IsochService) (guid : ℕ) : IsochService × KernReturn :=
  if s.activeGuid ≠ 0 ∧ s.activeGuid ≠ guid then (s, .busy)
  else ({ s with activeGuid := guid }, .success)

def beginSplitDuplex (s : IsochService) (guid : ℕ) : IsochService × KernReturn :=
  let (s, status) := s.claimDuplexGuid guid
  if status ≠ .success then (s, status) else ({ s with reserved := {} }, .success)

def stopAll (s : IsochService) (a : HardwareAnswers) : IsochService × KernReturn :=
  let (s, receiveStatus) := s.stopReceive a
  let (s, transmitStatus) := s.stopTransmit a
  if receiveStatus ≠ .success ∨ transmitStatus ≠ .success then
    if s.hardware && a.hardwareGone then
      ({ s with reserved := {}, activeGuid := 0 }, .success)
    else (s, if receiveStatus ≠ .success then receiveStatus else transmitStatus)
  else ({ s with reserved := {}, activeGuid := 0 }, .success)

end IsochService

end ASFireWire.Isoch
