import Mathlib

/-! The receive ring of an AR context (`Shared/Rings/BufferRing`) and the controller that fills it:
descriptors in shared memory, linked by branch words whose Z bit lets the controller go on. The
controller works between any two accesses of the driver. -/
namespace ASFireWire.Shared

/-- The words of a descriptor. -/
structure ARDescriptor where
  control : ℕ := 0
  dataAddress : ℕ := 0
  branchWord : ℕ := 0
  statusWord : ℕ := 0
  deriving DecidableEq, Repr

namespace ARDescriptor

def reqCount (desc : ARDescriptor) : ℕ := desc.control % 2 ^ 16

/-- `AR_resCount`. -/
def resCount (desc : ARDescriptor) : ℕ := desc.statusWord % 2 ^ 16

/-- `DescriptorBytesFilled`. -/
def bytesFilled (desc : ARDescriptor) : ℕ :=
  if desc.resCount ≤ desc.reqCount then desc.reqCount - desc.resCount else 0

def zBit (desc : ARDescriptor) : ℕ := desc.branchWord % 2

/-- `AR_init_status`. -/
def initStatus (desc : ARDescriptor) (reqCount : ℕ) : ARDescriptor :=
  { desc with statusWord := reqCount }

def clearZ (desc : ARDescriptor) : ARDescriptor :=
  { desc with branchWord := desc.branchWord / 2 * 2 }

def setZ (desc : ARDescriptor) : ARDescriptor :=
  { desc with branchWord := desc.branchWord / 2 * 2 + 1 }

end ARDescriptor

/-- `MakeBranchWordAR`; zero is the error value. -/
def makeBranchWordAR (physAddr z : ℕ) : ℕ :=
  if physAddr % 16 ≠ 0 ∨ 0xFFFFFFFF < physAddr then 0
  else if 1 < z then 0
  else physAddr / 16 * 16 + z

structure FilledBufferInfo where
  virtualAddress : ℕ
  startOffset : ℕ
  bytesFilled : ℕ
  descriptorIndex : ℕ
  deriving DecidableEq, Repr

inductive RingReturn | success | badArgument | notReady | underrun
  deriving DecidableEq, Repr

/-- `descriptorCount` and `bufferBytes` are the sizes of the two spans; virtual addresses count from
the start of the buffers. -/
structure BufferRing where
  descriptors : ℕ → ARDescriptor := fun _ => {}
  descriptorCount : ℕ := 0
  bufferBytes : ℕ := 0
  bufferCount : ℕ := 0
  bufferSize : ℕ := 0
  head : ℕ := 0
  lastDequeuedBytes : ℕ := 0
  lastObservedTotalBytes : ℕ := 0
  lastLinkedIndex : ℕ := 0
  wakeRequired : Bool := false
  descIOVABase : ℕ := 0
  bufIOVABase : ℕ := 0

namespace BufferRing

def nextIndex (ring : BufferRing) (index : ℕ) : ℕ := (index + 1) % ring.bufferCount

/-- The branch word `Finalize` gives a descriptor: Z is set in all but the last. -/
def branchWordFor (ring : BufferRing) (descriptorsIOVABase i : ℕ) : ℕ :=
  makeBranchWordAR ((descriptorsIOVABase + ring.nextIndex i * 16) % 2 ^ 64)
    (if i ≠ ring.bufferCount - 1 then 1 else 0)

/-- The loop of `Finalize`; it stops at the first address out of range. -/
def patchDescriptors (descriptorsIOVABase buffersIOVABase : ℕ) : List ℕ → BufferRing → BufferRing × Bool
  | [], ring => (ring, true)
  | i :: rest, ring =>
    let dataIOVA := (buffersIOVABase + i * ring.bufferSize) % 2 ^ 64
    if 0xFFFFFFFF < dataIOVA then (ring, false)
    else
      let addressed := { ring with
        descriptors := Function.update ring.descriptors i
          { ring.descriptors i with dataAddress := dataIOVA } }
      let branchWord := ring.branchWordFor descriptorsIOVABase i
      if branchWord = 0 then (addressed, false)
      else patchDescriptors descriptorsIOVABase buffersIOVABase rest { ring with
        descriptors := Function.update ring.descriptors i
          { ring.descriptors i with dataAddress := dataIOVA, branchWord := branchWord } }

/-- `Finalize`. -/
def finalize (ring : BufferRing) (descriptorsIOVABase buffersIOVABase : ℕ) : BufferRing × Bool :=
  if ring.descriptorCount = 0 ∨ ring.bufferBytes = 0 ∨ ring.bufferCount = 0 ∨ ring.bufferSize = 0 then
    (ring, false)
  else if descriptorsIOVABase % 16 ≠ 0 ∨ buffersIOVABase % 16 ≠ 0 then (ring, false)
  else
    match patchDescriptors descriptorsIOVABase buffersIOVABase (List.range ring.bufferCount) ring with
    | (patched, false) => (patched, false)
    | (patched, true) => ({ patched with
        descIOVABase := descriptorsIOVABase % 2 ^ 32
        bufIOVABase := buffersIOVABase % 2 ^ 32
        lastLinkedIndex := patched.bufferCount - 1
        wakeRequired := false }, true)

def getBufferAddress (ring : BufferRing) (index : ℕ) : Option ℕ :=
  if ring.bufferCount ≤ index then none
  else
    let offset := index * ring.bufferSize % 2 ^ 64
    if ring.bufferBytes < (offset + ring.bufferSize) % 2 ^ 64 then none else some offset

/-- Bytes of a buffer that the driver has not consumed. -/
def unconsumed (ring : BufferRing) (index : ℕ) : ℕ :=
  if index = ring.head then (ring.descriptors index).bytesFilled - ring.lastDequeuedBytes
  else (ring.descriptors index).bytesFilled

end BufferRing

/-! ### The controller -/

/-- The controller goes on to the descriptor its branch word names, or writes the status of a
descriptor. -/
inductive HardwareEvent
  | followBranch
  | writeStatus (index statusWord : ℕ)
  deriving DecidableEq, Repr

/-- The ring and the controller: the descriptor it is in, the ones whose status it still writes,
the buffers it went into with the bytes it found unconsumed there (newest first), and its work
before each of the driver's next accesses. -/
structure ReceiveDma where
  ring : BufferRing
  current : ℕ := 0
  owned : ℕ → Bool := fun i => i = 0
  entries : List (ℕ × ℕ) := []
  schedule : List (List HardwareEvent) := []

namespace ReceiveDma

/-- The index of the descriptor a branch word names. -/
def branchTarget (s : ReceiveDma) (branchWord : ℕ) : ℕ :=
  (branchWord / 16 * 16 - s.ring.descIOVABase) / 16

/-- The controller only fills: a status word of its own shows no fewer bytes than the last one and
no more than the buffer has room for. -/
def hardware (s : ReceiveDma) : HardwareEvent → ReceiveDma
  | .followBranch =>
    let desc := s.ring.descriptors s.current
    if desc.zBit = 0 then s
    else
      let target := s.branchTarget desc.branchWord
      { s with
        current := target
        owned := Function.update s.owned target true
        entries := (target, s.ring.unconsumed target) :: s.entries }
  | .writeStatus index statusWord =>
    let desc := s.ring.descriptors index
    let written := { desc with statusWord := statusWord }
    if s.owned index = true ∧ written.resCount ≤ desc.reqCount ∧
        desc.bytesFilled ≤ written.bytesFilled then
      { s with ring := { s.ring with descriptors := Function.update s.ring.descriptors index written } }
    else s

def work (s : ReceiveDma) (events : List HardwareEvent) : ReceiveDma := events.foldl hardware s

/-- What the controller does before the driver's next access. -/
def touch (s : ReceiveDma) : ReceiveDma :=
  match s.schedule with
  | [] => s
  | events :: rest => { s.work events with schedule := rest }

/-! ### The driver -/

/-- The consumed descriptor becomes the new terminal. -/
def prepareTerminal (s : ReceiveDma) (index : ℕ) : ReceiveDma :=
  let desc := s.ring.descriptors index
  let terminal := desc.clearZ.initStatus desc.reqCount
  { s with
    ring := { s.ring with descriptors := Function.update s.ring.descriptors index terminal }
    owned := Function.update s.owned index (index = s.current) }

/-- The old terminal is linked to the program again, and the head goes on. -/
def linkTerminal (s : ReceiveDma) (index : ℕ) : ReceiveDma :=
  let oldTerminal := s.ring.descriptors s.ring.lastLinkedIndex
  { s with ring := { s.ring with
    descriptors := Function.update s.ring.descriptors s.ring.lastLinkedIndex oldTerminal.setZ
    lastLinkedIndex := index
    wakeRequired := true
    head := s.ring.nextIndex s.ring.head
    lastDequeuedBytes := 0
    lastObservedTotalBytes := 0 } }

def recycle (s : ReceiveDma) (index : ℕ) : ReceiveDma × RingReturn :=
  if index ≠ s.ring.head then (s, .badArgument)
  else if s.ring.bufferCount ≤ index then (s, .badArgument)
  else ((s.touch.prepareTerminal index).touch.linkTerminal index, .success)

def observe (s : ReceiveDma) (total : ℕ) : ReceiveDma :=
  { s with ring := { s.ring with lastObservedTotalBytes := total } }

/-- The head buffer from the first unconsumed byte on. -/
def headInfo (s : ReceiveDma) (virtualAddress total : ℕ) : FilledBufferInfo where
  virtualAddress := virtualAddress
  startOffset := s.ring.lastDequeuedBytes
  bytesFilled := total
  descriptorIndex := s.ring.head

/-- `Dequeue` behind the successful recycling of a drained head. -/
def dequeueAdvanced (s : ReceiveDma) : ReceiveDma × Option FilledBufferInfo :=
  let s := s.touch
  let total := (s.ring.descriptors s.ring.head).bytesFilled
  if total = 0 then (s, none)
  else
    match s.ring.getBufferAddress s.ring.head with
    | none => (s, none)
    | some address => (s, some { s.headInfo address total with startOffset := 0 })

/-- `Dequeue` on a drained head: the successor is read, then the head once more. -/
def dequeueDrained (s : ReceiveDma) : ReceiveDma × Option FilledBufferInfo :=
  let s := s.touch
  let next := s.ring.descriptors (s.ring.nextIndex s.ring.head)
  if next.resCount = next.reqCount then (s, none)
  else
    let s := s.touch
    let rereadTotal := (s.ring.descriptors s.ring.head).bytesFilled
    if s.ring.lastDequeuedBytes < rereadTotal then
      match s.ring.getBufferAddress s.ring.head with
      | none => (s, none)
      | some address => (s.observe rereadTotal, some (s.headInfo address rereadTotal))
    else
      match s.recycle s.ring.head with
      | (s, .success) => s.dequeueAdvanced
      | (s, _) => (s, none)

/-- `Dequeue` on a tail it has handed out before. -/
def dequeueObserved (s : ReceiveDma) (desc : ARDescriptor) : ReceiveDma × Option FilledBufferInfo :=
  if desc.bytesFilled = desc.reqCount then
    let s := s.touch
    if 0 < (s.ring.descriptors (s.ring.nextIndex s.ring.head)).bytesFilled then
      match s.ring.getBufferAddress s.ring.head with
      | none => (s, none)
      | some address => (s, some (s.headInfo address desc.bytesFilled))
    else (s, none)
  else (s, none)

def dequeue (s : ReceiveDma) : ReceiveDma × Option FilledBufferInfo :=
  if s.ring.descriptorCount = 0 then (s, none)
  else
    let s := s.touch
    let desc := s.ring.descriptors s.ring.head
    if desc.bytesFilled ≤ s.ring.lastDequeuedBytes then s.dequeueDrained
    else if desc.bytesFilled ≤ s.ring.lastObservedTotalBytes then s.dequeueObserved desc
    else if desc.reqCount < desc.resCount then (s, none)
    else
      match s.ring.getBufferAddress s.ring.head with
      | none => (s, none)
      | some address => (s.observe desc.bytesFilled, some (s.headInfo address desc.bytesFilled))

def commitConsumed (s : ReceiveDma) (index consumedBytes : ℕ) : ReceiveDma × RingReturn :=
  if index ≠ s.ring.head then (s, .badArgument)
  else if s.ring.bufferCount ≤ index then (s, .badArgument)
  else
    let s := s.touch
    if (s.ring.descriptors index).bytesFilled < consumedBytes then (s, .badArgument)
    else if consumedBytes < s.ring.lastDequeuedBytes then (s, .badArgument)
    else ({ s with ring := { s.ring with
      lastDequeuedBytes := consumedBytes
      lastObservedTotalBytes := max s.ring.lastObservedTotalBytes consumedBytes } }, .success)

/-- The first loop of `ConsumeReadableBytes` over the buffers from `index` on: an error, or the
bytes that are there. -/
def availableBytes (consumedBytes : ℕ) : ℕ → ReceiveDma → ℕ → ℕ → ℕ → ReceiveDma × Except RingReturn ℕ
  | 0, s, _, _, available => (s, .ok available)
  | visits + 1, s, index, startOffset, available =>
    if consumedBytes ≤ available then (s, .ok available)
    else
      let s := s.touch
      let total := (s.ring.descriptors index).bytesFilled
      if total < startOffset then (s, .error .badArgument)
      else if total - startOffset = 0 then (s, .ok available)
      else availableBytes consumedBytes visits s (s.ring.nextIndex index) 0 (available + (total - startOffset))

/-- The second loop. Every turn but the last takes at least one byte. -/
def consumeLoop : ℕ → ReceiveDma → ℕ → ReceiveDma × RingReturn
  | 0, s, _ => (s, .success)
  | turns + 1, s, remaining =>
    if remaining = 0 then (s, .success)
    else
      let s := s.touch
      let total := (s.ring.descriptors s.ring.head).bytesFilled
      if total < s.ring.lastDequeuedBytes then (s, .badArgument)
      else
        let readableBytes := total - s.ring.lastDequeuedBytes
        if readableBytes = 0 then (s, .underrun)
        else if remaining < readableBytes then
          ({ s with ring := { s.ring with
            lastDequeuedBytes := s.ring.lastDequeuedBytes + remaining
            lastObservedTotalBytes := s.ring.lastDequeuedBytes + remaining } }, .success)
        else
          let drained := { s with ring := { s.ring with
            lastDequeuedBytes := total, lastObservedTotalBytes := total } }
          if remaining = readableBytes then (drained, .success)
          else
            match drained.recycle drained.ring.head with
            | (s, .success) => consumeLoop turns s (remaining - readableBytes)
            | (s, error) => (s, error)

def consumeReadableBytes (s : ReceiveDma) (consumedBytes : ℕ) : ReceiveDma × RingReturn :=
  if s.ring.descriptorCount = 0 ∨ s.ring.bufferCount = 0 then (s, .notReady)
  else if consumedBytes = 0 then (s, .success)
  else
    match availableBytes consumedBytes s.ring.bufferCount s s.ring.head s.ring.lastDequeuedBytes 0 with
    | (s, .error error) => (s, error)
    | (s, .ok available) =>
      if available < consumedBytes then (s, .underrun) else consumeLoop consumedBytes s consumedBytes

/-- A call of the driver, or work of the controller between two calls. -/
inductive RingEvent
  | dequeue
  | commitConsumed (index consumedBytes : ℕ)
  | consumeReadableBytes (consumedBytes : ℕ)
  | recycle (index : ℕ)
  | hardware (event : HardwareEvent)
  deriving DecidableEq, Repr

def step (s : ReceiveDma) : RingEvent → ReceiveDma
  | .dequeue => s.dequeue.1
  | .commitConsumed index consumedBytes => (s.commitConsumed index consumedBytes).1
  | .consumeReadableBytes consumedBytes => (s.consumeReadableBytes consumedBytes).1
  | .recycle index => (s.recycle index).1
  | .hardware event => s.hardware event

end ReceiveDma

end ASFireWire.Shared
