import Mathlib

/-! The replay ring between receive and transmit (`Audio/Wire/AMDTP/RxSequenceReplay.hpp`), each
operation run to completion, and the cycle-timer arithmetic around it. -/
namespace ASFireWire.AudioRx

/-! ### Cycle timer -/

def kTicksPerCycle : ℕ := 3072

def kCyclesPerSecond : ℕ := 8000

def kTicksPerSecond : ℕ := 24576000

def kFWTimeWrapSeconds : ℕ := 128

structure CycleTimerFields where
  seconds : ℕ
  cycle : ℕ
  offset : ℕ
  deriving DecidableEq, Repr

def decodeCycleTimer (cycleTimer : ℕ) : CycleTimerFields where
  seconds := cycleTimer / 2 ^ 25 % 2 ^ 7
  cycle := cycleTimer / 2 ^ 12 % 2 ^ 13
  offset := cycleTimer % 2 ^ 12

def encodeCycleTimer (seconds cycle offset : ℕ) : ℕ :=
  seconds % 2 ^ 7 * 2 ^ 25 + cycle % 2 ^ 13 * 2 ^ 12 + offset % 2 ^ 12

lemma decode_encode {seconds cycle offset : ℕ} (hseconds : seconds < 2 ^ 7) (hcycle : cycle < 2 ^ 13)
    (hoffset : offset < 2 ^ 12) :
    decodeCycleTimer (encodeCycleTimer seconds cycle offset) = ⟨seconds, cycle, offset⟩ := by
  simp only [decodeCycleTimer, encodeCycleTimer, CycleTimerFields.mk.injEq]
  omega

/-- Number of the cycle within the 128 seconds of the timer. -/
def cycleOrdinal (cycleTimer : ℕ) : ℕ :=
  (decodeCycleTimer cycleTimer).seconds * kCyclesPerSecond + (decodeCycleTimer cycleTimer).cycle

def kCycleDomain : ℕ := kFWTimeWrapSeconds * kCyclesPerSecond

/-! ### Entries -/

def kNoOffset : ℕ := 2 ^ 32 - 1

structure RxSequenceEntry where
  firstAudioFrame : ℕ := 0
  sourceCycleTimer : ℕ := 0
  sytOffset : ℕ := kNoOffset
  dataBlocks : ℕ := 0
  dbc : ℕ := 0
  flags : ℕ := 0
  deriving DecidableEq, Repr

namespace RxSequenceFlags

def kValidCip : ℕ := 1

def kValidSyt : ℕ := 2

end RxSequenceFlags

def kSytNoInfo : ℕ := 2 ^ 16 - 1

def kSytCycleModulus : ℕ := 16

/-- Presentation time of a SYT after the cycle of its packet, less the transfer delay. -/
def computeReplaySytOffset (syt sourceCycleTimer transferDelayTicks : ℕ) : ℕ :=
  if syt = kSytNoInfo then kNoOffset
  else
    let sourceCycleLow := (decodeCycleTimer sourceCycleTimer).cycle % 16
    let sytCycle := syt / 2 ^ 12 % 16
    let sytCycleLow :=
      (if sytCycle < sourceCycleLow then sytCycle + kSytCycleModulus else sytCycle) - sourceCycleLow
    let offset := sytCycleLow * kTicksPerCycle + syt % 2 ^ 12
    let offset :=
      if offset < transferDelayTicks then offset + kSytCycleModulus * kTicksPerCycle else offset
    (offset + 2 ^ 32 - transferDelayTicks) % 2 ^ 32

/-! ### The ring -/

namespace RxSequenceReplayState

def kCapacity : ℕ := 512

def kReadDelay : ℕ := kCapacity / 2

structure Slot where
  sequence : ℕ := 0
  epoch : ℕ := 0
  entry : RxSequenceEntry := {}
  deriving DecidableEq, Repr

end RxSequenceReplayState

open RxSequenceReplayState in
structure RxSequenceReplayState where
  slots : ℕ → Slot := fun _ => {}
  producerCursor : ℕ := 0
  epoch : ℕ := 0
  established : Bool := false

namespace RxSequenceReplayState

def reset (r : RxSequenceReplayState) : RxSequenceReplayState where
  slots := fun i => { r.slots i with sequence := 0 }
  producerCursor := 0
  epoch := (r.epoch + 1) % 2 ^ 32
  established := false

def publish (r : RxSequenceReplayState) (entry : RxSequenceEntry) : RxSequenceReplayState :=
  { r with
    slots := Function.update r.slots (r.producerCursor % kCapacity)
      { sequence := r.producerCursor + 1, epoch := r.epoch, entry := entry }
    producerCursor := r.producerCursor + 1 }

/-- Refused until half a ring has been published. -/
def markEstablished (r : RxSequenceReplayState) : RxSequenceReplayState :=
  if r.producerCursor < kReadDelay then r else { r with established := true }

end RxSequenceReplayState

end ASFireWire.AudioRx
