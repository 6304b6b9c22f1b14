import ASFireWire.AsyncTypes
import ASFireWire.DuplexControlTypes
import ASFireWire.ProgramLogs

/-! Registers, clock words and states of a DICE device, and what the bring-up controller asks of the
bus, the device and its surroundings. -/
namespace ASFireWire.DICE

open Programs
open Async (AsyncStatus)

abbrev Quadlet := BitVec 32

inductive IOReturn
  | success | error | badArgument | notReady | busy | timeout | underrun | aborted | offline
  | exclusiveAccess | unsupported
  deriving DecidableEq, Repr

/-- `MapAsyncStatusToIOReturn`. -/
def mapTransportStatus : AsyncStatus → IOReturn
  | .success => .success
  | .timeout => .timeout
  | .shortRead => .underrun
  | .busyRetryExhausted => .busy
  | .aborted => .aborted
  | .hardwareError => .error
  | .lockCompareFail => .exclusiveAccess
  | .staleGeneration => .offline

@[simp] lemma mapTransportStatus_eq_success {status : AsyncStatus} :
    mapTransportStatus status = .success ↔ status = .success := by
  cases status <;> simp [mapTransportStatus]

/-! ### Registers -/

def kDICEBaseAddress : BitVec 48 := 0xFFFFE0000000#48

/-- The 48-bit address; a sum beyond it wraps as the address parts do. -/
def makeDICEAddress (offset : Quadlet) : BitVec 48 := kDICEBaseAddress + offset.setWidth 48

/-- In bytes. -/
structure Section where
  offset : Quadlet := 0
  size : Quadlet := 0
  deriving DecidableEq, Repr

structure GeneralSections where
  global : Section := {}
  txStreamFormat : Section := {}
  rxStreamFormat : Section := {}
  deriving DecidableEq, Repr

def GlobalOffset.kOwnerHi : Quadlet := 0x00
def GlobalOffset.kNotification : Quadlet := 0x08
def GlobalOffset.kClockSelect : Quadlet := 0x4C
def GlobalOffset.kEnable : Quadlet := 0x50
def GlobalOffset.kStatus : Quadlet := 0x54
def GlobalOffset.kExtStatus : Quadlet := 0x58

def TxOffset.kNumber : Quadlet := 0x00
def TxOffset.kSize : Quadlet := 0x04
def TxOffset.kIsochronous : Quadlet := 0x08
def TxOffset.kNumberAudio : Quadlet := 0x0C
def TxOffset.kNumberMidi : Quadlet := 0x10
def TxOffset.kSpeed : Quadlet := 0x14
def TxOffset.kNames : Quadlet := 0x18

def RxOffset.kNumber : Quadlet := 0x00
def RxOffset.kSize : Quadlet := 0x04
def RxOffset.kIsochronous : Quadlet := 0x08
def RxOffset.kSeqStart : Quadlet := 0x0C
def RxOffset.kNumberAudio : Quadlet := 0x10
def RxOffset.kNumberMidi : Quadlet := 0x14
def RxOffset.kNames : Quadlet := 0x18

/-! ### Clock and global state -/

structure DiceClockConfiguration where
  sampleRateHz : ℕ := 0
  clockSelect : Quadlet := 0
  deriving DecidableEq, Repr

/-- The rate and its index in the clock words. -/
def kDiceRateTable : List (ℕ × Quadlet) :=
  [(32000, 0x00), (44100, 0x01), (48000, 0x02), (88200, 0x03), (96000, 0x04), (176400, 0x05),
    (192000, 0x06)]

def kDiceMaxSupportedRateHz : ℕ := 48000

def isSupportedDiceClockConfiguration (clock : DiceClockConfiguration) : Bool :=
  if clock.sampleRateHz > kDiceMaxSupportedRateHz then false
  else if clock.clockSelect &&& 0xFF ≠ 0x0C then false
  else match kDiceRateTable.find? fun e => e.1 = clock.sampleRateHz with
    | some e => (clock.clockSelect &&& 0xFF00) >>> 8 = e.2
    | none => false

/-- The fields the bring-up reads. -/
structure GlobalState where
  notification : Quadlet := 0
  clockSelect : Quadlet := 0
  status : Quadlet := 0
  sampleRate : ℕ := 0
  deriving DecidableEq, Repr

def isSourceLocked (status : Quadlet) : Bool := status &&& 0x1 ≠ 0

def nominalRateHz (status : Quadlet) : ℕ :=
  match kDiceRateTable.find? fun e => e.2 = (status &&& 0xFF00) >>> 8 with
  | some e => e.1
  | none => 0

def Notify.kClockAccepted : Quadlet := 0x20

/-! ### Streams -/

def kMaxAudioStreamsPerDirection : ℕ := 4

def kCaptureIsoChannels : Vector (BitVec 8) kMaxAudioStreamsPerDirection := #v[0, 0, 0, 0]
def kPlaybackIsoChannels : Vector (BitVec 8) kMaxAudioStreamsPerDirection := #v[1, 0, 0, 0]

/-- The channels the host assigns; the arrays carry the streams after the first. -/
structure AudioDuplexChannels where
  deviceToHostIsoChannel : BitVec 8 := 0
  hostToDeviceIsoChannel : BitVec 8 := 1
  captureStreamCount : ℕ := 1
  playbackStreamCount : ℕ := 1
  captureIsoChannels : Vector (BitVec 8) kMaxAudioStreamsPerDirection := kCaptureIsoChannels
  playbackIsoChannels : Vector (BitVec 8) kMaxAudioStreamsPerDirection := kPlaybackIsoChannels
  deriving DecidableEq, Repr

namespace AudioDuplexChannels

def captureChannel (channels : AudioDuplexChannels) (i : ℕ) : BitVec 8 :=
  if i = 0 then channels.deviceToHostIsoChannel
  else
    channels.captureIsoChannels.get ⟨i % kMaxAudioStreamsPerDirection, Nat.mod_lt i (by decide)⟩

def playbackChannel (channels : AudioDuplexChannels) (i : ℕ) : BitVec 8 :=
  if i = 0 then channels.hostToDeviceIsoChannel
  else
    channels.playbackIsoChannels.get ⟨i % kMaxAudioStreamsPerDirection, Nat.mod_lt i (by decide)⟩

end AudioDuplexChannels

/-- `-1` is a disabled stream. -/
structure StreamConfig where
  isoChannels : List ℤ := []
  deriving DecidableEq, Repr

def kInvalidIsoChannel : BitVec 8 := 0xFF

def StreamConfig.firstActiveIsoChannel (config : StreamConfig) (fallback : BitVec 8) : BitVec 8 :=
  match (config.isoChannels.take 4).find? fun channel => 0 ≤ channel ∧ channel ≤ 0x3F with
  | some channel => BitVec.ofInt 8 channel
  | none => fallback

/-! ### Actions -/

/-- Register accesses, section reads of the transaction layer, the process-wide notification
mailbox, the retry timer, and the flags that others set. -/
inductive Action
  | readQuad (address : BitVec 48)
  | writeQuad (address : BitVec 48) (value : Quadlet)
  | readBlock (address : BitVec 48) (length : ℕ)
  | compareSwap64 (address : BitVec 48) (expected desired : BitVec 64)
  | readGeneralSections
  | readGlobalState (sections : GeneralSections) (readSize : Quadlet)
  | readTxStreamConfig (sections : GeneralSections)
  | readRxStreamConfig (sections : GeneralSections)
  | mailboxReset
  | mailboxConsume
  | scheduleRetry (delayMs : ℕ)
  | isRouteCurrent
  | teardownRequested
  deriving DecidableEq, Repr

/-- A mailbox holds whatever any device published since it was last emptied. -/
abbrev Reply : Action → Type
  | .readQuad _ => AsyncStatus × Quadlet
  | .writeQuad _ _ => AsyncStatus
  | .readBlock _ _ => AsyncStatus × List (BitVec 8)
  | .compareSwap64 _ _ _ => AsyncStatus × BitVec 64
  | .readGeneralSections => IOReturn × GeneralSections
  | .readGlobalState _ _ => IOReturn × GlobalState
  | .readTxStreamConfig _ => IOReturn × StreamConfig
  | .readRxStreamConfig _ => IOReturn × StreamConfig
  | .mailboxReset => Unit
  | .mailboxConsume => Quadlet
  | .scheduleRetry _ => Bool
  | .isRouteCurrent => Bool
  | .teardownRequested => Bool

abbrev Prog := Program Action Reply

end ASFireWire.DICE
