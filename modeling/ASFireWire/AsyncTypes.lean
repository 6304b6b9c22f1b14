import Mathlib

/-! Request parameters and completion status shared by the async subsystem
(`Async/AsyncTypes.hpp`). -/
namespace ASFireWire.Async

inductive AsyncStatus
  | success | timeout | shortRead | busyRetryExhausted | aborted | hardwareError
  | lockCompareFail | staleGeneration
  deriving DecidableEq, Repr

structure ReadParams where
  destinationID : UInt16 := 0
  addressHigh : UInt32 := 0
  addressLow : UInt32 := 0
  length : UInt32 := 0
  forceBlock : Bool := false
  speedCode : UInt8 := 0xFF
  deriving DecidableEq, Repr, Inhabited

/-- `payload` holds the bytes behind the payload pointer, `none` for a null pointer. -/
structure WriteParams where
  destinationID : UInt16 := 0
  addressHigh : UInt32 := 0
  addressLow : UInt32 := 0
  payload : Option (List UInt8) := none
  length : UInt32 := 0
  forceBlock : Bool := false
  speedCode : UInt8 := 0xFF
  deriving DecidableEq, Repr, Inhabited

structure LockParams where
  destinationID : UInt16 := 0
  addressHigh : UInt32 := 0
  addressLow : UInt32 := 0
  operand : Option (List UInt8) := none
  operandLength : UInt32 := 0
  responseLength : UInt32 := 0
  speedCode : UInt8 := 0xFF
  deriving DecidableEq, Repr, Inhabited

structure RetryPolicy where
  maxRetries : ℕ := 3
  retryDelayUsec : ℕ := 1000
  retryOnBusy : Bool := true
  retryOnTimeout : Bool := true
  speedFallback : Bool := false
  deriving DecidableEq, Repr, Inhabited

end ASFireWire.Async
