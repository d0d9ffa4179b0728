import RadioLink.Error
import RadioLink.Frame

set_option autoImplicit false

/-! # Configuration

A configuration names the slots and where each of them connects, and sets four limits that all
slots share. Two slots may not have the same number, the frame limit has a ceiling, and the event
buffer holds at least one event. `Config.check` reports the first of these rules that is broken, in
this order. What a slot reserves when it starts is a matter of its own: `SlotOptions.isStartable`
says whether memory can be asked for it. -/

namespace RadioLink

/-- Where a slot connects. -/
inductive Endpoint
  | unix (path : String)
  | tcp (address : String)
  | serial (path : String) (baudRate : UInt32)
deriving DecidableEq, Repr

namespace Endpoint

/-- The speed of a serial line for which none is given. -/
def defaultBaudRate : UInt32 := 115200

/-- An endpoint is written as its kind and its address. -/
def text : Endpoint → String
  | unix path => "unix:" ++ path
  | tcp address => "tcp:" ++ address
  | serial path baudRate => "serial:" ++ path ++ "@" ++ toString baudRate.toNat

end Endpoint

/-- A slot and where it connects. -/
structure SlotConfig where
  slot : SlotId
  endpoint : Endpoint
deriving DecidableEq, Repr

/-- The limits of one slot. -/
structure SlotOptions where
  /-- The longest body of a frame or command. -/
  maxFrameLen : UInt32 := defaultMaxFrameLen
  /-- How many milliseconds a call waits; without it a call waits for ever. -/
  requestTimeout : Option UInt64 := some 30000
  /-- How many events are kept for an observer that is behind. -/
  eventCapacity : UInt64 := 256
  /-- How many acknowledged tokens are remembered after their requests are resolved. -/
  ackHistory : UInt64 := 64
deriving DecidableEq, Repr

/-- The most bytes that can be reserved at once. -/
def maxReservation : Nat := 1 <<< 63 - 1

/-- The most events that a buffer can be made for. -/
def maxEventCapacity : Nat := (1 <<< 64 - 1) / 2

/-- For how many events a buffer can be made, and how many bytes can be reserved at once. Beyond
certain bounds neither is possible; how much of the rest is possible is up to the platform, and all
of it unless said otherwise. -/
structure Reserve where
  holdsEvents : Nat → Bool := fun count => count ≤ maxEventCapacity
  holdsBytes : Nat → Bool := fun count => count ≤ maxReservation
  events_le : ∀ count, holdsEvents count = true → count ≤ maxEventCapacity := by simp
  bytes_le : ∀ count, holdsBytes count = true → count ≤ maxReservation := by simp

namespace SlotOptions

/-- How many bytes the remembered tokens take. -/
def historyBytes (options : SlotOptions) : Nat :=
  4 * options.ackHistory.toNat

/-- How many events a slot's buffer is made for. It is made for at least one. -/
def bufferedEvents (options : SlotOptions) : Nat :=
  max options.eventCapacity.toNat 1

/-- Whether the buffers of a slot can be reserved when it starts. -/
def isStartable (options : SlotOptions) (reserve : Reserve := {}) : Bool :=
  reserve.holdsEvents options.bufferedEvents && reserve.holdsBytes options.historyBytes

end SlotOptions

/-- The configuration of all slots. -/
structure Config where
  slots : List SlotConfig := []
  maxFrameLen : UInt32 := defaultMaxFrameLen
  requestTimeout : Option UInt64 := some 30000
  eventCapacity : UInt64 := 256
  ackHistory : UInt64 := 64
deriving DecidableEq, Repr

/-- The highest frame limit that may be set. -/
def maxFrameLenCeiling : UInt32 := 16777216

/-- Why a configuration is of no use. -/
inductive ConfigError
  /-- The text is not the text of a configuration. -/
  | malformed
  | duplicateSlot (slot : SlotId)
  | frameLimitOutOfRange
  | noEventCapacity
  | notUtf8 (path : String)
  | missingFile (path : String)
deriving DecidableEq, Repr

namespace ConfigError

def message : ConfigError → String
  | malformed => "malformed configuration"
  | duplicateSlot slot => "duplicate slot " ++ slot.text
  | frameLimitOutOfRange =>
      "max_frame_len must be between 1 and " ++ toString maxFrameLenCeiling.toNat
  | noEventCapacity => "event_capacity must be non-zero"
  | notUtf8 path => path ++ ": stream did not contain valid UTF-8"
  | missingFile path => path ++ ": No such file or directory (os error 2)"

/-- The link error that reports a configuration error. -/
def toLinkError (e : ConfigError) : LinkError :=
  .config e.message

end ConfigError

/-- The first slot in a list that stands there before. -/
def firstRepeated? : List SlotId → List SlotId → Option SlotId
  | _, [] => none
  | seen, slot :: slots =>
    if slot ∈ seen then some slot else firstRepeated? (slot :: seen) slots

namespace Config

/-- The numbers of the slots. -/
def slotIds (config : Config) : List SlotId :=
  config.slots.map (·.slot)

/-- Reports the first rule that a configuration breaks. -/
def check (config : Config) : Except ConfigError Unit :=
  match firstRepeated? [] config.slotIds with
  | some slot => .error (.duplicateSlot slot)
  | none =>
    if config.maxFrameLen = 0 ∨ maxFrameLenCeiling < config.maxFrameLen then
      .error .frameLimitOutOfRange
    else if config.eventCapacity = 0 then .error .noEventCapacity
    else .ok ()

/-- The limits of every slot. -/
def slotOptions (config : Config) : SlotOptions where
  maxFrameLen := config.maxFrameLen
  requestTimeout := config.requestTimeout
  eventCapacity := config.eventCapacity
  ackHistory := config.ackHistory

end Config

end RadioLink
