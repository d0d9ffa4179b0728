import RadioLink.Frame

set_option autoImplicit false

/-! # Events

What a slot tells its observers about itself. Some events are traffic, some are anomalies, most are
neither. -/

namespace RadioLink

/-- What happened to a slot. -/
inductive EventKind
  /-- The slot started to read. -/
  | connected
  /-- The slot closed, and this many requests were resolved by that. -/
  | disconnected (reason : String) (drained : Nat)
  | callbacksRegistered (version : String)
  /-- A command with a payload of this length was written. -/
  | commandSent (token : Token) (request : RequestId) (length : Nat)
  /-- A frame with a payload of this length was read. -/
  | frameReceived (kind : FrameKind) (token : Token) (id : UInt32) (status : Status)
      (length : Nat)
  | ackSent (token : Token)
  /-- The peer has received the command of a pending request. -/
  | requestAcknowledged (token : Token)
  /-- A frame carries the token of no pending request. -/
  | unmatchedToken (token : Token) (kind : FrameKind)
  /-- A frame asks for an acknowledgment that was written before. -/
  | duplicateAck (token : Token)
deriving DecidableEq, Repr

/-- An event of one slot. -/
structure Event where
  slot : SlotId
  kind : EventKind
deriving DecidableEq, Repr

namespace Event

/-- Whether an event reports something that was written or read. -/
def isTraffic (event : Event) : Bool :=
  match event.kind with
  | .commandSent .. | .frameReceived .. | .ackSent .. => true
  | _ => false

/-- Whether an event reports something that should not have happened. -/
def isAnomaly (event : Event) : Bool :=
  match event.kind with
  | .unmatchedToken .. | .duplicateAck .. => true
  | _ => false

end Event

end RadioLink
