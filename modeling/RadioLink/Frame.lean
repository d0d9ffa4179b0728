import RadioLink.Error

set_option autoImplicit false

/-! # Frames and commands

A frame is what a modem sends: kind, token, number, status and payload. A command is what a slot
sends: request, token and payload. Both are bodies of words with the payload at the end, and both
travel behind the length of the body. Reading a body and writing it undo each other. -/

namespace RadioLink

/-- How many bytes announce the length of a body. -/
def lengthPrefixSize : Nat := 4

/-- How many bytes of a frame come before its payload. -/
def frameHeaderSize : Nat := 16

/-- How many bytes of a command come before its payload. -/
def commandHeaderSize : Nat := 8

/-- The longest body that is accepted unless something else is agreed. -/
def defaultMaxFrameLen : UInt32 := 8192

/-- A body behind its length, most significant byte first. -/
def lengthPrefixed (body : Bytes) : Bytes :=
  bigEndian (UInt32.ofNat body.length) ++ body

/-- The kind of a frame. -/
inductive FrameKind
  /-- A response that needs no acknowledgment. -/
  | solicited
  /-- An indication that needs no acknowledgment. -/
  | unsolicited
  /-- The modem's receipt for a command; the response comes later. -/
  | solicitedAck
  /-- A response that must be acknowledged before it is resolved. -/
  | solicitedAckExpected
  /-- An indication that must be acknowledged. -/
  | unsolicitedAckExpected
deriving DecidableEq, Repr

namespace FrameKind

/-- Every kind, in the order of the wire tags. -/
def all : List FrameKind :=
  [solicited, unsolicited, solicitedAck, solicitedAckExpected, unsolicitedAckExpected]

/-- The number of a kind on the wire. -/
def tag : FrameKind → UInt32
  | solicited => 0
  | unsolicited => 1
  | solicitedAck => 2
  | solicitedAckExpected => 3
  | unsolicitedAckExpected => 4

/-- The kind with a number on the wire. -/
def ofTag? : UInt32 → Option FrameKind
  | 0 => some solicited
  | 1 => some unsolicited
  | 2 => some solicitedAck
  | 3 => some solicitedAckExpected
  | 4 => some unsolicitedAckExpected
  | _ => none

/-- The name of a kind. -/
def name : FrameKind → String
  | solicited => "SOLICITED"
  | unsolicited => "UNSOLICITED"
  | solicitedAck => "SOLICITED_ACK"
  | solicitedAckExpected => "SOLICITED_ACK_EXP"
  | unsolicitedAckExpected => "UNSOLICITED_ACK_EXP"

/-- Whether frames of this kind are tied to a command by their token. -/
def isSolicited : FrameKind → Bool
  | solicited | solicitedAck | solicitedAckExpected => true
  | unsolicited | unsolicitedAckExpected => false

/-- Whether whoever receives the frame must acknowledge it. -/
def expectsAck : FrameKind → Bool
  | solicitedAckExpected | unsolicitedAckExpected => true
  | solicited | unsolicited | solicitedAck => false

theorem ofTag?_tag (kind : FrameKind) : ofTag? kind.tag = some kind := by
  cases kind <;> rfl

theorem tag_of_ofTag? {tag : UInt32} {kind : FrameKind} (h : ofTag? tag = some kind) :
    kind.tag = tag := by
  unfold ofTag? at h
  split at h <;> simp_all [FrameKind.tag] <;> subst h <;> rfl

end FrameKind

/-- What a modem sends. The number is a request number in a response and an indication number in
an indication; the token of an indication is zero. -/
structure Frame where
  kind : FrameKind
  token : Token
  id : UInt32
  status : Status
  payload : Bytes
deriving DecidableEq, Repr

namespace Frame

/-- A response to a command. -/
def response (kind : FrameKind) (token : Token) (request : RequestId) (status : Status)
    (payload : Bytes) : Frame :=
  ⟨kind, token, request.raw, status, payload⟩

/-- An indication. -/
def indication (kind : FrameKind) (indication : IndicationId) (payload : Bytes) : Frame :=
  ⟨kind, ⟨0⟩, indication.raw, .success, payload⟩

/-- The number of a response. -/
def request (frame : Frame) : RequestId := ⟨frame.id⟩

/-- The number of an indication. -/
def indicationId (frame : Frame) : IndicationId := ⟨frame.id⟩

/-- The body of a frame. -/
def encodeBody (frame : Frame) : Bytes :=
  littleEndian frame.kind.tag ++ littleEndian frame.token.raw ++ littleEndian frame.id
    ++ littleEndian frame.status.code.toUInt32 ++ frame.payload

/-- A frame as it travels. -/
def encode (frame : Frame) : Bytes :=
  lengthPrefixed frame.encodeBody

/-- The four words of a header and what follows them. -/
def splitHeader? (body : Bytes) : Option (UInt32 × UInt32 × UInt32 × UInt32 × Bytes) := do
  let (kind, rest) ← takeLittleEndian? body
  let (token, rest) ← takeLittleEndian? rest
  let (id, rest) ← takeLittleEndian? rest
  let (status, payload) ← takeLittleEndian? rest
  some (kind, token, id, status, payload)

/-- Reads a body. A short body is reported before an unknown kind. -/
def decodeBody (body : Bytes) : Except ParseError Frame :=
  match splitHeader? body with
  | none => .error (.truncatedHeader body.length frameHeaderSize)
  | some (tag, token, id, status, payload) =>
    match FrameKind.ofTag? tag with
    | none => .error (.unknownKind tag)
    | some kind => .ok ⟨kind, ⟨token⟩, id, ⟨status.toInt32⟩, payload⟩

end Frame

/-- What a slot sends. -/
structure Command where
  request : RequestId
  token : Token
  payload : Bytes
deriving DecidableEq, Repr

namespace Command

/-- The acknowledgment of a response: no payload, and the token of the response. -/
def ack (token : Token) : Command :=
  ⟨.acknowledgement, token, []⟩

/-- The acknowledgment of an indication, which has the indication's number for a token. -/
def ackIndication (indication : IndicationId) : Command :=
  ack ⟨indication.raw⟩

/-- Whether the command is an acknowledgment. -/
def isAck (command : Command) : Bool :=
  command.request.isAck

/-- The body of a command. -/
def encodeBody (command : Command) : Bytes :=
  littleEndian command.request.raw ++ littleEndian command.token.raw ++ command.payload

/-- A command as it travels. -/
def encode (command : Command) : Bytes :=
  lengthPrefixed command.encodeBody

/-- The two words of a header and what follows them. -/
def splitHeader? (body : Bytes) : Option (UInt32 × UInt32 × Bytes) := do
  let (request, rest) ← takeLittleEndian? body
  let (token, payload) ← takeLittleEndian? rest
  some (request, token, payload)

/-- Reads a body. -/
def decodeBody (body : Bytes) : Except ParseError Command :=
  match splitHeader? body with
  | none => .error (.truncatedHeader body.length commandHeaderSize)
  | some (request, token, payload) => .ok ⟨⟨request⟩, ⟨token⟩, payload⟩

end Command

end RadioLink
