set_option autoImplicit false

/-! # Identifiers

Four kinds of number name things on a link: a slot, a request type, an indication type, and the
token that ties a response to the command it answers. Each is a type of its own, so that none can
stand for another. -/

namespace RadioLink

/-- The number of a radio slot. -/
structure SlotId where
  raw : UInt8
deriving DecidableEq, Repr, Inhabited

/-- The token that links a command to its response. -/
structure Token where
  raw : UInt32
deriving DecidableEq, Repr, Inhabited

/-- The number of a request type. -/
structure RequestId where
  raw : UInt32
deriving DecidableEq, Repr, Inhabited

/-- The number of an indication type. -/
structure IndicationId where
  raw : UInt32
deriving DecidableEq, Repr, Inhabited

/-- The first indication number; smaller numbers are request numbers. -/
def IndicationId.base : UInt32 := 1000

namespace SlotId

/-- A slot is written as its number. -/
def text (slot : SlotId) : String :=
  toString slot.raw.toNat

/-- The order of slots is the order of their numbers. -/
def before (a b : SlotId) : Bool :=
  a.raw.toNat < b.raw.toNat

end SlotId

namespace Token

/-- No allocated token has this value; it is kept for requests served in process. -/
def reserved : Token := ⟨0xffffffff⟩

/-- A token is written with at least four digits. -/
def text (token : Token) : String :=
  let digits := toString token.raw.toNat
  String.ofList (List.replicate (4 - digits.length) '0') ++ digits

end Token

namespace RequestId

/-- The request number that every acknowledgment carries and no request has. -/
def acknowledgement : RequestId := ⟨800⟩

/-- Whether a command with this number is an acknowledgment. -/
def isAck (request : RequestId) : Bool :=
  request == acknowledgement

/-- A request number is written after a sign that says what it counts. -/
def text (request : RequestId) : String :=
  "REQ#" ++ toString request.raw.toNat

end RequestId

/-- An indication number is written after a sign that says what it counts. -/
def IndicationId.text (indication : IndicationId) : String :=
  "UNSOL#" ++ toString indication.raw.toNat

end RadioLink
