import RadioLink.Error

set_option autoImplicit false

/-! # Responses and indications

What a slot hands back: a response to whoever submitted the request, an indication to the
listener. -/

namespace RadioLink

/-- The result of one request. -/
structure Response where
  slot : SlotId
  token : Token
  request : RequestId
  /-- The status that the peer reports, or one that stands for a failure on this side. -/
  status : Status
  /-- The payload, or why there is none. -/
  result : Except LinkError Payload

/-- Whether the request succeeded and its payload was read. -/
def Response.isSuccess (response : Response) : Bool :=
  response.status.isSuccess && response.result.isOk

/-- One indication that was read. -/
structure Indication where
  slot : SlotId
  id : IndicationId
  /-- The payload, or why there is none. -/
  result : Except CodecError Payload

/-- The place to which a caller has its response sent. -/
abbrev Sink := Nat

end RadioLink
