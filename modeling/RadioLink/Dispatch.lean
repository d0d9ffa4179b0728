import RadioLink.Error
import RadioLink.Payload.Codec
import RadioLink.Text.Record

set_option autoImplicit false

/-! # Dispatch tables

A table says how the payload of each request is written and the payload of its response is read,
and how the payload of each indication is read. It is a list of entries of which there is at most
one for a number: an entry that is added takes the place of an earlier one. -/

namespace RadioLink

/-- How the payload of a request is written and the payload of its response is read. The writer
knows the request and the reader the number in the frame. -/
structure RequestCodec where
  encode : RequestId → Payload → Except CodecError Bytes
  decode : UInt32 → Bytes → Except CodecError Payload

/-- How the payload of an indication is read. The reader knows the number in the frame. -/
abbrev IndicationDecoder := UInt32 → Bytes → Except CodecError Payload

namespace RequestCodec

/-- Payloads of the given shapes. -/
def ofShapes (request response : Shape) : RequestCodec where
  encode _ payload := request.encode payload
  decode _ bytes := response.decode bytes

/-- A codec that refuses everything for one reason. -/
def refusing (reason : String) : RequestCodec where
  encode _ _ := .error (.other reason)
  decode _ _ := .error (.other reason)

end RequestCodec

/-- Payloads of the given shape. -/
def decodeShape (shape : Shape) : IndicationDecoder :=
  fun _ bytes => shape.decode bytes

/-- The codecs for requests and indications. -/
structure DispatchTable where
  requests : List (RequestId × RequestCodec) := []
  indications : List (IndicationId × IndicationDecoder) := []

namespace DispatchTable

instance : Inhabited DispatchTable := ⟨{}⟩

/-- Adds an entry in the place of the one with the same key. -/
def replaceEntry {α β : Type} [BEq α] (key : α) (value : β) (entries : List (α × β)) :
    List (α × β) :=
  (key, value) :: entries.filter fun entry => !(entry.1 == key)

def withRequest (table : DispatchTable) (request : RequestId) (codec : RequestCodec) :
    DispatchTable :=
  { table with requests := replaceEntry request codec table.requests }

/-- Adds a request with payloads of the given shapes. -/
def withShapes (table : DispatchTable) (request : RequestId) (sent received : Shape) :
    DispatchTable :=
  table.withRequest request (.ofShapes sent received)

def withIndication (table : DispatchTable) (indication : IndicationId)
    (decoder : IndicationDecoder) : DispatchTable :=
  { table with indications := replaceEntry indication decoder table.indications }

/-- Adds an indication with a payload of the given shape. -/
def withIndicationShape (table : DispatchTable) (indication : IndicationId) (shape : Shape) :
    DispatchTable :=
  table.withIndication indication (decodeShape shape)

def request? (table : DispatchTable) (request : RequestId) : Option RequestCodec :=
  table.requests.lookup request

def indication? (table : DispatchTable) (indication : IndicationId) : Option IndicationDecoder :=
  table.indications.lookup indication

/-- How many requests have a codec. -/
def requestCount (table : DispatchTable) : Nat :=
  table.requests.length

/-- How many indications have a decoder. -/
def indicationCount (table : DispatchTable) : Nat :=
  table.indications.length

/-- Some numbers in increasing order, between brackets. -/
def sortedText (numbers : List UInt32) : String :=
  Text.bracketed (((numbers.map (·.toNat)).mergeSort (· ≤ ·)).map toString)

/-- A table is shown by the numbers that have an entry. -/
def text (table : DispatchTable) : String :=
  Text.record "DispatchTable"
    [("requests", sortedText (table.requests.map (·.1.raw))),
      ("indications", sortedText (table.indications.map (·.1.raw)))]

end DispatchTable

end RadioLink
