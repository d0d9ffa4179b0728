import RadioLink.Bytes

set_option autoImplicit false

/-! # Payloads

A request, response or indication carries one of six shapes of payload. A text may be absent,
which is different from being empty. -/

namespace RadioLink

/-- The shape of a payload. -/
inductive Shape
  | void
  | int
  | ints
  | string
  | strings
  | raw
deriving DecidableEq, Repr

/-- The value of a payload. -/
inductive Payload
  | void
  | int (value : Int32)
  | ints (values : List Int32)
  /-- One text, or its absence. -/
  | string (value : Option String)
  /-- A list of texts, each of which may be absent. -/
  | strings (values : List (Option String))
  /-- Bytes that nobody looks into. -/
  | raw (bytes : Bytes)
deriving DecidableEq, Repr, Inhabited

namespace Shape

def all : List Shape := [void, int, ints, string, strings, raw]

/-- The name of a shape in messages. -/
def name : Shape → String
  | void => "void"
  | int => "int"
  | ints => "ints"
  | string => "string"
  | strings => "strings"
  | raw => "raw"

end Shape

/-- The shape of a value. -/
def Payload.shape : Payload → Shape
  | void => .void
  | int _ => .int
  | ints _ => .ints
  | string _ => .string
  | strings _ => .strings
  | raw _ => .raw

end RadioLink
