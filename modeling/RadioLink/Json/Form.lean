import RadioLink.Json.Reader
import RadioLink.Json.Writer
import RadioLink.Config

set_option autoImplicit false

/-! # The JSON forms of the library's types

Identifiers and statuses are bare integers in the range of their type. A value of a type without
fields is its name, or a record of that name and a null. A configuration and a slot in it are
records, or lists that give their fields in order; fields that nobody asked for are passed over, and
nothing is asked of their values. An endpoint has its kind in a field `type`, at any place; it is
taken in as a whole before it is looked at, so everything in it has to be sound and not nested too
deeply. -/

namespace RadioLink.Json

/-- How the values of a type are written in JSON and read from it. -/
class Form (α : Type) where
  toValue : α → Value
  ofValue? : Value → Option α

/-- The value that a text writes. -/
def read? {α : Type} [Form α] (text : String) : Option α :=
  (Value.ofText? text).bind Form.ofValue?

/-- The integer that a value is, if it is between two bounds. -/
def Value.toIntBetween? (low high : Int) (value : Value) : Option Int :=
  match value.toInt? with
  | some n => if low ≤ n ∧ n ≤ high then some n else none
  | none => none

instance : Form UInt8 where
  toValue n := .ofNat n.toNat
  ofValue? v := (v.toNat? 0xff).map UInt8.ofNat

instance : Form UInt32 where
  toValue n := .ofNat n.toNat
  ofValue? v := (v.toNat? 0xffffffff).map UInt32.ofNat

instance : Form UInt64 where
  toValue n := .ofNat n.toNat
  ofValue? v := (v.toNat? 0xffffffffffffffff).map UInt64.ofNat

instance : Form Int32 where
  toValue n := .ofInt n.toInt
  ofValue? v := (v.toIntBetween? (-0x80000000) 0x7fffffff).map Int32.ofInt

instance : Form String where
  toValue := .ofString
  ofValue? := Value.toText?

instance {α : Type} [Form α] : Form (Option α) where
  toValue
    | none => .null
    | some a => Form.toValue a
  ofValue?
    | .null => some none
    | v => (Form.ofValue? v).map some

instance : Form SlotId where
  toValue slot := Form.toValue slot.raw
  ofValue? v := (Form.ofValue? v).map SlotId.mk

instance : Form RadioLink.Token where
  toValue token := Form.toValue token.raw
  ofValue? v := (Form.ofValue? v).map RadioLink.Token.mk

instance : Form RequestId where
  toValue request := Form.toValue request.raw
  ofValue? v := (Form.ofValue? v).map RequestId.mk

instance : Form IndicationId where
  toValue indication := Form.toValue indication.raw
  ofValue? v := (Form.ofValue? v).map IndicationId.mk

instance : Form Status where
  toValue status := Form.toValue status.code
  ofValue? v := (Form.ofValue? v).map Status.mk

/-! ## Types without fields -/

/-- The name that a value gives: a text, or a record of that name and a null. -/
def Value.toName? : Value → Option String
  | .text literal => literal
  | .record [(name, .null)] => name
  | _ => none

/-- The form of a type whose values all have names. -/
@[reducible] def nameForm {α : Type} (values : List α) (name : α → String) : Form α where
  toValue a := .ofString (name a)
  ofValue? v := v.toName?.bind fun n => values.find? fun a => name a == n

instance : Form RadioState :=
  nameForm RadioState.all RadioState.name

/-- The name of a frame kind in JSON. -/
def frameKindName : FrameKind → String
  | .solicited => "Solicited"
  | .unsolicited => "Unsolicited"
  | .solicitedAck => "SolicitedAck"
  | .solicitedAckExpected => "SolicitedAckExpected"
  | .unsolicitedAckExpected => "UnsolicitedAckExpected"

instance : Form FrameKind :=
  nameForm FrameKind.all frameKindName

/-- The name of a shape in JSON. -/
def shapeName : Shape → String
  | .void => "Void"
  | .int => "Int"
  | .ints => "Ints"
  | .string => "String"
  | .strings => "Strings"
  | .raw => "Raw"

instance : Form Shape :=
  nameForm Shape.all shapeName

/-! ## Configurations -/

/-- How deeply lists and records may be nested in a value that is taken in as a whole. -/
def maxDepth : Nat := 127

/-- The entry of a record, by its name. -/
def entry (name : String) (value : Value) : Literal × Value :=
  (some name, value)

/-- The fields of an endpoint of the given kind. -/
def endpointOf? (kind : String) (rest : Value) : Option Endpoint :=
  match kind with
  | "unix" =>
    match rest.fields? ["path"] with
    | some [some path] => path.toText?.map .unix
    | _ => none
  | "tcp" =>
    match rest.fields? ["addr"] with
    | some [some address] => address.toText?.map .tcp
    | _ => none
  | "serial" =>
    match rest.fields? ["path", "baud_rate"] with
    | some [some path, none] => path.toText?.map (.serial · Endpoint.defaultBaudRate)
    | some [some path, some rate] => do some (.serial (← path.toText?) (← Form.ofValue? rate))
    | _ => none
  | _ => none

/-- The kind of an endpoint and what else is said of it. -/
def splitKind? : Value → Option (String × Value)
  | .record entries =>
    match entries.partition fun entry => entry.1 == some "type" with
    | ([(_, .text (some kind))], rest) => some (kind, .record rest)
    | _ => none
  | .list (.text (some kind) :: rest) => some (kind, .list rest)
  | _ => none

/-- Reads an endpoint that has this many lists and records around it. -/
def endpointWithin? (outer : Nat) (v : Value) : Option Endpoint :=
  if v.isSound && v.depth + outer ≤ maxDepth then do
    let (kind, rest) ← splitKind? v
    endpointOf? kind rest
  else none

instance : Form Endpoint where
  toValue
    | .unix path => .record [entry "type" (.ofString "unix"), entry "path" (.ofString path)]
    | .tcp address => .record [entry "type" (.ofString "tcp"), entry "addr" (.ofString address)]
    | .serial path baudRate =>
      .record [entry "type" (.ofString "serial"), entry "path" (.ofString path),
        entry "baud_rate" (Form.toValue baudRate)]
  ofValue? := endpointWithin? 0

/-- A slot is in a record, which is in the list of slots, which is in the configuration. -/
def endpointDepth : Nat := 3

instance : Form SlotConfig where
  toValue config := .record
    [entry "slot" (Form.toValue config.slot), entry "endpoint" (Form.toValue config.endpoint)]
  ofValue? v :=
    match v.fields? ["slot", "endpoint"] with
    | some [some slot, some endpoint] => do
      some ⟨← Form.ofValue? slot, ← endpointWithin? endpointDepth endpoint⟩
    | _ => none

/-- The items of a list, all of one type. -/
def items? {α : Type} [Form α] : Value → Option (List α)
  | .list items => items.mapM Form.ofValue?
  | _ => none

/-- The value of a field, or what it is without being given. -/
def valueOr? {α : Type} [Form α] (default : α) : Option Value → Option α
  | none => some default
  | some v => Form.ofValue? v

instance : Form Config where
  toValue config := .record
    [entry "slots" (.list (config.slots.map Form.toValue)),
      entry "max_frame_len" (Form.toValue config.maxFrameLen),
      entry "request_timeout_ms" (Form.toValue config.requestTimeout),
      entry "event_capacity" (Form.toValue config.eventCapacity),
      entry "ack_history" (Form.toValue config.ackHistory)]
  ofValue? v :=
    let standard : Config := {}
    match v.fields?
      ["slots", "max_frame_len", "request_timeout_ms", "event_capacity", "ack_history"] with
    | some [some slots, maxFrameLen, requestTimeout, eventCapacity, ackHistory] => do
      some {
        slots := ← items? slots
        maxFrameLen := ← valueOr? standard.maxFrameLen maxFrameLen
        requestTimeout := ← valueOr? standard.requestTimeout requestTimeout
        eventCapacity := ← valueOr? standard.eventCapacity eventCapacity
        ackHistory := ← valueOr? standard.ackHistory ackHistory }
    | _ => none

end RadioLink.Json

namespace RadioLink.Config

/-- The text of a configuration. -/
def toJson (config : Config) : String :=
  (Json.Form.toValue config).pretty

/-- Reads the text of a configuration and checks its rules. -/
def ofJson (text : String) : Except ConfigError Config :=
  match Json.read? text with
  | none => .error .malformed
  | some config => do
    check config
    .ok config

/-- Reads and checks a configuration file, whose contents are missing if there is no such file. -/
def load (path : String) : Option Bytes → Except ConfigError Config
  | none => .error (.missingFile path)
  | some contents =>
    match ofUtf8? contents with
    | none => .error (.notUtf8 path)
    | some text => ofJson text

end RadioLink.Config
