set_option autoImplicit false

/-! # Status codes and radio states

Every response carries a status. Eleven codes have names; a code without one is kept as it is, so
that a newer modem can report what this library does not know. The radio state is the answer to a
vendor's initial-state query and has five values. -/

namespace RadioLink

/-- The status of a response. -/
structure Status where
  code : Int32
deriving DecidableEq, Repr, Inhabited

namespace Status

/-- The request was served. -/
def success : Status := ⟨0⟩
/-- The radio did not start or is resetting. -/
def radioNotAvailable : Status := ⟨1⟩
/-- The request failed for no stated reason. -/
def genericFailure : Status := ⟨2⟩
def passwordIncorrect : Status := ⟨3⟩
def simPin2 : Status := ⟨4⟩
def simPuk2 : Status := ⟨5⟩
def requestNotSupported : Status := ⟨6⟩
def cancelled : Status := ⟨7⟩
def opNotAllowedDuringVoiceCall : Status := ⟨8⟩
def opNotAllowedBeforeRegToNw : Status := ⟨9⟩
/-- A message was not sent and may be sent again. -/
def smsSendFailRetry : Status := ⟨10⟩

/-- The codes that have a name, in the order of their values. -/
def named : List (Status × String) :=
  [(success, "SUCCESS"), (radioNotAvailable, "RADIO_NOT_AVAILABLE"),
    (genericFailure, "GENERIC_FAILURE"), (passwordIncorrect, "PASSWORD_INCORRECT"),
    (simPin2, "SIM_PIN2"), (simPuk2, "SIM_PUK2"), (requestNotSupported, "REQUEST_NOT_SUPPORTED"),
    (cancelled, "CANCELLED"),
    (opNotAllowedDuringVoiceCall, "OP_NOT_ALLOWED_DURING_VOICE_CALL"),
    (opNotAllowedBeforeRegToNw, "OP_NOT_ALLOWED_BEFORE_REG_TO_NW"),
    (smsSendFailRetry, "SMS_SEND_FAIL_RETRY")]

def isSuccess (status : Status) : Bool :=
  status == success

/-- The name of a code, or `UNKNOWN`. -/
def name (status : Status) : String :=
  ((named.find? fun entry => entry.1 == status).map (·.2)).getD "UNKNOWN"

/-- A status is written as its name with its code in brackets. -/
def text (status : Status) : String :=
  status.name ++ "(" ++ toString status.code.toInt ++ ")"

end Status

/-- The state of the radio and its SIM. -/
inductive RadioState
  | off
  /-- Resetting or not started. -/
  | unavailable
  /-- On, while the SIM interface is not ready. -/
  | simNotReady
  /-- On, with a locked SIM or none. -/
  | simLockedOrAbsent
  /-- On, with the SIM interface available. -/
  | simReady
deriving DecidableEq, Repr

namespace RadioState

instance : Inhabited RadioState := ⟨unavailable⟩

/-- Every state, in the order of the wire values. -/
def all : List RadioState := [off, unavailable, simNotReady, simLockedOrAbsent, simReady]

/-- The number that stands for a state on the wire. -/
def wire : RadioState → Int32
  | off => 0
  | unavailable => 1
  | simNotReady => 2
  | simLockedOrAbsent => 3
  | simReady => 4

/-- The state that a number on the wire stands for. -/
def ofWire? (value : Int32) : Option RadioState :=
  all.find? fun state => state.wire == value

def name : RadioState → String
  | off => "Off"
  | unavailable => "Unavailable"
  | simNotReady => "SimNotReady"
  | simLockedOrAbsent => "SimLockedOrAbsent"
  | simReady => "SimReady"

theorem ofWire?_wire (state : RadioState) : ofWire? state.wire = some state := by
  cases state <;> rfl

end RadioState

end RadioLink
