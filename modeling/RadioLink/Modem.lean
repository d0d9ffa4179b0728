import RadioLink.Framing

set_option autoImplicit false

/-! # The simulated modem

The modem reads commands and answers each one by the rule for its request. A command without a rule
is held, and the oldest held command can be answered later. What the modem has to say is queued, one
piece for each frame, and taken away from the front. Acknowledgments are kept apart from commands
and are never answered. -/

namespace RadioLink

/-- How an answer is given. -/
inductive ReplyStyle
  /-- One response. -/
  | plain
  /-- One response that has to be acknowledged. -/
  | ackExpected
  /-- A receipt first, then the response. -/
  | earlyAck
deriving DecidableEq, Repr

/-- The kind of the response in an answer. -/
def ReplyStyle.responseKind : ReplyStyle → FrameKind
  | ackExpected => .solicitedAckExpected
  | plain | earlyAck => .solicited

/-- The answer to a request. -/
structure ModemRule where
  status : Status
  payload : Bytes
  style : ReplyStyle := .plain
deriving DecidableEq, Repr

namespace ModemRule

/-- A successful response with a payload. -/
def ok (payload : Bytes) : ModemRule :=
  { status := .success, payload }

/-- A failure without a payload. -/
def fail (status : Status) : ModemRule :=
  { status, payload := [] }

/-- The same answer, with a response that has to be acknowledged. -/
def ackExpected (rule : ModemRule) : ModemRule :=
  { rule with style := .ackExpected }

/-- The same answer, after a receipt. -/
def earlyAck (rule : ModemRule) : ModemRule :=
  { rule with style := .earlyAck }

/-- The frames that answer a command. -/
def frames (rule : ModemRule) (command : Command) : List Frame :=
  let response :=
    Frame.response rule.style.responseKind command.token command.request rule.status rule.payload
  match rule.style with
  | .earlyAck => [.response .solicitedAck command.token command.request .success [], response]
  | _ => [response]

end ModemRule

/-- What a modem does with one command. -/
inductive Handled
  | ack (token : Token)
  | answered (command : Command)
  | held (command : Command)
deriving DecidableEq, Repr

/-- A simulated modem. -/
structure Modem where
  id : String
  framer : Framer := {}
  rules : List (RequestId × ModemRule) := []
  /-- The commands that have arrived, without acknowledgments, oldest first. -/
  received : List Command := []
  /-- The tokens of the acknowledgments that have arrived, oldest first. -/
  acks : List Token := []
  /-- The commands that are held, oldest first. -/
  unanswered : List Command := []
  /-- What is still to be written, one piece after the other. -/
  output : List Bytes := []

namespace Modem

def setRule (m : Modem) (request : RequestId) (rule : ModemRule) : Modem :=
  { m with rules := (request, rule) :: m.rules.filter fun entry => !(entry.1 == request) }

/-- Forgets the answer to a request. -/
def clearRule (m : Modem) (request : RequestId) : Modem :=
  { m with rules := m.rules.filter fun entry => !(entry.1 == request) }

/-- Queues bytes as they are. -/
def queueRaw (m : Modem) (bytes : Bytes) : Modem :=
  { m with output := m.output ++ [bytes] }

def queueFrame (m : Modem) (frame : Frame) : Modem :=
  m.queueRaw frame.encode

/-- Queues the answer to a command. -/
def answer (m : Modem) (command : Command) (rule : ModemRule) : Modem :=
  { m with output := m.output ++ (rule.frames command).map Frame.encode }

def handle (m : Modem) (command : Command) : Modem × Handled :=
  if command.isAck then ({ m with acks := m.acks ++ [command.token] }, .ack command.token)
  else
    let m := { m with received := m.received ++ [command] }
    match m.rules.lookup command.request with
    | some rule => (m.answer command rule, .answered command)
    | none => ({ m with unanswered := m.unanswered ++ [command] }, .held command)

/-- Handles commands one after the other. -/
def handleAll (m : Modem) : List Command → Modem × List Handled
  | [] => (m, [])
  | command :: commands =>
    let (m, first) := m.handle command
    let (m, others) := m.handleAll commands
    (m, first :: others)

/-- Takes in bytes and handles the commands that are complete. A body that is no command ends the
reading, after the commands before it were handled. -/
def process (m : Modem) (bytes : Bytes) : Modem × List Handled × Option ParseError :=
  let (framer, commands, ending) := (m.framer.push bytes).drain Command.decodeBody
  let (m, handled) := { m with framer }.handleAll commands
  (m, handled, ending)

/-- Answers the oldest held command. -/
def answerNext (m : Modem) (rule : ModemRule) : Modem × Option Command :=
  match m.unanswered with
  | [] => (m, none)
  | command :: held => ({ m with unanswered := held }.answer command rule, some command)

/-- Queues a response with whatever token. -/
def respond (m : Modem) (kind : FrameKind) (token : Token) (request : RequestId) (status : Status)
    (payload : Bytes) : Modem :=
  m.queueFrame (.response kind token request status payload)

/-- Queues an indication. -/
def indicate (m : Modem) (indication : IndicationId) (payload : Bytes) (ackExpected : Bool) :
    Modem :=
  let kind := if ackExpected then FrameKind.unsolicitedAckExpected else .unsolicited
  m.queueFrame (.indication kind indication payload)

/-- Takes away the next piece of what is to be written. -/
def takeOutput (m : Modem) : Modem × Option Bytes :=
  match m.output with
  | [] => (m, none)
  | piece :: pieces => ({ m with output := pieces }, some piece)

/-- Whether anything is still to be written. -/
def hasOutput (m : Modem) : Bool :=
  !m.output.isEmpty

end Modem

end RadioLink
