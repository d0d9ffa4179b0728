import RadioLink.Modem

set_option autoImplicit false

/-! # The simulated modem at work

The modem works through a stream: it reads a piece, handles the commands in it, writes the answers,
and then reports what it did. Between pieces it takes in control messages. It ends when the stream
ends, when it is told to disconnect, when writing fails, or when a body is no command; in the last
case what it did with the piece is neither written nor reported. -/

namespace RadioLink

/-- What a working modem is told from outside. -/
inductive Control
  | setRule (request : RequestId) (rule : ModemRule)
  /-- Answer the oldest held command. -/
  | answerNext (rule : ModemRule)
  | indicate (indication : IndicationId) (payload : Bytes) (ackExpected : Bool)
  | send (frame : Frame)
  | raw (bytes : Bytes)
  | disconnect
deriving DecidableEq, Repr

/-- What a working modem reports. -/
inductive Activity
  | command (request : RequestId) (token : Token) (answered : Bool)
  | ack (token : Token)
deriving DecidableEq, Repr

/-- The report of what was done with a command. -/
def Handled.activity : Handled → Activity
  | ack token => .ack token
  | answered command => .command command.request command.token true
  | held command => .command command.request command.token false

/-- What a control message does to a modem. -/
def Modem.control (m : Modem) : Control → Modem
  | .setRule request rule => m.setRule request rule
  | .answerNext rule => (m.answerNext rule).1
  | .indicate indication payload ackExpected => m.indicate indication payload ackExpected
  | .send frame => m.queueFrame frame
  | .raw bytes => m.queueRaw bytes
  | .disconnect => m

/-- How a modem ended. -/
inductive Ending
  /-- The stream ended or the modem was told to disconnect. -/
  | finished
  | failed (cause : ModemError)
deriving DecidableEq, Repr

/-- The most bytes that a modem reads at once. -/
def modemReadSize : Nat := 1024

/-- A modem at work. -/
structure ModemTask where
  modem : Modem
  /-- Control messages that were not taken in yet, oldest first. -/
  mailbox : List Control := []
  /-- What is left to be written before the modem goes on. -/
  outgoing : Bytes := []
  /-- What is reported when everything is written. -/
  unreported : List Activity := []
  /-- What was reported, oldest first. -/
  reported : List Activity := []
  ending : Option Ending := none

namespace ModemTask

/-- Whether the modem is still at work. -/
def isRunning (t : ModemTask) : Bool :=
  t.ending.isNone

/-- Ends the work. -/
def finish (t : ModemTask) (ending : Ending) : ModemTask :=
  { t with ending := some ending, outgoing := [], unreported := [] }

/-- Reports what was done, once everything is written. -/
def settle (t : ModemTask) : ModemTask :=
  if t.outgoing.isEmpty then
    { t with reported := t.reported ++ t.unreported, unreported := [] }
  else t

/-- Starts to write what the modem has to say. -/
def flush (t : ModemTask) (activities : List Activity) : ModemTask :=
  { t with
    modem := { t.modem with output := [] }
    outgoing := t.modem.output.flatten
    unreported := activities }.settle

/-- Takes in a piece of the stream. An empty piece is its end. -/
def read (t : ModemTask) (piece : Bytes) : ModemTask :=
  if piece.isEmpty then t.finish .finished
  else match t.modem.process piece with
    | (modem, handled, none) => { t with modem }.flush (handled.map Handled.activity)
    | (modem, _, some cause) => { t with modem }.finish (.failed (.parse cause))

/-- Takes in a control message. -/
def obey (t : ModemTask) : Control → ModemTask
  | .disconnect => t.finish .finished
  | control => { t with modem := t.modem.control control }.flush []

/-- The stream accepts some of what is to be written: those bytes, and the modem after that. -/
def write (t : ModemTask) (count : Nat) : ModemTask × Bytes :=
  ({ t with outgoing := t.outgoing.drop count }.settle, t.outgoing.take count)

/-- Writing fails. -/
def failWrite (t : ModemTask) (reason : String) : ModemTask :=
  t.finish (.failed (.io reason))

/-- Leaves a control message for the modem. Fails if the modem has ended. -/
def tell (t : ModemTask) (control : Control) : ModemTask × Bool :=
  if t.isRunning then ({ t with mailbox := t.mailbox ++ [control] }, true) else (t, false)

/-! ### What working on it changes -/

variable (t : ModemTask)

@[simp] theorem modem_settle : t.settle.modem = t.modem := by
  rw [settle]
  split <;> rfl

@[simp] theorem outgoing_settle : t.settle.outgoing = t.outgoing := by
  rw [settle]
  split <;> rfl

@[simp] theorem mailbox_settle : t.settle.mailbox = t.mailbox := by
  rw [settle]
  split <;> rfl

@[simp] theorem ending_settle : t.settle.ending = t.ending := by
  rw [settle]
  split <;> rfl

/-- What was done is reported now or later. -/
theorem reported_settle :
    t.settle.reported ++ t.settle.unreported = t.reported ++ t.unreported := by
  rw [settle]
  split
  · exact List.append_nil _
  · rfl

theorem unreported_settle (h : t.outgoing = []) : t.settle.unreported = [] := by
  rw [settle, if_pos (by rw [h]; rfl)]

/-- A piece of the stream is handled, and the answers are what is to be written next. -/
theorem read_of_process {piece : Bytes} (hpiece : piece ≠ [])
    (hending : (t.modem.process piece).2.2 = none) :
    t.read piece = { t with modem := (t.modem.process piece).1 }.flush
      ((t.modem.process piece).2.1.map Handled.activity) := by
  rw [read, if_neg (by simpa using hpiece)]
  split
  · next modem handled hprocess => rw [hprocess]
  · next hprocess =>
    rw [hprocess] at hending
    cases hending

/-- A piece in which the stream cannot be read any further ends the work at once. -/
theorem read_of_fault {piece : Bytes} (hpiece : piece ≠ []) {cause : ParseError}
    (hending : (t.modem.process piece).2.2 = some cause) :
    t.read piece
      = { t with modem := (t.modem.process piece).1 }.finish (.failed (.parse cause)) := by
  rw [read, if_neg (by simpa using hpiece)]
  split
  · next hprocess =>
    rw [hprocess] at hending
    cases hending
  · next hprocess =>
    rw [hprocess] at hending ⊢
    cases hending
    rfl

end ModemTask

end RadioLink
