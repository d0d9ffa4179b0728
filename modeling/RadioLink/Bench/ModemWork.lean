import RadioLink.Bench.Pipe
import RadioLink.Modem.Task

set_option autoImplicit false

/-! # A modem between two pipes

The next thing that a working modem does, given the pipe that it reads from and the pipe that it
writes to: it finishes what it writes, then takes in a control message, then reads. A modem that
has ended closes both pipes. -/

namespace RadioLink

/-- The amounts of all elements together. -/
def total {α : Type} (amount : α → Nat) (elements : List α) : Nat :=
  elements.foldl (fun sum element => sum + amount element) 0

/-- A working modem and its two pipes. -/
structure ModemWork where
  task : ModemTask
  inbound : Pipe
  outbound : Pipe

namespace ModemWork

/-- Closes both pipes if the modem has ended. -/
def release (w : ModemWork) : ModemWork :=
  if w.task.isRunning then w
  else { w with inbound := w.inbound.close, outbound := w.outbound.close }

/-- Writes as much as there is room for, if there is any. -/
def write? (w : ModemWork) : Option ModemWork :=
  if w.outbound.isClosed then some { w with task := w.task.failWrite "broken pipe" }
  else if w.outbound.room = 0 then none
  else
    let (task, bytes) := w.task.write w.outbound.room
    some { w with task, outbound := w.outbound.put bytes }

/-- Reads a piece, or the end of the stream. -/
def read? (w : ModemWork) : Option ModemWork :=
  if w.inbound.held.isEmpty && !w.inbound.isClosed then none
  else
    let (inbound, piece) := w.inbound.take modemReadSize
    some { w with task := w.task.read piece, inbound }

/-- The next thing that the modem does, if it can do anything. -/
def step? (w : ModemWork) : Option ModemWork :=
  if !w.task.isRunning then none
  else if !w.task.outgoing.isEmpty then w.write?.map release
  else match w.task.mailbox with
    | control :: mailbox => some ({ w with task := { w.task with mailbox }.obey control }.release)
    | [] => w.read?.map release

end ModemWork

end RadioLink
