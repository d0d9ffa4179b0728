import RadioLink.Bytes

set_option autoImplicit false

/-! # Pipes

One direction of a stream in memory. A pipe holds a limited number of bytes that were written and
not read yet. After it is closed nothing can be written, what it holds can still be read, and then
the reader sees the end. -/

namespace RadioLink

/-- One direction of a stream. -/
structure Pipe where
  capacity : Nat := 65536
  held : Bytes := []
  isClosed : Bool := false

namespace Pipe

/-- How many more bytes a pipe can hold. -/
def room (p : Pipe) : Nat :=
  p.capacity - p.held.length

/-- Writes bytes, for which there has to be room. -/
def put (p : Pipe) (bytes : Bytes) : Pipe :=
  { p with held := p.held ++ bytes }

/-- Reads up to a number of bytes. -/
def take (p : Pipe) (count : Nat) : Pipe × Bytes :=
  ({ p with held := p.held.drop count }, p.held.take count)

/-- Closes a pipe. -/
def close (p : Pipe) : Pipe :=
  { p with isClosed := true }

/-- Whether the reader sees the end. -/
def hasEnded (p : Pipe) : Bool :=
  p.isClosed && p.held.isEmpty

/-- What was read is what was held first, and the rest is still held. -/
theorem take_append (p : Pipe) (count : Nat) :
    (p.take count).2 ++ (p.take count).1.held = p.held := by
  simp [take]

end Pipe

/-- What became of something that was sent into a pipe. -/
inductive SendReport
  /-- All of it was written. -/
  | wrote (count : Nat)
  /-- The pipe was closed after this many bytes. -/
  | broken (count : Nat)
  /-- Nobody made room after this many bytes. -/
  | blocked (count : Nat)
  /-- There is no sender. -/
  | gone
deriving DecidableEq, Repr

namespace SendReport

/-- Sends bytes through a pipe that is part of something larger, which makes room in it when it
runs. Every round but the last writes at least one byte. -/
def sendThrough {β : Type} (pipe : β → Pipe) (setPipe : β → Pipe → β) (run : β → β) :
    Nat → Nat → Bytes → β → β × SendReport
  | 0, count, _, b => (b, .blocked count)
  | fuel + 1, count, bytes, b =>
    if (pipe b).isClosed then (b, .broken count)
    else
      let piece := bytes.take (pipe b).room
      if piece.isEmpty then (b, .blocked count)
      else
        let b := run (setPipe b ((pipe b).put piece))
        let count := count + piece.length
        match bytes.drop piece.length with
        | [] => (b, .wrote count)
        | rest => sendThrough pipe setPipe run fuel count rest b

/-- Sends all of some bytes through a pipe. -/
def send {β : Type} (pipe : β → Pipe) (setPipe : β → Pipe → β) (run : β → β) (bytes : Bytes)
    (b : β) : β × SendReport :=
  if bytes.isEmpty then (b, .wrote 0)
  else sendThrough pipe setPipe run (bytes.length + 1) 0 bytes b

end SendReport

end RadioLink
