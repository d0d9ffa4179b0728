import RadioLink.Bench.Watch
import RadioLink.Event
import RadioLink.Modem.Task

set_option autoImplicit false

/-! # What a bench reports

Whatever has happened on a bench since it was last asked: the answers to calls that were started,
what observers, listeners and watchers got, the calls to the vendor, what the peer has read, and what
the modem did. -/

namespace RadioLink

/-- What a call that was started comes to. -/
inductive Answer
  /-- It has no result. -/
  | nothing
  /-- It succeeded, without a value. -/
  | success
  | token (token : Token)
  | flag (value : Bool)
  | response (response : Response)
  | frame (frame : Frame)
  /-- The stream has ended. -/
  | ended
  | failed (cause : LinkError)

/-- A call to a vendor that keeps a journal. -/
inductive JournalEntry
  | served (request : RequestId) (token : Token) (data : Bytes) (completions : List Bool)
  | withdrawn (token : Token)

/-- What has happened on a bench since the last report. -/
structure BenchReport where
  /-- The answers to calls that were started, by ticket. -/
  answers : List (Nat × Answer) := []
  /-- How many events an observer has lost, and those that it got. -/
  events : Nat × List Event := (0, [])
  sinks : List SinkReport := []
  indications : List Indication := []
  journal : List JournalEntry := []
  /-- What the peer has read. -/
  read : Bytes := []
  /-- The peer has seen the end of the stream. -/
  hasSeenEnd : Bool := false
  activities : List Activity := []
  /-- The modem has ended. -/
  ending : Option (Ending × Modem) := none

end RadioLink
