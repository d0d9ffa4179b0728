import RadioLink.Frame

set_option autoImplicit false

/-! # The outbound half of a stream

Whoever has something to write, or wants to close the stream, or asks whether it is closed, waits
for a turn; turns are taken in the order in which they were asked for. The first in the queue has
the stream to itself until its frame is written in full, however small the pieces are that the
stream accepts, so frames do not mingle.

Closing does not wait. As soon as the outlet is closing no new frame is accepted, but those who wait
or write have yet to notice (`abort`). Until they do, a turn may come and a frame may be written in
full. Who notices first gives its frame up (`giveUp`): it is told that the transport is closed, and
if it has the stream it lets go of that, so that nothing can follow a torn frame. A sender can also
vanish while it waits or writes (`leave`), without being told anything; then the queue moves on.

Where nothing else runs while a stream is full, everyone who waits notices before anything can be
written: that is `abortNow`. -/

namespace RadioLink

/-- Who waits for a turn. -/
inductive Party
  /-- Whoever reads the same stream. -/
  | reader
  /-- A caller, by the number of its ticket. -/
  | caller (ticket : Nat)
deriving DecidableEq, Repr

/-- What a turn is for. -/
inductive Errand
  /-- To write a frame, of which these bytes are left. -/
  | send (rest : Bytes)
  | inquire
  | shut
deriving DecidableEq, Repr

/-- A turn that is asked for. -/
structure Turn where
  party : Party
  errand : Errand
deriving DecidableEq, Repr

/-- What a turn came to. -/
inductive Outcome
  | sent (result : Except LinkError Unit)
  | answered (isClosed : Bool)
  | shut
deriving Repr

/-- The outbound half of a stream. -/
structure Outlet where
  /-- The longest body that is accepted. -/
  limit : UInt32
  /-- Nothing more is accepted. -/
  isClosing : Bool := false
  hasStream : Bool := true
  /-- Who has the stream, and who waits for it. -/
  turns : List Turn := []
  /-- What turns came to, for those who have not been told yet. -/
  outcomes : List (Party × Outcome) := []

namespace Outlet

/-- Puts a turn at the end of the queue. -/
def enqueue (o : Outlet) (party : Party) (errand : Errand) : Outlet :=
  { o with turns := o.turns ++ [⟨party, errand⟩] }

/-- Ends the first turn. -/
def finish (o : Outlet) (party : Party) (outcome : Outcome) (rest : List Turn) : Outlet :=
  { o with turns := rest, outcomes := o.outcomes ++ [(party, outcome)] }

/-- The frame for a body, if it is accepted. That the outlet is closing is reported first. -/
def frameFor (o : Outlet) (body : Bytes) : Except LinkError Bytes :=
  if o.isClosing then .error .transportClosed
  else if o.limit.toNat < body.length then .error (.frameTooLarge body.length o.limit)
  else .ok (lengthPrefixed body)

/-- Asks for a turn to write a body. -/
def offer (o : Outlet) (party : Party) (body : Bytes) : Except LinkError Outlet :=
  (o.frameFor body).map fun frame => o.enqueue party (.send frame)

/-- Whether a turn is for writing. -/
def isSend (turn : Turn) : Bool :=
  match turn.errand with
  | .send _ => true
  | _ => false

/-- Accepts nothing more. -/
def abort (o : Outlet) : Outlet :=
  { o with isClosing := true }

/-- A sender notices that the outlet is closing, and gives its frame up. If its turn has come it may
have the stream, which it then lets go of. -/
def giveUp (o : Outlet) (party : Party) (hasTheStream : Bool) : Outlet :=
  let turn? := o.turns.find? fun turn => turn.party == party && isSend turn
  match o.isClosing, turn? with
  | true, some turn =>
    { o with
      turns := o.turns.erase turn
      outcomes := o.outcomes ++ [(party, .sent (.error .transportClosed))]
      hasStream := o.hasStream && !(hasTheStream && o.turns.head? == some turn) }
  | _, _ => o

/-- Gives up every frame that is not written in full. -/
def giveUpSends (o : Outlet) : Outlet :=
  { o with
    turns := o.turns.filter fun turn => !isSend turn
    outcomes := o.outcomes ++ (o.turns.filter isSend).map fun turn =>
      (turn.party, .sent (.error .transportClosed)) }

/-- Accepts nothing more, and everyone notices. A frame that has the stream takes it along. -/
def abortNow (o : Outlet) : Outlet :=
  -- Only the first turn can have put part of its frame into the stream, and then the rest of that
  -- frame has to be the next thing in it, or nothing.
  let isWriting := (o.turns.head?).any isSend
  { o.abort.giveUpSends with hasStream := o.hasStream && !isWriting }

/-- Accepts nothing more, and asks for a turn to shut the stream. -/
def shut (o : Outlet) (party : Party) : Outlet :=
  o.abort.enqueue party .shut

/-- Accepts nothing more, everyone notices, and a turn is asked for to shut the stream. -/
def shutNow (o : Outlet) (party : Party) : Outlet :=
  o.abortNow.shut party

/-- Takes back every turn of a party that is no longer there. The stream is kept, also when the
party leaves in the middle of a frame. -/
def leave (o : Outlet) (party : Party) : Outlet :=
  { o with
    turns := o.turns.filter fun turn => turn.party != party
    outcomes := o.outcomes.filter fun entry => entry.1 != party }

def release (o : Outlet) : Outlet :=
  { o with hasStream := false }

/-- The bytes that the stream is offered next. -/
def offered (o : Outlet) : Bytes :=
  match o.turns with
  | ⟨_, .send rest⟩ :: _ => if o.hasStream then rest else []
  | _ => []

/-- The stream accepts some of the bytes that it is offered: those bytes, and the outlet after
that. -/
def accept (o : Outlet) (count : Nat) : Outlet × Bytes :=
  match o.turns with
  | ⟨party, .send rest⟩ :: turns =>
    if o.hasStream then
      let left := rest.drop count
      (if left.isEmpty then o.finish party (.sent (.ok ())) turns
        else { o with turns := ⟨party, .send left⟩ :: turns },
        rest.take count)
    else (o.finish party (.sent (.error .transportClosed)) turns, [])
  | _ => (o, [])

/-- The stream fails under the frame that has it: the stream is let go of and everyone else who
waits to write is told that it is closed. -/
def fail (o : Outlet) (reason : String) : Outlet :=
  match o.turns with
  | ⟨party, .send _⟩ :: turns =>
    { (o.finish party (.sent (.error (.io reason))) turns).giveUpSends with
      isClosing := true, hasStream := false }
  | _ => o

/-- Takes the turns at the front that are not for writing, and says whether one of them shut the
stream. -/
def attend (o : Outlet) : Outlet × Bool :=
  match _ : o.turns with
  | ⟨party, .inquire⟩ :: turns =>
    (o.finish party (.answered (o.isClosing || !o.hasStream)) turns).attend
  | ⟨party, .shut⟩ :: turns =>
    let (next, _) := ({ o with hasStream := false }.finish party .shut turns).attend
    (next, o.hasStream)
  | _ => (o, false)
termination_by o.turns.length
decreasing_by all_goals simp [finish, *]

/-- Takes away what turns came to. -/
def takeOutcomes (o : Outlet) : Outlet × List (Party × Outcome) :=
  ({ o with outcomes := [] }, o.outcomes)

end Outlet

end RadioLink
