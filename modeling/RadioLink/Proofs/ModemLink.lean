import RadioLink.Modem
import RadioLink.Proofs.ReaderTurn
import RadioLink.Proofs.Wire

set_option autoImplicit false

/-! # A slot joined to a simulated modem

A `Link` is a slot in use, a modem, and the bytes on their way between the two. A run is any list
of moves: calls are submitted, the stream takes as many bytes as it likes, what is on its way
arrives in pieces of any size, and the reader and the modem take in what is there.

The `Books` of a link say how far each call has come. A command waits to be handled by the modem, in
one queue with the acknowledgments. A command that was handled is held, or it is answered by one
frame or two; the replies are settled one after the other, and of the one that is going on the
receipt may have been taken, or the response may be waiting for its acknowledgment. `Balances` says
that everything at both ends and in between is as the books have it. This module states it and shows
it for what the modem does. -/

namespace RadioLink

/-! ## Calls and replies -/

/-- A submission that was accepted, and the ticket of its caller. -/
structure Call where
  ticket : Nat
  submission : Submission

namespace Call

def command (call : Call) : Command :=
  call.submission.command

/-- The pending request of a call. -/
def entry (call : Call) : PendingRequest where
  token := call.submission.token
  request := call.submission.request
  sink := call.ticket
  origin := .peer

/-- Who the token of a call stands for while the call is pending. -/
def claim (call : Call) : Token × Owner :=
  (call.entry.token, call.entry.owner)

/-- The command is no acknowledgment, and the modem can read it. -/
def Fits (call : Call) : Prop :=
  call.submission.request ≠ .acknowledgement ∧
    call.command.encodeBody.length ≤ defaultMaxFrameLen.toNat

end Call

/-- A call that the modem answers, and how. -/
structure Reply where
  call : Call
  rule : ModemRule

/-- What the payload of a response is read as. A failure without a payload has nothing to be
read. -/
def DispatchTable.readResult (table : DispatchTable) (request : RequestId) (status : Status)
    (payload : Bytes) : Except LinkError Payload :=
  if !status.isSuccess && payload.isEmpty then .ok .void
  else match table.request? request with
    | none => .error (.unknownRequest request)
    | some codec =>
      match codec.decode request.raw payload with
      | .error e => .error (.decode e)
      | .ok value => .ok value

namespace Reply

def receipt (a : Reply) : Frame :=
  .response .solicitedAck a.call.submission.token a.call.submission.request .success []

def response (a : Reply) : Frame :=
  .response a.rule.style.responseKind a.call.submission.token a.call.submission.request
    a.rule.status a.rule.payload

def frames (a : Reply) : List Frame :=
  a.rule.frames a.call.command

theorem frames_eq (a : Reply) :
    a.frames = if a.rule.style = .earlyAck then [a.receipt, a.response] else [a.response] := by
  rw [frames, ModemRule.frames]
  cases hstyle : a.rule.style <;> simp only [response, receipt, hstyle] <;> rfl

/-- What the caller is told. -/
def outcome (id : SlotId) (table : DispatchTable) (a : Reply) : Delivery :=
  ⟨a.call.ticket, ⟨id, a.call.submission.token, a.call.submission.request, a.rule.status,
    table.readResult a.call.submission.request a.rule.status a.rule.payload⟩⟩

/-- What is to come of an answer: that the command was received, if it is answered in two frames,
and the response. -/
def effects (id : SlotId) (table : DispatchTable) (a : Reply) : List Effect :=
  (if a.rule.style = .earlyAck then
    [.published (.requestAcknowledged a.call.submission.token)] else [])
    ++ [.resolved (a.outcome id table)]

end Reply

/-- How some rules answer some calls. -/
def replies (rules : List (RequestId × ModemRule)) (calls : List Call) : List Reply :=
  calls.filterMap fun call => (rules.lookup call.submission.request).map (Reply.mk call)

/-- The calls that no rule answers. -/
def held (rules : List (RequestId × ModemRule)) (calls : List Call) : List Call :=
  calls.filter fun call => (rules.lookup call.submission.request).isNone

/-- The tokens of the replies that have to be acknowledged. -/
def ackTokens (replies : List Reply) : List Token :=
  (replies.filter fun a => a.rule.style = .ackExpected).map fun a => a.call.submission.token

/-! ## The link -/

/-- What a link starts with. -/
structure Setup where
  id : SlotId
  options : SlotOptions
  callbacks : Callbacks
  modem : String
  rules : List (RequestId × ModemRule)

/-- Every response is within the limit of the slot. -/
def Setup.Fits (setup : Setup) : Prop :=
  ∀ entry ∈ setup.rules,
    frameHeaderSize + entry.2.payload.length ≤ setup.options.maxFrameLen.toNat

/-- The response to a call, if there is a rule for it, is within the limit of the slot. -/
def Call.AnswerFits (call : Call) (setup : Setup) : Prop :=
  ∀ rule, setup.rules.lookup call.submission.request = some rule →
    frameHeaderSize + rule.payload.length ≤ setup.options.maxFrameLen.toNat

theorem Setup.Fits.answerFits {setup : Setup} (h : setup.Fits) (call : Call) :
    call.AnswerFits setup := by
  intro rule hrule
  exact h (call.submission.request, rule) (mem_of_lookup hrule)

/-- A slot that is joined to a modem. -/
structure Link where
  session : Session
  modem : Modem
  /-- What is on its way from the slot to the modem. -/
  toModem : Bytes := []
  toSlot : Bytes := []
  /-- The calls that were accepted, in the order in which they asked for their turns. -/
  calls : List Call := []

namespace Link

/-- What can happen to a link. -/
inductive Move
  | submit (chosen : Option Token) (request : RequestId) (payload : Payload)
  | resume (party : Party)
  /-- The stream accepts some of the bytes that it is offered. -/
  | accept (count : Nat)
  /-- Some bytes reach the slot. -/
  | arrive (count : Nat)
  | read
  /-- Some bytes reach the modem. -/
  | process (count : Nat)
  /-- The modem writes a frame. -/
  | emit

def start (setup : Setup) : Link where
  session := (Session.start setup.id setup.options).step (.registerCallbacks setup.callbacks)
  modem := { id := setup.modem, rules := setup.rules }

def act (l : Link) : Move → Link
  | .submit chosen request payload =>
    let ticket := l.session.tickets
    { l with
      session := l.session.step (.submit chosen request payload)
      calls := match (l.session.slot.beginSubmission (.caller ticket) chosen request payload
          ticket).2 with
        | .ok submission => l.calls ++ [⟨ticket, submission⟩]
        | .error _ => l.calls }
  | .resume party => { l with session := l.session.step (.resume party) }
  | .accept count =>
    { l with
      session := l.session.step (.accept count)
      toModem := l.toModem ++ (l.session.slot.outlet.accept count).2 }
  | .arrive count =>
    { l with
      session := l.session.step (.arrive (l.toSlot.take count)), toSlot := l.toSlot.drop count }
  | .read => { l with session := l.session.step .read }
  | .process count =>
    { l with
      modem := (l.modem.process (l.toModem.take count)).1, toModem := l.toModem.drop count }
  | .emit =>
    match l.modem.takeOutput with
    | (modem, some piece) => { l with modem, toSlot := l.toSlot ++ piece }
    | (_, none) => l

def run (l : Link) (moves : List Move) : Link :=
  moves.foldl act l

/-- Nothing is on its way, nobody waits at the outlet, and the reader has no frame to take. -/
structure IsDrained (l : Link) : Prop where
  toModem : l.toModem = []
  toSlot : l.toSlot = []
  output : l.modem.output = []
  turns : l.session.slot.outlet.turns = []
  outcomes : l.session.slot.outlet.outcomes = []
  reading : l.session.slot.reading = .waiting
  frames : l.session.slot.framer.nextFrame.2 = none

end Link

/-! ## The books -/

/-- What waits to be handled by the modem. -/
inductive Sent
  | call (call : Call)
  | ack (token : Token)

namespace Sent

def command : Sent → Command
  | .call made => made.command
  | .ack token => .ack token

def call? : Sent → Option Call
  | .call made => some made
  | .ack _ => none

def token? : Sent → Option Token
  | .call _ => none
  | .ack token => some token

end Sent

/-- How far the first answer that is not settled has come. -/
inductive Progress
  | none
  /-- Its receipt was taken. -/
  | received (a : Reply)
  /-- Its response was taken and is to be resolved when it is acknowledged. -/
  | acknowledging (a : Reply)

namespace Progress

def replies : Progress → List Reply
  | none => []
  | received a | acknowledging a => [a]

/-- What is still to come of that answer. -/
def frames : Progress → List Frame
  | none | acknowledging _ => []
  | received a => [a.response]

def effects : Progress → List Effect
  | none | acknowledging _ => []
  | received a => [.published (.requestAcknowledged a.call.submission.token)]

/-- The replies that are being acknowledged. -/
def acked : Progress → List Reply
  | none | received _ => []
  | acknowledging a => [a]

def reading : Progress → Reading
  | none | received _ => .waiting
  | acknowledging a => .acknowledging a.response (.ack a.call.submission.token)

/-- Only an answer of the right style can have come so far. -/
def IsProper : Progress → Prop
  | none => True
  | received a => a.rule.style = .earlyAck
  | acknowledging a => a.rule.style = .ackExpected

end Progress

/-- How far the calls have come. -/
structure Books where
  /-- What the modem has handled. -/
  handled : List Call := []
  /-- What it has not handled. -/
  todo : List Sent := []
  /-- The replies that are resolved. -/
  settled : List Reply := []
  progress : Progress := .none
  /-- The replies of which no frame was taken. -/
  coming : List Reply := []

/-- The bytes that a turn is still to write. -/
def Turn.bytes (turn : Turn) : Bytes :=
  match turn.errand with
  | .send rest => rest
  | .inquire | .shut => []

namespace Books

/-- The calls that are pending. -/
def pending (b : Books) (rules : List (RequestId × ModemRule)) : List Call :=
  held rules b.handled ++ b.progress.replies.map (·.call) ++ b.coming.map (·.call)
    ++ b.todo.filterMap Sent.call?

/-- What is on its way to the modem is what it has to handle. -/
structure Outbound (b : Books) (outlet : Outlet) (toModem : Bytes) (framer : Framer) : Prop where
  isOpen : outlet.IsOpen
  outcomes : ∀ entry ∈ outlet.outcomes, entry.2 = .sent (.ok ())
  limit : framer.limit = defaultMaxFrameLen
  bytes : framer.buffer ++ toModem ++ outlet.turns.flatMap Turn.bytes
    = (b.todo.map Sent.command).flatMap Command.encode
  front : Front.of framer.limit framer.buffer = .incomplete

/-- The modem has handled the calls that it should have handled, and as it should. -/
structure Handled (b : Books) (rules : List (RequestId × ModemRule)) (m : Modem) : Prop where
  sameRules : m.rules = rules
  received : m.received = b.handled.map (·.command)
  unanswered : m.unanswered = (held rules b.handled).map (·.command)
  acks : m.acks ++ b.todo.filterMap Sent.token? = ackTokens (b.settled ++ b.progress.acked)
  replies : replies rules b.handled = b.settled ++ b.progress.replies ++ b.coming

/-- What is on its way to the slot is what is still to come of the replies. -/
structure Inbound (b : Books) (framer : Framer) (toSlot : Bytes) (output : List Bytes) :
    Prop where
  bytes : framer.buffer ++ toSlot ++ output.flatten
    = (b.progress.frames ++ b.coming.flatMap Reply.frames).flatMap Frame.encode

end Books

/-- The requests that are pending are those of the calls that are, and of no response but some was
the acknowledgment decided on. -/
structure Registry.Holds (r : Registry) (calls : List Call) (acked : List Reply) : Prop where
  claims : (r.entries.map fun entry => (entry.token, entry.owner)).Perm (calls.map Call.claim)
  distinct : (r.entries.map (·.token)).Nodup
  marks : ∀ entry ∈ r.entries, entry.isCancelled = false ∧
    (entry.isAcked = true → entry.token ∈ acked.map fun a => a.call.submission.token)

theorem Registry.Holds.of_perm {r : Registry} {calls others : List Call} {acked : List Reply}
    (h : r.Holds calls acked) (hperm : calls.Perm others) : r.Holds others acked :=
  ⟨h.claims.trans (hperm.map Call.claim), h.distinct, h.marks⟩

/-- The slot is the one that was set up. -/
structure Slot.IsOf (s : Slot) (setup : Setup) : Prop where
  id : s.id = setup.id
  callbacks : s.callbacks = setup.callbacks
  outlet : s.outlet.limit = setup.options.maxFrameLen
  framer : s.framer.limit = setup.options.maxFrameLen

/-- What came of the frames that were resolved. -/
def resolutions (trace : List Noted) : List Effect :=
  (trace.map (·.effect)).filter Effect.isResolution

/-- Everything is as the books have it. -/
structure Link.Balances (l : Link) (setup : Setup) (b : Books) : Prop where
  log : l.session.slot.log = []
  slot : l.session.slot.IsOf setup
  reading : l.session.slot.reading = b.progress.reading
  progress : b.progress.IsProper
  calls : l.calls = b.handled ++ b.todo.filterMap Sent.call?
  tickets : (l.calls.map (·.ticket)).Nodup ∧ ∀ call ∈ l.calls, call.ticket < l.session.tickets
  codecs : ∀ call ∈ l.calls,
    (setup.callbacks.table.request? call.submission.request).isSome = true
  outbound : b.Outbound l.session.slot.outlet l.toModem l.modem.framer
  handled : b.Handled setup.rules l.modem
  inbound : b.Inbound l.session.slot.framer l.toSlot l.modem.output
  registry : l.session.slot.registry.Holds (b.pending setup.rules) b.progress.acked
  effects : resolutions l.session.trace
    = b.settled.flatMap (Reply.effects setup.id setup.callbacks.table) ++ b.progress.effects

/-! ## The modem -/

variable {rules : List (RequestId × ModemRule)}

theorem replies_append (rules : List (RequestId × ModemRule)) (calls more : List Call) :
    replies rules (calls ++ more) = replies rules calls ++ replies rules more :=
  List.filterMap_append

theorem held_append (rules : List (RequestId × ModemRule)) (calls more : List Call) :
    held rules (calls ++ more) = held rules calls ++ held rules more :=
  List.filter_append ..

theorem replies_of_some {call : Call} {rule : ModemRule}
    (hrule : rules.lookup call.submission.request = some rule) :
    replies rules [call] = [⟨call, rule⟩] ∧ held rules [call] = [] := by
  simp only [replies, held, List.filterMap_cons, List.filterMap_nil, List.filter_cons,
    List.filter_nil, hrule]
  exact ⟨rfl, rfl⟩

theorem replies_of_none {call : Call} (hrule : rules.lookup call.submission.request = none) :
    replies rules [call] = [] ∧ held rules [call] = [call] := by
  simp only [replies, held, List.filterMap_cons, List.filterMap_nil, List.filter_cons,
    List.filter_nil, hrule]
  exact ⟨rfl, rfl⟩

/-- A call is answered by its rule, and held if it has none. -/
theorem Modem.handle_call (m : Modem) {call : Call}
    (hrequest : call.submission.request ≠ .acknowledgement) :
    (m.handle call.command).1 = { m with
      received := m.received ++ [call.command]
      unanswered := m.unanswered ++ (held m.rules [call]).map (·.command)
      output := m.output ++ ((replies m.rules [call]).flatMap Reply.frames).map Frame.encode } := by
  have hack : call.command.isAck = false := beq_eq_false_iff_ne.2 hrequest
  have hsame : call.command.request = call.submission.request := rfl
  simp only [handle, hack, hsame, Bool.false_eq_true, if_false]
  cases hrule : m.rules.lookup call.submission.request with
  | some rule =>
    obtain ⟨hreplies, hheld⟩ := replies_of_some hrule
    simp only [hreplies, hheld, answer, Reply.frames, List.flatMap_cons, List.flatMap_nil,
      List.map_nil, List.append_nil]
  | none =>
    obtain ⟨hreplies, hheld⟩ := replies_of_none hrule
    simp only [hreplies, hheld, List.flatMap_nil, List.map_nil, List.map_cons, List.append_nil]

namespace Books

variable {b : Books} {m : Modem} {todo : List Sent}

/-- The books when the modem has handled the first thing that it had to handle. -/
def handle (b : Books) (rules : List (RequestId × ModemRule)) (todo : List Sent) : Sent → Books
  | .call call =>
    { b with
      todo, handled := b.handled ++ [call], coming := b.coming ++ replies rules [call] }
  | .ack _ => { b with todo }

/-- A call that was handled is pending as it was before. -/
theorem pending_handle {sent : Sent} (htodo : b.todo = sent :: todo) :
    ((b.handle rules todo sent).pending rules).Perm (b.pending rules) := by
  cases sent with
  | ack token =>
    simp only [pending, handle, htodo, List.filterMap_cons, Sent.call?]
    exact List.Perm.refl _
  | call call =>
    simp only [pending, handle, htodo, List.filterMap_cons, Sent.call?, held_append,
      List.map_append]
    cases hrule : rules.lookup call.submission.request with
    | some rule =>
      obtain ⟨hreplies, hheld⟩ := replies_of_some hrule
      simp only [hreplies, hheld, List.append_nil, List.map_cons, List.map_nil,
        List.append_assoc, List.cons_append, List.nil_append]
      exact List.Perm.refl _
    | none =>
      obtain ⟨hreplies, hheld⟩ := replies_of_none hrule
      simp only [hreplies, hheld, List.append_nil, List.map_nil, List.append_assoc,
        List.cons_append, List.nil_append]
      refine List.Perm.append_left _ ?_
      rw [← List.append_assoc, ← List.append_assoc]
      exact List.perm_middle.symm

theorem Handled.handle (h : b.Handled rules m) {sent : Sent} (htodo : b.todo = sent :: todo)
    (hrequest : ∀ call, sent.call? = some call → call.submission.request ≠ .acknowledgement) :
    (b.handle rules todo sent).Handled rules (m.handle sent.command).1 := by
  obtain ⟨rfl, hreceived, hunanswered, hacks, hreplies⟩ := h
  rw [htodo] at hacks
  cases sent with
  | ack token =>
    refine ⟨rfl, hreceived, hunanswered, ?_, hreplies⟩
    show m.acks ++ [token] ++ todo.filterMap Sent.token? = _
    rw [List.append_assoc]
    exact hacks
  | call call =>
    rw [Sent.command, m.handle_call (hrequest call rfl)]
    refine ⟨rfl, ?_, ?_, hacks, ?_⟩
    · simp only [Books.handle, hreceived, List.map_append, List.map_cons, List.map_nil]
    · simp only [Books.handle, hunanswered, held_append, List.map_append]
    · simp only [Books.handle, hreplies, replies_append, List.append_assoc]

theorem Inbound.handle {framer : Framer} {toSlot : Bytes} (h : b.Inbound framer toSlot m.output)
    (hrules : m.rules = rules) {sent : Sent}
    (hrequest : ∀ call, sent.call? = some call → call.submission.request ≠ .acknowledgement) :
    (b.handle rules todo sent).Inbound framer toSlot (m.handle sent.command).1.output := by
  cases sent with
  | ack token => exact ⟨h.bytes⟩
  | call call =>
    rw [Sent.command, m.handle_call (hrequest call rfl), hrules]
    constructor
    rw [List.flatten_append, ← List.append_assoc, h.bytes, ← List.flatMap_def,
      ← List.flatMap_append, List.append_assoc, ← List.flatMap_append]
    rfl

/-- The books after the modem has handled some of what it had to handle, so that this is left. -/
structure Passes (b next : Books) (rules : List (RequestId × ModemRule)) (rest : List Sent) :
    Prop where
  todo : next.todo = rest
  settled : next.settled = b.settled
  progress : next.progress = b.progress
  calls : next.handled ++ rest.filterMap Sent.call? = b.handled ++ b.todo.filterMap Sent.call?
  pending : (next.pending rules).Perm (b.pending rules)
  coming : ∃ passed, b.todo = passed ++ rest ∧
    next.coming = b.coming ++ replies rules (passed.filterMap Sent.call?)

theorem Passes.handle {next : Books} {rest : List Sent} {sent : Sent}
    (htodo : b.todo = sent :: todo) (h : (b.handle rules todo sent).Passes next rules rest) :
    b.Passes next rules rest := by
  obtain ⟨passed, hpassed, hcoming⟩ := h.coming
  refine ⟨h.todo, h.settled.trans ?_, h.progress.trans ?_, h.calls.trans ?_,
    h.pending.trans (pending_handle htodo), sent :: passed, ?_, hcoming.trans ?_⟩
  · cases sent <;> rfl
  · cases sent <;> rfl
  · rw [htodo]
    cases sent with
    | ack token => rfl
    | call call => exact List.append_assoc ..
  · have hleft : (b.handle rules todo sent).todo = todo := by cases sent <;> rfl
    rw [htodo, ← hleft, hpassed, List.cons_append]
  · cases sent with
    | ack token => rfl
    | call call =>
      rw [List.filterMap_cons_some (f := Sent.call?) rfl, ← List.singleton_append, replies_append,
        ← List.append_assoc]
      rfl

theorem passes_handleAll {framer : Framer} {toSlot : Bytes} {read rest : List Sent}
    (htodo : b.todo = read ++ rest) (hhandled : b.Handled rules m)
    (hinbound : b.Inbound framer toSlot m.output)
    (hrequests : ∀ call ∈ read.filterMap Sent.call?,
      call.submission.request ≠ .acknowledgement) :
    ∃ next, b.Passes next rules rest ∧
      next.Handled rules (m.handleAll (read.map Sent.command)).1 ∧
      next.Inbound framer toSlot (m.handleAll (read.map Sent.command)).1.output := by
  -- The first command may add a reply or a held call, so the rest starts from other books.
  induction read generalizing b m with
  | nil =>
    rw [List.nil_append] at htodo
    refine ⟨b, ⟨htodo, rfl, rfl, ?_, List.Perm.refl _, [], htodo, ?_⟩, hhandled, hinbound⟩
    · rw [htodo]
    · exact (List.append_nil _).symm
  | cons sent read ih =>
    rw [List.cons_append] at htodo
    have hfirst : ∀ call, sent.call? = some call →
        call.submission.request ≠ .acknowledgement := fun call hcall =>
      hrequests call (List.mem_filterMap.2 ⟨sent, List.mem_cons_self, hcall⟩)
    have hleft : (b.handle rules (read ++ rest) sent).todo = read ++ rest := by
      cases sent <;> rfl
    obtain ⟨next, hpasses, hnext, hnextInbound⟩ := ih hleft (hhandled.handle htodo hfirst)
      (hinbound.handle hhandled.sameRules hfirst) fun call hmem => by
        obtain ⟨other, hother, hcall⟩ := List.mem_filterMap.1 hmem
        exact hrequests call (List.mem_filterMap.2 ⟨other, List.mem_cons_of_mem _ hother, hcall⟩)
    exact ⟨next, hpasses.handle htodo, hnext, hnextInbound⟩

end Books

theorem Modem.framer_handle (m : Modem) (command : Command) :
    (m.handle command).1.framer = m.framer := by
  rw [handle]
  split
  · rfl
  · dsimp only
    split <;> rfl

theorem Modem.framer_handleAll (m : Modem) (commands : List Command) :
    (m.handleAll commands).1.framer = m.framer := by
  induction commands generalizing m with
  | nil => rfl
  | cons command commands ih => exact (ih _).trans (m.framer_handle command)

/-- Whatever waits for the modem is short enough for it. -/
theorem Sent.length_command {sent : Sent} (h : ∀ call, sent.call? = some call → call.Fits) :
    sent.command.encodeBody.length ≤ defaultMaxFrameLen.toNat := by
  cases sent with
  | call call => exact (h call rfl).2
  | ack token =>
    rw [Sent.command, Command.length_encodeBody]
    exact (by decide : commandHeaderSize + 0 ≤ defaultMaxFrameLen.toNat)

namespace Link

variable {l : Link} {setup : Setup} {b : Books}

/-- The modem takes in some bytes, and there is nothing among them that it cannot read. -/
theorem Balances.process_passes (h : l.Balances setup b) (hfits : ∀ call ∈ l.calls, call.Fits)
    (count : Nat) : ∃ next rest, (l.act (.process count)).Balances setup next ∧
      b.Passes next setup.rules rest ∧ (l.modem.process (l.toModem.take count)).2.2 = none := by
  have hcall : ∀ sent ∈ b.todo, ∀ call, sent.call? = some call → call.Fits := by
    intro sent hmem call hcall
    refine hfits call ?_
    rw [h.calls]
    exact List.mem_append_right _ (List.mem_filterMap.2 ⟨sent, hmem, hcall⟩)
  -- With what is still to arrive, the modem has before it what the books have, and nothing else.
  have hstream : (l.modem.framer.push (l.toModem.take count)).buffer
      ++ (l.toModem.drop count ++ l.session.slot.outlet.turns.flatMap Turn.bytes)
      = (b.todo.map Sent.command).flatMap Command.encode := by
    rw [← h.outbound.bytes, Framer.push]
    simp only [List.append_assoc]
    rw [← List.append_assoc (List.take ..), List.take_append_drop]
  obtain ⟨commands, others, framer, hcommands, hdrain, hlimit, hbuffer, hfront⟩ :=
    Framer.drain_commands hstream fun command hmem => by
      obtain ⟨sent, hsent, rfl⟩ := List.mem_map.1 hmem
      rw [Framer.push, h.outbound.limit]
      exact sent.length_command (hcall sent hsent)
  obtain ⟨read, rest, htodo, rfl, rfl⟩ := List.map_eq_append_iff.1 hcommands
  have hmodem : (l.modem.process (l.toModem.take count)).1
      = ({ l.modem with framer }.handleAll (read.map Sent.command)).1 := by
    rw [Modem.process, hdrain]
  obtain ⟨next, hpasses, hhandled, hinbound⟩ := Books.passes_handleAll
    (m := { l.modem with framer }) htodo
    ⟨h.handled.sameRules, h.handled.received, h.handled.unanswered, h.handled.acks,
      h.handled.replies⟩ h.inbound fun call hmem => by
        obtain ⟨sent, hsent, hmade⟩ := List.mem_filterMap.1 hmem
        exact (hcall sent (htodo ▸ List.mem_append_left _ hsent) call hmade).1
  rw [← hmodem] at hhandled hinbound
  have hframer : (l.act (.process count)).modem.framer = framer := by
    rw [act, hmodem, Modem.framer_handleAll]
  have hending : (l.modem.process (l.toModem.take count)).2.2 = none := by
    rw [Modem.process, hdrain]
  refine ⟨next, rest, ?_, hpasses, hending⟩
  refine { h with
    reading := ?_, progress := ?_, calls := ?_, registry := ?_, effects := ?_
    outbound := ?_, handled := hhandled, inbound := hinbound }
  · rw [hpasses.progress]
    exact h.reading
  · rw [hpasses.progress]
    exact h.progress
  · rw [hpasses.todo, hpasses.calls]
    exact h.calls
  · rw [hframer]
    refine ⟨h.outbound.isOpen, h.outbound.outcomes, hlimit.trans h.outbound.limit, ?_, ?_⟩
    · rw [hpasses.todo, ← hbuffer, List.append_assoc]
      rfl
    · rw [hlimit]
      exact hfront
  · rw [hpasses.progress]
    exact h.registry.of_perm hpasses.pending.symm
  · rw [hpasses.settled, hpasses.progress]
    exact h.effects

theorem Balances.process (h : l.Balances setup b) (hfits : ∀ call ∈ l.calls, call.Fits)
    (count : Nat) : ∃ next, (l.act (.process count)).Balances setup next :=
  let ⟨next, _, hnext, _⟩ := h.process_passes hfits count
  ⟨next, hnext⟩

/-- The modem writes a frame. -/
theorem Balances.emit (h : l.Balances setup b) : (l.act .emit).Balances setup b := by
  cases houtput : l.modem.output with
  | nil =>
    have hidle : l.act .emit = l := by simp only [act, Modem.takeOutput, houtput]
    rw [hidle]
    exact h
  | cons piece pieces =>
    have hact : l.act .emit
        = { l with modem := { l.modem with output := pieces }, toSlot := l.toSlot ++ piece } := by
      simp only [act, Modem.takeOutput, houtput]
    have hbytes := h.inbound.bytes
    rw [houtput, List.flatten_cons, ← List.append_assoc] at hbytes
    rw [hact]
    refine { h with outbound := ?_, handled := ?_, inbound := ⟨?_⟩ }
    · exact ⟨h.outbound.isOpen, h.outbound.outcomes, h.outbound.limit, h.outbound.bytes,
        h.outbound.front⟩
    · exact ⟨h.handled.sameRules, h.handled.received, h.handled.unanswered, h.handled.acks,
        h.handled.replies⟩
    · show l.session.slot.framer.buffer ++ (l.toSlot ++ piece) ++ pieces.flatten = _
      rw [← List.append_assoc, hbytes]

end Link

end RadioLink
