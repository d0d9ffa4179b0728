import RadioLink.Simulation
import RadioLink.Proofs.Acknowledging
import RadioLink.Proofs.Settling

set_option autoImplicit false

/-! # A slot and a modem at work

A `Station` is a slot in use and a modem at work, with a pipe of limited room each way. Calls are
submitted at any time. Apart from that, whoever had a turn goes on, the outlet writes, the reader
takes a frame or takes in bytes, and the modem does the next thing, in any order.

To a link a station is what it is without the limits of the pipes: what the modem has still to write
is on its way to the slot already. So a station stands as its link balances, and in every move that
changes anything but the calls there is less left to do. A station in which nothing can move has
answered its calls, or both pipes are full: then neither the reader nor the modem can go on before
the other does. -/

namespace RadioLink

/-! ## Stations -/

/-- A slot in use and a modem at work, and the pipes between them. -/
structure Station where
  session : Session
  work : ModemWork
  /-- The calls that were accepted, in the order in which they asked for their turns. -/
  calls : List Call := []

namespace Station

/-- What can happen. -/
inductive Move
  | submit (chosen : Option Token) (request : RequestId) (payload : Payload)
  | resume (party : Party)
  /-- The outlet writes as much as there is room for, but no more bytes than these. -/
  | write (count : Nat)
  /-- The reader takes the next frame, or else takes in some bytes, but no more than these. -/
  | read (count : Nat)
  /-- The modem does the next thing. -/
  | work

def Move.isSubmission : Move → Bool
  | .submit .. => true
  | _ => false

/-- The slot of a bench and the modem at its far end. -/
def ofBench? (b : Bench) : Option Station :=
  b.modem.map fun task => { session := { slot := b.slot }, work := ⟨task, b.toFar, b.toNear⟩ }

/-- The station as a link, which has no limits between the slot and the modem. -/
def link (st : Station) : Link where
  session := st.session
  modem := st.work.task.modem
  toModem := st.work.inbound.held
  toSlot := st.work.outbound.held ++ st.work.task.outgoing
  calls := st.calls

/-- The stream accepts some of the bytes that it is offered, which are in the pipe after that. -/
def accept (st : Station) (count : Nat) : Station :=
  let inbound := st.work.inbound.put (st.session.slot.outlet.accept count).2
  { st with session := st.session.step (.accept count), work := { st.work with inbound } }

/-- Some of the bytes in the pipe arrive at the slot. -/
def arrive (st : Station) (count : Nat) : Station :=
  let (outbound, bytes) := st.work.outbound.take count
  { st with session := st.session.step (.arrive bytes), work := { st.work with outbound } }

/-- The outlet writes. Turns that are not for writing take no room in the pipe, so they come
first. -/
def write (st : Station) (count : Nat) : Station :=
  let (outlet, isShut) := st.session.slot.outlet.attend
  if outlet.turns.length < st.session.slot.outlet.turns.length then
    let inbound := if isShut then st.work.inbound.close else st.work.inbound
    { st with session := st.session.step .attend, work := { st.work with inbound } }
  else if outlet.hasStream && st.work.inbound.isClosed then
    { st with session := st.session.step (.failWrite "broken pipe") }
  else st.accept (min count st.work.inbound.room)

/-- The reader does one thing. -/
def read (st : Station) (count : Nat) : Station :=
  match st.session.slot.reading with
  | .waiting =>
    match st.session.slot.readNext? with
    | some _ => { st with session := st.session.step .read }
    | none =>
      if !st.work.outbound.held.isEmpty then st.arrive count
      else if st.work.outbound.isClosed then { st with session := st.session.step .endOfStream }
      else st
  | _ => st

def act (st : Station) : Move → Station
  | .submit chosen request payload =>
    let l := st.link.act (.submit chosen request payload)
    { st with session := l.session, calls := l.calls }
  | .resume party => { st with session := st.session.step (.resume party) }
  | .write count => st.write count
  | .read count => st.read count
  | .work =>
    match st.work.step? with
    | some work => { st with work }
    | none => st

def run (st : Station) (moves : List Move) : Station :=
  moves.foldl act st

/-- Every one of these moves changes something. -/
def NeverIdle (st : Station) : List Move → Prop
  | [] => True
  | move :: moves => st.act move ≠ st ∧ (st.act move).NeverIdle moves

/-- Nothing can move any more until another call is submitted. -/
def IsStill (st : Station) : Prop :=
  ∀ move : Move, move.isSubmission = false → st.act move = st

/-- The calls for which no response has come. -/
def awaiting (st : Station) : List Call :=
  st.calls.filter fun call => (responsesTo st.session.trace call.ticket).isEmpty

end Station

/-- The modem can read the command of a call, and the slot can read the response to it. -/
def Call.IsReadable (call : Call) (setup : Setup) : Prop :=
  call.command.encodeBody.length ≤ defaultMaxFrameLen.toNat ∧ call.AnswerFits setup

/-! ## The modem between its pipes -/

namespace ModemWork

variable {w : ModemWork} {capacity : Nat}

/-- The modem is at work and has said all that it has to say, and both pipes are open. -/
structure IsFlowing (w : ModemWork) (capacity : Nat) : Prop where
  ending : w.task.ending = none
  mailbox : w.task.mailbox = []
  output : w.task.modem.output = []
  inbound : w.inbound.isClosed = false ∧ w.inbound.capacity = capacity
  outbound : w.outbound.isClosed = false ∧ w.outbound.capacity = capacity

theorem release_of_running (h : w.task.ending = none) : w.release = w := by
  rw [release, if_pos (by rw [ModemTask.isRunning, h]; rfl)]

/-- What a modem does next. -/
inductive Works (w : ModemWork) : Option ModemWork → Prop
  | full (hbusy : w.task.outgoing ≠ []) (hroom : w.outbound.room = 0) : Works w none
  | waits (hidle : w.task.outgoing = []) (hheld : w.inbound.held = []) : Works w none
  | writes (hbusy : w.task.outgoing ≠ []) (hroom : w.outbound.room ≠ 0) :
    Works w (some { w with
      task := (w.task.write w.outbound.room).1
      outbound := w.outbound.put (w.task.outgoing.take w.outbound.room) })
  | reads (hidle : w.task.outgoing = []) (hheld : w.inbound.held ≠ []) :
    Works w (some { w with
      task := w.task.read (w.inbound.held.take modemReadSize)
      inbound := (w.inbound.take modemReadSize).1 }.release)

theorem IsFlowing.works (h : w.IsFlowing capacity) : w.Works w.step? := by
  have hrunning : w.task.isRunning = true := by rw [ModemTask.isRunning, h.ending]; rfl
  rw [step?, hrunning, if_neg (by decide)]
  by_cases hidle : w.task.outgoing = []
  · rw [if_neg (by rw [hidle]; decide), h.mailbox]
    by_cases hheld : w.inbound.held = []
    · rw [read?, if_pos (by rw [hheld, h.inbound.1]; rfl)]
      exact .waits hidle hheld
    · rw [read?, if_neg (by simpa [h.inbound.1] using hheld)]
      exact .reads hidle hheld
  · rw [if_pos (by simpa using hidle), write?, h.outbound.1, if_neg (by decide)]
    by_cases hroom : w.outbound.room = 0
    · rw [if_pos hroom]
      exact .full hidle hroom
    · rw [if_neg hroom, Option.map_some, release_of_running]
      · exact .writes hidle hroom
      · rw [ModemTask.write, ModemTask.ending_settle]
        exact h.ending

end ModemWork

/-! ## What holds of a station -/

/-- When nobody can be told anything, nobody is to be told anything. -/
theorem Outlet.outcomes_of_tell? {o : Outlet} (h : ∀ party, o.tell? party = none) :
    o.outcomes = [] := by
  cases houtcomes : o.outcomes with
  | nil => rfl
  | cons entry entries =>
    have hnone := h entry.1
    rw [tell?, Option.map_eq_none_iff, List.find?_eq_none, houtcomes] at hnone
    exact absurd (beq_self_eq_true entry.1) (hnone entry List.mem_cons_self)

/-- A reader that waits and has nothing to take has no frame. -/
theorem Slot.nextFrame_of_readNext? {s : Slot} (hwaiting : s.reading = .waiting)
    (hread : s.readNext? = none) : s.framer.nextFrame.2 = none := by
  rcases readNext?_cases hwaiting with ⟨hnone, -⟩ | ⟨e, -, hsome⟩ | ⟨frame, -, hsome⟩
  · exact hnone
  · rw [hread] at hsome
    cases hsome
  · rw [hread] at hsome
    cases hsome

/-- A session whose outlet stays open is accounted for after a step as it was before. -/
theorem Session.accounts_step {x : Session}
    (h : ∃ handled pieces blocks, x.Accounts handled pieces blocks) {action : Action}
    (hopen : (x.step action).slot.outlet.IsOpen) :
    ∃ handled pieces blocks, (x.step action).Accounts handled pieces blocks := by
  obtain ⟨handled, pieces, blocks, h⟩ := h
  exact h.step action hopen.isClosing

/-- What the modem has to say is on its way. -/
theorem Link.Balances.emitAll {l : Link} {setup : Setup} {b : Books} (h : l.Balances setup b) :
    Link.Balances { l with
      modem := { l.modem with output := [] }, toSlot := l.toSlot ++ l.modem.output.flatten }
      setup b := by
  refine { h with
    outbound := ⟨h.outbound.isOpen, h.outbound.outcomes, h.outbound.limit, h.outbound.bytes,
      h.outbound.front⟩
    handled := ⟨h.handled.sameRules, h.handled.received, h.handled.unanswered, h.handled.acks,
      h.handled.replies⟩
    inbound := ⟨?_⟩ }
  rw [List.flatten_nil, List.append_nil, ← List.append_assoc]
  exact h.inbound.bytes

namespace Station

variable {st : Station} {setup : Setup} {capacity : Nat} {b : Books}

/-- The station is as the books have it, and neither end has failed. -/
structure Stands (st : Station) (setup : Setup) (capacity : Nat) (b : Books) : Prop where
  balances : st.link.Balances setup b
  work : st.work.IsFlowing capacity
  accounts : ∃ handled pieces blocks, st.session.Accounts handled pieces blocks
  within : ∀ call ∈ st.calls, call.command.encodeBody.length ≤ setup.options.maxFrameLen.toNat
  table : setup.callbacks.table.request? .acknowledgement = none

/-- What a station has left to do without new calls. -/
def left (st : Station) (rules : List (RequestId × ModemRule)) (b : Books) : Nat :=
  st.session.slot.outlet.left + st.work.inbound.held.length + 2 * st.work.task.outgoing.length
    + st.work.outbound.held.length + b.left rules

/-- Why nothing changes in a move. -/
def Rests (st : Station) : Move → Prop
  | .submit .. => False
  | .resume party => st.session.slot.outlet.tell? party = none
  | .write count => st.session.slot.outlet.turns = [] ∨ min count st.work.inbound.room = 0
  | .read count => st.session.slot.reading ≠ .waiting ∨
    st.session.slot.readNext? = none ∧ (st.work.outbound.held = [] ∨ count = 0)
  | .work => st.work.Works none

/-- A station after a move in which it rests, or in which it does something of what is left. -/
def Advances (st next : Station) (setup : Setup) (capacity : Nat) (b : Books) (move : Move) :
    Prop :=
  st.Rests move ∧ next = st ∨ ∃ books, next.Stands setup capacity books ∧
    (move.isSubmission = false → next.left setup.rules books < st.left setup.rules b)

/-- A call that was accepted is no acknowledgment, as there is no codec for that. -/
theorem Stands.fits (h : st.Stands setup capacity b)
    (hcalls : ∀ call ∈ st.calls, call.IsReadable setup) : ∀ call ∈ st.calls, call.Fits := by
  intro call hmem
  refine ⟨fun hack => ?_, (hcalls call hmem).1⟩
  have hcodec := h.balances.codecs call hmem
  rw [hack, h.table] at hcodec
  cases hcodec

theorem Stands.submit (h : st.Stands setup capacity b) (chosen : Option Token)
    (request : RequestId) (payload : Payload) :
    st.Advances (st.act (.submit chosen request payload)) setup capacity b
      (.submit chosen request payload) := by
  obtain ⟨next, hnext⟩ := h.balances.submit chosen request payload
  refine .inr ⟨next, ⟨hnext, h.work, ?_, ?_, h.table⟩, fun hother => by cases hother⟩
  · exact Session.accounts_step h.accounts hnext.outbound.isOpen
  · have hcalls : (st.act (.submit chosen request payload)).calls
        = (st.link.act (.submit chosen request payload)).calls := rfl
    rw [hcalls, Link.act]
    rcases st.link.session.slot.beginSubmission_cases (.caller st.link.session.tickets) chosen
        request payload st.link.session.tickets with
      ⟨e, nextToken, hbegin⟩ | ⟨submission, nextToken, outlet, rfl, -, -, hoffer, hbegin⟩
    · rw [hbegin]
      exact h.within
    · rw [hbegin]
      refine List.forall_mem_append.2 ⟨h.within, List.forall_mem_singleton.2 ?_⟩
      rw [← h.balances.slot.outlet]
      exact (Outlet.accepts_of_offer hoffer).2

theorem Stands.resume (h : st.Stands setup capacity b) (party : Party) :
    st.Advances (st.act (.resume party)) setup capacity b (.resume party) := by
  rcases h.balances.left_resume party with hnone | ⟨next, hnext, hleft⟩
  · refine .inl ⟨hnone, ?_⟩
    have hsame := Link.resume_of_none h.balances.log hnone
    have hsession : st.session.step (.resume party) = st.session := congrArg Link.session hsame
    rw [act, hsession]
  · refine .inr ⟨next, ⟨hnext, h.work, ?_, h.within, h.table⟩, fun _ => ?_⟩
    · exact Session.accounts_step h.accounts hnext.outbound.isOpen
    · have houtlet : (st.act (.resume party)).session.slot.outlet
          = (st.link.act (.resume party)).session.slot.outlet := rfl
      have hsame : st.link.session.slot.outlet = st.session.slot.outlet := rfl
      rw [hsame, ← houtlet] at hleft
      simp only [left]
      have hwork : (st.act (.resume party)).work = st.work := rfl
      rw [hwork]
      omega

/-- An outlet that is open has only frames to write. -/
theorem Stands.write_eq (h : st.Stands setup capacity b) (count : Nat) :
    st.write count = st.accept (min count st.work.inbound.room) := by
  have hattend := Outlet.attend_of_isOpen h.balances.outbound.isOpen
  change st.session.slot.outlet.attend.1 = st.session.slot.outlet at hattend
  simp only [Station.write, hattend, Nat.lt_irrefl, if_false, h.work.inbound.1, Bool.and_false,
    Bool.false_eq_true]

theorem Stands.write (h : st.Stands setup capacity b) (count : Nat) :
    st.Advances (st.act (.write count)) setup capacity b (.write count) := by
  have hact : st.act (.write count) = st.accept (min count st.work.inbound.room) :=
    h.write_eq count
  rw [hact]
  generalize hroom : min count st.work.inbound.room = room
  rcases Outlet.left_accept h.balances.outbound.isOpen room with ⟨hwhy, hnothing⟩ | hleft
  · refine .inl ⟨by rw [Rests, hroom]; exact hwhy, ?_⟩
    change st.session.slot.outlet.accept room = (st.session.slot.outlet, []) at hnothing
    have hidle : st.session.act (.accept room) = st.session := by
      rw [Session.act, Slot.accept, hnothing]
      rfl
    have hsession : st.session.step (.accept room) = st.session :=
      Session.step_of_idle h.balances.log hidle
    rw [accept, hsession, hnothing, Pipe.put, List.append_nil]
  · have hnext := h.balances.accept room
    refine .inr ⟨b, ⟨hnext, ?_, ?_, h.within, h.table⟩, fun _ => ?_⟩
    · exact ⟨h.work.ending, h.work.mailbox, h.work.output, h.work.inbound, h.work.outbound⟩
    · exact Session.accounts_step h.accounts hnext.outbound.isOpen
    · have houtlet : (st.session.step (.accept room)).slot.outlet
          = (st.session.slot.outlet.accept room).1 := Slot.outlet_accept _ _
      change (st.session.slot.outlet.accept room).1.left
        + (st.session.slot.outlet.accept room).2.length < st.session.slot.outlet.left at hleft
      simp only [left, accept, houtlet, Pipe.put, List.length_append]
      omega

/-- Bytes that arrive at the slot are no longer in the pipe. -/
theorem Stands.arrive (h : st.Stands setup capacity b) (count : Nat) :
    (st.arrive count).Stands setup capacity b ∧
      (st.arrive count).left setup.rules b + (st.work.outbound.held.take count).length
        = st.left setup.rules b := by
  -- On the link the bytes that the modem has still to write come after those in the pipe.
  have hlink : (st.arrive count).link
      = st.link.act (.arrive (min count st.work.outbound.held.length)) := by
    have htake : st.link.toSlot.take (min count st.work.outbound.held.length)
        = st.work.outbound.held.take count := by
      rw [link, List.take_append_of_le_length (Nat.min_le_right ..), List.take_eq_take_iff]
      omega
    have hdrop : st.link.toSlot.drop (min count st.work.outbound.held.length)
        = st.work.outbound.held.drop count ++ st.work.task.outgoing := by
      rw [link, List.drop_append_of_le_length (Nat.min_le_right ..)]
      exact congrArg (· ++ _) (List.drop_eq_drop_iff.2 (by omega))
    rw [Link.act, htake, hdrop]
    rfl
  have hnext := h.balances.arrive (min count st.work.outbound.held.length)
  rw [← hlink] at hnext
  refine ⟨⟨hnext, ?_, ?_, h.within, h.table⟩, ?_⟩
  · exact ⟨h.work.ending, h.work.mailbox, h.work.output, h.work.inbound, h.work.outbound⟩
  · exact Session.accounts_step h.accounts hnext.outbound.isOpen
  · have houtlet : (st.arrive count).session.slot.outlet = st.session.slot.outlet := rfl
    simp only [left, houtlet]
    simp only [Station.arrive, Pipe.take, List.length_drop, List.length_take]
    omega

/-- When no bytes are taken from the pipe nothing arrives. -/
theorem Stands.arrive_zero (h : st.Stands setup capacity b) : st.arrive 0 = st := by
  have hidle : st.session.act (.arrive []) = st.session := by
    rw [Session.act, Slot.arrive, Framer.push, List.append_nil, List.append_nil]
  have hsession : st.session.step (.arrive []) = st.session :=
    Session.step_of_idle h.balances.log hidle
  have harrive : st.arrive 0 = { st with session := st.session.step (.arrive []) } := rfl
  rw [harrive, hsession]

theorem Stands.read (h : st.Stands setup capacity b)
    (hfits : ∀ call ∈ st.calls, call.AnswerFits setup) (count : Nat) :
    st.Advances (st.act (.read count)) setup capacity b (.read count) := by
  have hact : st.act (.read count) = st.read count := rfl
  rw [hact, Station.read]
  split
  · next hwaiting =>
    cases hread : st.session.slot.readNext? with
    | none =>
      by_cases hheld : st.work.outbound.held = []
      · refine .inl ⟨.inr ⟨hread, .inl hheld⟩, ?_⟩
        simp only [hheld, h.work.outbound.1, List.isEmpty_nil, Bool.not_true, Bool.false_eq_true,
          if_false]
      · have hfull : st.work.outbound.held.isEmpty = false := List.isEmpty_eq_false_iff.2 hheld
        simp only [hfull, Bool.not_false, if_true]
        by_cases hnone : count = 0
        · subst hnone
          exact .inl ⟨.inr ⟨hread, .inr rfl⟩, h.arrive_zero⟩
        · obtain ⟨hnext, hleft⟩ := h.arrive count
          have hlength := List.length_pos_iff.2 hheld
          rw [List.length_take] at hleft
          exact .inr ⟨b, hnext, fun _ => by omega⟩
    | some slot =>
      rcases h.balances.left_read hfits with hnone | ⟨next, hnext, hleft⟩
      · rw [show st.session.slot.readNext? = none from hnone] at hread
        cases hread
      · refine .inr ⟨next, ⟨hnext, h.work, ?_, h.within, h.table⟩, fun _ => ?_⟩
        · exact Session.accounts_step h.accounts hnext.outbound.isOpen
        · change (st.session.step .read).slot.outlet.left + _ < st.session.slot.outlet.left + _
            at hleft
          simp only [left]
          omega
  · next hbusy => exact .inl ⟨.inl hbusy, rfl⟩

/-- A modem that can read every command never fails. -/
theorem Stands.tend (h : st.Stands setup capacity b) (hfits : ∀ call ∈ st.calls, call.Fits) :
    st.Advances (st.act .work) setup capacity b .work := by
  rw [act]
  have hworks := h.work.works
  generalize st.work.step? = result at hworks ⊢
  cases hworks with
  | full hbusy hroom => exact .inl ⟨.full hbusy hroom, rfl⟩
  | waits hidle hheld => exact .inl ⟨.waits hidle hheld, rfl⟩
  | writes hbusy hroom =>
    -- Bytes that were on their way still are.
    have hlink : ({ st with work := { st.work with
        task := (st.work.task.write st.work.outbound.room).1
        outbound := st.work.outbound.put
          (st.work.task.outgoing.take st.work.outbound.room) } } : Station).link = st.link := by
      simp only [link, ModemTask.write, ModemTask.modem_settle, ModemTask.outgoing_settle, Pipe.put,
        List.append_assoc, List.take_append_drop]
    refine .inr ⟨b, ⟨hlink.symm ▸ h.balances, ?_, h.accounts, h.within, h.table⟩, fun _ => ?_⟩
    · refine ⟨?_, ?_, ?_, h.work.inbound, h.work.outbound⟩
      · exact (ModemTask.ending_settle _).trans h.work.ending
      · exact (ModemTask.mailbox_settle _).trans h.work.mailbox
      · exact (congrArg Modem.output (ModemTask.modem_settle _)).trans h.work.output
    · have hlength := List.length_pos_iff.2 hbusy
      simp only [left, ModemTask.write, ModemTask.outgoing_settle, Pipe.put, List.length_append,
        List.length_take, List.length_drop]
      omega
  | reads hidle hheld =>
    obtain ⟨hending, next, hnext, hleft⟩ := h.balances.left_process hfits modemReadSize
    have hpiece : st.work.inbound.held.take modemReadSize ≠ [] := by
      rw [Ne, List.take_eq_nil_iff, not_or]
      exact ⟨by decide, hheld⟩
    rw [ModemTask.read_of_process _ hpiece hending, ModemWork.release_of_running]
    · have hlink := hnext.emitAll
      refine .inr ⟨next, ⟨?_, ?_, h.accounts, h.within, h.table⟩, fun _ => ?_⟩
      · simp only [Link.act, link, hidle, List.append_nil] at hlink
        simp only [link, ModemTask.flush, ModemTask.modem_settle, ModemTask.outgoing_settle]
        exact hlink
      · refine ⟨?_, ?_, ?_, h.work.inbound, h.work.outbound⟩
        · exact (ModemTask.ending_settle _).trans h.work.ending
        · exact (ModemTask.mailbox_settle _).trans h.work.mailbox
        · exact congrArg Modem.output (ModemTask.modem_settle _)
      · have hlength := List.length_pos_iff.2 hheld
        have hsize : 0 < modemReadSize := by decide
        have houtput : st.link.modem.output = [] := h.work.output
        rw [houtput] at hleft
        simp only [Link.act, link, List.flatten_nil, List.length_nil] at hleft
        simp only [left, ModemTask.flush, ModemTask.outgoing_settle, Pipe.take, List.length_drop,
          hidle, List.length_nil]
        omega
    · exact (ModemTask.ending_settle _).trans h.work.ending

/-! ## Runs -/

theorem Stands.advances (h : st.Stands setup capacity b)
    (hcalls : ∀ call ∈ st.calls, call.IsReadable setup) (move : Move) :
    st.Advances (st.act move) setup capacity b move := by
  cases move with
  | submit chosen request payload => exact h.submit chosen request payload
  | resume party => exact h.resume party
  | write count => exact h.write count
  | read count => exact h.read (fun call hmem => (hcalls call hmem).2) count
  | work => exact h.tend (h.fits hcalls)

theorem Stands.act (h : st.Stands setup capacity b)
    (hcalls : ∀ call ∈ st.calls, call.IsReadable setup) (move : Move) :
    ∃ next, (st.act move).Stands setup capacity next := by
  rcases h.advances hcalls move with ⟨-, hsame⟩ | ⟨next, hnext, -⟩
  · rw [hsame]
    exact ⟨b, h⟩
  · exact ⟨next, hnext⟩

theorem calls_act (st : Station) {move : Move} (hother : move.isSubmission = false) :
    (st.act move).calls = st.calls := by
  cases move with
  | submit chosen request payload => cases hother
  | resume party => rfl
  | write count =>
    rw [Station.act, Station.write]
    dsimp only
    split
    · rfl
    · split <;> rfl
  | read count =>
    rw [Station.act, Station.read]
    split
    · split
      · rfl
      · split
        · rfl
        · split <;> rfl
    · rfl
  | work =>
    rw [Station.act]
    split <;> rfl

theorem calls_subset_run (st : Station) (moves : List Move) : st.calls ⊆ (st.run moves).calls := by
  induction moves generalizing st with
  | nil => exact List.Subset.refl _
  | cons move moves ih =>
    refine List.Subset.trans ?_ (ih (st.act move))
    cases hother : move.isSubmission with
    | false =>
      rw [st.calls_act hother]
      exact List.Subset.refl _
    | true =>
      cases move with
      | submit => exact Link.calls_subset_act st.link _
      | _ => cases hother

theorem Stands.run (h : st.Stands setup capacity b) {moves : List Move}
    (hcalls : ∀ call ∈ (st.run moves).calls, call.IsReadable setup) :
    ∃ next, (st.run moves).Stands setup capacity next := by
  induction moves generalizing st b with
  | nil => exact ⟨b, h⟩
  | cons move moves ih =>
    obtain ⟨next, hnext⟩ := h.act (fun call hmem =>
      hcalls call (st.calls_subset_run (move :: moves) hmem)) move
    exact ih hnext hcalls

/-- What an outlet accepts the modem can read, if its limit is not above that of the modem. -/
theorem Stands.isReadable (h : st.Stands setup capacity b) (hsetup : setup.Fits)
    (hlimit : setup.options.maxFrameLen.toNat ≤ defaultMaxFrameLen.toNat) :
    ∀ call ∈ st.calls, call.IsReadable setup := fun call hmem =>
  ⟨Nat.le_trans (h.within call hmem) hlimit, hsetup.answerFits call⟩

theorem Stands.run_of_limits (h : st.Stands setup capacity b) (hsetup : setup.Fits)
    (hlimit : setup.options.maxFrameLen.toNat ≤ defaultMaxFrameLen.toNat) (moves : List Move) :
    ∃ next, (st.run moves).Stands setup capacity next := by
  induction moves generalizing st b with
  | nil => exact ⟨b, h⟩
  | cons move moves ih =>
    obtain ⟨next, hnext⟩ := h.act (h.isReadable hsetup hlimit) move
    exact ih hnext

/-- Without new calls no more moves change anything than there is left to do. -/
theorem Stands.length_le (h : st.Stands setup capacity b)
    (hcalls : ∀ call ∈ st.calls, call.IsReadable setup) {moves : List Move}
    (hothers : ∀ move ∈ moves, move.isSubmission = false) (hbusy : st.NeverIdle moves) :
    moves.length ≤ st.left setup.rules b := by
  induction moves generalizing st b with
  | nil => exact Nat.zero_le _
  | cons move moves ih =>
    obtain ⟨hother, hothers⟩ := List.forall_mem_cons.1 hothers
    rcases h.advances hcalls move with ⟨-, hsame⟩ | ⟨next, hnext, hleft⟩
    · exact absurd hsame hbusy.1
    · rw [← st.calls_act hother] at hcalls
      exact Nat.succ_le_of_lt (Nat.lt_of_le_of_lt (ih hnext hcalls hothers hbusy.2) (hleft hother))

/-! ## At rest -/

/-- In a station that is still nobody has anything to do. -/
theorem Stands.rests (h : st.Stands setup capacity b)
    (hcalls : ∀ call ∈ st.calls, call.IsReadable setup) (hstill : st.IsStill) :
    ∀ move : Move, move.isSubmission = false → st.Rests move := by
  -- Of the books that it stands with, those with the least to do leave nothing to be done.
  obtain ⟨least, hstands, hleast⟩ := (measure (st.left setup.rules)).wf.has_min
    {books | st.Stands setup capacity books} ⟨b, h⟩
  intro move hother
  rcases Stands.advances hstands hcalls move with ⟨hrests, -⟩ | ⟨next, hnext, hleft⟩
  · exact hrests
  · rw [hstill move hother] at hnext hleft
    exact absurd (hleft hother) (hleast next hnext)

/-- A reader that acknowledges and is not to be told has a turn. -/
theorem Stands.turns_ne_nil (h : st.Stands setup capacity b)
    (houtcomes : st.session.slot.outlet.outcomes = []) {frame : Frame} {ack : Command}
    (hreading : st.session.slot.reading = .acknowledging frame ack) :
    st.session.slot.outlet.turns ≠ [] := by
  obtain ⟨handled, pieces, blocks, haccounts⟩ := h.accounts
  have hstands := haccounts.stands
  rw [hreading] at hstands
  intro hturns
  cases hstands with
  | writing _ _ _ rest before _ hreader =>
    rw [Outlet.readerTurns, hturns] at hreader
    cases hreader
  | written _ _ _ _ _ hreader =>
    rw [Outlet.readerOutcomes, houtcomes] at hreader
    cases hreader

/-- A station at rest has nothing on its way, or both pipes are full and the reader waits to
acknowledge. -/
theorem Stands.drained_or_full (h : st.Stands setup capacity b) (hcapacity : 0 < capacity)
    (hcalls : ∀ call ∈ st.calls, call.IsReadable setup) (hstill : st.IsStill) :
    st.link.IsDrained ∨ (∃ a, b.progress = .acknowledging a) ∧
      capacity ≤ st.work.inbound.held.length ∧ capacity ≤ st.work.outbound.held.length := by
  have hrests := h.rests hcalls hstill
  have houtcomes : st.session.slot.outlet.outcomes = [] :=
    Outlet.outcomes_of_tell? fun party => hrests (.resume party) rfl
  have hwrite : st.session.slot.outlet.turns = [] ∨ min 1 st.work.inbound.room = 0 :=
    hrests (.write 1) rfl
  have hwork : st.work.Works none := hrests .work rfl
  rw [Pipe.room, h.work.inbound.2] at hwrite
  have hreading : st.session.slot.reading = b.progress.reading := h.balances.reading
  have hdrained (hwaiting : st.session.slot.reading = .waiting) : st.link.IsDrained := by
    rcases hrests (.read 1) rfl with hbusy | ⟨hread, hheld | hone⟩
    · exact absurd hwaiting hbusy
    · have hroom : st.work.outbound.room = capacity := by
        rw [Pipe.room, h.work.outbound.2, hheld, List.length_nil, Nat.sub_zero]
      cases hwork with
      | full hbusy hnone =>
        rw [hroom] at hnone
        exact absurd hnone (Nat.ne_of_gt hcapacity)
      | waits hidle hnone =>
        rw [hnone, List.length_nil] at hwrite
        have htoSlot : st.work.outbound.held ++ st.work.task.outgoing = [] := by
          rw [hheld, hidle, List.append_nil]
        exact ⟨hnone, htoSlot, h.work.output, hwrite.resolve_right (by omega), houtcomes, hwaiting,
          Slot.nextFrame_of_readNext? hwaiting hread⟩
    · cases hone
  cases hprogress : b.progress with
  | none | received a => exact .inl (hdrained (by rw [hreading, hprogress]; rfl))
  | acknowledging a =>
    rw [hprogress] at hreading
    have hturns := h.turns_ne_nil houtcomes hreading
    have hin : capacity ≤ st.work.inbound.held.length := by
      have hroom := hwrite.resolve_left hturns
      omega
    refine .inr ⟨⟨a, rfl⟩, hin, ?_⟩
    cases hwork with
    | full hbusy hroom =>
      rw [Pipe.room, h.work.outbound.2] at hroom
      omega
    | waits hidle hnone =>
      rw [hnone, List.length_nil] at hin
      omega

end Station

/-! ## What callers get -/

variable {rules : List (RequestId × ModemRule)}

/-- Replies are those of the rules to their calls. -/
theorem replies_map_call {as : List Reply}
    (h : ∀ a ∈ as, rules.lookup a.call.submission.request = some a.rule) :
    replies rules (as.map (·.call)) = as := by
  induction as with
  | nil => rfl
  | cons a as ih =>
    obtain ⟨hrule, hrules⟩ := List.forall_mem_cons.1 h
    rw [List.map_cons, ← List.singleton_append, replies_append, (replies_of_some hrule).1, ih hrules]
    rfl

theorem map_call_replies (rules : List (RequestId × ModemRule)) (calls : List Call) :
    ((replies rules calls).map (·.call)).Sublist calls := by
  induction calls with
  | nil => exact .slnil
  | cons call calls ih =>
    rw [← List.singleton_append, replies_append]
    cases hrule : rules.lookup call.submission.request with
    | none =>
      rw [(replies_of_none hrule).1]
      exact ih.cons call
    | some rule =>
      rw [(replies_of_some hrule).1]
      exact ih.cons_cons call

namespace Link.Balances

variable {l : Link} {setup : Setup} {b : Books}

/-- The replies that are settled are the first of all replies. -/
theorem replies_eq (h : l.Balances setup b) : replies setup.rules l.calls
    = b.settled ++ (b.progress.replies ++ b.coming
      ++ replies setup.rules (b.todo.filterMap Sent.call?)) := by
  rw [h.calls, replies_append, h.handled.replies, List.append_assoc, List.append_assoc,
    List.append_assoc]

/-- What has come for a ticket is what came of the replies that are settled. -/
theorem responsesTo_eq_settled (h : l.Balances setup b) (ticket : Nat) :
    responsesTo l.session.trace ticket
      = (b.settled.flatMap (Reply.effects setup.id setup.callbacks.table)).filterMap
        (Effect.responseTo? ticket) := by
  have hprogress : b.progress.effects.filterMap (Effect.responseTo? ticket) = [] := by
    cases b.progress <;> rfl
  rw [responsesTo_eq, h.effects, List.filterMap_append, hprogress, List.append_nil]

/-- Nothing but the response by the rule comes for a call, and that at most once. -/
theorem responsesTo_prefix (h : l.Balances setup b) {call : Call} (hmem : call ∈ l.calls) :
    responsesTo l.session.trace call.ticket <+: call.responses setup := by
  rw [h.responsesTo_eq_settled, ← filterMap_responseTo_of_mem setup h.tickets.1 hmem, h.replies_eq,
    List.flatMap_append, List.filterMap_append]
  exact List.prefix_append _ _

/-- A link that has nothing on its way has answered every call. -/
theorem responsesTo_of_isDrained (h : l.Balances setup b) (hfits : ∀ call ∈ l.calls, call.Fits)
    (hanswers : ∀ call ∈ l.calls, call.AnswerFits setup) (hdrained : l.IsDrained) {call : Call}
    (hmem : call ∈ l.calls) :
    responsesTo l.session.trace call.ticket = call.responses setup := by
  have hall := h.replies_eq
  obtain ⟨hprogress, hcoming⟩ := h.nothing_coming hanswers hdrained
  rw [h.todo_of_isDrained hfits hdrained, hprogress, hcoming] at hall
  simp only [Progress.replies, List.filterMap_nil, List.append_nil, replies] at hall
  rw [h.responsesTo_eq_settled, ← hall]
  exact filterMap_responseTo_of_mem setup h.tickets.1 hmem

/-- Nothing has come for a call whose reply is still to come. -/
theorem responsesTo_of_coming (h : l.Balances setup b) {a : Reply} (hmem : a ∈ b.coming) :
    responsesTo l.session.trace a.call.ticket = [] := by
  have htickets := ((map_call_replies setup.rules l.calls).map (·.ticket)).nodup h.tickets.1
  rw [h.replies_eq, List.map_append, List.map_append, List.nodup_append] at htickets
  have hrules : ∀ other ∈ b.settled,
      setup.rules.lookup other.call.submission.request = some other.rule := fun other hother => by
    have hreply : other ∈ replies setup.rules l.calls := by
      rw [h.replies_eq]
      exact List.mem_append_left _ hother
    exact (mem_of_mem_replies hreply).2
  rw [h.responsesTo_eq_settled, ← replies_map_call hrules]
  refine filterMap_responseTo_of_not_mem setup fun hticket => ?_
  refine htickets.2.2 _ hticket a.call.ticket ?_ rfl
  refine List.mem_map_of_mem (List.mem_map_of_mem ?_)
  exact List.mem_append_left _ (List.mem_append_right _ hmem)

end Link.Balances

namespace Station

variable {st : Station} {setup : Setup} {capacity : Nat} {b : Books}

/-- The replies that are still to come are to calls that wait for a response. -/
theorem Stands.coming_sublist (h : st.Stands setup capacity b) :
    b.coming.Sublist (replies setup.rules st.awaiting) := by
  have hrules : ∀ a ∈ b.coming,
      setup.rules.lookup a.call.submission.request = some a.rule := fun a hmem =>
    (h.balances.reply (List.mem_append_right _ hmem)).2
  have hcoming : b.coming.Sublist (replies setup.rules st.calls) := by
    have hall := h.balances.replies_eq
    change replies setup.rules st.calls = _ at hall
    rw [hall]
    exact ((List.sublist_append_right ..).trans (List.sublist_append_left ..)).trans
      (List.sublist_append_right ..)
  have hcalls := ((hcoming.map (·.call)).trans (map_call_replies ..)).filter
    fun call => (responsesTo st.session.trace call.ticket).isEmpty
  have hempty : ∀ call ∈ b.coming.map (·.call),
      (responsesTo st.session.trace call.ticket).isEmpty = true := by
    intro call hmem
    obtain ⟨a, ha, rfl⟩ := List.mem_map.1 hmem
    exact List.isEmpty_iff.2 (h.balances.responsesTo_of_coming ha)
  rw [List.filter_eq_self.2 hempty] at hcalls
  rw [← replies_map_call hrules]
  exact hcalls.filterMap _

/-- A station at rest has answered its calls, or the replies that are missing are longer than a pipe
holds. -/
theorem Stands.answered_or_full (h : st.Stands setup capacity b) (hcapacity : 0 < capacity)
    (hcalls : ∀ call ∈ st.calls, call.IsReadable setup) (hstill : st.IsStill) :
    (∀ call ∈ st.calls, responsesTo st.session.trace call.ticket = call.responses setup) ∨
    capacity ≤ ((replies setup.rules st.awaiting).flatMap Reply.bytes).length := by
  rcases h.drained_or_full hcapacity hcalls hstill with hdrained | ⟨⟨a, hprogress⟩, -, hfull⟩
  · exact .inl fun call hmem => h.balances.responsesTo_of_isDrained (h.fits hcalls)
      (fun call hmem => (hcalls call hmem).2) hdrained hmem
  · right
    have hmade : (b.coming.flatMap Reply.frames).flatMap Frame.encode
        = b.coming.flatMap Reply.bytes := List.flatMap_assoc
    have hbytes := h.balances.inbound.bytes
    rw [hprogress, Progress.frames, List.nil_append, hmade] at hbytes
    have hlength := (h.coming_sublist.flatMap Reply.bytes).length_le
    rw [← hbytes, List.length_append, List.length_append, link, List.length_append] at hlength
    omega

end Station

end RadioLink
