import RadioLink.Bench.Broadcast
import RadioLink.Bench.ModemWork
import RadioLink.Bench.Peer
import RadioLink.Bench.Report
import RadioLink.Slot

set_option autoImplicit false

/-! # The bench

A bench joins a slot to a far end by two pipes in memory, under a clock that only moves when it is
told to. The far end is a peer or a simulated modem. Calls that have to wait are kept as jobs.

`Bench.settle` lets everything run until nothing can move. A pass goes around in a fixed order: the
outlet writes, those whose turn at the stream is over go on, the reader takes in what has arrived,
waiting callers look whether their wait is over, a slot that nobody holds any more is closed, the
far end acts, and pipes that the slot has let go of are closed. -/

namespace RadioLink

/-- What a call that was started waits for. -/
inductive Stage
  /-- Its frame is to be written. -/
  | sending
  /-- A frame is to arrive. -/
  | receiving
  /-- It is to learn whether the outlet is closed. -/
  | inquiring
  /-- The stream is to be shut. -/
  | shutting
  /-- The command of its submission is to be written; its answer names the token or not. -/
  | submitting (submission : Submission) (namesToken : Bool)
  /-- The command of its submission is to be written, and then the response is to arrive. -/
  | calling (submission : Submission)
  /-- A response is to arrive, before the clock reaches the deadline. -/
  | awaiting (token : Token) (deadline : Option Nat)
  /-- The acknowledgment of a frame is to be written. -/
  | routing (frame : Frame) (ack : Command)
  /-- The slot is to close. -/
  | watching

/-- A call that was started and is not finished. -/
structure Job where
  ticket : Nat
  stage : Stage

namespace Stage

/-- Whether a job in this stage gets a response of its own. -/
def isCall : Stage → Bool
  | calling _ | awaiting _ _ => true
  | _ => false

/-- Whether a job in this stage waits for a frame. -/
def isReceiving : Stage → Bool
  | receiving => true
  | _ => false

end Stage

/-- A slot joined to a far end. -/
structure Bench where
  slot : Slot
  toFar : Pipe := {}
  toNear : Pipe := {}
  peer : Peer := {}
  /-- The modem that is the far end instead of the peer. -/
  modem : Option ModemTask := none
  /-- The sending side of the control messages for the modem is held. -/
  controlIsHeld : Bool := modem.isSome
  /-- The inbound half of the stream is held from outside the slot. -/
  inletIsHeld : Bool := false
  /-- The slot is held from outside. -/
  slotIsHeld : Bool := true
  /-- What the parts of the slot share is held from outside. -/
  shareIsHeld : Bool := true
  /-- The slot was let go of and closed for that. -/
  slotIsGone : Bool := false
  /-- The receiving side for indications is held. -/
  listenerIsHeld : Bool := false
  jobs : List Job := []
  clock : Nat := 0
  watch : Watch := {}
  /-- Responses for jobs that are calls. -/
  callInbox : List Delivery := []
  events : List Event := []
  indications : List Indication := []
  journal : List JournalEntry := []
  answers : List (Nat × Answer) := []
  endingIsReported : Bool := false

namespace Bench

/-! ## Passing on what a slot does -/

/-- Passes one effect on. -/
def pass (b : Bench) : Effect → Bench
  | .published kind => { b with events := b.events ++ [⟨b.slot.id, kind⟩] }
  | .resolved delivery =>
    if b.jobs.any fun job => job.ticket == delivery.sink && job.stage.isCall then
      { b with callInbox := b.callInbox ++ [delivery] }
    else { b with watch := b.watch.arrive delivery }
  | .indicated indication => { b with indications := b.indications ++ [indication] }
  | .served request token data completions =>
    if b.slot.callbacks.vendor.keepsJournal then
      { b with journal := b.journal ++ [.served request token data completions] }
    else b
  | .withdrawn token =>
    if b.slot.callbacks.vendor.keepsJournal then
      { b with journal := b.journal ++ [.withdrawn token] }
    else b
  | .wrote bytes => { b with toFar := b.toFar.put bytes }

/-- Puts a slot on the bench after a step, and passes on what the step did. -/
def withSlot (b : Bench) (slot : Slot) : Bench :=
  let (slot, log) := slot.takeLog
  log.foldl pass { b with slot }

/-- Adds a job. -/
def addJob (b : Bench) (ticket : Nat) (stage : Stage) : Bench :=
  { b with jobs := b.jobs ++ [⟨ticket, stage⟩] }

/-- Answers a call. -/
def answer (b : Bench) (ticket : Nat) (answer : Answer) : Bench :=
  { b with answers := b.answers ++ [(ticket, answer)] }

/-- Ends the job with a ticket. -/
def finish (b : Bench) (ticket : Nat) (answer : Answer) : Bench :=
  { b with jobs := b.jobs.filter fun job => job.ticket != ticket }.answer ticket answer

/-- Puts the job with a ticket into another stage. -/
def proceed (b : Bench) (ticket : Nat) (stage : Stage) : Bench :=
  { b with jobs := b.jobs.map fun job => if job.ticket == ticket then ⟨ticket, stage⟩ else job }

/-! ## The parts of a pass -/

/-- The outlet writes, or takes a turn that is not for writing. -/
def feed? (b : Bench) : Option Bench :=
  let (outlet, isShut) := b.slot.outlet.attend
  -- Turns that are not for writing take no room in the pipe, so they come first.
  if outlet.turns.length < b.slot.outlet.turns.length then
    let b := b.withSlot { b.slot with outlet }
    some (if isShut then { b with toFar := b.toFar.close } else b)
  else match outlet.turns with
    | ⟨_, .send rest⟩ :: _ =>
      -- Without a stream the frame is given up, and a full pipe is waited for.
      if !outlet.hasStream then some (b.withSlot (b.slot.accept 0))
      else if b.toFar.isClosed then some (b.withSlot (b.slot.failWrite "broken pipe"))
      else
        let count := min b.toFar.room rest.length
        if count = 0 then none else some (b.withSlot (b.slot.accept count))
    | _ => none

/-- When a call that starts to wait now has waited too long. -/
def deadline (b : Bench) : Option Nat :=
  b.slot.options.requestTimeout.map fun limit => b.clock + limit.toNat

/-- A submission goes on after its turn. -/
def concludeSubmission (b : Bench) (ticket : Nat) (submission : Submission) (isCall : Bool)
    (namesToken : Bool) (result : Except LinkError Unit) : Bench :=
  let (slot, result) := b.slot.conclude submission result
  let b := b.withSlot slot
  match result with
  | .error e => b.finish ticket (.failed e)
  | .ok token =>
    if isCall then b.proceed ticket (.awaiting token b.deadline)
    else b.finish ticket (if namesToken then .token token else .success)

/-- A job goes on after its turn. -/
def resumeJob (b : Bench) (job : Job) (outcome : Outcome) : Bench :=
  match job.stage, outcome with
  | .sending, .sent (.ok ()) => b.finish job.ticket .success
  | .sending, .sent (.error e) => b.finish job.ticket (.failed e)
  | .inquiring, .answered isClosed => b.finish job.ticket (.flag isClosed)
  | .shutting, .shut => b.finish job.ticket .nothing
  | .submitting submission namesToken, .sent result =>
    b.concludeSubmission job.ticket submission false namesToken result
  | .calling submission, .sent result =>
    b.concludeSubmission job.ticket submission true true result
  | .routing frame ack, .sent result =>
    (b.withSlot (b.slot.endRoute frame ack result)).finish job.ticket .nothing
  | _, _ => b

/-- The most bytes that a slot reads at once. -/
def readSize : Nat := 4096

/-- Bytes that have arrived are read. -/
def readPiece (b : Bench) : Bench :=
  let (toNear, bytes) := b.toNear.take readSize
  { b with toNear, slot := b.slot.arrive bytes }

/-- The reader of the slot does one thing. -/
def read? (b : Bench) : Option Bench :=
  match b.slot.reading with
  | .waiting =>
    match b.slot.readNext? with
    | some slot => some (b.withSlot slot)
    | none =>
      if !b.toNear.held.isEmpty then some b.readPiece
      else if b.toNear.isClosed then some (b.withSlot b.slot.endOfStream)
      else none
  | _ => none

/-- Does something over and over, at most `fuel` times. -/
def repeatedly (step? : Bench → Option Bench) : Nat → Bench → Option Bench
  | 0, _ => none
  | fuel + 1, b =>
    match step? b with
    | none => none
    | some next => some ((repeatedly step? fuel next).getD next)

/-- How much there is to be read, and a little more. -/
def unread (b : Bench) : Nat :=
  2 * (b.toNear.held.length + b.slot.framer.buffered) + 8

/-- Whoever had a turn goes on. The reader does not stop before it has to wait again. -/
def resume (b : Bench) : Party × Outcome → Bench
  | (.reader, outcome) =>
    let b := b.withSlot (b.slot.resumeReader outcome)
    (repeatedly read? b.unread b).getD b
  | (.caller ticket, outcome) =>
    match b.jobs.find? fun job => job.ticket == ticket with
    | some job => b.resumeJob job outcome
    | none => b

/-- Those whose turn is over go on. -/
def tell? (b : Bench) : Option Bench :=
  match b.slot.outlet.takeOutcomes with
  | (_, []) => none
  | (outlet, outcomes) => some (outcomes.foldl resume { b with slot := { b.slot with outlet } })

/-- The first job that waits for a frame does one thing. -/
def receive? (b : Bench) : Option Bench := do
  let job ← b.jobs.find? fun job => job.stage.isReceiving
  match b.slot.framer.nextFrame with
  | (framer, some (.ok frame)) =>
    some ({ b with slot := { b.slot with framer } }.finish job.ticket (.frame frame))
  | (framer, some (.error e)) =>
    some ({ b with slot := { b.slot with framer } }.finish job.ticket (.failed (.framing e)))
  | (_, none) =>
    if !b.toNear.held.isEmpty then some b.readPiece
    else if b.toNear.isClosed then some (b.finish job.ticket .ended)
    else none

/-- A waiting caller looks whether its wait is over. -/
def check? (b : Bench) (job : Job) : Option Bench :=
  match job.stage with
  | .awaiting token deadline =>
    match b.callInbox.find? fun delivery => delivery.sink == job.ticket with
    | some delivery =>
      some ({ b with callInbox := b.callInbox.filter fun d => d.sink != job.ticket }.finish
        job.ticket (.response delivery.response))
    | none =>
      if deadline.any (· ≤ b.clock) then
        let (slot, _) := b.slot.cancel token
        let limit := b.slot.options.requestTimeout.getD 0
        some ((b.withSlot slot).finish job.ticket (.failed (.timeout limit)))
      else if b.slot.registry.entries.any fun entry => entry.sink == job.ticket then none
      else some (b.finish job.ticket (.failed (.responseDropped token)))
  | .watching => if b.slot.isClosed then some (b.finish job.ticket .nothing) else none
  | _ => none

/-- Every waiting caller looks whether its wait is over. -/
def checkAll? (b : Bench) : Option Bench :=
  b.jobs.foldl (fun moved job => (check? (moved.getD b) job).or moved) none

/-- A slot that nobody holds any more is closed. -/
def letGo? (b : Bench) : Option Bench :=
  if b.slotIsHeld || b.slotIsGone || !b.jobs.isEmpty then none
  else
    let b := { b.withSlot b.slot.abandonNow with slotIsGone := true }
    some (if b.shareIsHeld then b
      else { b with slot := { b.slot with outlet := b.slot.outlet.release } })

/-- The far end acts. -/
def actFar? (b : Bench) : Option Bench :=
  match b.modem with
  | some task =>
    (ModemWork.step? ⟨task, b.toFar, b.toNear⟩).map fun w =>
      { b with modem := some w.task, toFar := w.inbound, toNear := w.outbound }
  | none =>
    (b.peer.collect? b.toFar).map fun (peer, toFar) => { b with peer, toFar }

/-- Whether the slot still holds the inbound half of the stream. -/
def hasInlet (b : Bench) : Bool :=
  b.inletIsHeld || match b.slot.reading with
    | .stopped => false
    | _ => true

/-- A stream of which neither half is held is closed in both directions. -/
def release? (b : Bench) : Option Bench :=
  if b.hasInlet || b.slot.outlet.hasStream || b.toFar.isClosed && b.toNear.isClosed then none
  else some { b with toFar := b.toFar.close, toNear := b.toNear.close }

/-- One pass, and whether anything moved. -/
def round (b : Bench) : Bench × Bool :=
  [feed?, tell?, fun b => repeatedly read? b.unread b, fun b => repeatedly receive? b.unread b,
    checkAll?, letGo?, actFar?, release?].foldl
    (fun (b, moved) part =>
      match part b with
      | some next => (next, true)
      | none => (b, moved))
    (b, false)

/-- Runs at most a number of passes, until nothing moves. -/
def runRounds : Nat → Bench → Bench
  | 0, b => b
  | fuel + 1, b =>
    match b.round with
    | (next, true) => runRounds fuel next
    | (next, false) => next

/-- How many bytes are on their way to be written. -/
def unwritten (b : Bench) : Nat :=
  b.slot.outlet.turns |> total fun turn =>
    match turn.errand with
    | .send rest => rest.length
    | _ => 1

/-- The most bytes that a modem says for one byte that it hears. -/
def gain (task : ModemTask) : Nat :=
  64 + total (fun rule => rule.2.payload.length) task.modem.rules

/-- How many bytes a modem is about to say without hearing any more. -/
def unsaid (task : ModemTask) : Nat :=
  let told := task.mailbox |> total fun control =>
    match control with
    | .answerNext rule | .setRule _ rule => rule.payload.length + 64
    | .indicate _ payload _ | .raw payload => payload.length + 64
    | .send frame => frame.payload.length + 64
    | .disconnect => 1
  task.outgoing.length + total List.length task.modem.output + told

/-- More passes than can move anything: whatever moves, moves a byte or ends a job. -/
def patience (b : Bench) : Nat :=
  let near := b.toFar.held.length + b.unwritten + b.toNear.held.length + b.slot.framer.buffered
  let far := (b.modem.map fun task => gain task * (near + 1) + unsaid task).getD 0
  16 * (near + far + b.jobs.length + b.slot.registry.size + 64)

/-- Lets everything run until nothing can move. -/
def settle (b : Bench) : Bench :=
  runRounds b.patience b

/-! ## What a step shows -/

/-- The sinks that may still get a response. -/
def heldSinks (b : Bench) : List Sink :=
  b.slot.registry.entries.map (·.sink)

/-- Reports what has happened since the last report. -/
def report (b : Bench) : Bench × BenchReport :=
  let (watch, sinks) := b.watch.report b.heldSinks
  let (peer, read) := b.peer.takeInbox
  let ending := if b.endingIsReported then none
    else b.modem.bind fun task => task.ending.map fun ending => (ending, task.modem)
  ({ b with
      watch, peer
      modem := b.modem.map fun task => { task with reported := [] }
      events := [], indications := [], journal := [], answers := []
      endingIsReported := b.endingIsReported || ending.isSome },
    { answers := b.answers.mergeSort fun x y => x.1 ≤ y.1
      events := observed b.slot.options.bufferedEvents b.events
      sinks, indications := b.indications, journal := b.journal, read
      hasSeenEnd := peer.hasSeenEnd
      activities := (b.modem.map fun task => task.reported).getD []
      ending })

end Bench

end RadioLink
