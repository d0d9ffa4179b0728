import RadioLink.Bench.ModemWork
import RadioLink.Bench.Peer
import RadioLink.Bench.Report

set_option autoImplicit false

/-! # A modem and a peer on a bench

A simulated modem joined to a peer by two pipes in memory, without a slot in between. -/

namespace RadioLink

/-- A modem joined to a peer. -/
structure ModemBench where
  work : ModemWork
  peer : Peer := {}
  /-- The sending side of the control messages is held. -/
  controlIsHeld : Bool := true
  endingIsReported : Bool := false

namespace ModemBench

/-- A modem that has just started. -/
def start (modem : Modem) (capacity : Nat) : ModemBench where
  work := { task := { modem }, inbound := { capacity }, outbound := { capacity } }

/-- One pass, and whether anything moved. -/
def round (b : ModemBench) : ModemBench × Bool :=
  let (b, hasWorked) := match b.work.step? with
    | some work => ({ b with work }, true)
    | none => (b, false)
  match b.peer.collect? b.work.outbound with
  | some (peer, outbound) => ({ b with peer, work := { b.work with outbound } }, true)
  | none => (b, hasWorked)

/-- Runs at most a number of passes, until nothing moves. -/
def runRounds : Nat → ModemBench → ModemBench
  | 0, b => b
  | fuel + 1, b =>
    match b.round with
    | (next, true) => runRounds fuel next
    | (next, false) => next

/-- More passes than can move anything: whatever moves, moves a byte or takes a message. -/
def patience (b : ModemBench) : Nat :=
  let task := b.work.task
  let heard := b.work.inbound.held.length + task.modem.framer.buffered
  let rules := total (fun rule => rule.2.payload.length) task.modem.rules
  let said := task.outgoing.length + total List.length task.modem.output
    + b.work.outbound.held.length
  let told := task.mailbox |> total fun control =>
    match control with
    | .answerNext rule | .setRule _ rule => rule.payload.length + 64
    | .indicate _ payload _ | .raw payload => payload.length + 64
    | .send frame => frame.payload.length + 64
    | .disconnect => 1
  16 * ((rules + 64) * (heard + 1) + said + told + 64)

/-- Lets everything run until nothing can move. -/
def settle (b : ModemBench) : ModemBench :=
  runRounds b.patience b

/-- The peer sends bytes, while the bench runs. -/
def peerSend (b : ModemBench) (bytes : Bytes) : ModemBench × SendReport :=
  if !b.peer.isPresent then (b, .gone)
  else SendReport.send (·.work.inbound)
    (fun b inbound => { b with work := { b.work with inbound } }) settle bytes b

/-- The peer goes away. Fails if it is not there. -/
def peerDrop (b : ModemBench) : ModemBench × Bool :=
  if b.peer.isPresent then
    ({ b with
        peer := { b.peer with isPresent := false }
        work := { b.work with
          inbound := b.work.inbound.close, outbound := b.work.outbound.close } }, true)
  else (b, false)

/-- The peer ends what it sends. Fails if it is not there. -/
def peerShutDown (b : ModemBench) : ModemBench × Bool :=
  if b.peer.isPresent then
    ({ b with work := { b.work with inbound := b.work.inbound.close } }, true)
  else (b, false)

/-- The peer stops to read, or goes on. -/
def peerStall (b : ModemBench) (isStalled : Bool) : ModemBench :=
  { b with peer := { b.peer with isStalled } }

/-- Tells the modem something. Fails if it has ended or the sending side is gone. -/
def tell (b : ModemBench) (control : Control) : ModemBench × Bool :=
  if b.controlIsHeld then
    let (task, result) := b.work.task.tell control
    ({ b with work := { b.work with task } }, result)
  else (b, false)

/-- Lets go of the sending side of the control messages. Fails if it is not held. -/
def dropControl (b : ModemBench) : ModemBench × Bool :=
  ({ b with controlIsHeld := false }, b.controlIsHeld)

/-- Reports what has happened since the last report. -/
def report (b : ModemBench) : ModemBench × BenchReport :=
  let (peer, read) := b.peer.takeInbox
  let task := b.work.task
  let ending := if b.endingIsReported then none
    else task.ending.map fun ending => (ending, task.modem)
  ({ b with
      peer, work := { b.work with task := { task with reported := [] } }
      endingIsReported := b.endingIsReported || ending.isSome },
    { read, hasSeenEnd := peer.hasSeenEnd, activities := task.reported, ending })

end ModemBench

end RadioLink
