import RadioLink.Bench

set_option autoImplicit false

/-! # What can be done on a bench

Calls to the slot, to the halves of its stream and to its router, what the peer and the modem are
told, and the clock. A call that may have to wait is started under a ticket; its answer is in a
report, possibly at once. Nothing here runs the bench: what was started moves when the bench
settles. -/

namespace RadioLink.Bench

/-! ## Setting up -/

/-- A slot that has just started on a bench of its own, if it can start. Nobody has seen that it
started. -/
def start? (id : SlotId) (options : SlotOptions) (capacity : Nat) (modem : Option ModemTask) :
    Option Bench :=
  (Slot.start? id options).map fun slot =>
    { slot := (slot.takeLog).1, toFar := { capacity }, toNear := { capacity }, modem
      peer := { isPresent := modem.isNone } }

/-- The two halves of a stream without a slot around them. -/
def ofHalves (id : SlotId) (limit : UInt32) (capacity : Nat) : Bench :=
  let slot : Slot := {
    options := { maxFrameLen := limit }
    registry := { slot := id, historyLimit := 0 }
    outlet := { limit }
    framer := { limit }
    reading := .stopped }
  { slot, toFar := { capacity }, toNear := { capacity }, inletIsHeld := true }

/-- A router without a reader. -/
def ofRouter (id : SlotId) (options : SlotOptions) (callbacks : Callbacks) (capacity : Nat) :
    Bench :=
  let slot := { (Slot.start id options).takeLog.1 with callbacks, reading := .stopped }
  { slot, toFar := { capacity }, toNear := { capacity }, inletIsHeld := true }

/-! ## Calls to a slot -/

/-- Starts to submit a request. -/
def submit (b : Bench) (ticket : Nat) (chosen : Option Token) (request : RequestId)
    (payload : Payload) : Bench :=
  let b := { b with watch := b.watch.add ticket }
  let (slot, result) := b.slot.beginSubmission (.caller ticket) chosen request payload ticket
  let b := b.withSlot slot
  match result with
  | .ok submission => b.addJob ticket (.submitting submission chosen.isNone)
  | .error e => b.answer ticket (.failed e)

/-- Starts to submit a request and to wait for its response. -/
def call (b : Bench) (ticket : Nat) (request : RequestId) (payload : Payload) : Bench :=
  let (slot, result) := b.slot.beginSubmission (.caller ticket) none request payload ticket
  let b := b.withSlot slot
  match result with
  | .ok submission => b.addJob ticket (.calling submission)
  | .error e => b.answer ticket (.failed e)

/-- Starts to wait until the slot closes. -/
def awaitClosed (b : Bench) (ticket : Nat) : Bench :=
  b.addJob ticket .watching

/-- Starts to shut the slot down. -/
def shutDown (b : Bench) (ticket : Nat) : Bench :=
  match b.slot.shutDownNow (.caller ticket) with
  | (slot, true) => (b.withSlot slot).addJob ticket .shutting
  | (slot, false) => (b.withSlot slot).answer ticket .nothing

/-- Submits a request that the vendor serves. -/
def submitLocal (b : Bench) (sink : Sink) (request : RequestId) (data : Bytes) :
    Bench × Except LinkError Token :=
  let b := { b with watch := b.watch.add sink }
  let (slot, result) := b.slot.submitLocal request data sink
  (b.withSlot slot, result)

/-- Completes a request that the vendor serves. -/
def completeLocal (b : Bench) (token : Token) (status : Status) (payload : Bytes) :
    Bench × Bool :=
  let (slot, result) := b.slot.completeLocal token status payload
  (b.withSlot slot, result)

/-- Cancels a request. -/
def cancel (b : Bench) (token : Token) : Bench × Bool :=
  let (slot, result) := b.slot.cancel token
  (b.withSlot slot, result)

/-- Installs callbacks. -/
def registerCallbacks (b : Bench) (callbacks : Callbacks) : Bench :=
  b.withSlot (b.slot.registerCallbacks callbacks)

/-- Installs a new listener, and holds its receiving side. -/
def listen (b : Bench) : Bench :=
  { b with listenerIsHeld := true, slot := { b.slot with isListening := true } }

/-- Takes the listener away. -/
def unlisten (b : Bench) : Bench :=
  { b with slot := { b.slot with isListening := false } }

/-- Lets go of the receiving side of the listener. Fails if it is not held. -/
def dropListener (b : Bench) : Bench × Bool :=
  ({ b.unlisten with listenerIsHeld := false }, b.listenerIsHeld)

/-- Stops watching a sink, and says whether it was watched. -/
def abandonSink (b : Bench) (sink : Sink) : Bench × Bool :=
  let (watch, result) := b.watch.abandon sink
  ({ b with watch }, result)

/-- Lets go of the slot. -/
def letGo (b : Bench) : Bench :=
  { b with slotIsHeld := false }

/-! ## Calls to the router -/

/-- Starts to route a frame. -/
def route (b : Bench) (ticket : Nat) (frame : Frame) : Bench :=
  match b.slot.beginRoute (.caller ticket) frame with
  | (slot, none) => (b.withSlot slot).answer ticket .nothing
  | (slot, some ack) => (b.withSlot slot).addJob ticket (.routing frame ack)

/-! ## Calls to the halves of a stream -/

/-- Starts to write a body. -/
def sendBody (b : Bench) (ticket : Nat) (body : Bytes) : Bench :=
  match b.slot.outlet.offer (.caller ticket) body with
  | .ok outlet => { b with slot := { b.slot with outlet } }.addJob ticket .sending
  | .error e => b.answer ticket (.failed e)

/-- Starts to wait for a frame. -/
def receive (b : Bench) (ticket : Nat) : Bench :=
  b.addJob ticket .receiving

/-- Whether someone waits for a frame. -/
def isReceiving (b : Bench) : Bool :=
  b.jobs.any fun job => job.stage.isReceiving

/-- Starts to shut the stream. -/
def shutStream (b : Bench) (ticket : Nat) : Bench :=
  { b with slot := { b.slot with outlet := b.slot.outlet.shutNow (.caller ticket) } }.addJob ticket
    .shutting

/-- Starts to ask whether the outlet is closed. -/
def inquire (b : Bench) (ticket : Nat) : Bench :=
  if b.slot.outlet.isClosing then b.answer ticket (.flag true)
  else
    { b with slot := { b.slot with
        outlet := b.slot.outlet.enqueue (.caller ticket) .inquire } }.addJob ticket .inquiring

/-- Has the outlet give up what it writes. -/
def abort (b : Bench) : Bench :=
  { b with slot := { b.slot with outlet := b.slot.outlet.abortNow } }

/-! ## The far end and the clock -/

/-- The peer sends bytes, while the bench runs. -/
def peerSend (b : Bench) (bytes : Bytes) : Bench × SendReport :=
  if !b.peer.isPresent then (b, .gone)
  else SendReport.send (·.toNear) (fun b toNear => { b with toNear }) settle bytes b

/-- The peer goes away. Fails if it is not there. -/
def peerDrop (b : Bench) : Bench × Bool :=
  if b.peer.isPresent then
    ({ b with
        peer := { b.peer with isPresent := false }
        toFar := b.toFar.close, toNear := b.toNear.close }, true)
  else (b, false)

/-- The peer ends what it sends. Fails if it is not there. -/
def peerShutDown (b : Bench) : Bench × Bool :=
  if b.peer.isPresent then ({ b with toNear := b.toNear.close }, true) else (b, false)

/-- The peer stops to read, or goes on. -/
def peerStall (b : Bench) (isStalled : Bool) : Bench :=
  { b with peer := { b.peer with isStalled } }

/-- Tells the modem something. Fails if it has ended, if there is none, or if the sending side is
gone. -/
def tellModem (b : Bench) (control : Control) : Bench × Bool :=
  match b.modem with
  | some task =>
    if b.controlIsHeld then
      let (task, result) := task.tell control
      ({ b with modem := some task }, result)
    else (b, false)
  | none => (b, false)

/-- Lets go of the sending side of the control messages. Fails if it is not held. -/
def dropControl (b : Bench) : Bench × Bool :=
  ({ b with controlIsHeld := false }, b.controlIsHeld)

/-- Moves the clock. -/
def advance (b : Bench) (milliseconds : Nat) : Bench :=
  { b with clock := b.clock + milliseconds }

end RadioLink.Bench
