import RadioLink.Callbacks
import RadioLink.Config
import RadioLink.Event
import RadioLink.Framing
import RadioLink.Outlet
import RadioLink.Registry

set_option autoImplicit false

/-! # Slots

A slot is a registry of pending requests, the callbacks in force, the outbound half of a stream and
whoever reads the inbound half. Each function here is one step that nothing comes in between: what
has to wait for a turn at the stream is split in two, the step that asks for the turn and the step
that goes on when the turn is over.

What others can notice of a step is added to the slot's log, in the order in which it happens:
events, responses, indications, calls to the vendor, and bytes that the stream accepted. Whoever
drives the slot takes the log away and passes it on. -/

namespace RadioLink

/-- What a slot does that others can notice. -/
inductive Effect
  /-- The observers are told. -/
  | published (kind : EventKind)
  /-- A response goes to a sink. -/
  | resolved (delivery : Delivery)
  /-- An indication goes to the listener. -/
  | indicated (indication : Indication)
  /-- The vendor was asked to serve a request, and reported completions on the spot, of which each
  was taken or not. -/
  | served (request : RequestId) (token : Token) (data : Bytes) (completions : List Bool)
  /-- The vendor was told that a request is cancelled. -/
  | withdrawn (token : Token)
  /-- The stream accepted bytes. -/
  | wrote (bytes : Bytes)

/-- What the reader of a slot is doing. -/
inductive Reading
  /-- It waits for the next frame. -/
  | waiting
  /-- It waits until a frame is acknowledged. -/
  | acknowledging (frame : Frame) (ack : Command)
  /-- It waits until the stream is shut. -/
  | closing
  /-- It is gone. -/
  | stopped
deriving DecidableEq

/-- A slot. -/
structure Slot where
  options : SlotOptions
  registry : Registry
  outlet : Outlet
  framer : Framer
  reading : Reading := .waiting
  callbacks : Callbacks := {}
  /-- Someone listens to indications. -/
  isListening : Bool := false
  isClosed : Bool := false
  /-- What others could notice so far, oldest first. -/
  log : List Effect := []

/-- A submission whose command is to be written. -/
structure Submission where
  token : Token
  request : RequestId
  body : Bytes
deriving DecidableEq, Repr

def Submission.command (submission : Submission) : Command :=
  ⟨submission.request, submission.token, submission.body⟩

namespace Slot

def id (s : Slot) : SlotId :=
  s.registry.slot

def emit (s : Slot) (effect : Effect) : Slot :=
  { s with log := s.log ++ [effect] }

def publish (s : Slot) (kind : EventKind) : Slot :=
  s.emit (.published kind)

def takeLog (s : Slot) : Slot × List Effect :=
  ({ s with log := [] }, s.log)

/-- A slot that has just started to read. -/
def start (id : SlotId) (options : SlotOptions) : Slot :=
  publish {
    options
    registry := { slot := id, historyLimit := options.ackHistory.toNat }
    outlet := { limit := options.maxFrameLen }
    framer := { limit := options.maxFrameLen } } .connected

/-- A slot that has just started to read, if its buffers can be reserved. -/
def start? (id : SlotId) (options : SlotOptions) (reserve : Reserve := {}) : Option Slot :=
  if options.isStartable reserve then some (start id options) else none

def pendingCount (s : Slot) : Nat :=
  s.registry.size

/-- Puts callbacks in the place of those in force. -/
def registerCallbacks (s : Slot) (callbacks : Callbacks) : Slot :=
  { s with callbacks }.publish (.callbacksRegistered callbacks.vendor.version)

/-! ## Requests to the peer -/

/-- Writes the payload of a request. -/
def encode (s : Slot) (request : RequestId) (payload : Payload) : Except LinkError Bytes :=
  if !s.callbacks.vendor.supports request then .error (.unsupported request)
  else match s.callbacks.table.request? request with
    | none => .error (.unknownRequest request)
    | some codec =>
      match codec.encode request payload with
      | .error e => .error (.encode request e)
      | .ok body => .ok body

/-- Registers a request to the peer, under a chosen or a new token. -/
def register (s : Slot) (chosen : Option Token) (request : RequestId) (payload : Payload)
    (sink : Sink) : Except LinkError (Slot × Submission) := do
  let body ← s.encode request payload
  match chosen with
  | some token =>
    let registry ← s.registry.submitWithToken token request sink .peer
    .ok ({ s with registry }, ⟨token, request, body⟩)
  | none =>
    let (registry, token) ← s.registry.submit request sink .peer
    .ok ({ s with registry }, ⟨token, request, body⟩)

/-- Asks for a turn to write a command. -/
def offer (s : Slot) (party : Party) (command : Command) : Except LinkError Slot :=
  (s.outlet.offer party command.encodeBody).map fun outlet => { s with outlet }

/-- Ends a submission, whose command was written or not. -/
def conclude (s : Slot) (submission : Submission) (result : Except LinkError Unit) :
    Slot × Except LinkError Token :=
  match result with
  | .ok () =>
    (s.publish (.commandSent submission.token submission.request submission.body.length),
      .ok submission.token)
  | .error e => ({ s with registry := s.registry.rollback submission.token }, .error e)

/-- Begins a submission: registers it and asks for a turn to write its command. -/
def beginSubmission (s : Slot) (party : Party) (chosen : Option Token) (request : RequestId)
    (payload : Payload) (sink : Sink) : Slot × Except LinkError Submission :=
  match s.register chosen request payload sink with
  | .error e => (s, .error e)
  | .ok (registered, submission) =>
    match registered.offer party submission.command with
    | .error e => ((registered.conclude submission (.error e)).1, .error e)
    | .ok offered => (offered, .ok submission)

/-- Withdraws a caller's interest in a pending request. -/
def cancel (s : Slot) (token : Token) : Slot × Bool :=
  match s.registry.cancel token with
  | (registry, true) => ({ s with registry }.emit (.withdrawn token), true)
  | (_, false) => (s, false)

/-! ## Responses -/

/-- The response to a request, whose payload is read as that of the request `decodeAs`. A failure
without a payload has nothing to be read. -/
def buildResponse (s : Slot) (pending : PendingRequest) (decodeAs : RequestId) (status : Status)
    (payload : Bytes) : Response :=
  match s.callbacks.table.request? decodeAs with
  | none => pending.respond s.id .requestNotSupported (.error (.unknownRequest decodeAs))
  | some codec =>
    if !status.isSuccess && payload.isEmpty then pending.respond s.id status (.ok .void)
    else match codec.decode decodeAs.raw payload with
      | .error e => pending.respond s.id status (.error (.decode e))
      | .ok value => pending.respond s.id status (.ok value)

/-- Sends a response to the sink of a request that is no longer pending. -/
def deliver (s : Slot) (pending : PendingRequest) (response : Response) : Slot :=
  s.emit (.resolved ⟨pending.sink, response⟩)

/-- Completes a request that the vendor serves. Fails if no such request has the token. -/
def completeLocal (s : Slot) (token : Token) (status : Status) (payload : Bytes) : Slot × Bool :=
  match s.registry.complete token .vendor with
  | (registry, .pending pending) =>
    let response := s.buildResponse pending pending.request status payload
    ({ s with registry }.deliver pending response, true)
  | (registry, .cancelled _) => ({ s with registry }, true)
  | (_, .unmatched) => (s, false)

/-- Completes a request several times over, and says which completions were taken. -/
def completeLocalAll (s : Slot) (token : Token) : List (Status × Bytes) → Slot × List Bool
  | [] => (s, [])
  | (status, payload) :: completions =>
    let (s, taken) := s.completeLocal token status payload
    let (s, others) := s.completeLocalAll token completions
    (s, taken :: others)

/-- Submits a request that the vendor serves. The request is pending while the vendor is asked, so
the vendor may complete it on the spot; a response that went out is not taken back when the vendor
refuses after that. -/
def submitLocal (s : Slot) (request : RequestId) (data : Bytes) (sink : Sink) :
    Slot × Except LinkError Token :=
  let vendor := s.callbacks.vendor
  if !vendor.supports request then (s, .error (.unsupported request))
  else match s.registry.submit request sink .vendor with
    | .error e => (s, .error e)
    | .ok (registry, token) =>
      let service := vendor.serve request token data
      let (s, taken) := { s with registry }.completeLocalAll token service.completions
      let s := s.emit (.served request token data taken)
      match service.verdict with
      | .ok () => (s, .ok token)
      | .error status =>
        ({ s with registry := s.registry.rollback token }, .error (.rejected request status))

/-! ## Frames from the peer -/

/-- Takes in a frame, and says with what it is to be acknowledged before it is resolved. -/
def receive (s : Slot) (frame : Frame) : Slot × Option Command :=
  let s := s.publish
    (.frameReceived frame.kind frame.token frame.id frame.status frame.payload.length)
  match frame.kind with
  | .solicitedAckExpected =>
    match s.registry.beginAck frame.token with
    | (registry, .send) => ({ s with registry }, some (.ack frame.token))
    | (_, .unknown) => (s, some (.ack frame.token))
    | (_, .duplicate) => (s.publish (.duplicateAck frame.token), none)
  | .unsolicitedAckExpected => (s, some (.ackIndication frame.indicationId))
  | .solicited | .unsolicited | .solicitedAck => (s, none)

/-- Goes on after an acknowledgment, which was written or not. -/
def acknowledged (s : Slot) (ack : Command) (result : Except LinkError Unit) : Slot :=
  match result with
  | .ok () => s.publish (.ackSent ack.token)
  | .error _ => s

/-- Resolves the request that a frame responds to. -/
def resolveResponse (s : Slot) (frame : Frame) : Slot :=
  match s.registry.complete frame.token .peer with
  | (registry, .pending pending) =>
    let response := s.buildResponse pending frame.request frame.status frame.payload
    { s with registry }.deliver pending response
  | (registry, .cancelled _) => { s with registry }
  | (_, .unmatched) => s.publish (.unmatchedToken frame.token frame.kind)

/-- Takes in the peer's receipt for a command. -/
def resolveReceipt (s : Slot) (frame : Frame) : Slot :=
  match s.registry.markReceived frame.token with
  | (registry, true) => { s with registry }.publish (.requestAcknowledged frame.token)
  | (_, false) => s.publish (.unmatchedToken frame.token .solicitedAck)

/-- Passes an indication on to the listener. One without a decoder is dropped. -/
def resolveIndication (s : Slot) (frame : Frame) : Slot :=
  match s.callbacks.table.indication? frame.indicationId with
  | none => s
  | some decoder =>
    if s.isListening then
      s.emit (.indicated ⟨s.id, frame.indicationId, decoder frame.id frame.payload⟩)
    else s

/-- Resolves a frame that was taken in, and acknowledged if it had to be. -/
def resolve (s : Slot) (frame : Frame) : Slot :=
  match frame.kind with
  | .solicited | .solicitedAckExpected => s.resolveResponse frame
  | .solicitedAck => s.resolveReceipt frame
  | .unsolicited | .unsolicitedAckExpected => s.resolveIndication frame

/-- Begins to route a frame for a party. If it is to be acknowledged and the acknowledgment is
accepted, the frame is resolved only when that is written. -/
def beginRoute (s : Slot) (party : Party) (frame : Frame) : Slot × Option Command :=
  match s.receive frame with
  | (s, none) => (s.resolve frame, none)
  | (s, some ack) =>
    match s.offer party ack with
    | .ok offered => (offered, some ack)
    | .error e => ((s.acknowledged ack (.error e)).resolve frame, none)

/-- Ends the routing of a frame whose acknowledgment was written or not. -/
def endRoute (s : Slot) (frame : Frame) (ack : Command) (result : Except LinkError Unit) : Slot :=
  (s.acknowledged ack result).resolve frame

/-! ## Closing

Closing takes several steps, and anything may come in between: what is pending is resolved, the
outlet is told to accept nothing more, the observers are told, and the slot counts as closed. After
that those who wait for a turn have yet to notice, the reader may still be busy with a frame when it
is told to stop, and the stream is shut in its turn.

The functions whose names end in `Now` do all that in one step. That is how it goes where nothing
else runs in the meantime. -/

/-- Resolves every pending request with an error, and registers nothing more. Says how many there
were that nobody had withdrawn. -/
def drain (s : Slot) (reason : DrainReason) : Slot × Nat :=
  let (registry, deliveries) := s.registry.drain reason
  ({ s with registry, log := s.log ++ deliveries.map Effect.resolved }, deliveries.length)

/-- Takes the reader away, whatever it is doing. -/
def stopReader (s : Slot) : Slot :=
  { s with reading := .stopped, outlet := s.outlet.leave .reader }

/-- Closes a slot: every pending request is resolved, nothing more is written, and the observers
are told why. Fails if the slot is closed already. -/
def closeNow (s : Slot) (reason : DrainReason) (why : String) : Slot × Bool :=
  if s.isClosed then (s, false)
  else
    let (s, drained) := s.drain reason
    let s := { s with outlet := s.outlet.abortNow }.publish (.disconnected why drained)
    ({ s with isClosed := true }, true)

/-- Closes a slot and asks for a turn to shut the stream. Fails if the slot is closed already. -/
def closeAndShutNow (s : Slot) (party : Party) (reason : DrainReason) (why : String) :
    Slot × Bool :=
  match s.closeNow reason why with
  | (s, true) => ({ s with outlet := s.outlet.shutNow party }, true)
  | (s, false) => (s, false)

/-- Shuts a slot down. Fails if it is closed already. -/
def shutDownNow (s : Slot) (party : Party) : Slot × Bool :=
  s.stopReader.closeAndShutNow party .shutDown "shut down locally"

/-- Closes a slot that nobody holds any more. The stream is not shut. -/
def abandonNow (s : Slot) : Slot :=
  (s.stopReader.closeNow .shutDown "manager dropped").1

/-! ## The reader -/

/-- Closes the slot from the side of the reader. -/
def closeFromReaderNow (s : Slot) (why : String) : Slot :=
  match s.closeAndShutNow .reader .transportClosed why with
  | (s, true) => { s with reading := .closing }
  | (s, false) => { s with reading := .stopped }

def arrive (s : Slot) (bytes : Bytes) : Slot :=
  { s with framer := s.framer.push bytes }

def endOfStream (s : Slot) : Slot :=
  s.closeFromReaderNow "peer closed the channel"

/-- The reader takes the next frame, if it waits for one and one is complete. -/
def readNext? (s : Slot) : Option Slot :=
  match s.reading with
  | .waiting =>
    match s.framer.nextFrame with
    | (_, none) => none
    | (framer, some (.error e)) =>
      some ({ s with framer }.closeFromReaderNow (LinkError.framing e).message)
    | (framer, some (.ok frame)) =>
      match { s with framer }.beginRoute .reader frame with
      | (s, none) => some s
      | (s, some ack) => some { s with reading := .acknowledging frame ack }
  | _ => none

/-- The reader goes on after its turn at the stream. -/
def resumeReader (s : Slot) (outcome : Outcome) : Slot :=
  match s.reading, outcome with
  | .acknowledging frame ack, .sent result =>
    { s with reading := .waiting }.endRoute frame ack result
  | .closing, .shut => { s with reading := .stopped }
  | _, _ => s

/-! ## The stream -/

/-- The stream accepts some of the bytes that it is offered. -/
def accept (s : Slot) (count : Nat) : Slot :=
  let (outlet, bytes) := s.outlet.accept count
  let s := { s with outlet }
  if bytes.isEmpty then s else s.emit (.wrote bytes)

def failWrite (s : Slot) (reason : String) : Slot :=
  { s with outlet := s.outlet.fail reason }

/-! ## Diagnostics -/

/-- The number of a slot as a value of its own. -/
def idText (id : SlotId) : String :=
  "SlotId(" ++ id.text ++ ")"

/-- A truth value as text. -/
def flagText (flag : Bool) : String :=
  if flag then "true" else "false"

/-- A slot is shown by its number, how many requests are pending, and whether it is closed. -/
def text (s : Slot) : String :=
  Text.record "SlotManager"
    [("slot", idText s.id), ("pending", toString s.pendingCount),
      ("closed", flagText s.isClosed)]

/-- The handle for completing local requests is shown by the number of its slot. -/
def completerText (s : Slot) : String :=
  Text.record "LocalCompleter" [("slot", idText s.id)]

/-- The router of a slot is shown by the number of the slot. -/
def routerText (s : Slot) : String :=
  Text.abridgedRecord "Router" [("slot", idText s.id)]

/-- The outbound half is shown by the number of its slot and its limit. -/
def outletText (s : Slot) : String :=
  Text.abridgedRecord "TransportWriter"
    [("slot", idText s.id), ("max_frame_len", toString s.outlet.limit.toNat)]

/-- The inbound half is shown by the number of its slot and the bytes that are kept. -/
def inletText (s : Slot) : String :=
  let buffer := Text.bracketed (s.framer.buffer.map fun byte => toString byte.toNat)
  let framer := Text.record "FrameCodec"
    [("buffer", buffer), ("max_frame_len", toString s.framer.limit.toNat)]
  Text.abridgedRecord "TransportReader" [("slot", idText s.id), ("codec", framer)]

end Slot

end RadioLink
