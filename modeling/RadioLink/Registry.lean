import RadioLink.Config
import RadioLink.Response

set_option autoImplicit false

/-! # The registry of pending requests

Every request that a slot has in flight has exactly one entry here, under its token, and leaves the
registry exactly once: its response is taken, its submission fails, or the registry is drained.
A caller that withdraws its interest leaves the entry where it is, marked as cancelled, so that a
response that has to be acknowledged still is; what arrives for it is discarded.

Tokens are allocated by counting up from one. The counter wraps, and passes over zero, over the
reserved token and over every token that is pending; `Registry.freeToken?` needs to look at three
candidates more than there are entries.

To acknowledge a response once, the registry marks the entry when the acknowledgment is decided on,
and remembers the tokens of the last marked entries whose response was taken. -/

namespace RadioLink

/-- Which side a request is served by, and so which side may complete it. -/
inductive Origin
  /-- The peer at the other end of the stream. -/
  | peer
  /-- The vendor, in process. -/
  | vendor
deriving DecidableEq, Repr

/-- Why a registry is drained. -/
inductive DrainReason
  | transportClosed
  | shutDown
deriving DecidableEq, Repr

namespace DrainReason

/-- The status of the requests that are resolved by the drain. -/
def status : DrainReason → Status
  | transportClosed => .radioNotAvailable
  | shutDown => .cancelled

/-- The error of the requests that are resolved by the drain. -/
def error : DrainReason → LinkError
  | transportClosed => .transportClosed
  | shutDown => .shutDown

end DrainReason

/-- A request in flight. -/
structure PendingRequest where
  token : Token
  request : RequestId
  /-- Where the response goes. -/
  sink : Sink
  origin : Origin
  /-- The caller has withdrawn its interest. -/
  isCancelled : Bool := false
  /-- An acknowledgment of its response was decided on. -/
  isAcked : Bool := false
  /-- The peer has received its command. -/
  isReceived : Bool := false
deriving DecidableEq, Repr

/-- What taking the response of a request comes to. -/
inductive Completion
  /-- The response goes to the sink of this request, which is no longer pending. -/
  | pending (request : PendingRequest)
  /-- The request was cancelled; it is no longer pending and nothing is delivered. -/
  | cancelled (request : RequestId)
  /-- No request of this origin has the token. -/
  | unmatched
deriving DecidableEq, Repr

/-- Whether a response is acknowledged. -/
inductive AckDecision
  /-- It is the first for a pending request. -/
  | send
  /-- One for this token was decided on before. -/
  | duplicate
  /-- Nothing is known of the token; the peer is told, so that it can let go of it. -/
  | unknown
deriving DecidableEq, Repr

/-- A response on its way to a sink. -/
structure Delivery where
  sink : Sink
  response : Response

/-- The requests that a slot has in flight. -/
structure Registry where
  slot : SlotId
  /-- How many acknowledged tokens are remembered. -/
  historyLimit : Nat
  entries : List PendingRequest := []
  /-- The next token to be tried. -/
  nextToken : UInt32 := 1
  /-- Acknowledged tokens whose request is resolved, oldest first. -/
  history : List Token := []
  isClosed : Bool := false

namespace PendingRequest

def respond (pending : PendingRequest) (slot : SlotId) (status : Status)
    (result : Except LinkError Payload) : Response :=
  ⟨slot, pending.token, pending.request, status, result⟩

end PendingRequest

namespace Registry

/-- An empty registry, if room for the tokens that it is to remember can be reserved. Each of them
takes four bytes. -/
def create? (slot : SlotId) (historyLimit : Nat) (reserve : Reserve := {}) : Option Registry :=
  if reserve.holdsBytes (4 * historyLimit) then some { slot, historyLimit } else none

/-- The request that has a token. -/
def find? (r : Registry) (token : Token) : Option PendingRequest :=
  r.entries.find? fun entry => entry.token == token

def contains (r : Registry) (token : Token) : Bool :=
  r.entries.any fun entry => entry.token == token

def size (r : Registry) : Nat :=
  r.entries.length

/-- Whether an acknowledgment was decided on for a pending token. -/
def isAcked (r : Registry) (token : Token) : Bool :=
  (r.find? token).any (·.isAcked)

/-- The registry without the request that has a token. -/
def remove (r : Registry) (token : Token) : Registry :=
  { r with entries := r.entries.filter fun entry => !(entry.token == token) }

/-- The registry with the request that has a token changed. -/
def modify (r : Registry) (token : Token) (change : PendingRequest → PendingRequest) : Registry :=
  { r with entries := r.entries.map fun entry =>
      if entry.token == token then change entry else entry }

/-- The registry with one request more. -/
def add (r : Registry) (entry : PendingRequest) : Registry :=
  { r with entries := r.entries ++ [entry] }

/-! ## Registration -/

/-- Whether a token may be allocated. -/
def isFree (r : Registry) (token : Token) : Bool :=
  token.raw != 0 && token != .reserved && !r.contains token

/-- The first token that may be allocated among a number of candidates, counting up. -/
def freeTokenFrom? (r : Registry) : Nat → UInt32 → Option Token
  | 0, _ => none
  | count + 1, candidate =>
    if r.isFree ⟨candidate⟩ then some ⟨candidate⟩ else r.freeTokenFrom? count (candidate + 1)

/-- The token to be allocated next. -/
def freeToken? (r : Registry) : Option Token :=
  r.freeTokenFrom? (r.size + 3) r.nextToken

/-- Registers a request under a token that the caller chooses. -/
def submitWithToken (r : Registry) (token : Token) (request : RequestId) (sink : Sink)
    (origin : Origin) : Except LinkError Registry :=
  if r.isClosed then .error .transportClosed
  else if r.contains token then .error (.duplicateToken token)
  else .ok (r.add { token, request, sink, origin })

/-- Registers a request under a new token. -/
def submit (r : Registry) (request : RequestId) (sink : Sink) (origin : Origin) :
    Except LinkError (Registry × Token) :=
  if r.isClosed then .error .transportClosed
  else match r.freeToken? with
    | none => .error (.io "every token is pending")
    | some token =>
      .ok ({ r with nextToken := token.raw + 1 }.add { token, request, sink, origin }, token)

/-- Removes a request whose submission failed after it was registered. -/
def rollback (r : Registry) (token : Token) : Registry :=
  r.remove token

/-! ## Resolution -/

/-- The history with one token more, of which only the last `limit` are kept. -/
def remember (limit : Nat) (token : Token) (history : List Token) : List Token :=
  if limit = 0 then history
  else (if history.length < limit then history else history.drop 1) ++ [token]

/-- Takes away the request whose response has arrived from its side. -/
def complete (r : Registry) (token : Token) (origin : Origin) : Registry × Completion :=
  match r.find? token with
  | none => (r, .unmatched)
  | some entry =>
    if entry.origin ≠ origin then (r, .unmatched)
    else
      -- A repeat of the response may still come, and must not be acknowledged again.
      let rest := r.remove token
      let rest := if entry.isAcked then
          { rest with history := remember rest.historyLimit token rest.history }
        else rest
      (rest, if entry.isCancelled then .cancelled entry.request else .pending entry)

/-- Marks a request as cancelled. Fails if it is not pending or is cancelled already. -/
def cancel (r : Registry) (token : Token) : Registry × Bool :=
  match r.find? token with
  | some entry =>
    if entry.isCancelled then (r, false)
    else (r.modify token fun entry => { entry with isCancelled := true }, true)
  | none => (r, false)

/-- Marks a request whose command the peer has received. -/
def markReceived (r : Registry) (token : Token) : Registry × Bool :=
  match r.find? token with
  | some entry =>
    if entry.origin = .vendor then (r, false)
    else (r.modify token fun entry => { entry with isReceived := true }, true)
  | none => (r, false)

/-- Decides whether a response is acknowledged. A request served in process never gets a frame, so
its token counts as unknown. -/
def beginAck (r : Registry) (token : Token) : Registry × AckDecision :=
  match r.find? token with
  | some entry =>
    if entry.origin = .vendor then (r, .unknown)
    else if entry.isAcked then (r, .duplicate)
    else (r.modify token fun entry => { entry with isAcked := true }, .send)
  | none => (r, if token ∈ r.history then .duplicate else .unknown)

/-- Resolves every request with an error and closes the registry for good. Cancelled requests are
discarded. -/
def drain (r : Registry) (reason : DrainReason) : Registry × List Delivery :=
  ({ r with entries := [], isClosed := true },
    (r.entries.filter fun entry => !entry.isCancelled).map fun entry =>
      ⟨entry.sink, entry.respond r.slot reason.status (.error reason.error)⟩)

end Registry

end RadioLink
