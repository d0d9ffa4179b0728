import RadioLink.Proofs.Registry
import RadioLink.Slot

set_option autoImplicit false

/-! # What the steps of a slot do to its registry

A step of a slot changes its registry as one operation of the registry does, or not at all; only a
submission takes two or more. Whatever is to be kept along a run is shown for the operations, and
reaches the steps through the equations here.

The steps of an open slot are taken apart as far as they go, so that anything may come in between: a
frame is taken in, an acknowledgment is offered and written, and the frame is resolved, in four
steps or more. -/

namespace RadioLink

/-- What succeeds in two parts succeeds in both. -/
theorem exists_of_bind_eq_ok {ε α β : Type} {x : Except ε α} {f : α → Except ε β} {result : β}
    (h : (x >>= f) = .ok result) : ∃ value, x = .ok value ∧ f value = .ok result := by
  cases x with
  | error e => cases h
  | ok value => exact ⟨value, rfl, h⟩

/-- Whether frames of this kind respond to a command. -/
def FrameKind.isResponse : FrameKind → Bool
  | solicited | solicitedAckExpected => true
  | unsolicited | solicitedAck | unsolicitedAckExpected => false

/-- The response that goes to a sink. -/
def Effect.responseTo? (sink : Sink) : Effect → Option Response
  | .resolved delivery => if delivery.sink = sink then some delivery.response else none
  | _ => none

namespace Slot

variable {s : Slot}

/-! ## Cancellations and completions -/

theorem registry_cancel (s : Slot) (token : Token) :
    (s.cancel token).1.registry = (s.registry.cancel token).1 := by
  rw [cancel]
  rcases Registry.cancel_cases s.registry token with ⟨_, _, _, h⟩ | h
  · rw [h]
    rfl
  · rw [h]

theorem outlet_cancel (s : Slot) (token : Token) : (s.cancel token).1.outlet = s.outlet := by
  rw [cancel]
  split <;> rfl

theorem registry_completeLocal (s : Slot) (token : Token) (status : Status) (payload : Bytes) :
    (s.completeLocal token status payload).1.registry
      = (s.registry.complete token .vendor).1 := by
  rw [completeLocal]
  rcases Registry.complete_cases s.registry token .vendor with ⟨entry, _, _, h⟩ | ⟨h, _⟩
  · rw [h]
    cases entry.isCancelled <;> rfl
  · rw [h]

theorem outlet_completeLocal (s : Slot) (token : Token) (status : Status) (payload : Bytes) :
    (s.completeLocal token status payload).1.outlet = s.outlet := by
  rw [completeLocal]
  split <;> rfl

theorem registry_completeLocalAll (s : Slot) (token : Token)
    (completions : List (Status × Bytes)) :
    (s.completeLocalAll token completions).1.registry
      = completions.foldl (fun registry _ => (registry.complete token .vendor).1) s.registry := by
  induction completions generalizing s with
  | nil => rfl
  | cons completion completions ih =>
    rw [List.foldl_cons, ← registry_completeLocal s token completion.1 completion.2, ← ih]
    rfl

theorem outlet_completeLocalAll (s : Slot) (token : Token) (completions : List (Status × Bytes)) :
    (s.completeLocalAll token completions).1.outlet = s.outlet := by
  induction completions generalizing s with
  | nil => rfl
  | cons completion completions ih =>
    exact (ih (s.completeLocal token completion.1 completion.2).1).trans
      (outlet_completeLocal s token completion.1 completion.2)

/-! ## Submissions -/

/-- A request is registered under a token that was free. -/
theorem register_ok {chosen : Option Token} {request : RequestId} {payload : Payload}
    {sink : Sink} {registered : Slot} {submission : Submission}
    (h : s.register chosen request payload sink = .ok (registered, submission)) :
    submission.request = request ∧ s.registry.contains submission.token = false ∧
      ∃ nextToken, registered = { s with
        registry := ({ s.registry with nextToken }.add
          { token := submission.token, request, sink, origin := .peer }) } := by
  unfold register at h
  obtain ⟨body, _, h⟩ := exists_of_bind_eq_ok h
  cases chosen with
  | some token =>
    obtain ⟨registry, hregistry, h⟩ := exists_of_bind_eq_ok h
    cases h
    obtain ⟨_, hfree, rfl⟩ := Registry.submitWithToken_ok hregistry
    exact ⟨rfl, hfree, s.registry.nextToken, rfl⟩
  | none =>
    obtain ⟨⟨registry, token⟩, hregistry, h⟩ := exists_of_bind_eq_ok h
    cases h
    obtain ⟨_, hfree, rfl⟩ := Registry.submit_ok hregistry
    exact ⟨rfl, hfree, token.raw + 1, rfl⟩

theorem registry_of_offer {party : Party} {command : Command} {offered : Slot}
    (h : s.offer party command = .ok offered) : offered.registry = s.registry := by
  rw [offer] at h
  cases houtlet : s.outlet.offer party command.encodeBody with
  | error e =>
    rw [houtlet] at h
    cases h
  | ok outlet =>
    rw [houtlet] at h
    cases h
    rfl

theorem outlet_of_offer {party : Party} {command : Command} {offered : Slot}
    (h : s.offer party command = .ok offered) :
    s.outlet.offer party command.encodeBody = .ok offered.outlet := by
  rw [offer] at h
  cases houtlet : s.outlet.offer party command.encodeBody with
  | error e =>
    rw [houtlet] at h
    cases h
  | ok outlet =>
    rw [houtlet] at h
    cases h
    rfl

/-- A request is registered only if the table has a codec for it. -/
theorem request?_of_register {chosen : Option Token} {request : RequestId} {payload : Payload}
    {sink : Sink} {result : Slot × Submission}
    (h : s.register chosen request payload sink = .ok result) :
    (s.callbacks.table.request? request).isSome = true := by
  obtain ⟨body, hencode, -⟩ := exists_of_bind_eq_ok h
  unfold encode at hencode
  split at hencode
  · cases hencode
  · split at hencode
    · cases hencode
    · next codec hcodec =>
      rw [hcodec]
      rfl

/-- A submission that begins is refused, and leaves at most another next token behind, or its
request is pending and its command waits for a turn. -/
theorem beginSubmission_cases (s : Slot) (party : Party) (chosen : Option Token)
    (request : RequestId) (payload : Payload) (sink : Sink) :
    (∃ e nextToken, s.beginSubmission party chosen request payload sink
      = ({ s with registry := { s.registry with nextToken } }, .error e)) ∨
    ∃ submission nextToken outlet, submission.request = request ∧
      (s.callbacks.table.request? request).isSome = true ∧
      s.registry.contains submission.token = false ∧
      s.outlet.offer party submission.command.encodeBody = .ok outlet ∧
      s.beginSubmission party chosen request payload sink
        = ({ s with
            registry := { s.registry with nextToken }.add
              { token := submission.token, request, sink, origin := .peer }
            outlet }, .ok submission) := by
  rw [beginSubmission]
  cases hregister : s.register chosen request payload sink with
  | error e => exact .inl ⟨e, s.registry.nextToken, rfl⟩
  | ok result =>
    have hcodec := request?_of_register hregister
    obtain ⟨registered, submission⟩ := result
    obtain ⟨hrequest, hfree, nextToken, rfl⟩ := register_ok hregister
    simp only [offer]
    cases houtlet : s.outlet.offer party submission.command.encodeBody with
    | error e =>
      refine .inl ⟨e, nextToken, ?_⟩
      have hback := Registry.rollback_add (r := { s.registry with nextToken })
        { token := submission.token, request, sink, origin := .peer } hfree
      simp only [Except.map, conclude, hback]
    | ok outlet =>
      exact .inr ⟨submission, nextToken, outlet, hrequest, hcodec, hfree, houtlet, rfl⟩

/-- A submission asks for a turn, or leaves the outlet alone. -/
theorem outlet_beginSubmission (s : Slot) (party : Party) (chosen : Option Token)
    (request : RequestId) (payload : Payload) (sink : Sink) :
    (s.beginSubmission party chosen request payload sink).1.outlet = s.outlet ∨
    ∃ body, s.outlet.offer party body
      = .ok (s.beginSubmission party chosen request payload sink).1.outlet := by
  rcases s.beginSubmission_cases party chosen request payload sink with
    ⟨e, nextToken, hbegin⟩ | ⟨submission, nextToken, outlet, -, -, -, hoffer, hbegin⟩ <;>
    rw [hbegin]
  · exact .inl rfl
  · exact .inr ⟨_, hoffer⟩

theorem outlet_conclude (s : Slot) (submission : Submission) (result : Except LinkError Unit) :
    (s.conclude submission result).1.outlet = s.outlet := by
  cases result <;> rfl

/-- A request served in process is refused, or registered under a free token, perhaps completed, and
perhaps taken back. -/
theorem submitLocal_registry (s : Slot) (request : RequestId) (data : Bytes) (sink : Sink) :
    (s.submitLocal request data sink).1.registry = s.registry ∨
    ∃ token nextToken, s.registry.contains token = false ∧
      ∃ completions : List (Status × Bytes), ∃ completed,
        completed = completions.foldl (fun registry _ => (registry.complete token .vendor).1)
          ({ s.registry with nextToken }.add { token, request, sink, origin := .vendor }) ∧
        ((s.submitLocal request data sink).1.registry = completed ∨
          (s.submitLocal request data sink).1.registry = completed.rollback token) := by
  rw [submitLocal]
  split
  · exact .inl rfl
  · cases hsubmit : s.registry.submit request sink .vendor with
    | error e => exact .inl rfl
    | ok result =>
      obtain ⟨registry, token⟩ := result
      obtain ⟨_, hfree, rfl⟩ := Registry.submit_ok hsubmit
      have hcompleted := registry_completeLocalAll
        { s with
          registry := ({ s.registry with nextToken := token.raw + 1 }.add
            { token, request, sink, origin := .vendor }) }
        token (s.callbacks.vendor.serve request token data).completions
      refine .inr ⟨token, token.raw + 1, hfree, _, _, hcompleted, ?_⟩
      dsimp only
      split
      · exact .inl rfl
      · exact .inr rfl

theorem outlet_submitLocal (s : Slot) (request : RequestId) (data : Bytes) (sink : Sink) :
    (s.submitLocal request data sink).1.outlet = s.outlet := by
  rw [submitLocal]
  split
  · rfl
  · split
    · rfl
    · dsimp only
      split <;> exact outlet_completeLocalAll _ _ _

theorem outlet_accept (s : Slot) (count : Nat) :
    (s.accept count).outlet = (s.outlet.accept count).1 := by
  rw [accept]
  dsimp only
  split <;> rfl

theorem registry_accept (s : Slot) (count : Nat) : (s.accept count).registry = s.registry := by
  rw [accept]
  dsimp only
  split <;> rfl

/-! ## Frames -/

/-- A frame that asks for the acknowledgment of a response is decided on by the registry. -/
theorem receive_ackExpected {frame : Frame} (hkind : frame.kind = .solicitedAckExpected) :
    (s.receive frame).1.registry = (s.registry.beginAck frame.token).1 ∧
      (s.receive frame).2 = if (s.registry.beginAck frame.token).2 = .duplicate then none
        else some (.ack frame.token) := by
  unfold receive
  rw [hkind]
  rcases Registry.beginAck_cases s.registry frame.token with
    ⟨_, _, _, _, hack⟩ | ⟨_, _, _, _, hack⟩ | ⟨_, _, _, hack⟩ | ⟨_, hack⟩
  · simp [publish, emit, hack]
  · simp [publish, emit, hack]
  · simp [publish, emit, hack]
  · by_cases hmem : frame.token ∈ s.registry.history <;> simp [publish, emit, hack, hmem]

theorem registry_receive (s : Slot) (frame : Frame) :
    (s.receive frame).1.registry = s.registry ∨
      (s.receive frame).1.registry = (s.registry.beginAck frame.token).1 := by
  by_cases hkind : frame.kind = .solicitedAckExpected
  · exact .inr (receive_ackExpected hkind).1
  · unfold receive
    cases hframe : frame.kind with
    | solicitedAckExpected => exact absurd hframe hkind
    | solicited | unsolicited | solicitedAck | unsolicitedAckExpected => exact .inl rfl

theorem registry_resolveResponse (s : Slot) (frame : Frame) :
    (s.resolveResponse frame).registry = (s.registry.complete frame.token .peer).1 := by
  rw [resolveResponse]
  rcases Registry.complete_cases s.registry frame.token .peer with ⟨entry, _, _, h⟩ | ⟨h, _⟩
  · rw [h]
    cases entry.isCancelled <;> rfl
  · rw [h]
    rfl

theorem registry_resolveReceipt (s : Slot) (frame : Frame) :
    (s.resolveReceipt frame).registry = (s.registry.markReceived frame.token).1 := by
  rw [resolveReceipt]
  rcases Registry.markReceived_cases s.registry frame.token with ⟨_, _, _, h⟩ | h
  · rw [h]
    rfl
  · rw [h]
    rfl

theorem registry_resolveIndication (s : Slot) (frame : Frame) :
    (s.resolveIndication frame).registry = s.registry := by
  rw [resolveIndication]
  split
  · rfl
  · split <;> rfl

theorem outlet_receive (s : Slot) (frame : Frame) : (s.receive frame).1.outlet = s.outlet := by
  unfold receive
  dsimp only
  split
  · split <;> rfl
  all_goals rfl

theorem outlet_resolve (s : Slot) (frame : Frame) : (s.resolve frame).outlet = s.outlet := by
  unfold resolve resolveResponse resolveReceipt resolveIndication
  cases frame.kind with
  | solicited | solicitedAckExpected | solicitedAck =>
    dsimp only
    split <;> rfl
  | unsolicited | unsolicitedAckExpected =>
    dsimp only
    split
    · rfl
    · split <;> rfl

/-- A response is resolved as one. -/
theorem resolve_of_isResponse {frame : Frame} (hkind : frame.kind.isResponse = true) :
    s.resolve frame = s.resolveResponse frame := by
  unfold resolve
  cases hframe : frame.kind with
  | solicited | solicitedAckExpected => rfl
  | unsolicited | solicitedAck | unsolicitedAckExpected =>
    rw [hframe] at hkind
    cases hkind

end Slot

/-! ## Steps and runs -/

/-- What can happen to an open slot. -/
inductive SlotStep
  | beginSubmission (party : Party) (chosen : Option Token) (request : RequestId)
    (payload : Payload) (sink : Sink)
  | conclude (submission : Submission) (result : Except LinkError Unit)
  | cancel (token : Token)
  | submitLocal (request : RequestId) (data : Bytes) (sink : Sink)
  | completeLocal (token : Token) (status : Status) (payload : Bytes)
  | registerCallbacks (callbacks : Callbacks)
  | receive (frame : Frame)
  | offer (party : Party) (command : Command)
  | accept (count : Nat)
  | acknowledged (ack : Command) (result : Except LinkError Unit)
  | resolve (frame : Frame)

namespace Slot

variable {s : Slot}

/-- Takes a step. -/
def step (s : Slot) : SlotStep → Slot
  | .beginSubmission party chosen request payload sink =>
    (s.beginSubmission party chosen request payload sink).1
  | .conclude submission result => (s.conclude submission result).1
  | .cancel token => (s.cancel token).1
  | .submitLocal request data sink => (s.submitLocal request data sink).1
  | .completeLocal token status payload => (s.completeLocal token status payload).1
  | .registerCallbacks callbacks => s.registerCallbacks callbacks
  | .receive frame => (s.receive frame).1
  | .offer party command =>
    match s.offer party command with
    | .ok offered => offered
    | .error _ => s
  | .accept count => s.accept count
  | .acknowledged ack result => s.acknowledged ack result
  | .resolve frame => s.resolve frame

/-- Takes steps one after the other. -/
def run (s : Slot) (steps : List SlotStep) : Slot :=
  steps.foldl step s

/-- Something is true before, between and after all steps of a run. -/
def Throughout (P : Slot → Prop) (s : Slot) : List SlotStep → Prop
  | [] => P s
  | step :: steps => P s ∧ Throughout P (s.step step) steps

theorem throughout_last {P : Slot → Prop} {steps : List SlotStep} (h : Throughout P s steps) :
    P (s.run steps) := by
  induction steps generalizing s with
  | nil => exact h
  | cons step steps ih => exact ih h.2

/-- The routing of a frame begins with steps. -/
theorem beginRoute_eq_run (s : Slot) (party : Party) (frame : Frame) :
    ∃ steps, (s.beginRoute party frame).1 = s.run steps := by
  rw [beginRoute]
  cases hreceive : s.receive frame with
  | mk received ack =>
    have hreceived : s.step (.receive frame) = received := congrArg Prod.fst hreceive
    cases ack with
    | none =>
      refine ⟨[.receive frame, .resolve frame], ?_⟩
      rw [run, List.foldl_cons, hreceived]
      rfl
    | some ack =>
      cases hoffer : received.offer party ack with
      | error e =>
        refine ⟨[.receive frame, .acknowledged ack (.error e), .resolve frame], ?_⟩
        rw [run, List.foldl_cons, hreceived]
        simp only [hoffer]
        rfl
      | ok offered =>
        refine ⟨[.receive frame, .offer party ack], ?_⟩
        rw [run, List.foldl_cons, hreceived, List.foldl_cons, List.foldl_nil, Slot.step]
        simp only [hoffer]

/-- And it ends with two. -/
theorem endRoute_eq_run (s : Slot) (frame : Frame) (ack : Command)
    (result : Except LinkError Unit) :
    s.endRoute frame ack result = s.run [.acknowledged ack result, .resolve frame] :=
  rfl

end Slot

end RadioLink
