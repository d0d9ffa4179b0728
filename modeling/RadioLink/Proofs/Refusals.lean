import RadioLink.Proofs.Acknowledging
import RadioLink.Proofs.Unheard

set_option autoImplicit false

/-! # Submissions that are refused

A submission may be refused before anything is registered, or after that, and then its request is
taken back. Either way nothing is left of it but a ticket and perhaps the next token, provided that
nothing comes in between. Why it was refused is its `Refusal`.

A submission that waits for its turn at the stream was not refused. If nobody else wants the stream
it ends when its command is written or when the stream fails under it (`Outlet.IsLeftTo`), so that
every other error is one of a submission that was refused at once.

A vendor that is asked to serve a request may complete it before it refuses. The request is then
taken back all the same, but a response has gone to its sink. -/

namespace RadioLink

/-! ## Requests to the peer -/

namespace Registry

variable {r : Registry} {request : RequestId} {sink : Sink} {origin : Origin} {e : LinkError}

theorem submitWithToken_error {token : Token}
    (h : r.submitWithToken token request sink origin = .error e) :
    r.isClosed = true ∧ e = .transportClosed ∨
    r.contains token = true ∧ e = .duplicateToken token := by
  unfold submitWithToken at h
  split at h
  · next hclosed =>
    cases h
    exact .inl ⟨hclosed, rfl⟩
  · split at h
    · next hpending =>
      cases h
      exact .inr ⟨hpending, rfl⟩
    · cases h

theorem submit_error (h : r.submit request sink origin = .error e) :
    r.isClosed = true ∧ e = .transportClosed ∨
    r.freeToken? = none ∧ e = .io "every token is pending" := by
  unfold submit at h
  split at h
  · next hclosed =>
    cases h
    exact .inl ⟨hclosed, rfl⟩
  · split at h
    · next hnone =>
      cases h
      exact .inr ⟨hnone, rfl⟩
    · cases h

/-- A request that is registered under a new token is registered under the first that is free. -/
theorem freeToken?_of_submit {after : Registry} {token : Token}
    (h : r.submit request sink origin = .ok (after, token)) : r.freeToken? = some token := by
  unfold submit at h
  split at h
  · cases h
  · split at h
    · cases h
    · next hfound =>
      cases h
      exact hfound

end Registry

theorem Outlet.offer_error {o : Outlet} {party : Party} {body : Bytes} {e : LinkError}
    (h : o.offer party body = .error e) :
    o.isClosing = true ∧ e = .transportClosed ∨
    o.isClosing = false ∧ o.limit.toNat < body.length ∧ e = .frameTooLarge body.length o.limit := by
  rw [offer, frameFor] at h
  split at h
  · next hclosing =>
    cases h
    exact .inl ⟨hclosing, rfl⟩
  · next hopen =>
    split at h
    · next hlimit =>
      cases h
      exact .inr ⟨by simpa using hopen, hlimit, rfl⟩
    · cases h

namespace Slot

variable {s : Slot} {chosen : Option Token} {request : RequestId} {payload : Payload}
  {sink : Sink} {e : LinkError}

/-- The token under which a submission registers its request, if there is one. -/
def tried? (s : Slot) (chosen : Option Token) : Option Token :=
  chosen.or s.registry.freeToken?

/-- Why a submission is refused. -/
inductive Refusal (s : Slot) (chosen : Option Token) (request : RequestId) (payload : Payload) :
    LinkError → Prop
  | unsupported (h : s.callbacks.vendor.supports request = false) :
    Refusal s chosen request payload (.unsupported request)
  | unknown (h : s.callbacks.table.request? request = none) :
    Refusal s chosen request payload (.unknownRequest request)
  | unwritable (codec : RequestCodec) (cause : CodecError)
    (hcodec : s.callbacks.table.request? request = some codec)
    (h : codec.encode request payload = .error cause) :
    Refusal s chosen request payload (.encode request cause)
  | closed (h : s.registry.isClosed = true) : Refusal s chosen request payload .transportClosed
  | duplicate (token : Token) (hchosen : chosen = some token)
    (h : s.registry.contains token = true) :
    Refusal s chosen request payload (.duplicateToken token)
  | exhausted (hchosen : chosen = none) (h : s.registry.freeToken? = none) :
    Refusal s chosen request payload (.io "every token is pending")
  | closing (h : s.outlet.isClosing = true) : Refusal s chosen request payload .transportClosed
  | tooLarge (submission : Submission) (hopen : s.registry.isClosed = false)
    (htried : s.tried? chosen = some submission.token)
    (hfree : s.registry.contains submission.token = false) (hclosing : s.outlet.isClosing = false)
    (h : s.outlet.limit.toNat < submission.command.encodeBody.length) :
    Refusal s chosen request payload
      (.frameTooLarge submission.command.encodeBody.length s.outlet.limit)

theorem refusal_of_encode (h : s.encode request payload = .error e) :
    s.Refusal chosen request payload e := by
  unfold encode at h
  split at h
  · next hunsupported =>
    cases h
    exact .unsupported (by simpa using hunsupported)
  · split at h
    · next hnone =>
      cases h
      exact .unknown hnone
    · next codec hcodec =>
      split at h
      · next cause hcause =>
        cases h
        exact .unwritable codec cause hcodec hcause
      · cases h

theorem refusal_of_register (h : s.register chosen request payload sink = .error e) :
    s.Refusal chosen request payload e := by
  unfold register at h
  cases hencode : s.encode request payload with
  | error cause =>
    rw [hencode] at h
    cases h
    exact refusal_of_encode hencode
  | ok body =>
    rw [hencode] at h
    cases chosen with
    | some token =>
      cases hsubmit : s.registry.submitWithToken token request sink .peer with
      | ok registry =>
        simp only [bind, Except.bind, hsubmit] at h
        cases h
      | error cause =>
        simp only [bind, Except.bind, hsubmit] at h
        cases h
        rcases Registry.submitWithToken_error hsubmit with ⟨hclosed, rfl⟩ | ⟨hpending, rfl⟩
        · exact .closed hclosed
        · exact .duplicate token rfl hpending
    | none =>
      cases hsubmit : s.registry.submit request sink .peer with
      | ok result =>
        simp only [bind, Except.bind, hsubmit] at h
        cases h
      | error cause =>
        simp only [bind, Except.bind, hsubmit] at h
        cases h
        rcases Registry.submit_error hsubmit with ⟨hclosed, rfl⟩ | ⟨hnone, rfl⟩
        · exact .closed hclosed
        · exact .exhausted rfl hnone

/-- A request is registered in an open registry under the token that is tried, and only a submission
without a chosen token moves the next token on. -/
theorem tried?_of_register {registered : Slot} {submission : Submission}
    (h : s.register chosen request payload sink = .ok (registered, submission)) :
    s.registry.isClosed = false ∧ s.tried? chosen = some submission.token ∧
      (chosen.isSome = true → registered.registry.nextToken = s.registry.nextToken) := by
  unfold register at h
  obtain ⟨body, _, h⟩ := exists_of_bind_eq_ok h
  cases chosen with
  | some token =>
    obtain ⟨registry, hsubmit, h⟩ := exists_of_bind_eq_ok h
    cases h
    obtain ⟨hopen, -, rfl⟩ := Registry.submitWithToken_ok hsubmit
    exact ⟨hopen, rfl, fun _ => rfl⟩
  | none =>
    obtain ⟨⟨registry, token⟩, hsubmit, h⟩ := exists_of_bind_eq_ok h
    cases h
    obtain ⟨hopen, -, -⟩ := Registry.submit_ok hsubmit
    exact ⟨hopen, Registry.freeToken?_of_submit hsubmit, fun hchosen => by cases hchosen⟩

/-- A submission that is refused leaves at most another next token behind, and that only if it had
to be given a token. -/
theorem beginSubmission_refused {party : Party}
    (h : (s.beginSubmission party chosen request payload sink).2 = .error e) :
    s.Refusal chosen request payload e ∧
    ∃ nextToken, (chosen.isSome = true → nextToken = s.registry.nextToken) ∧
      s.beginSubmission party chosen request payload sink
        = ({ s with registry := { s.registry with nextToken } }, .error e) := by
  rw [beginSubmission] at h ⊢
  cases hregister : s.register chosen request payload sink with
  | error cause =>
    rw [hregister] at h
    cases h
    exact ⟨refusal_of_register hregister, s.registry.nextToken, fun _ => rfl, rfl⟩
  | ok result =>
    obtain ⟨registered, submission⟩ := result
    obtain ⟨hopen, htried, hnext⟩ := tried?_of_register hregister
    obtain ⟨-, hfree, nextToken, rfl⟩ := register_ok hregister
    rw [hregister] at h
    simp only [offer] at h ⊢
    cases hoffer : s.outlet.offer party submission.command.encodeBody with
    | ok outlet =>
      rw [hoffer] at h
      cases h
    | error cause =>
      rw [hoffer] at h
      cases h
      have hback := Registry.rollback_add (r := { s.registry with nextToken })
        { token := submission.token, request, sink, origin := .peer } hfree
      refine ⟨?_, nextToken, hnext, by simp only [Except.map, conclude, hback]⟩
      rcases Outlet.offer_error hoffer with ⟨hclosing, rfl⟩ | ⟨hclosing, hlimit, rfl⟩
      · exact .closing hclosing
      · exact .tooLarge submission hopen htried hfree hclosing hlimit

/-- A submission with a free token and a command within the limit is not refused while registry and
outlet are open. -/
theorem beginSubmission_accepted (hopen : s.registry.isClosed = false)
    (hclosing : s.outlet.isClosing = false) {token : Token}
    (hfree : s.registry.contains token = false) {body : Bytes}
    (hencode : s.encode request payload = .ok body)
    (hlimit : (Submission.mk token request body).command.encodeBody.length
      ≤ s.outlet.limit.toNat) (party : Party) :
    (s.beginSubmission party (some token) request payload sink).2 = .ok ⟨token, request, body⟩ := by
  have hregister : s.register (some token) request payload sink = .ok
      ({ s with registry := s.registry.add { token, request, sink, origin := .peer } },
        ⟨token, request, body⟩) := by
    simp only [register, hencode, bind, Except.bind, Registry.submitWithToken, hopen, hfree,
      Bool.false_eq_true, if_false]
  have hoffer : s.outlet.offer party (Submission.mk token request body).command.encodeBody
      = .ok (s.outlet.enqueue party
        (.send (lengthPrefixed (Submission.mk token request body).command.encodeBody))) := by
    rw [Outlet.offer, Outlet.frameFor, if_neg (by rw [hclosing]; exact Bool.false_ne_true),
      if_neg (Nat.not_lt.2 hlimit)]
    rfl
  simp only [beginSubmission, hregister, offer, hoffer, Except.map]

end Slot

/-! ## Outlets that are left to one party -/

namespace Outlet

variable {o next : Outlet} {party : Party}

theorem isOpen_leave (h : o.IsOpen) (party : Party) : (o.leave party).IsOpen :=
  ⟨h.isClosing, h.hasStream, fun turn hmem => h.isSend turn (List.mem_filter.1 hmem).1⟩

theorem isOpen_offer (h : o.IsOpen) {body : Bytes} (hoffer : o.offer party body = .ok next) :
    next.IsOpen := by
  rw [offer_ok hoffer]
  exact isOpen_enqueue h party _

/-- If anyone is at the outlet it is this party, with a frame that it writes; and what it is to be
told is that its frame was written or that the stream failed. -/
structure IsLeftTo (o : Outlet) (party : Party) : Prop where
  turns : o.turns = [] ∨ o.IsOpen ∧ ∃ rest, o.turns = [⟨party, .send rest⟩]
  outcomes : ∀ outcome, (party, outcome) ∈ o.outcomes →
    outcome = .sent (.ok ()) ∨ ∃ reason, outcome = .sent (.error (.io reason))

theorem isLeftTo_offer (h : o.IsOpen) (hturns : o.turns = [])
    (hnobody : ∀ entry ∈ o.outcomes, entry.1 ≠ party) {body : Bytes}
    (hoffer : o.offer party body = .ok next) : next.IsLeftTo party where
  turns := by
    refine .inr ⟨isOpen_offer h hoffer, lengthPrefixed body, ?_⟩
    rw [offer_ok hoffer, enqueue, hturns]
    rfl
  outcomes := by
    intro outcome hmem
    rw [offer_ok hoffer] at hmem
    exact absurd rfl (hnobody _ hmem)

theorem IsLeftTo.accept (h : o.IsLeftTo party) (count : Nat) :
    (o.accept count).1.IsLeftTo party := by
  rcases h.turns with hnobody | ⟨hopen, rest, hturns⟩
  · rw [accept_of_nil hnobody]
    exact h
  · have hstill := isOpen_accept hopen count
    rcases accept_of_cons hopen hturns count with ⟨-, haccept⟩ | ⟨-, haccept⟩ <;>
      rw [haccept] at hstill ⊢
    · exact ⟨.inr ⟨hstill, _, rfl⟩, h.outcomes⟩
    · refine ⟨.inl rfl, fun outcome hmem => ?_⟩
      rcases List.mem_append.1 hmem with hmem | hmem
      · exact h.outcomes outcome hmem
      · cases List.mem_singleton.1 hmem
        exact .inl rfl

theorem IsLeftTo.fail (h : o.IsLeftTo party) (reason : String) :
    (o.fail reason).IsLeftTo party := by
  rw [Outlet.fail]
  rcases h.turns with hnobody | ⟨-, rest, hturns⟩
  · rw [hnobody]
    exact h
  · rw [hturns]
    refine ⟨.inl rfl, fun outcome hmem => ?_⟩
    simp only [giveUpSends, finish, List.filter_nil, List.map_nil, List.append_nil] at hmem
    rcases List.mem_append.1 hmem with hmem | hmem
    · exact h.outcomes outcome hmem
    · cases List.mem_singleton.1 hmem
      exact .inr ⟨reason, rfl⟩

end Outlet

/-- Only the stream does something. -/
def Action.isOfStream : Action → Bool
  | .accept _ | .failWrite _ => true
  | _ => false

namespace Slot

variable {s : Slot}

theorem isOpen_closeAndShutNow (h : s.outlet.IsOpen) (party : Party) (reason : DrainReason)
    (why : String) :
    (s.closeAndShutNow party reason why).1.outlet.isClosing = true ∨
      (s.closeAndShutNow party reason why).1.outlet.IsOpen := by
  cases hclosed : s.isClosed with
  | true =>
    rw [closeAndShutNow_of_closed hclosed]
    exact .inr h
  | false =>
    rw [closeAndShutNow_of_open hclosed]
    exact .inl rfl

theorem isOpen_closeFromReaderNow (h : s.outlet.IsOpen) (why : String) :
    (s.closeFromReaderNow why).outlet.isClosing = true ∨ (s.closeFromReaderNow why).outlet.IsOpen := by
  have hclose := isOpen_closeAndShutNow h .reader .transportClosed why
  rw [closeFromReaderNow]
  split <;> next heq => rwa [heq] at hclose

end Slot

namespace Session

variable {x : Session} {chosen : Option Token} {request : RequestId} {payload : Payload}

theorem IsLeftTo.run {party : Party} (h : x.slot.outlet.IsLeftTo party) {own : List Action}
    (hown : ∀ action ∈ own, action.isOfStream = true) : (x.run own).slot.outlet.IsLeftTo party := by
  induction own generalizing x with
  | nil => exact h
  | cons action own ih =>
    obtain ⟨hfirst, hothers⟩ := List.forall_mem_cons.1 hown
    refine ih (x := x.step action) ?_ hothers
    cases action with
    | accept count =>
      show (x.slot.accept count).outlet.IsLeftTo party
      rw [Slot.outlet_accept]
      exact h.accept count
    | failWrite reason => exact h.fail reason
    | _ => cases hfirst

/-- An open outlet stays open or is closing from then on. -/
theorem isOpen_act (h : x.slot.outlet.IsOpen) (action : Action) :
    (x.act action).slot.outlet.isClosing = true ∨ (x.act action).slot.outlet.IsOpen := by
  cases action with
  | submit chosen request payload =>
    refine .inr ?_
    show (x.slot.beginSubmission _ chosen request payload _).1.outlet.IsOpen
    rcases x.slot.outlet_beginSubmission (.caller x.tickets) chosen request payload x.tickets with
      hkept | ⟨body, hoffer⟩
    · rw [hkept]
      exact h
    · exact Outlet.isOpen_offer h hoffer
  | submitLocal request data =>
    rw [act, Slot.outlet_submitLocal]
    exact .inr h
  | completeLocal token status payload =>
    rw [act, Slot.outlet_completeLocal]
    exact .inr h
  | cancel token =>
    rw [act, Slot.outlet_cancel]
    exact .inr h
  | registerCallbacks | listen | arrive => exact .inr h
  | shutDown => exact Slot.isOpen_closeAndShutNow (s := x.slot.stopReader) (Outlet.isOpen_leave h _) ..
  | abandon =>
    rw [act, Slot.abandonNow]
    cases hclosed : x.slot.stopReader.isClosed with
    | true =>
      rw [Slot.closeNow_of_closed hclosed]
      exact .inr (Outlet.isOpen_leave h _)
    | false =>
      rw [Slot.closeNow_of_open hclosed]
      exact .inl rfl
  | vanish ticket => exact .inr (Outlet.isOpen_leave h _)
  | resume party =>
    rw [act]
    split
    · next outlet outcome htell =>
      rw [outlet_goOn, (Outlet.of_tell? htell).2]
      exact .inr ⟨h.isClosing, h.hasStream, h.isSend⟩
    · exact .inr h
  | accept count =>
    rw [act, Slot.outlet_accept]
    exact .inr (Outlet.isOpen_accept h count)
  | failWrite reason =>
    show (x.slot.outlet.fail reason).isClosing = true ∨ (x.slot.outlet.fail reason).IsOpen
    rw [Outlet.fail]
    split
    · exact .inl rfl
    · exact .inr h
  | attend =>
    show x.slot.outlet.attend.1.isClosing = true ∨ x.slot.outlet.attend.1.IsOpen
    rw [Outlet.attend_of_isOpen h]
    exact .inr h
  | read =>
    rw [act]
    by_cases hwaiting : x.slot.reading = .waiting
    · rcases Slot.readNext?_cases hwaiting with ⟨-, hread⟩ | ⟨e, -, hread⟩ | ⟨frame, -, hread⟩ <;>
        rw [hread]
      · exact .inr h
      · exact Slot.isOpen_closeFromReaderNow
          (s := { x.slot with framer := x.slot.framer.nextFrame.1 }) h _
      · have hroute : ({ x.slot with framer := x.slot.framer.nextFrame.1 }.beginRoute .reader
            frame).1.outlet.IsOpen := by
          rcases Slot.beginRoute_cases { x.slot with framer := x.slot.framer.nextFrame.1 } .reader
            frame with ⟨-, hroute⟩ | ⟨_, _, -, -, hroute⟩ | ⟨_, offered, -, hoffer, hroute⟩ <;>
            rw [hroute]
          · rw [Slot.outlet_resolve, Slot.outlet_receive]
            exact h
          · rw [Slot.outlet_resolve, Slot.outlet_receive]
            exact h
          · refine Outlet.isOpen_offer ?_ (Slot.outlet_of_offer hoffer)
            rw [Slot.outlet_receive]
            exact h
        dsimp only
        split <;> exact .inr hroute
    · rw [Slot.readNext?_of_not_waiting hwaiting]
      exact .inr h
  | endOfStream | failRead =>
    rw [act]
    split
    · exact Slot.isOpen_closeFromReaderNow h _
    · exact .inr h

/-- Whoever is known at the outlet after a stride has a ticket. -/
theorem IsFresh.stride (h : x.IsFresh) (next : Stride) : (x.stride next).IsFresh := by
  cases next with
  | register chosen request payload =>
    rw [Session.stride, register]
    split
    · next registered submission hregister =>
      obtain ⟨-, -, nextToken, rfl⟩ := Slot.register_ok hregister
      refine ⟨List.forall_mem_append.2 ⟨fun entry hmem => ?_, ?_⟩, fun ticket hmem => ?_⟩
      · exact Nat.lt_succ_of_lt (h.submissions entry hmem)
      · exact List.forall_mem_singleton.2 (Nat.lt_succ_self _)
      · exact Nat.lt_succ_of_lt (h.parties ticket hmem)
    · exact ⟨fun entry hmem => Nat.lt_succ_of_lt (h.submissions entry hmem),
        fun ticket hmem => Nat.lt_succ_of_lt (h.parties ticket hmem)⟩
  | offer ticket =>
    rw [Session.stride, offer]
    cases hlookup : x.submissions.lookup ticket with
    | none => exact h
    | some submission =>
      have hticket : ticket < x.tickets := h.submissions _ (mem_of_lookup hlookup)
      have hparties : ∀ {after : Outlet},
          after.parties ⊆ .caller ticket :: x.slot.outlet.parties →
          ∀ other, .caller other ∈ after.parties → other < x.tickets := by
        intro after hsubset other hmem
        rcases List.mem_cons.1 (hsubset hmem) with hother | hmem
        · cases hother
          exact hticket
        · exact h.parties other hmem
      dsimp only
      split
      · next offered hoffer => exact ⟨h.submissions, hparties (Slot.parties_offer hoffer)⟩
      · refine ⟨h.submissions, hparties fun party hmem => ?_⟩
        simp only [Outlet.parties, Outlet.finish, List.map_append, List.map_cons, List.map_nil,
          List.mem_append, List.mem_singleton] at hmem
        simp only [Outlet.parties, List.mem_cons, List.mem_append]
        tauto
  | act action => exact h.step action

theorem isFresh_strides (id : SlotId) (options : SlotOptions) (all : List Stride) :
    ((start id options).strides all).IsFresh :=
  strides_induction (fun _ next h => h.stride next) (isFresh_run id options []) all

theorem isOpen_stride (h : x.slot.outlet.isClosing = true ∨ x.slot.outlet.IsOpen)
    (next : Stride) :
    (x.stride next).slot.outlet.isClosing = true ∨ (x.stride next).slot.outlet.IsOpen := by
  cases next with
  | register chosen request payload =>
    rw [stride, register]
    split
    · next registered submission hregister =>
      obtain ⟨-, -, nextToken, rfl⟩ := Slot.register_ok hregister
      exact h
    · exact h
  | offer ticket =>
    rw [stride, offer]
    split
    · exact h
    · split
      · next offered hoffer =>
        have hoffer := Slot.outlet_of_offer hoffer
        have hnotClosing := (Outlet.accepts_of_offer hoffer).1
        rcases h with hclosing | hopen
        · rw [hnotClosing] at hclosing
          cases hclosing
        · exact .inr (Outlet.isOpen_offer hopen hoffer)
      · exact h.imp id fun hopen => ⟨hopen.isClosing, hopen.hasStream, hopen.isSend⟩
  | act action =>
    rcases h with hclosing | hopen
    · exact .inl (isClosing_act hclosing action)
    · exact isOpen_act hopen action

/-- Whatever happens to a slot, its outlet is closing or open. -/
theorem isOpen_strides (id : SlotId) (options : SlotOptions) (all : List Stride) :
    ((start id options).strides all).slot.outlet.isClosing = true ∨
      ((start id options).strides all).slot.outlet.IsOpen :=
  strides_induction
    (P := fun x => x.slot.outlet.isClosing = true ∨ x.slot.outlet.IsOpen)
    (fun _ next h => isOpen_stride h next) (.inr ⟨rfl, rfl, List.forall_mem_nil _⟩) all

/-- What is left of a submission that is refused is its ticket, and perhaps the next token. -/
theorem step_refused (hlog : x.slot.log = []) {e : LinkError}
    (h : (x.slot.beginSubmission (.caller x.tickets) chosen request payload x.tickets).2
      = .error e) :
    ∃ nextToken, (chosen.isSome = true → nextToken = x.slot.registry.nextToken) ∧
      x.step (.submit chosen request payload) = { x with
        slot := { x.slot with registry := { x.slot.registry with nextToken } }
        tickets := x.tickets + 1 } := by
  obtain ⟨-, nextToken, hnext, hbegin⟩ := Slot.beginSubmission_refused h
  refine ⟨nextToken, hnext, ?_⟩
  rw [step, act, hbegin]
  simp [Slot.takeLog, hlog]

/-- If nobody else is at the outlet, a submission that waits for its turn is told that its command
was written or that the stream failed. -/
theorem told_if_alone (hfresh : x.IsFresh)
    (hopen : x.slot.outlet.isClosing = true ∨ x.slot.outlet.IsOpen) {submission : Submission}
    (h : (x.slot.beginSubmission (.caller x.tickets) chosen request payload x.tickets).2
      = .ok submission)
    (hturns : x.slot.outlet.turns = []) {own : List Action}
    (hown : ∀ action ∈ own, action.isOfStream = true) {outlet : Outlet} {outcome : Outcome}
    (htold : ((x.step (.submit chosen request payload)).run own).slot.outlet.tell?
      (.caller x.tickets) = some (outlet, outcome)) :
    outcome = .sent (.ok ()) ∨ ∃ reason, outcome = .sent (.error (.io reason)) := by
  have hnobody : ∀ entry ∈ x.slot.outlet.outcomes, entry.1 ≠ .caller x.tickets :=
    fun entry hmem hparty => Nat.lt_irrefl _
      (hfresh.parties x.tickets (Outlet.mem_parties.2 (.inr ⟨entry, hmem, hparty⟩)))
  have hleft : (x.step (.submit chosen request payload)).slot.outlet.IsLeftTo
      (.caller x.tickets) := by
    show (x.slot.beginSubmission _ chosen request payload _).1.outlet.IsLeftTo _
    rcases x.slot.beginSubmission_cases (.caller x.tickets) chosen request payload x.tickets with
      ⟨e, nextToken, hbegin⟩ | ⟨_, nextToken, next, -, -, -, hoffer, hbegin⟩
    · rw [hbegin] at h
      cases h
    · rw [hbegin]
      have hnotClosing := (Outlet.accepts_of_offer hoffer).1
      rcases hopen with hclosing | hopen
      · rw [hnotClosing] at hclosing
        cases hclosing
      · exact Outlet.isLeftTo_offer hopen hturns hnobody hoffer
  exact (IsLeftTo.run hleft hown).outcomes outcome (Outlet.of_tell? htold).1

/-- **A submission that is refused leaves nothing behind.** Whatever has happened to a slot before,
also to other submissions that are still under way: if a submission is refused, what is left of it
is its ticket, and the next token if it had to be given one. Everything else is as it was, and its
sink never hears anything. A token whose command was too long can be submitted again at once, with
whatever is short enough; and whoever has the token of a duplicate hears what it would have heard
if nothing had been submitted.

If the submission is not refused and nobody else is at the outlet, it ends with its command written
or with a stream that failed under it, as long as only the stream does something. -/
theorem refused_leaves_nothing (id : SlotId) (options : SlotOptions) (all : List Stride)
    (chosen : Option Token) (request : RequestId) (payload : Payload) :
    let x := (start id options).strides all
    let after := x.step (.submit chosen request payload)
    match (x.slot.beginSubmission (.caller x.tickets) chosen request payload x.tickets).2 with
    | .error e =>
      (∃ nextToken, (chosen.isSome = true → nextToken = x.slot.registry.nextToken) ∧
        after = { x with
          slot := { x.slot with registry := { x.slot.registry with nextToken } }
          tickets := x.tickets + 1 }) ∧
      (∀ more, responsesTo (after.strides more).trace x.tickets = []) ∧
      (∀ length limit, e = .frameTooLarge length limit →
        ∃ token, x.slot.tried? chosen = some token ∧
          ∀ other content body, x.slot.encode other content = .ok body →
            (Submission.mk token other body).command.encodeBody.length ≤ limit.toNat →
            (after.slot.beginSubmission (.caller after.tickets) (some token) other content
              after.tickets).2 = .ok ⟨token, other, body⟩) ∧
      ∀ token, e = .duplicateToken token →
        ∃ entry, x.slot.registry.find? token = some entry ∧
          ∀ more, responsesTo (after.strides more).trace entry.sink
            = responsesTo ({ x with tickets := x.tickets + 1 }.strides more).trace entry.sink
    | .ok _ =>
      x.slot.outlet.turns = [] →
      ∀ own : List Action, (∀ action ∈ own, action.isOfStream = true) →
        ∀ outlet outcome,
          (after.run own).slot.outlet.tell? (.caller x.tickets) = some (outlet, outcome) →
          outcome = .sent (.ok ()) ∨ ∃ reason, outcome = .sent (.error (.io reason)) := by
  intro x after
  have hkeeps : x.KeepsTickets := keepsTickets_strides id options all
  have hfresh : x.IsFresh := isFresh_strides id options all
  have hopen : x.slot.outlet.isClosing = true ∨ x.slot.outlet.IsOpen :=
    isOpen_strides id options all
  clear_value x
  split
  · next e hrefused =>
    obtain ⟨nextToken, hnext, hafter⟩ := step_refused hkeeps.log hrefused
    obtain ⟨hwhy, -⟩ := Slot.beginSubmission_refused hrefused
    change after = _ at hafter
    refine ⟨⟨nextToken, hnext, hafter⟩, fun more => ?_, ?_, ?_⟩
    · have hlacks : after.slot.registry.Lacks x.tickets := by
        rw [hafter]
        exact hkeeps.lacks x.tickets (Nat.le_refl _)
      have hgiven : x.tickets < after.tickets := Nat.lt_succ_self _
      rw [unheard_strides (x := after) rfl hlacks hgiven, hafter]
      exact hkeeps.responses x.tickets (Nat.le_refl _)
    · rintro length limit rfl
      cases hwhy with
      | tooLarge submission hopen htried hfree hclosing _ =>
        refine ⟨submission.token, htried, fun other content body hencode hlimit => ?_⟩
        rw [hafter]
        exact Slot.beginSubmission_accepted (s := { x.slot with
          registry := { x.slot.registry with nextToken } }) hopen hclosing hfree hencode hlimit _
    · rintro token rfl
      cases hwhy with
      | duplicate _ hchosen hpending =>
        rw [Registry.contains_eq_isSome] at hpending
        obtain ⟨entry, hfind⟩ := Option.isSome_iff_exists.1 hpending
        obtain rfl := hnext (by rw [hchosen]; rfl)
        exact ⟨entry, hfind, fun more => by rw [hafter]⟩
  · next submission haccepted =>
    intro hturns own hown outlet outcome htold
    exact told_if_alone hfresh hopen haccepted hturns hown htold

/-- One token is pending. A command that is too long is refused, and its token can be used at once;
so is one under the token that is pending, whose caller hears what it would have heard; and one that
is accepted ends when the stream fails. -/
theorem refused_leaves_nothing_beside_pending :
    let callbacks : Callbacks := { table := .withShapes {} ⟨20⟩ .raw .raw }
    let long : Payload := .raw (List.replicate 9 0)
    let x := (start ⟨0⟩ { maxFrameLen := 16 }).strides [.act (.registerCallbacks callbacks),
      .act (.submit (some ⟨1⟩) ⟨20⟩ (.raw [])), .act (.accept 12), .act (.resume (.caller 0))]
    let tooLong := x.step (.submit none ⟨20⟩ long)
    let duplicate := x.step (.submit (some ⟨1⟩) ⟨20⟩ (.raw []))
    let accepted := x.step (.submit none ⟨20⟩ (.raw []))
    (x.slot.beginSubmission (.caller 1) none ⟨20⟩ long 1).2 = .error (.frameTooLarge 17 16) ∧
    tooLong.trace = x.trace ∧
    (tooLong.slot.beginSubmission (.caller 2) (some ⟨2⟩) ⟨20⟩ (.raw []) 2).2
      = .ok ⟨⟨2⟩, ⟨20⟩, []⟩ ∧
    (x.slot.beginSubmission (.caller 1) (some ⟨1⟩) ⟨20⟩ (.raw []) 1).2
      = .error (.duplicateToken ⟨1⟩) ∧
    (∀ more, responsesTo (duplicate.strides more).trace 0
      = responsesTo ({ x with tickets := 2 }.strides more).trace 0) ∧
    (x.slot.beginSubmission (.caller 1) none ⟨20⟩ (.raw []) 1).2 = .ok ⟨⟨2⟩, ⟨20⟩, []⟩ ∧
    ∃ outlet outcome, (accepted.run [.accept 5, .failWrite "gone"]).slot.outlet.tell? (.caller 1)
        = some (outlet, outcome) ∧
      (outcome = .sent (.ok ()) ∨ ∃ reason, outcome = .sent (.error (.io reason))) := by
  intro callbacks long x tooLong duplicate accepted
  have hlong : (x.slot.beginSubmission (.caller 1) none ⟨20⟩ long 1).2
      = .error (.frameTooLarge 17 16) := by cbv
  have hduplicate : (x.slot.beginSubmission (.caller 1) (some ⟨1⟩) ⟨20⟩ (.raw []) 1).2
      = .error (.duplicateToken ⟨1⟩) := by cbv
  have haccepted : (x.slot.beginSubmission (.caller 1) none ⟨20⟩ (.raw []) 1).2
      = .ok ⟨⟨2⟩, ⟨20⟩, []⟩ := by cbv
  have hencode : x.slot.encode ⟨20⟩ (.raw []) = .ok [] := by cbv
  have htried : x.slot.tried? none = some ⟨2⟩ := by cbv
  have hentry : (x.slot.registry.find? ⟨1⟩).map (·.sink) = some 0 := by cbv
  have hturns : x.slot.outlet.turns = [] := by cbv
  have htold : ((accepted.run [.accept 5, .failWrite "gone"]).slot.outlet.tell? (.caller 1)).isSome
      = true := by cbv
  let all : List Stride := [.act (.registerCallbacks callbacks),
    .act (.submit (some ⟨1⟩) ⟨20⟩ (.raw [])), .act (.accept 12), .act (.resume (.caller 0))]
  have htickets : x.tickets = 1 := by cbv
  have hgiven : (x.step (.submit none ⟨20⟩ long)).tickets = 2 := by cbv
  have hrefused := refused_leaves_nothing ⟨0⟩ { maxFrameLen := 16 } all
  have hx : (start ⟨0⟩ { maxFrameLen := 16 }).strides all = x := rfl
  simp only [hx, htickets] at hrefused
  -- From here on only what was computed about the slot counts.
  clear_value x
  have hfirst := hrefused none ⟨20⟩ long
  have hsecond := hrefused (some ⟨1⟩) ⟨20⟩ (.raw [])
  have hthird := hrefused none ⟨20⟩ (.raw [])
  simp only [hlong] at hfirst
  simp only [hduplicate] at hsecond
  simp only [haccepted] at hthird
  obtain ⟨⟨_, -, hleft⟩, -, hshorter, -⟩ := hfirst
  obtain ⟨token, htoken, hagain⟩ := hshorter 17 16 rfl
  obtain rfl : ⟨2⟩ = token := Option.some.inj (htried.symm.trans htoken)
  rw [hgiven] at hagain
  obtain ⟨entry, hfind, hears⟩ := hsecond.2.2.2 ⟨1⟩ rfl
  have hsink : entry.sink = 0 := by
    rw [hfind] at hentry
    exact Option.some.inj hentry
  rw [hsink] at hears
  obtain ⟨⟨outlet, outcome⟩, htold⟩ := Option.isSome_iff_exists.1 htold
  have hown : ∀ action ∈ [Action.accept 5, .failWrite "gone"], action.isOfStream = true := by
    simp [Action.isOfStream]
  have hsame : tooLong.trace = x.trace := by rw [show tooLong = _ from hleft]
  exact ⟨hlong, hsame, hagain ⟨20⟩ (.raw []) [] hencode (by decide),
    hduplicate, hears, haccepted, outlet, outcome, htold,
    hthird hturns [.accept 5, .failWrite "gone"] hown outlet outcome htold⟩

end Session

/-! ## Requests that are served in process -/

namespace Registry

variable {r : Registry}

/-- What is completed right after it was registered leaves nothing behind. -/
theorem complete_add {entry : PendingRequest} (hfree : r.contains entry.token = false)
    (hacked : entry.isAcked = false) (hcancelled : entry.isCancelled = false) :
    (r.add entry).complete entry.token entry.origin = (r, .pending entry) := by
  have hback := rollback_add entry hfree
  rw [rollback] at hback
  rw [complete, find?_add hfree, if_pos rfl]
  simp [hacked, hcancelled, hback]

end Registry

namespace Slot

variable {s : Slot} {request : RequestId} {data : Bytes} {sink : Sink} {e : LinkError}

/-- If the vendor is asked to serve a request, the token that it is given and how it answers. -/
def asked? (s : Slot) (request : RequestId) (data : Bytes) : Option (Token × Service) :=
  if s.callbacks.vendor.supports request && !s.registry.isClosed then
    s.registry.freeToken?.map fun token => (token, s.callbacks.vendor.serve request token data)
  else none

/-- What a sink hears while the vendor is asked: the first completion that the vendor reports. -/
def answeredAtOnce (s : Slot) (request : RequestId) (data : Bytes) (sink : Sink) :
    List Response :=
  match s.asked? request data with
  | some (token, service) => (service.completions.take 1).map fun completion =>
    s.buildResponse { token, request, sink, origin := .vendor } request completion.1 completion.2
  | none => []

theorem completeLocalAll_of_unmatched {token : Token} (h : s.registry.find? token = none)
    (completions : List (Status × Bytes)) :
    s.completeLocalAll token completions = (s, completions.map fun _ => false) := by
  induction completions with
  | nil => rfl
  | cons completion completions ih =>
    have hfirst : s.completeLocal token completion.1 completion.2 = (s, false) := by
      rw [completeLocal, Registry.complete, h]
    simp only [completeLocalAll, hfirst, ih, List.map_cons]

/-- The first completion of a request that was registered just now is taken, and no other; and what
is taken back after that is nothing but the request. -/
theorem completeLocalAll_add {r : Registry} (entry : PendingRequest)
    (hfree : r.contains entry.token = false) (horigin : entry.origin = .vendor)
    (hacked : entry.isAcked = false) (hcancelled : entry.isCancelled = false)
    (completions : List (Status × Bytes)) :
    ∃ registry taken, registry.rollback entry.token = r ∧
      { s with registry := r.add entry }.completeLocalAll entry.token completions = ({ s with
        registry
        log := s.log ++ (completions.take 1).map fun completion => .resolved ⟨entry.sink,
          { s with registry := r }.buildResponse entry entry.request completion.1 completion.2⟩ },
        taken) := by
  cases completions with
  | nil => exact ⟨r.add entry, [], Registry.rollback_add entry hfree, by simp [completeLocalAll]⟩
  | cons completion completions =>
    have hnone := Registry.find?_eq_none_of_contains hfree
    have hcomplete := Registry.complete_add hfree hacked hcancelled
    rw [horigin] at hcomplete
    let answered := { s with registry := r }.deliver entry
      ({ s with registry := r }.buildResponse entry entry.request completion.1 completion.2)
    have hfirst : { s with registry := r.add entry }.completeLocal entry.token completion.1
        completion.2 = (answered, true) := by
      rw [completeLocal, hcomplete]
      rfl
    refine ⟨r, true :: completions.map fun _ => false, Registry.remove_of_find?_eq_none hnone, ?_⟩
    rw [completeLocalAll, hfirst]
    dsimp only
    rw [completeLocalAll_of_unmatched (s := answered) hnone]
    rfl

/-- The vendor is asked when its request was registered. -/
theorem submit_of_asked {token : Token} {service : Service}
    (h : s.asked? request data = some (token, service)) (sink : Sink) :
    s.callbacks.vendor.supports request = true ∧
      service = s.callbacks.vendor.serve request token data ∧
      s.registry.submit request sink .vendor
        = .ok ({ s.registry with nextToken := token.raw + 1 }.add
          { token, request, sink, origin := .vendor }, token) := by
  unfold asked? at h
  split at h
  · next hasked =>
    obtain ⟨hsupports, hopen⟩ := Bool.and_eq_true_iff.1 hasked
    obtain ⟨free, hfree, hgiven⟩ := Option.map_eq_some_iff.1 h
    cases hgiven
    rw [Bool.not_eq_true'] at hopen
    refine ⟨hsupports, rfl, ?_⟩
    rw [Registry.submit, if_neg (by rw [hopen]; exact Bool.false_ne_true), hfree]
  · cases h

theorem submitLocal_of_not_asked (h : s.asked? request data = none) (sink : Sink) :
    ∃ e, s.submitLocal request data sink = (s, .error e) := by
  rw [submitLocal]
  dsimp only
  split
  · exact ⟨_, rfl⟩
  · next hsupports =>
    cases hsubmit : s.registry.submit request sink .vendor with
    | error e => exact ⟨e, rfl⟩
    | ok result =>
      -- It was registered, so the vendor was asked.
      obtain ⟨registry, token⟩ := result
      have hopen := (Registry.submit_ok hsubmit).1
      rw [asked?, hopen, Registry.freeToken?_of_submit hsubmit, if_pos (by simpa using hsupports)]
        at h
      cases h

/-- A vendor that is asked says in the end whether the request goes on. If it refuses, it has been
asked and the sink may have heard of it, and nothing is left but another next token. -/
theorem submitLocal_of_asked {token : Token} {service : Service}
    (h : s.asked? request data = some (token, service)) (sink : Sink) :
    match service.verdict with
    | .ok () => (s.submitLocal request data sink).2 = .ok token
    | .error status => ∃ taken,
      s.submitLocal request data sink = ({ s with
        registry := { s.registry with nextToken := token.raw + 1 }
        log := s.log ++ (s.answeredAtOnce request data sink).map (.resolved ⟨sink, ·⟩)
          ++ [.served request token data taken] }, .error (.rejected request status)) := by
  obtain ⟨hsupports, hservice, hsubmit⟩ := submit_of_asked h sink
  have hfree : { s.registry with nextToken := token.raw + 1 }.contains token = false :=
    (Registry.submit_ok hsubmit).2.1
  obtain ⟨registry, taken, hback, hcompleted⟩ := completeLocalAll_add (s := s)
    { token, request, sink, origin := .vendor } hfree rfl rfl rfl service.completions
  dsimp only at hback hcompleted
  rw [submitLocal, hsupports, hsubmit, answeredAtOnce, h]
  dsimp only
  rw [← hservice, hcompleted, Bool.not_true, if_neg Bool.false_ne_true]
  cases service.verdict with
  | ok _ => rfl
  | error status =>
    refine ⟨taken, ?_⟩
    simp only [emit, hback, List.map_map]
    rfl

/-- A request that is refused leaves at most another next token behind. Nothing was written, and its
sink was told of the first completion that the vendor reported. -/
theorem submitLocal_refused (h : (s.submitLocal request data sink).2 = .error e) :
    ∃ nextToken effects,
      s.submitLocal request data sink = ({ s with
        registry := { s.registry with nextToken }, log := s.log ++ effects }, .error e) ∧
      (∀ bytes, .wrote bytes ∉ effects) ∧
      effects.filterMap (Effect.responseTo? sink) = s.answeredAtOnce request data sink := by
  cases hasked : s.asked? request data with
  | none =>
    obtain ⟨e', hsame⟩ := submitLocal_of_not_asked hasked sink
    rw [hsame] at h ⊢
    cases h
    refine ⟨s.registry.nextToken, [], by rw [List.append_nil], fun _ => List.not_mem_nil, ?_⟩
    rw [answeredAtOnce, hasked]
    rfl
  | some asked =>
    obtain ⟨token, service⟩ := asked
    have hanswered := submitLocal_of_asked hasked sink
    split at hanswered
    · rw [hanswered] at h
      cases h
    · next status _ =>
      obtain ⟨taken, hrefused⟩ := hanswered
      rw [hrefused] at h ⊢
      cases h
      refine ⟨token.raw + 1, (s.answeredAtOnce request data sink).map (.resolved ⟨sink, ·⟩)
        ++ [.served request token data taken], by rw [List.append_assoc], fun bytes hmem => ?_, ?_⟩
      · simp at hmem
      · simp [List.filterMap_append, List.filterMap_map, Function.comp_def, Effect.responseTo?]

end Slot

namespace Session

variable {x : Session}

/-- **A request that is refused by the vendor was answered at most on the spot.** Whatever has
happened to a slot before and whatever the vendor does while it is asked: if a request to be served
in process is refused, it is not pending, everything else that is pending is as it was, as are the
acknowledgments that are remembered and the stream, and nothing was written. Its sink hears of the
first completion that the vendor reported before it refused, and of nothing else ever. -/
theorem refused_local_answered_at_most_at_once (id : SlotId) (options : SlotOptions)
    (all : List Stride) (request : RequestId) (data : Bytes) :
    let x := (start id options).strides all
    let after := x.step (.submitLocal request data)
    ∀ e, (x.slot.submitLocal request data x.tickets).2 = .error e →
      (∃ nextToken,
        after.slot = { x.slot with registry := { x.slot.registry with nextToken } }) ∧
      (∀ entry ∈ after.slot.registry.entries, entry.sink ≠ x.tickets) ∧
      (∃ effects : List Effect, after.trace = x.trace ++ effects.map (Noted.mk false) ∧
        ∀ bytes, .wrote bytes ∉ effects) ∧
      ∀ more, responsesTo (after.strides more).trace x.tickets
        = x.slot.answeredAtOnce request data x.tickets := by
  intro x after e hrefused
  have hkeeps : x.KeepsTickets := keepsTickets_strides id options all
  clear_value x
  obtain ⟨nextToken, effects, hsubmit, hwrites, hheard⟩ := Slot.submitLocal_refused hrefused
  have hafter : after = { x with
      slot := { x.slot with registry := { x.slot.registry with nextToken } }
      tickets := x.tickets + 1
      trace := x.trace ++ effects.map (Noted.mk false) } := by
    show x.step (.submitLocal request data) = _
    rw [step, act, hsubmit]
    simp [Slot.takeLog, hkeeps.log, isReaders]
  have hlacks : after.slot.registry.Lacks x.tickets := by
    rw [hafter]
    exact hkeeps.lacks x.tickets (Nat.le_refl _)
  refine ⟨⟨nextToken, by rw [hafter]⟩, hlacks, ⟨effects, by rw [hafter], hwrites⟩, fun more => ?_⟩
  have hgiven : x.tickets < after.tickets := Nat.lt_succ_self _
  rw [unheard_strides (x := after) rfl hlacks hgiven, hafter, responsesTo, List.filterMap_append,
    List.filterMap_map]
  exact (congrArg₂ (· ++ ·) (hkeeps.responses x.tickets (Nat.le_refl _)) hheard).trans
    (List.nil_append _)

/-- Of two vendors that refuse, one has reported nothing, and its caller never hears anything. -/
theorem refused_local_unanswered :
    let callbacks : Callbacks := { table := .withShapes {} ⟨20⟩ .void .void }
    let x := (start ⟨0⟩ {}).strides [.act (.registerCallbacks callbacks),
      .act (.submit none ⟨20⟩ .void)]
    let after := x.step (.submitLocal ⟨20⟩ [])
    (x.slot.submitLocal ⟨20⟩ [] 1).2 = .error (.rejected ⟨20⟩ .requestNotSupported) ∧
    after.slot.registry.entries = x.slot.registry.entries ∧
    ∀ more, responsesTo (after.strides more).trace 1 = [] := by
  intro callbacks x after
  have hrefused : (x.slot.submitLocal ⟨20⟩ [] 1).2
      = .error (.rejected ⟨20⟩ .requestNotSupported) := by cbv
  have hnothing : x.slot.answeredAtOnce ⟨20⟩ [] 1 = [] := by cbv
  obtain ⟨⟨_, hslot⟩, -, -, hheard⟩ := refused_local_answered_at_most_at_once ⟨0⟩ {}
    [.act (.registerCallbacks callbacks), .act (.submit none ⟨20⟩ .void)] ⟨20⟩ [] _ hrefused
  have hentries : after.slot.registry.entries = x.slot.registry.entries := by
    rw [show after.slot = _ from hslot]
  exact ⟨hrefused, hentries, fun more => (hheard more).trans hnothing⟩

/-- The other one has completed the request with success before it refuses: the submission fails,
and yet its sink has got the response. -/
theorem refused_local_answered :
    let callbacks : Callbacks := {
      table := .withShapes {} ⟨20⟩ .void .void
      vendor := { Vendor.unavailable with
        serve := fun _ _ _ => {
          completions := [(.success, [])], verdict := .error .requestNotSupported } } }
    let x := (start ⟨0⟩ {}).strides [.act (.registerCallbacks callbacks)]
    let after := x.step (.submitLocal ⟨20⟩ [])
    (x.slot.submitLocal ⟨20⟩ [] 0).2 = .error (.rejected ⟨20⟩ .requestNotSupported) ∧
    responsesTo after.trace 0 = [⟨⟨0⟩, ⟨1⟩, ⟨20⟩, .success, .ok .void⟩] := by
  dsimp only
  exact ⟨by cbv, by cbv⟩

end Session

end RadioLink
