import Mathlib
import RadioLink.Proofs.PendingCalls

set_option autoImplicit false

/-! # Moves that keep a link in balance

Every move of a link leaves it in balance with some books. What callers do and what is written
leaves the books as they are, or adds a command at their end. Only the reader settles replies, and
in what way is decided by the reply itself: a response is due at once, or when its acknowledgment
was written, or after its receipt (`Books.Due`). -/

namespace RadioLink

/-! ## Moves of the slot -/

/-- What a step adds to a trace. -/
theorem resolutions_append (trace : List Noted) (effects : List Effect) (byReader : Bool) :
    resolutions (trace ++ effects.map (Noted.mk byReader))
      = resolutions trace ++ effects.filter Effect.isResolution := by
  rw [resolutions, List.map_append, List.filter_append, Session.map_effect_noted]
  rfl

/-- A step of a session leaves nothing in the log of its slot. -/
theorem Session.step_of_act {x y : Session} {action : Action} (hact : x.act action = y) :
    x.step action = { y with
      slot := { y.slot with log := [] }
      trace := x.trace ++ y.slot.log.map (Noted.mk (x.isReaders action)) } := by
  rw [step, hact]
  rfl

namespace Books

variable {b : Books}

/-- The books when something more is to be written for the modem. -/
def send (b : Books) (sent : Sent) : Books :=
  { b with todo := b.todo ++ [sent] }

theorem Outbound.send {outlet : Outlet} {toModem : Bytes} {framer : Framer}
    (h : b.Outbound outlet toModem framer) (party : Party) (sent : Sent) :
    (b.send sent).Outbound (outlet.enqueue party (.send sent.command.encode)) toModem framer := by
  refine ⟨Outlet.isOpen_enqueue h.isOpen _ _, h.outcomes, h.limit, ?_, h.front⟩
  show _ ++ _ ++ (outlet.turns ++ [_]).flatMap Turn.bytes
    = ((b.todo ++ [sent]).map Sent.command).flatMap Command.encode
  rw [List.flatMap_append, ← List.append_assoc, h.bytes, List.map_append, List.flatMap_append]
  rfl

/-- What the stream accepts is on its way. -/
theorem Outbound.accept {outlet : Outlet} {toModem : Bytes} {framer : Framer}
    (h : b.Outbound outlet toModem framer) (count : Nat) :
    b.Outbound (outlet.accept count).1 (toModem ++ (outlet.accept count).2) framer := by
  have hopen := Outlet.isOpen_accept h.isOpen count
  have hbytes := h.bytes
  cases hturns : outlet.turns with
  | nil =>
    rw [Outlet.accept_of_nil hturns, List.append_nil]
    exact h
  | cons turn turns =>
    obtain ⟨rest, hturn⟩ := Outlet.eq_send_of_isOpen h.isOpen (hturns ▸ List.mem_cons_self)
    rw [hturn] at hturns
    rw [hturns, List.flatMap_cons] at hbytes
    -- Of the first turn, one part goes into the stream and the other stays.
    have hrest : Turn.bytes ⟨turn.party, .send rest⟩ = rest.take count ++ rest.drop count :=
      (List.take_append_drop count rest).symm
    rw [hrest, ← List.append_assoc, ← List.append_assoc, List.append_assoc framer.buffer] at hbytes
    rcases Outlet.accept_of_cons h.isOpen hturns count with ⟨-, haccept⟩ | ⟨hdone, haccept⟩ <;>
      rw [haccept] at hopen ⊢
    · refine ⟨hopen, h.outcomes, h.limit, ?_, h.front⟩
      rw [← hbytes, List.append_assoc _ (rest.drop count)]
      rfl
    · refine ⟨hopen, ?_, h.limit, ?_, h.front⟩
      · exact List.forall_mem_append.2 ⟨h.outcomes, List.forall_mem_singleton.2 rfl⟩
      · rw [hdone, List.append_nil] at hbytes
        exact hbytes

/-- Everyone is told that its command was written. -/
theorem Outbound.tell {outlet next : Outlet} {toModem : Bytes} {framer : Framer} {party : Party}
    {outcome : Outcome} (h : b.Outbound outlet toModem framer)
    (htell : outlet.tell? party = some (next, outcome)) :
    outcome = .sent (.ok ()) ∧ next.limit = outlet.limit ∧ b.Outbound next toModem framer := by
  obtain ⟨hmem, rfl⟩ := Outlet.of_tell? htell
  have hopen : Outlet.IsOpen { outlet with
      outcomes := outlet.outcomes.eraseP fun entry => entry.1 == party } :=
    ⟨h.isOpen.isClosing, h.isOpen.hasStream, h.isOpen.isSend⟩
  exact ⟨h.outcomes _ hmem, rfl, hopen,
    fun entry hentry => h.outcomes entry (List.mem_of_mem_eraseP hentry), h.limit, h.bytes, h.front⟩

theorem pending_send (b : Books) (rules : List (RequestId × ModemRule)) (call : Call) :
    (b.send (.call call)).pending rules = b.pending rules ++ [call] := by
  simp only [pending, send, List.filterMap_append, List.append_assoc]
  rfl

theorem Handled.send {rules : List (RequestId × ModemRule)} {m : Modem} (h : b.Handled rules m)
    (call : Call) : (b.send (.call call)).Handled rules m := by
  refine ⟨h.sameRules, h.received, h.unanswered, ?_, h.replies⟩
  show m.acks ++ (b.todo ++ [Sent.call call]).filterMap Sent.token? = _
  rw [List.filterMap_append]
  exact (congrArg (m.acks ++ ·) (List.append_nil _)).trans h.acks

end Books

namespace Link

variable {l : Link} {setup : Setup} {b : Books}

/-- What is noted in a step is about no resolution. -/
theorem Balances.silent (h : l.Balances setup b) {effects : List Effect}
    (hsilent : effects.filter Effect.isResolution = []) (byReader : Bool) :
    resolutions (l.session.trace ++ effects.map (Noted.mk byReader))
      = b.settled.flatMap (Reply.effects setup.id setup.callbacks.table) ++ b.progress.effects := by
  rw [resolutions_append, hsilent, List.append_nil, h.effects]

/-- A submission that is refused changes the next token and the next ticket at most. -/
theorem Balances.refuse (h : l.Balances setup b) {chosen : Option Token} {request : RequestId}
    {payload : Payload} {e : LinkError} {nextToken : UInt32}
    (hbegin : l.session.slot.beginSubmission (.caller l.session.tickets) chosen request payload
        l.session.tickets
      = ({ l.session.slot with registry := { l.session.slot.registry with nextToken } },
        .error e)) :
    (l.act (.submit chosen request payload)).Balances setup b := by
  have hact : l.session.act (.submit chosen request payload) = { l.session with
      slot := { l.session.slot with registry := { l.session.slot.registry with nextToken } }
      tickets := l.session.tickets + 1 } := by
    simp only [Session.act, hbegin]
  have hlink : l.act (.submit chosen request payload)
      = { l with session := l.session.step (.submit chosen request payload) } := by
    simp only [act, hbegin]
  rw [hlink, Session.step_of_act hact]
  exact { h with
    log := rfl
    slot := ⟨h.slot.id, h.slot.callbacks, h.slot.outlet, h.slot.framer⟩
    tickets := ⟨h.tickets.1, fun call hmem => Nat.lt_succ_of_lt (h.tickets.2 call hmem)⟩
    outbound := ⟨h.outbound.isOpen, h.outbound.outcomes, h.outbound.limit, h.outbound.bytes,
      h.outbound.front⟩
    inbound := ⟨h.inbound.bytes⟩
    registry := ⟨h.registry.claims, h.registry.distinct, h.registry.marks⟩
    effects := h.silent (by rw [h.log]; rfl) _ }

/-- A call that is accepted is pending from now on, and its command is to be written. -/
theorem Balances.submit (h : l.Balances setup b) (chosen : Option Token) (request : RequestId)
    (payload : Payload) : ∃ next, (l.act (.submit chosen request payload)).Balances setup next := by
  rcases l.session.slot.beginSubmission_cases (.caller l.session.tickets) chosen request payload
      l.session.tickets with
    ⟨e, nextToken, hbegin⟩ | ⟨submission, nextToken, outlet, rfl, hcodec, hfree, hoffer, hbegin⟩
  · exact ⟨b, h.refuse hbegin⟩
  obtain rfl := Outlet.offer_ok hoffer
  have hact : l.session.act (.submit chosen submission.request payload) = { l.session with
      slot := { l.session.slot with
        registry := { l.session.slot.registry with nextToken }.add
          (Call.mk l.session.tickets submission).entry
        outlet := l.session.slot.outlet.enqueue (.caller l.session.tickets)
          (.send submission.command.encode) }
      tickets := l.session.tickets + 1
      submissions := l.session.submissions ++ [(l.session.tickets, submission)] } := by
    simp only [Session.act, hbegin]
    rfl
  have hlink : l.act (.submit chosen submission.request payload)
      = { l with
          session := l.session.step (.submit chosen submission.request payload)
          calls := l.calls ++ [⟨l.session.tickets, submission⟩] } := by
    simp only [act, hbegin]
  rw [hlink, Session.step_of_act hact]
  refine ⟨b.send (.call ⟨l.session.tickets, submission⟩), { h with
    log := rfl
    slot := ⟨h.slot.id, h.slot.callbacks, h.slot.outlet, h.slot.framer⟩
    calls := ?_
    tickets := ?_
    codecs := ?_
    outbound := h.outbound.send _ _
    handled := h.handled.send _
    inbound := ⟨h.inbound.bytes⟩
    registry := ?_
    effects := h.silent (by rw [h.log]; rfl) _ }⟩
  · show l.calls ++ _ = b.handled ++ (b.todo ++ _).filterMap Sent.call?
    rw [h.calls, List.filterMap_append, List.append_assoc]
    rfl
  · constructor
    · rw [List.map_append, List.nodup_append]
      refine ⟨h.tickets.1, List.pairwise_singleton _ _, ?_⟩
      rintro _ hmem _ hnew rfl
      obtain ⟨call, hcall, rfl⟩ := List.mem_map.1 hmem
      exact absurd (List.mem_singleton.1 hnew) (Nat.ne_of_lt (h.tickets.2 call hcall))
    · intro call hmem
      rcases List.mem_append.1 hmem with hmem | hmem
      · exact Nat.lt_succ_of_lt (h.tickets.2 call hmem)
      · rw [List.mem_singleton.1 hmem]
        exact Nat.lt_succ_self _
  · rw [← h.slot.callbacks]
    refine List.forall_mem_append.2 ⟨h.slot.callbacks ▸ h.codecs, ?_⟩
    exact List.forall_mem_singleton.2 hcodec
  · rw [Books.pending_send]
    exact h.registry.add hfree nextToken

/-- Some bytes reach the slot. -/
theorem Balances.arrive (h : l.Balances setup b) (count : Nat) :
    (l.act (.arrive count)).Balances setup b := by
  have hbytes : l.session.slot.framer.buffer ++ l.toSlot.take count ++ l.toSlot.drop count
      ++ l.modem.output.flatten
      = (b.progress.frames ++ b.coming.flatMap Reply.frames).flatMap Frame.encode := by
    rw [List.append_assoc _ (l.toSlot.take count), List.take_append_drop]
    exact h.inbound.bytes
  exact { h with
    log := rfl
    slot := ⟨h.slot.id, h.slot.callbacks, h.slot.outlet, h.slot.framer⟩
    inbound := ⟨hbytes⟩
    effects := h.silent (by rw [Session.act, Slot.arrive, h.log]; rfl) _ }

/-- The stream accepts some bytes, and they are on their way to the modem. -/
theorem Balances.accept (h : l.Balances setup b) (count : Nat) :
    (l.act (.accept count)).Balances setup b := by
  have hslot := l.session.slot.does_accept count
  rw [Slot.Does, Slot.outlet_accept, Slot.registry_accept] at hslot
  have hact : l.session.act (.accept count)
      = { l.session with slot := l.session.slot.accept count } := rfl
  rw [hslot] at hact
  have hlink : l.act (.accept count) = { l with
      session := l.session.step (.accept count)
      toModem := l.toModem ++ (l.session.slot.outlet.accept count).2 } := rfl
  rw [hlink, Session.step_of_act hact]
  refine { h with
    log := rfl
    slot := ⟨h.slot.id, h.slot.callbacks, ?_, h.slot.framer⟩
    outbound := h.outbound.accept count
    inbound := ⟨h.inbound.bytes⟩
    effects := h.silent ?_ _ }
  · exact (Outlet.limit_accept _ count).trans h.slot.outlet
  · rw [h.log]
    dsimp only
    split <;> rfl

/-- Whoever is told nothing does nothing. -/
theorem resume_of_none (hlog : l.session.slot.log = []) {party : Party}
    (htell : l.session.slot.outlet.tell? party = none) : l.act (.resume party) = l := by
  have hidle : l.session.act (.resume party) = l.session := by
    simp only [Session.act, htell]
  rw [act, Session.step_of_idle hlog hidle]

/-- What a party is told is taken away, and nothing is resolved. -/
theorem Balances.told (h : l.Balances setup b) {party : Party} {outlet : Outlet}
    {outcome : Outcome} {submissions : List (Nat × Submission)} {effects : List Effect}
    (htell : l.session.slot.outlet.tell? party = some (outlet, outcome))
    (hact : l.session.act (.resume party) = { l.session with
      slot := { l.session.slot with outlet, log := effects }, submissions })
    (hsilent : effects.filter Effect.isResolution = []) :
    (l.act (.resume party)).Balances setup b := by
  obtain ⟨-, hlimit, houtbound⟩ := h.outbound.tell htell
  rw [act, Session.step_of_act hact]
  exact { h with
    log := rfl
    slot := ⟨h.slot.id, h.slot.callbacks, hlimit.trans h.slot.outlet, h.slot.framer⟩
    outbound := houtbound
    inbound := ⟨h.inbound.bytes⟩
    effects := h.silent hsilent _ }

/-- A caller is told that its command was written, and the observers are told too. -/
theorem Balances.resume_caller (h : l.Balances setup b) {ticket : Nat} {outlet : Outlet}
    {outcome : Outcome}
    (htell : l.session.slot.outlet.tell? (.caller ticket) = some (outlet, outcome)) :
    (l.act (.resume (.caller ticket))).Balances setup b := by
  obtain ⟨rfl, -, -⟩ := h.outbound.tell htell
  cases hsubmission : l.session.submissions.lookup ticket with
  | none =>
    have hact : l.session.act (.resume (.caller ticket))
        = { l.session with slot := { l.session.slot with outlet } } := by
      simp only [Session.act, htell, Session.goOn, hsubmission]
    exact h.told htell hact (by rw [h.log]; rfl)
  | some submission =>
    have hact : l.session.act (.resume (.caller ticket)) = { l.session with
        slot := { l.session.slot with
          outlet
          log := l.session.slot.log ++ [.published (.commandSent submission.token
            submission.request submission.body.length)] }
        submissions := l.session.submissions.filter fun entry => entry.1 != ticket } := by
      simp only [Session.act, htell, Session.goOn, hsubmission]
      rfl
    exact h.told htell hact (by rw [h.log]; rfl)

end Link

/-! ## Responses that are due -/

theorem mem_of_mem_replies {rules : List (RequestId × ModemRule)} {calls : List Call} {a : Reply}
    (h : a ∈ replies rules calls) :
    a.call ∈ calls ∧ rules.lookup a.call.submission.request = some a.rule := by
  obtain ⟨call, hcall, hreply⟩ := List.mem_filterMap.1 h
  obtain ⟨rule, hrule, rfl⟩ := Option.map_eq_some_iff.1 hreply
  exact ⟨hcall, hrule⟩

namespace Books

variable {b : Books} {a : Reply} {coming : List Reply}

/-- The response in a reply is what is to be resolved next. -/
structure Due (b : Books) (a : Reply) (coming : List Reply) : Prop where
  replies : b.progress.replies ++ b.coming = a :: coming
  effects : ∀ id table,
    b.progress.effects ++ [.resolved (a.outcome id table)] = a.effects id table
  acked : b.progress.acked = [a] ∨ b.progress.acked = [] ∧ a.rule.style ≠ .ackExpected

/-- The books when the response of a reply is resolved. -/
def settle (b : Books) (a : Reply) (coming : List Reply) : Books :=
  { b with settled := b.settled ++ [a], progress := .none, coming }

theorem due_of_plain (hprogress : b.progress = .none) (hcoming : b.coming = a :: coming)
    (hstyle : a.rule.style = .plain) : b.Due a coming := by
  refine ⟨?_, fun id table => ?_, .inr ⟨?_, ?_⟩⟩
  · rw [hprogress, hcoming]
    rfl
  · rw [hprogress, Reply.effects, hstyle]
    rfl
  · rw [hprogress]
    rfl
  · rw [hstyle]
    decide

theorem due_of_received (hprogress : b.progress = .received a) (hproper : b.progress.IsProper) :
    b.Due a b.coming := by
  rw [hprogress] at hproper
  have hstyle : a.rule.style = .earlyAck := hproper
  refine ⟨?_, fun id table => ?_, .inr ⟨?_, ?_⟩⟩
  · rw [hprogress]
    rfl
  · rw [hprogress, Reply.effects, hstyle]
    rfl
  · rw [hprogress]
    rfl
  · rw [hstyle]
    decide

theorem due_of_acknowledging (hprogress : b.progress = .acknowledging a)
    (hproper : b.progress.IsProper) : b.Due a b.coming := by
  rw [hprogress] at hproper
  have hstyle : a.rule.style = .ackExpected := hproper
  refine ⟨?_, fun id table => ?_, .inl ?_⟩
  · rw [hprogress]
    rfl
  · rw [hprogress, Reply.effects, hstyle]
    rfl
  · rw [hprogress]
    rfl

theorem Due.token_of_mem_acked (h : b.Due a coming) {other : Reply}
    (hmem : other ∈ b.progress.acked) :
    other.call.submission.token = a.call.submission.token := by
  rcases h.acked with hacked | ⟨hacked, -⟩ <;> rw [hacked] at hmem
  · rw [List.mem_singleton.1 hmem]
  · cases hmem

theorem Due.pending (h : b.Due a coming) (rules : List (RequestId × ModemRule)) :
    (b.pending rules).Perm (a.call :: (b.settle a coming).pending rules) := by
  have hcalls := congrArg (List.map (·.call)) h.replies
  rw [List.map_append, List.map_cons] at hcalls
  show (held rules b.handled ++ b.progress.replies.map (·.call) ++ b.coming.map (·.call)
      ++ b.todo.filterMap Sent.call?).Perm
    (a.call :: (held rules b.handled ++ [] ++ coming.map (·.call) ++ b.todo.filterMap Sent.call?))
  rw [List.append_assoc (held rules b.handled), hcalls, List.append_nil, List.append_assoc,
    List.append_assoc, List.cons_append]
  exact List.perm_middle

theorem Handled.settle {rules : List (RequestId × ModemRule)} {m : Modem} (h : b.Handled rules m)
    (hdue : b.Due a coming) : (b.settle a coming).Handled rules m := by
  refine ⟨h.sameRules, h.received, h.unanswered, ?_, ?_⟩
  · show m.acks ++ b.todo.filterMap Sent.token? = ackTokens (b.settled ++ [a] ++ [])
    rw [h.acks, List.append_nil]
    rcases hdue.acked with hacked | ⟨hacked, hstyle⟩ <;> rw [hacked]
    simp only [ackTokens, List.append_nil, List.filter_append, List.filter_cons, List.filter_nil,
      decide_eq_false hstyle, Bool.false_eq_true, if_false]
  · show RadioLink.replies rules b.handled = b.settled ++ [a] ++ [] ++ coming
    rw [h.replies, List.append_assoc, hdue.replies, List.append_nil, List.append_assoc]
    rfl

end Books

namespace Link

variable {l : Link} {setup : Setup} {b : Books} {a : Reply} {coming : List Reply}

/-- A reply that is not settled is to a call that was accepted, by the rule for its request. -/
theorem Balances.reply (h : l.Balances setup b)
    (hmem : a ∈ b.progress.replies ++ b.coming) :
    a.call ∈ l.calls ∧ setup.rules.lookup a.call.submission.request = some a.rule := by
  have hreplies : a ∈ replies setup.rules b.handled := by
    rw [h.handled.replies, List.append_assoc]
    exact List.mem_append_right _ hmem
  obtain ⟨hcall, hrule⟩ := mem_of_mem_replies hreplies
  rw [h.calls]
  exact ⟨List.mem_append_left _ hcall, hrule⟩

/-- A step in which a response that is due is resolved. -/
theorem Balances.settle (h : l.Balances setup b) (hdue : b.Due a coming) {action : Action}
    {outlet : Outlet} {framer : Framer} {effects : List Effect}
    (hact : l.session.act action = { l.session with
      slot := Slot.resolve { l.session.slot with
        outlet, framer, reading := .waiting, log := effects } a.response })
    (hsilent : effects.filter Effect.isResolution = [])
    (houtlet : outlet.limit = setup.options.maxFrameLen)
    (hframer : framer.limit = setup.options.maxFrameLen)
    (houtbound : b.Outbound outlet l.toModem l.modem.framer)
    (hinbound : (b.settle a coming).Inbound framer l.toSlot l.modem.output) :
    ({ l with session := l.session.step action } : Link).Balances setup (b.settle a coming) := by
  have hmem : a ∈ b.progress.replies ++ b.coming := by
    rw [hdue.replies]
    exact List.mem_cons_self
  have hcodec := h.codecs a.call (h.reply hmem).1
  obtain ⟨registry, hresolve, hslot, hholds⟩ := Slot.resolve_response
    (s := { l.session.slot with outlet, framer, reading := .waiting, log := effects })
    ⟨h.slot.id, h.slot.callbacks, houtlet, hframer⟩
    (h.registry.of_perm (hdue.pending setup.rules)) (fun _ => hdue.token_of_mem_acked) hcodec
  rw [hresolve] at hact
  rw [Session.step_of_act hact]
  refine { h with
    log := rfl
    slot := ⟨hslot.trans h.slot.id, h.slot.callbacks, houtlet, hframer⟩
    reading := rfl
    progress := trivial
    outbound := ⟨houtbound.isOpen, houtbound.outcomes, houtbound.limit, houtbound.bytes,
      houtbound.front⟩
    handled := h.handled.settle hdue
    inbound := hinbound
    registry := hholds
    effects := ?_ }
  show resolutions (l.session.trace ++ (effects ++ [_]).map _)
    = (b.settled ++ [a]).flatMap _ ++ []
  rw [resolutions_append, List.filter_append, hsilent, List.nil_append, h.effects,
    List.append_assoc, List.flatMap_append, List.append_nil, List.flatMap_cons, List.flatMap_nil,
    List.append_nil, ← hdue.effects]
  rfl

/-- The reader is told that an acknowledgment was written, and goes on with its response. -/
theorem Balances.resume_reader (h : l.Balances setup b) {outlet : Outlet} {outcome : Outcome}
    (htell : l.session.slot.outlet.tell? .reader = some (outlet, outcome)) :
    ∃ next, (l.act (.resume .reader)).Balances setup next ∧
      (next = b ∨ ∃ a, b.progress = .acknowledging a ∧ next = b.settle a b.coming) := by
  obtain ⟨rfl, hlimit, houtbound⟩ := h.outbound.tell htell
  have hreading := h.reading
  cases hprogress : b.progress with
  | none | received a =>
    rw [hprogress] at hreading
    have hact : l.session.act (.resume .reader)
        = { l.session with slot := { l.session.slot with outlet } } := by
      simp only [Session.act, htell, Session.goOn, Slot.resumeReader, hreading, Progress.reading]
    exact ⟨b, h.told htell hact (by rw [h.log]; rfl), .inl rfl⟩
  | acknowledging a =>
    rw [hprogress] at hreading
    have hdue := Books.due_of_acknowledging hprogress h.progress
    have hact : l.session.act (.resume .reader) = { l.session with
        slot := Slot.resolve { l.session.slot with
          outlet, reading := .waiting
          log := l.session.slot.log ++ [.published (.ackSent a.call.submission.token)] }
          a.response } := by
      simp only [Session.act, htell, Session.goOn, Slot.resumeReader, hreading, Progress.reading]
      rfl
    have hbytes := h.inbound.bytes
    rw [hprogress] at hbytes
    exact ⟨_, h.settle hdue hact (by rw [h.log]; rfl) (hlimit.trans h.slot.outlet) h.slot.framer
      houtbound ⟨hbytes⟩, .inr ⟨a, rfl, rfl⟩⟩

end Link

end RadioLink
