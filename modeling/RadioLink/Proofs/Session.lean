import RadioLink.Proofs.Slot

set_option autoImplicit false

/-! # Slots in use

A slot is called by any number of callers, its stream takes bytes or fails, its reader takes in what
arrives, and whoever had a turn at the stream goes on some time after that. `Session.step` lets one
of these things happen, and a run is any list of them: nothing is assumed about the order, and a
step that cannot be taken changes nothing.

A session notes in its trace what the slot did, and whether its reader did it. Most steps change the
registry and the outlet of a slot and nothing else of it; `Slot.Does` says so together with the
effects of the step. -/

namespace RadioLink

/-! ## Steps -/

/-- What can happen to a slot. -/
inductive Action
  /-- A request to the peer is submitted. -/
  | submit (chosen : Option Token) (request : RequestId) (payload : Payload)
  | submitLocal (request : RequestId) (data : Bytes)
  | completeLocal (token : Token) (status : Status) (payload : Bytes)
  /-- A caller withdraws its interest, or its time is up. -/
  | cancel (token : Token)
  | registerCallbacks (callbacks : Callbacks)
  | listen (isListening : Bool)
  | shutDown
  /-- The slot is let go of. -/
  | abandon
  /-- A caller vanishes while it waits for its turn or has it. -/
  | vanish (ticket : Nat)
  /-- Whoever had a turn goes on. -/
  | resume (party : Party)
  /-- The stream accepts some of the bytes that it is offered. -/
  | accept (count : Nat)
  | failWrite (reason : String)
  /-- The turns that are not for writing are taken. -/
  | attend
  | arrive (bytes : Bytes)
  /-- The reader takes the next frame. -/
  | read
  | endOfStream
  | failRead (reason : String)

/-- Something that a slot did. -/
structure Noted where
  byReader : Bool
  effect : Effect

/-- A slot in use. Callers are known by their tickets, which are counted from zero; the ticket of a
submission is its sink. -/
structure Session where
  slot : Slot
  /-- The next ticket. -/
  tickets : Nat := 0
  /-- The submissions whose command is to be written, by the tickets of their callers. -/
  submissions : List (Nat × Submission) := []
  /-- What has arrived from the peer. -/
  arrived : Bytes := []
  /-- What the slot did, oldest first. -/
  trace : List Noted := []

/-- The reader goes on with what arrives. -/
def Reading.isLive : Reading → Bool
  | waiting | acknowledging .. => true
  | closing | stopped => false

/-- The responses that went to a ticket. -/
def responsesTo (trace : List Noted) (ticket : Nat) : List Response :=
  trace.filterMap fun noted => noted.effect.responseTo? ticket

/-- Takes away the first thing that a party is to be told. -/
def Outlet.tell? (o : Outlet) (party : Party) : Option (Outlet × Outcome) :=
  (o.outcomes.find? fun entry => entry.1 == party).map fun entry =>
    ({ o with outcomes := o.outcomes.eraseP fun entry => entry.1 == party }, entry.2)

theorem mem_of_lookup {key value : Type} [BEq key] [LawfulBEq key] {entries : List (key × value)}
    {k : key} {v : value} (h : entries.lookup k = some v) : (k, v) ∈ entries := by
  obtain ⟨_, _, rfl, -⟩ := List.lookup_eq_some_iff.1 h
  exact List.mem_append_right _ List.mem_cons_self

namespace Session

/-- A party goes on after its turn. -/
def goOn (x : Session) (outcome : Outcome) : Party → Session
  | .reader => { x with slot := x.slot.resumeReader outcome }
  | .caller ticket =>
    match outcome, x.submissions.lookup ticket with
    | .sent result, some submission =>
      { x with
        slot := (x.slot.conclude submission result).1
        submissions := x.submissions.filter fun entry => entry.1 != ticket }
    | _, _ => x

/-- What happens to a slot, before the session takes note of it. -/
def act (x : Session) : Action → Session
  | .submit chosen request payload =>
    let (slot, result) :=
      x.slot.beginSubmission (.caller x.tickets) chosen request payload x.tickets
    { x with
      slot, tickets := x.tickets + 1
      submissions := match result with
        | .ok submission => x.submissions ++ [(x.tickets, submission)]
        | .error _ => x.submissions }
  | .submitLocal request data =>
    { x with
      slot := (x.slot.submitLocal request data x.tickets).1, tickets := x.tickets + 1 }
  | .completeLocal token status payload =>
    { x with slot := (x.slot.completeLocal token status payload).1 }
  | .cancel token => { x with slot := (x.slot.cancel token).1 }
  | .registerCallbacks callbacks => { x with slot := x.slot.registerCallbacks callbacks }
  | .listen isListening => { x with slot := { x.slot with isListening } }
  | .shutDown =>
    { x with slot := (x.slot.shutDownNow (.caller x.tickets)).1, tickets := x.tickets + 1 }
  | .abandon => { x with slot := x.slot.abandonNow }
  | .vanish ticket =>
    { x with
      slot := { x.slot with outlet := x.slot.outlet.leave (.caller ticket) }
      submissions := x.submissions.filter fun entry => entry.1 != ticket }
  | .resume party =>
    match x.slot.outlet.tell? party with
    | some (outlet, outcome) => { x with slot := { x.slot with outlet } }.goOn outcome party
    | none => x
  | .accept count => { x with slot := x.slot.accept count }
  | .failWrite reason => { x with slot := x.slot.failWrite reason }
  | .attend => { x with slot := { x.slot with outlet := x.slot.outlet.attend.1 } }
  | .arrive bytes => { x with slot := x.slot.arrive bytes, arrived := x.arrived ++ bytes }
  | .read =>
    match x.slot.readNext? with
    | some slot => { x with slot }
    | none => x
  | .endOfStream =>
    match x.slot.reading with
    | .waiting => { x with slot := x.slot.endOfStream }
    | _ => x
  | .failRead reason =>
    match x.slot.reading with
    | .waiting => { x with slot := x.slot.closeFromReaderNow (LinkError.io reason).message }
    | _ => x

/-- Whether it is the reader that acts. The stream accepts bytes of whoever has the first turn. -/
def isReaders (x : Session) : Action → Bool
  | .read | .endOfStream | .failRead _ => true
  | .resume party => party == .reader
  | .accept _ => x.slot.outlet.turns.head?.any fun turn => turn.party == .reader
  | _ => false

/-- Lets something happen, and takes note of what the slot did. -/
def step (x : Session) (action : Action) : Session :=
  let next := x.act action
  { next with
    slot := next.slot.takeLog.1
    trace := x.trace ++ next.slot.log.map (Noted.mk (x.isReaders action)) }

/-- Lets things happen one after the other. -/
def run (x : Session) (actions : List Action) : Session :=
  actions.foldl step x

/-- A slot that has just started to read. -/
def start (id : SlotId) (options : SlotOptions) : Session where
  slot := (Slot.start id options).takeLog.1
  trace := (Slot.start id options).log.map (Noted.mk false)

variable {x : Session}

/-- What every step keeps, every run keeps. -/
theorem run_induction {P : Session → Prop} (hstep : ∀ x action, P x → P (x.step action))
    (h : P x) (actions : List Action) : P (x.run actions) := by
  induction actions generalizing x with
  | nil => exact h
  | cons action actions ih => exact ih (hstep x action h)

theorem run_append (x : Session) (actions more : List Action) :
    x.run (actions ++ more) = (x.run actions).run more :=
  List.foldl_append

/-- What the slot did since the step before is what a step notes. -/
theorem trace_step (action : Action) {effects : List Effect} (hlog : x.slot.log = [])
    (h : (x.act action).slot.log = x.slot.log ++ effects) :
    (x.step action).trace = x.trace ++ effects.map (Noted.mk (x.isReaders action)) := by
  rw [hlog, List.nil_append] at h
  rw [step, h]

/-- A run notes what its first step notes and then what the rest of it notes. -/
theorem trace_run_cons (action : Action) {actions : List Action} {effects : List Effect}
    {later : List Noted} (hlog : x.slot.log = [])
    (h : (x.act action).slot.log = x.slot.log ++ effects)
    (hlater : ((x.step action).run actions).trace = (x.step action).trace ++ later) :
    (x.run (action :: actions)).trace
      = x.trace ++ (effects.map (Noted.mk (x.isReaders action)) ++ later) := by
  rw [trace_step action hlog h, List.append_assoc] at hlater
  exact hlater

theorem map_effect_noted (effects : List Effect) (byReader : Bool) :
    (effects.map (Noted.mk byReader)).map (·.effect) = effects := by
  rw [List.map_map]
  exact List.map_id effects

/-- A step in which nothing happens changes nothing. -/
theorem step_of_idle {action : Action} (hlog : x.slot.log = []) (hact : x.act action = x) :
    x.step action = x := by
  have hslot : x.slot.takeLog.1 = x.slot := by rw [Slot.takeLog, ← hlog]
  rw [step, hact, hslot, hlog, List.map_nil, List.append_nil]

end Session

/-! ## What a step leaves as it is -/

/-- What is done for callers. -/
def Effect.isForCallers : Effect → Bool
  | .published (.commandSent ..) | .resolved _ | .served .. | .withdrawn _ => true
  | _ => false

/-- What can come of a frame when it is resolved. -/
def Effect.isResolution : Effect → Bool
  | .published (.requestAcknowledged _) | .published (.unmatchedToken ..) | .resolved _
  | .indicated _ => true
  | _ => false

/-- The observers are told that a frame was read. -/
def Frame.received (frame : Frame) : Effect :=
  .published (.frameReceived frame.kind frame.token frame.id frame.status frame.payload.length)

namespace Slot

/-- A step changes the registry and the outlet only, and has these effects. -/
def Does (before after : Slot) (effects : List Effect) : Prop :=
  after = { before with
    registry := after.registry, outlet := after.outlet, log := before.log ++ effects }

section Does

variable {before between after : Slot} {effects more : List Effect}

theorem does_refl (s : Slot) : s.Does s [] := by
  rw [Does, List.append_nil]

theorem does_registry (s : Slot) (registry : Registry) : s.Does { s with registry } [] := by
  rw [Does, List.append_nil]

theorem does_emit (s : Slot) (registry : Registry) (effect : Effect) :
    s.Does ({ s with registry }.emit effect) [effect] :=
  rfl

theorem Does.trans (hfirst : before.Does between effects) (hsecond : between.Does after more) :
    before.Does after (effects ++ more) := by
  rw [Does] at *
  rw [hsecond, hfirst, List.append_assoc]

theorem Does.log (h : before.Does after effects) : after.log = before.log ++ effects := by
  rw [h]

theorem Does.reading (h : before.Does after effects) : after.reading = before.reading := by
  rw [h]

theorem Does.framer (h : before.Does after effects) : after.framer = before.framer := by
  rw [h]

theorem Does.isClosed (h : before.Does after effects) : after.isClosed = before.isClosed := by
  rw [h]

end Does

/-! ### Calls -/

theorem does_cancel (s : Slot) (token : Token) :
    ∃ effects, s.Does (s.cancel token).1 effects ∧
      ∀ effect ∈ effects, effect.isForCallers = true := by
  rw [cancel]
  split
  · exact ⟨_, does_emit s _ _, List.forall_mem_singleton.2 rfl⟩
  · exact ⟨[], does_refl s, List.forall_mem_nil _⟩

theorem does_completeLocal (s : Slot) (token : Token) (status : Status) (payload : Bytes) :
    ∃ effects, s.Does (s.completeLocal token status payload).1 effects ∧
      ∀ effect ∈ effects, effect.isForCallers = true := by
  rw [completeLocal]
  split
  · exact ⟨_, does_emit s _ _, List.forall_mem_singleton.2 rfl⟩
  · exact ⟨[], does_registry s _, List.forall_mem_nil _⟩
  · exact ⟨[], does_refl s, List.forall_mem_nil _⟩

theorem does_completeLocalAll (s : Slot) (token : Token) (completions : List (Status × Bytes)) :
    ∃ effects, s.Does (s.completeLocalAll token completions).1 effects ∧
      ∀ effect ∈ effects, effect.isForCallers = true := by
  induction completions generalizing s with
  | nil => exact ⟨[], does_refl s, List.forall_mem_nil _⟩
  | cons completion completions ih =>
    obtain ⟨effects, hfirst, heffects⟩ := s.does_completeLocal token completion.1 completion.2
    obtain ⟨more, hothers, hmore⟩ := ih (s.completeLocal token completion.1 completion.2).1
    exact ⟨effects ++ more, hfirst.trans hothers, List.forall_mem_append.2 ⟨heffects, hmore⟩⟩

theorem does_submitLocal (s : Slot) (request : RequestId) (data : Bytes) (sink : Sink) :
    ∃ effects, s.Does (s.submitLocal request data sink).1 effects ∧
      ∀ effect ∈ effects, effect.isForCallers = true := by
  rw [submitLocal]
  split
  · exact ⟨[], does_refl s, List.forall_mem_nil _⟩
  · split
    · exact ⟨[], does_refl s, List.forall_mem_nil _⟩
    · next registry token _ =>
      obtain ⟨effects, hcompleted, heffects⟩ := does_completeLocalAll { s with registry } token
        (s.callbacks.vendor.serve request token data).completions
      dsimp only
      generalize completeLocalAll { s with registry } token
        (s.callbacks.vendor.serve request token data).completions = result at hcompleted ⊢
      obtain ⟨completed, taken⟩ := result
      have hserved : s.Does (completed.emit (.served request token data taken))
          (effects ++ [.served request token data taken]) :=
        ((does_registry s registry).trans hcompleted).trans (does_emit completed _ _)
      have hforCallers : ∀ effect ∈ effects ++ [.served request token data taken],
          effect.isForCallers = true :=
        List.forall_mem_append.2 ⟨heffects, List.forall_mem_singleton.2 rfl⟩
      split
      · exact ⟨_, hserved, hforCallers⟩
      · refine ⟨_, hserved.trans (does_registry _ _), ?_⟩
        rw [List.append_nil]
        exact hforCallers

theorem does_conclude (s : Slot) (submission : Submission) (result : Except LinkError Unit) :
    ∃ effects, s.Does (s.conclude submission result).1 effects ∧
      ∀ effect ∈ effects, ∃ token request length,
        effect = .published (.commandSent token request length) := by
  cases result with
  | ok _ => exact ⟨_, does_emit s _ _, List.forall_mem_singleton.2 ⟨_, _, _, rfl⟩⟩
  | error e => exact ⟨[], does_registry s _, List.forall_mem_nil _⟩

theorem does_offer {s offered : Slot} {party : Party} {command : Command}
    (h : s.offer party command = .ok offered) : s.Does offered [] := by
  rw [offer] at h
  cases houtlet : s.outlet.offer party command.encodeBody with
  | error e =>
    rw [houtlet] at h
    cases h
  | ok outlet =>
    rw [houtlet] at h
    cases h
    rw [Does, List.append_nil]

theorem does_beginSubmission (s : Slot) (party : Party) (chosen : Option Token)
    (request : RequestId) (payload : Payload) (sink : Sink) :
    s.Does (s.beginSubmission party chosen request payload sink).1 [] := by
  rcases s.beginSubmission_cases party chosen request payload sink with
    ⟨e, nextToken, hbegin⟩ | ⟨submission, nextToken, outlet, -, -, -, -, hbegin⟩ <;>
    rw [hbegin, Does, List.append_nil]

/-! ### Frames -/

theorem does_receive (s : Slot) (frame : Frame) :
    s.Does (s.receive frame).1 (frame.received
      :: if frame.kind = .solicitedAckExpected ∧
            (s.registry.beginAck frame.token).2 = .duplicate
          then [.published (.duplicateAck frame.token)] else []) := by
  unfold receive Frame.received
  cases hkind : frame.kind with
  | solicitedAckExpected =>
    cases hack : s.registry.beginAck frame.token with
    | mk registry decision =>
      cases decision with
      | send => simp [publish, emit, hack, Does]
      | unknown => simp [publish, emit, hack, Does]
      | duplicate => simp [publish, emit, hack, Does]
  | solicited | unsolicited | solicitedAck | unsolicitedAckExpected =>
    simp [publish, emit, Does]

/-- One effect that resolves a frame. -/
theorem does_resolution (s : Slot) (registry : Registry) {effect : Effect}
    (h : effect.isResolution = true) :
    ∃ effects, s.Does ({ s with registry }.emit effect) effects ∧
      ∀ effect ∈ effects, effect.isResolution = true :=
  ⟨_, does_emit s registry effect, List.forall_mem_singleton.2 h⟩

theorem does_resolveResponse (s : Slot) (frame : Frame) :
    ∃ effects, s.Does (s.resolveResponse frame) effects ∧
      ∀ effect ∈ effects, effect.isResolution = true := by
  unfold resolveResponse
  split
  · exact does_resolution s _ rfl
  · exact ⟨[], does_registry s _, List.forall_mem_nil _⟩
  · exact does_resolution s s.registry rfl

theorem does_resolveReceipt (s : Slot) (frame : Frame) :
    ∃ effects, s.Does (s.resolveReceipt frame) effects ∧
      ∀ effect ∈ effects, effect.isResolution = true := by
  unfold resolveReceipt
  split
  · exact does_resolution s _ rfl
  · exact does_resolution s s.registry rfl

theorem does_resolveIndication (s : Slot) (frame : Frame) :
    ∃ effects, s.Does (s.resolveIndication frame) effects ∧
      ∀ effect ∈ effects, effect.isResolution = true := by
  unfold resolveIndication
  split
  · exact ⟨[], does_refl s, List.forall_mem_nil _⟩
  · split
    · exact does_resolution s s.registry rfl
    · exact ⟨[], does_refl s, List.forall_mem_nil _⟩

theorem does_resolve (s : Slot) (frame : Frame) :
    ∃ effects, s.Does (s.resolve frame) effects ∧
      ∀ effect ∈ effects, effect.isResolution = true := by
  unfold resolve
  cases frame.kind with
  | solicited | solicitedAckExpected => exact s.does_resolveResponse frame
  | solicitedAck => exact s.does_resolveReceipt frame
  | unsolicited | unsolicitedAckExpected => exact s.does_resolveIndication frame

/-- What becomes of a frame when the reader has taken it: it is resolved at once, also if its
acknowledgment is refused, or its acknowledgment is offered first. -/
theorem beginRoute_cases (s : Slot) (party : Party) (frame : Frame) :
    ((s.receive frame).2 = none ∧
      s.beginRoute party frame = ((s.receive frame).1.resolve frame, none)) ∨
    (∃ ack e, (s.receive frame).2 = some ack ∧ (s.receive frame).1.offer party ack = .error e ∧
      s.beginRoute party frame = ((s.receive frame).1.resolve frame, none)) ∨
    ∃ ack offered, (s.receive frame).2 = some ack ∧
      (s.receive frame).1.offer party ack = .ok offered ∧
      s.beginRoute party frame = (offered, some ack) := by
  rw [beginRoute]
  cases hreceive : s.receive frame with
  | mk received given =>
    cases given with
    | none => exact .inl ⟨rfl, rfl⟩
    | some ack =>
      cases hoffer : received.offer party ack with
      | error e => exact .inr (.inl ⟨ack, e, rfl, hoffer, by simp only [hoffer, acknowledged]⟩)
      | ok offered => exact .inr (.inr ⟨ack, offered, rfl, hoffer, by simp only [hoffer]⟩)

/-- A reader that waits takes a frame, meets bytes that are none, or goes on waiting. -/
theorem readNext?_cases {s : Slot} (hwaiting : s.reading = .waiting) :
    (s.framer.nextFrame.2 = none ∧ s.readNext? = none) ∨
    (∃ e, s.framer.nextFrame.2 = some (.error e) ∧
      s.readNext? = some ({ s with framer := s.framer.nextFrame.1 }.closeFromReaderNow
        (LinkError.framing e).message)) ∨
    ∃ frame, s.framer.nextFrame.2 = some (.ok frame) ∧
      let begun := { s with framer := s.framer.nextFrame.1 }.beginRoute .reader frame
      s.readNext? = some (match begun.2 with
        | none => begun.1
        | some ack => { begun.1 with reading := .acknowledging frame ack }) := by
  obtain ⟨options, registry, outlet, framer, reading, callbacks, isListening, isClosed, log⟩ := s
  obtain rfl : reading = .waiting := hwaiting
  simp only [readNext?]
  cases hnext : framer.nextFrame with
  | mk framer result =>
    cases result with
    | none => exact .inl ⟨rfl, rfl⟩
    | some result =>
      cases result with
      | error e => exact .inr (.inl ⟨e, rfl, rfl⟩)
      | ok frame =>
        refine .inr (.inr ⟨frame, rfl, ?_⟩)
        dsimp only
        split
        · next begun hbegun => rw [hbegun]
        · next begun ack hbegun => rw [hbegun]

theorem readNext?_of_frame {s : Slot} {frame : Frame} (hwaiting : s.reading = .waiting)
    (hframe : s.framer.nextFrame.2 = some (.ok frame)) :
    let begun := { s with framer := s.framer.nextFrame.1 }.beginRoute .reader frame
    s.readNext? = some (match begun.2 with
      | none => begun.1
      | some ack => { begun.1 with reading := .acknowledging frame ack }) := by
  rcases readNext?_cases hwaiting with ⟨hnone, -⟩ | ⟨e, herror, -⟩ | ⟨other, hother, hread⟩
  · rw [hframe] at hnone
    cases hnone
  · rw [hframe] at herror
    cases herror
  · rw [hframe] at hother
    cases hother
    exact hread

theorem readNext?_of_not_waiting {s : Slot} (h : s.reading ≠ .waiting) : s.readNext? = none := by
  rw [readNext?]
  split
  · next hwaiting => exact absurd hwaiting h
  · rfl

/-! ### The stream -/

theorem does_accept (s : Slot) (count : Nat) :
    s.Does (s.accept count)
      (if (s.outlet.accept count).2.isEmpty then [] else [.wrote (s.outlet.accept count).2]) := by
  rw [accept]
  dsimp only
  split
  · rw [Does, List.append_nil]
  · rfl

end Slot

namespace Outlet

/-- Telling a party what came of its turn changes nothing else. -/
theorem of_tell? {o next : Outlet} {party : Party} {outcome : Outcome}
    (h : o.tell? party = some (next, outcome)) :
    (party, outcome) ∈ o.outcomes ∧
      next = { o with outcomes := o.outcomes.eraseP fun entry => entry.1 == party } := by
  obtain ⟨⟨who, what⟩, hfind, hentry⟩ := Option.map_eq_some_iff.1 h
  cases hentry
  have hwho : who = party := by simpa using List.find?_some hfind
  exact ⟨hwho ▸ List.mem_of_find?_eq_some hfind, rfl⟩

/-- Attending takes turns away and leaves it open whether more is accepted. -/
theorem attend_spec (o : Outlet) :
    o.attend.1.isClosing = o.isClosing ∧ o.attend.1.turns ⊆ o.turns := by
  fun_induction attend o with
  | case1 o party turns hturns ih =>
    exact ⟨ih.1, fun turn hmem => hturns ▸ List.mem_cons_of_mem _ (ih.2 hmem)⟩
  | case2 o party turns hturns next _ hnext ih =>
    rw [hnext] at ih
    exact ⟨ih.1, fun turn hmem => hturns ▸ List.mem_cons_of_mem _ (ih.2 hmem)⟩
  | case3 o => exact ⟨rfl, List.Subset.refl _⟩

end Outlet

namespace Session

/-- Whoever goes on after a turn asks for no other. -/
theorem outlet_goOn (x : Session) (outcome : Outcome) (party : Party) :
    (x.goOn outcome party).slot.outlet = x.slot.outlet := by
  unfold goOn
  cases party with
  | reader =>
    dsimp only
    unfold Slot.resumeReader
    split
    · next frame ack result _ =>
      rw [Slot.endRoute, Slot.outlet_resolve]
      cases result <;> rfl
    · rfl
    · rfl
  | caller ticket =>
    dsimp only
    split
    · exact Slot.outlet_conclude _ _ _
    · rfl

end Session

end RadioLink
