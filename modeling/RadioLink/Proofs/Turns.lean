import RadioLink.Proofs.Slot
import RadioLink.Proofs.Wire

set_option autoImplicit false

/-! # Operations that nothing comes in between

A submission and the routing of a frame wait for a turn at the stream. Where nobody else wants the
stream they can be done from beginning to end, and are then single steps: the frame that is offered
is accepted in full, or in part before the stream fails, or it is refused before anything is
written. What such a step does to the owners of tokens, to the outlet and to the log is said here
once for each of the two. -/

namespace RadioLink

/-- What the stream does with a frame that it is offered. -/
inductive Writing
  /-- It accepts all of it. -/
  | succeeds
  /-- It accepts some of it, but not all, and fails. -/
  | fails (accepted : Nat) (reason : String)

/-! ## Idle outlets -/

namespace Outlet

/-- Nobody has a turn, waits for one, or is still to be told what one came to. -/
structure IsIdle (o : Outlet) : Prop where
  turns : o.turns = []
  outcomes : o.outcomes = []
  hasStream : o.isClosing = false → o.hasStream = true

/-- The outlet after the stream has failed. -/
def broken (o : Outlet) : Outlet :=
  { o with isClosing := true, hasStream := false }

theorem IsIdle.broken {o : Outlet} (h : o.IsIdle) : o.broken.IsIdle where
  turns := h.turns
  outcomes := h.outcomes
  hasStream := fun hopen => by cases hopen

/-- A command is refused, or a turn is asked for to write it. -/
theorem offer_cases (o : Outlet) (party : Party) (body : Bytes) :
    (∃ e, o.offer party body = .error e) ∨
    (o.isClosing = false ∧
      o.offer party body = .ok (o.enqueue party (.send (lengthPrefixed body)))) := by
  rw [offer, frameFor]
  split
  · exact .inl ⟨_, rfl⟩
  · next hopen =>
    split
    · exact .inl ⟨_, rfl⟩
    · exact .inr ⟨by simpa using hopen, rfl⟩

end Outlet

namespace Slot

variable {s : Slot}

/-! ## Turns -/

/-- The first turn is taken from beginning to end, and whoever took it is told what it came to. -/
def takeTurn (s : Slot) (writing : Writing) : Slot × Except LinkError Unit :=
  let s := match writing with
    | .succeeds => s.accept s.outlet.offered.length
    | .fails accepted reason =>
      (s.accept (min accepted (s.outlet.offered.length - 1))).failWrite reason
  let (outlet, outcomes) := s.outlet.takeOutcomes
  ({ s with outlet }, match outcomes with
    | (_, .sent result) :: _ => result
    | _ => .error .transportClosed)

/-- Effects that are bytes in the stream. -/
def AreWrites (effects : List Effect) : Prop :=
  ∀ effect ∈ effects, ∃ bytes, effect = .wrote bytes

/-- The only turn at an outlet is to write a frame: the frame is written and the outlet is as
before, or the outlet is broken. -/
theorem takeTurn_cases (h : s.outlet.IsIdle) (hopen : s.outlet.isClosing = false) (party : Party)
    {frame : Bytes} (hframe : frame ≠ []) (writing : Writing) :
    takeTurn { s with outlet := s.outlet.enqueue party (.send frame) } writing
      = ({ s with log := s.log ++ [.wrote frame] }, .ok ()) ∨
    ∃ effects reason, AreWrites effects ∧
      takeTurn { s with outlet := s.outlet.enqueue party (.send frame) } writing
        = ({ s with outlet := s.outlet.broken, log := s.log ++ effects }, .error (.io reason)) := by
  obtain ⟨options, registry, ⟨limit, isClosing, hasStream, turns, outcomes⟩, framer, reading,
    callbacks, isListening, isClosed, log⟩ := s
  obtain rfl : turns = [] := h.turns
  obtain rfl : outcomes = [] := h.outcomes
  obtain rfl : isClosing = false := hopen
  obtain rfl : hasStream = true := h.hasStream rfl
  cases writing with
  | succeeds =>
    left
    simp [takeTurn, Outlet.enqueue, Outlet.offered, accept, Outlet.accept, Outlet.finish, emit,
      Outlet.takeOutcomes, hframe]
  | fails accepted reason =>
    right
    -- Fewer bytes than there are were accepted, so the turn was not over when the stream failed.
    have hlength : 0 < frame.length := List.length_pos_iff.2 hframe
    have hleft : frame.drop (min accepted (frame.length - 1)) ≠ [] := by
      intro he
      have hle := List.drop_eq_nil_iff.1 he
      omega
    generalize hcount : min accepted (frame.length - 1) = count at hleft
    refine ⟨if (frame.take count).isEmpty then [] else [.wrote (frame.take count)], reason, ?_, ?_⟩
    · intro effect hmem
      split at hmem
      · cases hmem
      · exact ⟨_, List.mem_singleton.1 hmem⟩
    · simp only [takeTurn, Outlet.enqueue, Outlet.offered, List.nil_append, if_true, hcount]
      simp only [accept, Outlet.accept, if_true, List.isEmpty_eq_false_iff.2 hleft,
        Bool.false_eq_true, if_false]
      split <;> simp [emit, failWrite, Outlet.fail, Outlet.finish, Outlet.giveUpSends,
        Outlet.takeOutcomes, Outlet.broken]

/-- A command that is offered at an idle outlet is refused, written, or breaks the outlet. -/
theorem offer_cases (h : s.outlet.IsIdle) (party : Party) (command : Command)
    (writing : Writing) :
    (∃ e, s.offer party command = .error e) ∨
    ∃ offered, s.offer party command = .ok offered ∧ s.outlet.isClosing = false ∧
      (offered.takeTurn writing = ({ s with log := s.log ++ [.wrote command.encode] }, .ok ()) ∨
      ∃ effects reason, AreWrites effects ∧ offered.takeTurn writing
        = ({ s with outlet := s.outlet.broken, log := s.log ++ effects },
          .error (.io reason))) := by
  rw [offer]
  rcases s.outlet.offer_cases party command.encodeBody with ⟨e, he⟩ | ⟨hopen, hoffer⟩
  · exact .inl ⟨e, by rw [he]; rfl⟩
  · refine .inr ⟨_, by rw [hoffer]; rfl, hopen, ?_⟩
    exact takeTurn_cases h hopen party (lengthPrefixed_ne_nil _) writing

/-! ## Submissions -/

/-- A submission from beginning to end: if its command was offered, that command and what became of
it. -/
def submitNow (s : Slot) (writing : Writing) (chosen : Option Token) (request : RequestId)
    (payload : Payload) (sink : Sink) : Slot × Option (Command × Except LinkError Unit) :=
  match s.beginSubmission (.caller sink) chosen request payload sink with
  | (s, .error _) => (s, none)
  | (s, .ok submission) =>
    let (s, result) := s.takeTurn writing
    ((s.conclude submission result).1, some (submission.command, result))

/-- What is rolled back right after it was registered leaves no owner changed. -/
theorem owner?_rollback {before registered : Registry} {token : Token} {owner : Owner}
    (hfree : before.owner? token = none)
    (hregistered : ∀ other, registered.owner? other
      = if token = other then some owner else before.owner? other) (other : Token) :
    (registered.rollback token).owner? other = before.owner? other := by
  rw [Registry.rollback, Registry.owner?_remove, hregistered]
  split
  · next he => rw [← he, hfree]
  · rfl

/-- A submission is refused and changes no owner, or its command is written and its token is owned
by it, or the outlet breaks under its command and no owner is changed. -/
theorem submitNow_cases (h : s.outlet.IsIdle) (writing : Writing) (chosen : Option Token)
    (request : RequestId) (payload : Payload) (sink : Sink) :
    (∃ registry, s.submitNow writing chosen request payload sink = ({ s with registry }, none) ∧
      ∀ token, registry.owner? token = s.registry.owner? token) ∨
    (∃ registry command sent, s.outlet.isClosing = false ∧
      s.submitNow writing chosen request payload sink
        = ({ s with registry, log := s.log ++ [.wrote command.encode, .published sent] },
          some (command, .ok ())) ∧
      s.registry.owner? command.token = none ∧
      ∀ token, registry.owner? token = if command.token = token
        then some ⟨command.request, sink, .peer⟩ else s.registry.owner? token) ∨
    (∃ registry command effects e, s.outlet.isClosing = false ∧ AreWrites effects ∧
      s.submitNow writing chosen request payload sink
        = ({ s with registry, outlet := s.outlet.broken, log := s.log ++ effects },
          some (command, .error e)) ∧
      s.registry.owner? command.token = none ∧
      ∀ token, registry.owner? token = s.registry.owner? token) := by
  rw [submitNow, beginSubmission]
  cases hregister : s.register chosen request payload sink with
  | error e => exact .inl ⟨s.registry, rfl, fun _ => rfl⟩
  | ok result =>
    obtain ⟨registered, submission⟩ := result
    obtain ⟨rfl, hcontains, nextToken, rfl⟩ := register_ok hregister
    have hfree := Registry.owner?_eq_none_iff.2 hcontains
    generalize hregistry : { s.registry with nextToken }.add _ = registry
    have howner : ∀ token, registry.owner? token = if submission.token = token
        then some ⟨submission.request, sink, .peer⟩ else s.registry.owner? token := by
      rw [← hregistry]
      exact Registry.owner?_add hcontains
    have hrollback := owner?_rollback hfree howner
    rcases offer_cases (s := { s with registry }) h (.caller sink) submission.command writing with
      ⟨e, hoffer⟩ | ⟨offered, hoffer, hopen, hturn | ⟨effects, reason, hwrites, hturn⟩⟩
    · refine .inl ⟨registry.rollback submission.token, ?_, hrollback⟩
      simp only [hoffer, conclude]
    · refine .inr (.inl ⟨registry, submission.command, .commandSent submission.token
        submission.request submission.body.length, hopen, ?_, hfree, howner⟩)
      simp only [hoffer, hturn, conclude, publish, emit, List.append_assoc, List.singleton_append]
    · refine .inr (.inr ⟨registry.rollback submission.token, submission.command, effects,
        .io reason, hopen, hwrites, ?_, hfree, hrollback⟩)
      simp only [hoffer, hturn, conclude]

/-! ## Frames -/

/-- The routing of a frame from beginning to end: if an acknowledgment was offered, that and what
became of it. -/
def routeNow (s : Slot) (writing : Writing) (frame : Frame) :
    Slot × Option (Command × Except LinkError Unit) :=
  match s.beginRoute .reader frame with
  | (s, none) => (s, none)
  | (s, some ack) =>
    let (s, result) := s.takeTurn writing
    (s.endRoute frame ack result, some (ack, result))

/-- Effects among which there is no response. -/
def AreSilent (effects : List Effect) : Prop :=
  ∀ delivery, .resolved delivery ∉ effects

theorem AreSilent.append {first second : List Effect} (hfirst : AreSilent first)
    (hsecond : AreSilent second) : AreSilent (first ++ second) := by
  intro delivery hmem
  rcases List.mem_append.1 hmem with hmem | hmem
  · exact hfirst delivery hmem
  · exact hsecond delivery hmem

theorem areSilent_published (kind : EventKind) : AreSilent [.published kind] := by
  intro delivery hmem
  cases List.mem_singleton.1 hmem

theorem AreWrites.areSilent {effects : List Effect} (h : AreWrites effects) :
    AreSilent effects := by
  intro delivery hmem
  obtain ⟨bytes, he⟩ := h _ hmem
  cases he

/-- What the routing of a frame does to the owners of tokens and to sinks: a response takes the
token of a request to the peer away and may be delivered for it; everything else leaves both. -/
inductive Routes (s : Slot) (frame : Frame) (registry : Registry) (effects : List Effect) : Prop
  | response (entry : PendingRequest) (hkind : frame.kind.isResponse = true)
    (htoken : entry.token = frame.token) (horigin : entry.origin = .peer)
    (howner : s.registry.owner? frame.token = some entry.owner)
    (howners : ∀ token, registry.owner? token
      = if frame.token = token then none else s.registry.owner? token)
    (hdelivered : ∀ delivery, .resolved delivery ∈ effects → delivery
      = ⟨entry.sink, s.buildResponse entry frame.request frame.status frame.payload⟩)
  | silent (hsilent : AreSilent effects)
    (howners : ∀ token, registry.owner? token = s.registry.owner? token)
    (hunmatched : frame.kind.isResponse = true →
      ∀ owner, s.registry.owner? frame.token = some owner → owner.origin ≠ .peer)

theorem buildResponse_congr {t : Slot} (hcallbacks : s.callbacks = t.callbacks)
    (hslot : s.registry.slot = t.registry.slot) : s.buildResponse = t.buildResponse := by
  funext pending decodeAs status payload
  simp only [buildResponse, id, hcallbacks, hslot]

/-- What happens silently before a frame is resolved adds nothing to what its routing does. -/
theorem Routes.after {t : Slot} {frame : Frame} {registry : Registry} {effects earlier : List Effect}
    (h : Routes t frame registry effects) (hcallbacks : s.callbacks = t.callbacks)
    (hslot : s.registry.slot = t.registry.slot)
    (hsame : ∀ token, t.registry.owner? token = s.registry.owner? token)
    (hsilent : AreSilent earlier) : Routes s frame registry (earlier ++ effects) := by
  cases h with
  | response entry hkind htoken horigin howner howners hdelivered =>
    refine .response entry hkind htoken horigin ((hsame _).symm.trans howner) ?_ ?_
    · intro token
      rw [howners, hsame]
    · intro delivery hmem
      rw [buildResponse_congr hcallbacks hslot]
      rcases List.mem_append.1 hmem with hmem | hmem
      · exact absurd hmem (hsilent delivery)
      · exact hdelivered delivery hmem
  | silent hlater howners hunmatched =>
    refine .silent (hsilent.append hlater) ?_ ?_
    · intro token
      rw [howners, hsame]
    · intro hkind owner howner
      exact hunmatched hkind owner ((hsame _).trans howner)

/-- Taking in a frame changes no owner and resolves nothing. -/
theorem receive_silent (s : Slot) (frame : Frame) :
    ∃ registry effects, (s.receive frame).1 = { s with registry, log := s.log ++ effects } ∧
      registry.slot = s.registry.slot ∧ AreSilent effects ∧
      ∀ token, registry.owner? token = s.registry.owner? token := by
  unfold receive
  cases frame.kind with
  | solicitedAckExpected =>
    have hslot := s.registry.slot_beginAck frame.token
    have howner := s.registry.owner?_beginAck frame.token
    cases hack : s.registry.beginAck frame.token with
    | mk registry decision =>
      rw [hack] at hslot howner
      cases decision with
      | send =>
        simp only [publish, emit, hack]
        exact ⟨registry, _, rfl, hslot, areSilent_published _, howner⟩
      | unknown =>
        simp only [publish, emit, hack]
        exact ⟨s.registry, _, rfl, rfl, areSilent_published _, fun _ => rfl⟩
      | duplicate =>
        simp only [publish, emit, hack, List.append_assoc]
        exact ⟨s.registry, _, rfl, rfl,
          (areSilent_published _).append (areSilent_published _), fun _ => rfl⟩
  | solicited | unsolicited | solicitedAck | unsolicitedAckExpected =>
    exact ⟨s.registry, _, rfl, rfl, areSilent_published _, fun _ => rfl⟩

/-- Whatever a frame is acknowledged with is an acknowledgment. -/
theorem isAck_of_receive {frame : Frame} {ack : Command} (h : (s.receive frame).2 = some ack) :
    ack.isAck = true := by
  simp only [receive] at h
  split at h
  · split at h <;> cases h
    all_goals rfl
  · cases h
    rfl
  all_goals cases h

theorem resolveResponse_routes (s : Slot) {frame : Frame} (hkind : frame.kind.isResponse = true) :
    ∃ registry effects,
      s.resolveResponse frame = { s with registry, log := s.log ++ effects } ∧
      Routes s frame registry effects := by
  unfold resolveResponse
  rcases Registry.complete_cases s.registry frame.token .peer with
    ⟨entry, hfind, horigin, hcomplete⟩ | ⟨hcomplete, hother⟩
  · have htoken := Registry.token_of_find? hfind
    have howner := Registry.owner?_of_find? hfind
    have howners := fun token => s.registry.owner?_remove frame.token token
    cases hcancelled : entry.isCancelled with
    | false =>
      simp only [hcomplete, hcancelled, Bool.false_eq_true, if_false, deliver, emit]
      refine ⟨_, _, rfl, .response entry hkind htoken horigin howner howners ?_⟩
      intro delivery hmem
      cases List.mem_singleton.1 hmem
      rfl
    | true =>
      simp only [hcomplete, hcancelled, if_true]
      refine ⟨_, [], by rw [List.append_nil], ?_⟩
      refine .response entry hkind htoken horigin howner howners ?_
      intro delivery hmem
      cases hmem
  · simp only [hcomplete, publish, emit]
    refine ⟨_, _, rfl, .silent (areSilent_published _) (fun _ => rfl) ?_⟩
    intro _ owner howner horigin
    obtain ⟨entry, hfind, rfl⟩ := Option.map_eq_some_iff.1 howner
    exact hother entry hfind horigin

/-- Resolving a frame does what its routing is to do. -/
theorem resolve_routes (s : Slot) (frame : Frame) :
    ∃ registry effects, s.resolve frame = { s with registry, log := s.log ++ effects } ∧
      Routes s frame registry effects := by
  unfold resolve
  cases hkind : frame.kind with
  | solicited => exact s.resolveResponse_routes (by rw [hkind]; rfl)
  | solicitedAckExpected => exact s.resolveResponse_routes (by rw [hkind]; rfl)
  | solicitedAck =>
    have howner := s.registry.owner?_markReceived frame.token
    have hresponse : ¬ frame.kind.isResponse = true := by rw [hkind]; decide
    unfold resolveReceipt
    cases hmarked : s.registry.markReceived frame.token with
    | mk registry isMarked =>
      rw [hmarked] at howner
      cases isMarked with
      | true =>
        exact ⟨registry, _, rfl, .silent (areSilent_published _) howner
          fun h => absurd h hresponse⟩
      | false =>
        exact ⟨s.registry, _, rfl, .silent (areSilent_published _) (fun _ => rfl)
          fun h => absurd h hresponse⟩
  | unsolicited | unsolicitedAckExpected =>
    have hresponse : ¬ frame.kind.isResponse = true := by rw [hkind]; decide
    have hsilent : AreSilent [] := fun _ hmem => by cases hmem
    simp only [resolveIndication]
    split
    · exact ⟨s.registry, [], by rw [List.append_nil], .silent hsilent (fun _ => rfl)
        fun h => absurd h hresponse⟩
    · split
      · refine ⟨s.registry, _, rfl, .silent ?_ (fun _ => rfl) fun h => absurd h hresponse⟩
        intro delivery hmem
        cases List.mem_singleton.1 hmem
      · exact ⟨s.registry, [], by rw [List.append_nil], .silent hsilent (fun _ => rfl)
          fun h => absurd h hresponse⟩

/-- The routing of a frame does what it is to do, also if it needs an acknowledgment and this is
refused or breaks the outlet. -/
theorem routeNow_routes (h : s.outlet.IsIdle) (writing : Writing) (frame : Frame) :
    ∃ registry outlet effects given,
      s.routeNow writing frame
        = ({ s with registry, outlet, log := s.log ++ effects }, given) ∧
      Routes s frame registry effects ∧
      (outlet = s.outlet ∨ outlet = s.outlet.broken) ∧
      ∀ ack result, given = some (ack, result) → ack.isAck = true := by
  obtain ⟨registry, effects, hreceive, hslot, hsilent, howner⟩ := s.receive_silent frame
  -- However the acknowledgment went, the frame is then resolved.
  have hfinish : ∀ outlet more, AreSilent more → ∃ resolved later,
      resolve { s with registry, outlet, log := s.log ++ (effects ++ more) } frame
        = { s with registry := resolved, outlet, log := s.log ++ (effects ++ more ++ later) } ∧
      Routes s frame resolved (effects ++ more ++ later) := by
    intro outlet more hmore
    obtain ⟨resolved, later, hresolve, hroutes⟩ :=
      resolve_routes { s with registry, outlet, log := s.log ++ (effects ++ more) } frame
    refine ⟨resolved, later, ?_, hroutes.after rfl hslot.symm howner (hsilent.append hmore)⟩
    rw [hresolve]
    simp only [List.append_assoc]
  have hunacked : AreSilent [] := fun _ hmem => by cases hmem
  rw [routeNow, beginRoute]
  cases hack : s.receive frame with
  | mk received offered =>
    rw [hack] at hreceive
    obtain rfl : received = { s with registry, log := s.log ++ effects } := hreceive
    cases offered with
    | none =>
      obtain ⟨resolved, later, hresolve, hroutes⟩ := hfinish s.outlet [] hunacked
      simp only [List.append_nil] at hresolve hroutes
      refine ⟨resolved, s.outlet, _, none, ?_, hroutes, .inl rfl, fun _ _ he => by cases he⟩
      simp only [hresolve]
    | some ack =>
      have hisAck := isAck_of_receive (congrArg Prod.snd hack)
      rcases offer_cases (s := { s with registry, log := s.log ++ effects }) h .reader ack writing
        with ⟨e, hoffer⟩ | ⟨offered, hoffer, _, hturn | ⟨writes, reason, hwrites, hturn⟩⟩
      · obtain ⟨resolved, later, hresolve, hroutes⟩ := hfinish s.outlet [] hunacked
        simp only [List.append_nil] at hresolve hroutes
        refine ⟨resolved, s.outlet, _, none, ?_, hroutes, .inl rfl, fun _ _ he => by cases he⟩
        simp only [hoffer, acknowledged, hresolve]
      · have hacked : AreSilent ([.wrote ack.encode] ++ [.published (.ackSent ack.token)]) := by
          refine AreSilent.append ?_ (areSilent_published _)
          intro delivery hmem
          cases List.mem_singleton.1 hmem
        obtain ⟨resolved, later, hresolve, hroutes⟩ := hfinish s.outlet _ hacked
        refine ⟨resolved, s.outlet, _, some (ack, .ok ()), ?_, hroutes, .inl rfl, ?_⟩
        · simp only [hoffer, hturn, endRoute, acknowledged, publish, emit, List.append_assoc]
          simp only [List.append_assoc] at hresolve
          rw [hresolve]
        · intro _ _ he
          cases he
          exact hisAck
      · obtain ⟨resolved, later, hresolve, hroutes⟩ :=
          hfinish s.outlet.broken writes hwrites.areSilent
        refine ⟨resolved, s.outlet.broken, _, some (ack, .error (.io reason)), ?_, hroutes,
          .inr rfl, ?_⟩
        · simp only [hoffer, hturn, endRoute, acknowledged, List.append_assoc]
          simp only [List.append_assoc] at hresolve
          rw [hresolve]
        · intro _ _ he
          cases he
          exact hisAck

end Slot

end RadioLink
