import RadioLink.Proofs.Tickets

set_option autoImplicit false

/-! # Requests to the peer and requests served in process are kept apart

Both kinds are pending in one registry, under tokens of one kind. Yet nothing that the peer sends
touches a request that is served in process: it stays pending with all its marks, nothing goes to
its sink, and every frame that carries its token is reported as one that nobody waits for. And
nothing that the vendor completes touches a request to the peer, or what is remembered of
acknowledgments, or the stream.

`Session.LeavesLocals` says the one, `Session.LeavesRemotes` says the other. A frame that has to be
acknowledged is reported some time after it was read, so the frames that were read and the frames
that were reported are compared in `LeavesLocals` up to the one that the reader has in hand. -/

namespace RadioLink

namespace Registry

variable {r after : Registry} {tickets : Nat} {settled : List Sink} {token : Token}
  {origin : Origin}

/-! ## The two kinds of requests -/

/-- The pending requests that one side serves. -/
def servedBy (r : Registry) (origin : Origin) : List PendingRequest :=
  r.entries.filter fun entry => entry.origin == origin

/-- The tokens of the requests that are served in process. -/
def localTokens (r : Registry) : List Token :=
  (r.servedBy .vendor).map (·.token)

theorem mem_servedBy {entry : PendingRequest} :
    entry ∈ r.servedBy origin ↔ entry ∈ r.entries ∧ entry.origin = origin := by
  simp [servedBy]

theorem mem_servedBy_of_find? {entry : PendingRequest} (h : r.find? token = some entry) :
    entry ∈ r.servedBy entry.origin :=
  mem_servedBy.2 ⟨mem_of_find? h, rfl⟩

/-- What is under a token of the other side is no request of this side. -/
theorem IsSound.ne_origin (h : r.IsSound tickets settled) {entry : PendingRequest}
    (hfind : r.find? token = some entry) (origin : Origin) (horigin : entry.origin ≠ origin) :
    ∀ other ∈ r.entries, other.token = token → other.origin ≠ origin := by
  intro other hmem htoken
  rwa [h.eq_of_token hfind hmem htoken]

theorem servedBy_remove (h : ∀ entry ∈ r.entries, entry.token = token → entry.origin ≠ origin) :
    (r.remove token).servedBy origin = r.servedBy origin := by
  simp only [servedBy, remove, List.filter_filter]
  refine List.filter_congr fun entry hmem => ?_
  by_cases htoken : entry.token = token
  · simp [beq_eq_false_iff_ne.2 (h entry hmem htoken)]
  · simp [htoken]

theorem servedBy_modify {change : PendingRequest → PendingRequest}
    (howner : ∀ entry, (change entry).owner = entry.owner)
    (h : ∀ entry ∈ r.entries, entry.token = token → entry.origin ≠ origin) :
    (r.modify token change).servedBy origin = r.servedBy origin := by
  simp only [servedBy, modify]
  generalize r.entries = entries at h ⊢
  induction entries with
  | nil => rfl
  | cons entry entries ih =>
    obtain ⟨hentry, hothers⟩ := List.forall_mem_cons.1 h
    rw [List.map_cons, List.filter_cons, List.filter_cons, ih hothers]
    by_cases htoken : entry.token = token
    · have horigin : (change entry).origin = entry.origin := congrArg Owner.origin (howner entry)
      simp [htoken, horigin, hentry htoken]
    · simp [htoken]

/-- A frame touches no request that is served in process. -/
theorem IsSound.servedBy_routed (h : r.IsSound tickets settled) (hrouted : Routed r after) :
    after.servedBy .vendor = r.servedBy .vendor := by
  induction hrouted with
  | refl => rfl
  | @beginAck between hrouted token ih =>
    have hsound := h.routed hrouted
    rcases beginAck_cases between token with
      ⟨entry, hfind, hpeer, -, hack⟩ | ⟨_, -, -, -, hack⟩ | ⟨_, -, -, hack⟩ | ⟨-, hack⟩ <;>
      rw [hack]
    · have hapart := hsound.ne_origin hfind .vendor (by simp [hpeer])
      refine (servedBy_modify ?_ hapart).trans ih
      exact fun _ => rfl
    all_goals exact ih
  | @markReceived between hrouted token ih =>
    have hsound := h.routed hrouted
    rcases markReceived_cases between token with ⟨entry, hfind, hpeer, hmarked⟩ | hmarked <;>
      rw [hmarked]
    · have hapart := hsound.ne_origin hfind .vendor (by simp [hpeer])
      refine (servedBy_modify ?_ hapart).trans ih
      exact fun _ => rfl
    · exact ih
  | @complete between hrouted token ih =>
    have hsound := h.routed hrouted
    rcases complete_cases between token .peer with
      ⟨entry, hfind, hpeer, hcomplete⟩ | ⟨hcomplete, -⟩ <;> rw [hcomplete]
    · have hapart := hsound.ne_origin hfind .vendor (by simp [hpeer])
      exact (servedBy_remove hapart).trans ih
    · exact ih

/-- The completion of a request that is served in process takes that away and nothing else. -/
theorem IsSound.complete_vendor (h : r.IsSound tickets settled) (token : Token) :
    (r.complete token .vendor).1.servedBy .peer = r.servedBy .peer ∧
      (r.complete token .vendor).1.history = r.history := by
  rcases complete_cases r token .vendor with ⟨entry, hfind, hvendor, hcomplete⟩ | ⟨hcomplete, -⟩ <;>
    rw [hcomplete]
  · have hapart := h.ne_origin hfind .peer (by simp [hvendor])
    refine ⟨servedBy_remove hapart, ?_⟩
    simp [h.unmarked entry (mem_of_find? hfind) hvendor]
  · exact ⟨rfl, rfl⟩

theorem mem_localTokens_iff (h : r.IsSound tickets settled) :
    token ∈ r.localTokens ↔ ∃ entry, r.find? token = some entry ∧ entry.origin = .vendor := by
  simp only [localTokens, List.mem_map, mem_servedBy]
  constructor
  · rintro ⟨entry, ⟨hmem, hvendor⟩, rfl⟩
    exact ⟨entry, find?_of_mem h.tokens hmem, hvendor⟩
  · rintro ⟨entry, hfind, hvendor⟩
    exact ⟨entry, ⟨mem_of_find? hfind, hvendor⟩, token_of_find? hfind⟩

end Registry

/-! ## Frames with the token of a request that is served in process -/

/-- The token and the kind of a frame that carries one of these tokens. -/
def Frame.mention (frame : Frame) (tokens : List Token) : List (Token × FrameKind) :=
  if frame.kind.isSolicited ∧ frame.token ∈ tokens then [(frame.token, frame.kind)] else []

namespace Effect

/-- The same of a frame of which the observers are told that it was read. -/
def readMention (tokens : List Token) : Effect → List (Token × FrameKind)
  | .published (.frameReceived kind token _ _ _) =>
    if kind.isSolicited ∧ token ∈ tokens then [(token, kind)] else []
  | _ => []

/-- The same of a frame of which the observers are told that nobody waits for it. -/
def unmatchedMention (tokens : List Token) : Effect → List (Token × FrameKind)
  | .published (.unmatchedToken token kind) => if token ∈ tokens then [(token, kind)] else []
  | _ => []

end Effect

namespace Slot

variable {s between after : Slot} {tickets : Nat} {settled : List Sink} {effects more : List Effect}

/-- The same of the frame that the reader has in hand. -/
def mentionInHand (s : Slot) (tokens : List Token) : List (Token × FrameKind) :=
  match s.reading with
  | .acknowledging frame _ => frame.mention tokens
  | _ => []

theorem mentionInHand_of_waiting (h : s.reading = .waiting) (tokens : List Token) :
    s.mentionInHand tokens = [] := by
  rw [mentionInHand, h]

theorem mentionInHand_of_acknowledging {frame : Frame} {ack : Command}
    (h : s.reading = .acknowledging frame ack) (tokens : List Token) :
    s.mentionInHand tokens = frame.mention tokens := by
  rw [mentionInHand, h]

/-- Nothing is delivered to the requests that one side serves. -/
def SparesSinks (s : Slot) (origin : Origin) (effects : List Effect) : Prop :=
  ∀ delivery, .resolved delivery ∈ effects →
    ∀ entry ∈ s.registry.servedBy origin, delivery.sink ≠ entry.sink

/-- Resolving a frame has these effects. It reports the frame if it carries the token of a request
that is served in process. -/
structure ResolvesApart (s after : Slot) (frame : Frame) (effects : List Effect) : Prop where
  does : s.Does after effects
  sinks : s.SparesSinks .vendor effects
  read : effects.flatMap (Effect.readMention s.registry.localTokens) = []
  unmatched : effects.flatMap (Effect.unmatchedMention s.registry.localTokens)
    = frame.mention s.registry.localTokens

/-- A frame that does not carry such a token may have any effect of this kind. -/
theorem ResolvesApart.of_no_mention {frame : Frame}
    (hmention : frame.mention s.registry.localTokens = []) {registry : Registry} {effect : Effect}
    (hsink : s.SparesSinks .vendor [effect])
    (hread : effect.readMention s.registry.localTokens = [])
    (hunmatched : effect.unmatchedMention s.registry.localTokens = []) :
    s.ResolvesApart ({ s with registry }.emit effect) frame [effect] where
  does := does_emit s registry effect
  sinks := hsink
  read := by simp [hread]
  unmatched := by simp [hunmatched, hmention]

/-- The token of a request to the peer is no other's. -/
theorem mention_of_peer (h : s.registry.IsSound tickets settled) {frame : Frame}
    {entry : PendingRequest} (hfind : s.registry.find? frame.token = some entry)
    (hpeer : entry.origin = .peer) : frame.mention s.registry.localTokens = [] := by
  refine if_neg fun hmention => ?_
  obtain ⟨other, hother, hvendor⟩ := (Registry.mem_localTokens_iff h).1 hmention.2
  rw [hfind, Option.some.injEq] at hother
  rw [← hother, hpeer] at hvendor
  cases hvendor

/-- What goes to a request of one side goes to none of the other, as sinks are distinct. -/
theorem sparesSinks_of_ne (h : s.registry.IsSound tickets settled) {origin : Origin}
    {entry : PendingRequest} (hmem : entry ∈ s.registry.entries) (horigin : entry.origin ≠ origin)
    (response : Response) : s.SparesSinks origin [.resolved ⟨entry.sink, response⟩] := by
  rintro delivery hdelivery other hother hsink
  obtain rfl : delivery = ⟨entry.sink, response⟩ := by simpa using hdelivery
  obtain ⟨hmemOther, hother⟩ := Registry.mem_servedBy.1 hother
  rw [h.eq_of_sink hmem hmemOther hsink.symm] at hother
  exact horigin hother

/-- Whoever is told that nobody waits for a solicited frame is told of every token. -/
theorem resolvesApart_unmatched (s : Slot) (frame : Frame) (hkind : frame.kind.isSolicited = true) :
    s.ResolvesApart (s.publish (.unmatchedToken frame.token frame.kind)) frame
      [.published (.unmatchedToken frame.token frame.kind)] where
  does := does_emit s s.registry _
  sinks := by simp [SparesSinks]
  read := rfl
  unmatched := by simp [Effect.unmatchedMention, Frame.mention, hkind]

theorem resolvesApart_response (h : s.registry.IsSound tickets settled) {frame : Frame}
    (hkind : frame.kind.isSolicited = true) :
    ∃ effects, s.ResolvesApart (s.resolveResponse frame) frame effects := by
  rw [resolveResponse]
  rcases Registry.complete_cases s.registry frame.token .peer with
    ⟨entry, hfind, hpeer, hcomplete⟩ | ⟨hcomplete, -⟩ <;> rw [hcomplete]
  · have hmention := mention_of_peer h hfind hpeer
    by_cases hcancelled : entry.isCancelled = true
    · rw [if_pos hcancelled]
      exact ⟨[], does_registry s _, by simp [SparesSinks], rfl, hmention.symm⟩
    · rw [if_neg hcancelled]
      exact ⟨_, .of_no_mention hmention
        (sparesSinks_of_ne h (Registry.mem_of_find? hfind) (by simp [hpeer]) _) rfl rfl⟩
  · exact ⟨_, resolvesApart_unmatched s frame hkind⟩

theorem resolvesApart_receipt (h : s.registry.IsSound tickets settled) {frame : Frame}
    (hkind : frame.kind = .solicitedAck) :
    ∃ effects, s.ResolvesApart (s.resolveReceipt frame) frame effects := by
  rw [resolveReceipt]
  rcases Registry.markReceived_cases s.registry frame.token with
    ⟨entry, hfind, hpeer, hmarked⟩ | hmarked <;> rw [hmarked]
  · exact ⟨_, .of_no_mention (mention_of_peer h hfind hpeer) (by simp [SparesSinks]) rfl rfl⟩
  · have hunmatched := resolvesApart_unmatched s frame (by rw [hkind]; rfl)
    rw [hkind] at hunmatched
    exact ⟨_, hunmatched⟩

theorem resolvesApart_indication (s : Slot) {frame : Frame}
    (hkind : frame.kind.isSolicited = false) :
    ∃ effects, s.ResolvesApart (s.resolveIndication frame) frame effects := by
  have hmention : frame.mention s.registry.localTokens = [] := by simp [Frame.mention, hkind]
  rw [resolveIndication]
  split
  · exact ⟨[], does_refl s, by simp [SparesSinks], rfl, hmention.symm⟩
  · split
    · exact ⟨_, .of_no_mention hmention (by simp [SparesSinks]) rfl rfl⟩
    · exact ⟨[], does_refl s, by simp [SparesSinks], rfl, hmention.symm⟩

theorem resolvesApart_resolve (h : s.registry.IsSound tickets settled) (frame : Frame) :
    ∃ effects, s.ResolvesApart (s.resolve frame) frame effects := by
  unfold resolve
  cases hkind : frame.kind with
  | solicited | solicitedAckExpected => exact resolvesApart_response h (by rw [hkind]; rfl)
  | solicitedAck => exact resolvesApart_receipt h hkind
  | unsolicited | unsolicitedAckExpected => exact resolvesApart_indication s (by rw [hkind]; rfl)

/-- Requests that are served in process are left alone while these effects come, and the frames that
carry their tokens are reported. -/
structure LeavesLocals (s after : Slot) (effects : List Effect) : Prop where
  locals : after.registry.servedBy .vendor = s.registry.servedBy .vendor
  sinks : s.SparesSinks .vendor effects
  mentions : s.mentionInHand s.registry.localTokens
      ++ effects.flatMap (Effect.readMention s.registry.localTokens)
    = effects.flatMap (Effect.unmatchedMention s.registry.localTokens)
      ++ after.mentionInHand s.registry.localTokens

theorem LeavesLocals.trans (hfirst : s.LeavesLocals between effects)
    (hsecond : between.LeavesLocals after more) : s.LeavesLocals after (effects ++ more) := by
  have htokens : between.registry.localTokens = s.registry.localTokens := by
    rw [Registry.localTokens, hfirst.locals, Registry.localTokens]
  refine ⟨hsecond.locals.trans hfirst.locals, ?_, ?_⟩
  · intro delivery hmem
    rcases List.mem_append.1 hmem with hmem | hmem
    · exact hfirst.sinks delivery hmem
    · exact hfirst.locals ▸ hsecond.sinks delivery hmem
  · have hmore := hsecond.mentions
    rw [htokens] at hmore
    rw [List.flatMap_append, List.flatMap_append, ← List.append_assoc, hfirst.mentions,
      List.append_assoc, hmore, List.append_assoc]

/-- What does not concern the registry and the reader leaves requests alone, and so does telling the
observers that an acknowledgment was sent. -/
theorem leavesLocals_of_same (hregistry : after.registry = s.registry)
    (hreading : after.reading = s.reading)
    (heffects : ∀ effect ∈ effects, (∃ bytes, effect = .wrote bytes) ∨
      ∃ token, effect = .published (.ackSent token)) :
    s.LeavesLocals after effects where
  locals := by rw [hregistry]
  sinks := by
    intro delivery hmem
    rcases heffects _ hmem with ⟨_, heffect⟩ | ⟨_, heffect⟩ <;> cases heffect
  mentions := by
    have hread : effects.flatMap (Effect.readMention s.registry.localTokens) = [] := by
      refine List.flatMap_eq_nil_iff.2 fun effect hmem => ?_
      rcases heffects effect hmem with ⟨_, rfl⟩ | ⟨_, rfl⟩ <;> rfl
    have hunmatched : effects.flatMap (Effect.unmatchedMention s.registry.localTokens) = [] := by
      refine List.flatMap_eq_nil_iff.2 fun effect hmem => ?_
      rcases heffects effect hmem with ⟨_, rfl⟩ | ⟨_, rfl⟩ <;> rfl
    rw [hread, hunmatched, List.append_nil, List.nil_append, mentionInHand, mentionInHand, hreading]

/-- A frame that the reader takes is in its hand. -/
theorem leavesLocals_receive (h : s.registry.IsSound tickets settled)
    (hwaiting : s.reading = .waiting) (frame : Frame) (ack : Command) {after : Slot}
    (hregistry : after.registry = (s.receive frame).1.registry)
    (hreading : after.reading = .acknowledging frame ack) :
    ∃ effects, s.Does (s.receive frame).1 effects ∧ s.LeavesLocals after effects := by
  refine ⟨_, s.does_receive frame, ?_, ?_, ?_⟩
  · rw [hregistry]
    exact h.servedBy_routed (s.routed_receive frame)
  · intro delivery hmem
    split at hmem <;> simp [Frame.received] at hmem
  · rw [mentionInHand_of_waiting hwaiting, mentionInHand_of_acknowledging hreading]
    by_cases hduplicate : frame.kind = .solicitedAckExpected ∧
        (s.registry.beginAck frame.token).2 = .duplicate <;>
      simp [hduplicate, Frame.received, Effect.readMention, Effect.unmatchedMention, Frame.mention]

/-- A frame that the reader has in hand is put down and resolved. -/
theorem leavesLocals_resolve (h : s.registry.IsSound tickets settled) {frame : Frame}
    {ack : Command} (hreading : s.reading = .acknowledging frame ack) (put : Slot)
    (hregistry : put.registry = s.registry) (hwaiting : put.reading = .waiting) :
    ∃ effects, put.Does (put.resolve frame) effects ∧
      s.LeavesLocals (put.resolve frame) effects := by
  have hsound : put.registry.IsSound tickets settled := hregistry ▸ h
  obtain ⟨effects, hdoes, hsinks, hread, hunmatched⟩ := resolvesApart_resolve hsound frame
  rw [hregistry] at hread hunmatched
  refine ⟨effects, hdoes, ?_, ?_, ?_⟩
  · rw [← hregistry]
    exact hsound.servedBy_routed (put.routed_resolve frame)
  · rwa [SparesSinks, hregistry] at hsinks
  · rw [mentionInHand_of_acknowledging hreading,
      mentionInHand_of_waiting (hdoes.reading.trans hwaiting), hread, hunmatched]

/-- The reader takes a frame, and resolves it if it need not be acknowledged. -/
theorem leavesLocals_begin (h : s.registry.IsSound tickets settled)
    (hwaiting : s.reading = .waiting) (party : Party) (frame : Frame) :
    let begun := s.beginRoute party frame
    ∃ effects, begun.1.log = s.log ++ effects ∧
      s.LeavesLocals (match begun.2 with
        | none => begun.1
        | some ack => { begun.1 with reading := .acknowledging frame ack }) effects := by
  dsimp only
  -- A frame that is resolved at once is in the hand of the reader between the two halves.
  have hboth : ∃ effects, ((s.receive frame).1.resolve frame).log = s.log ++ effects ∧
      s.LeavesLocals ((s.receive frame).1.resolve frame) effects := by
    let received := (s.receive frame).1
    let hand : Slot := { received with reading := .acknowledging frame (.ack frame.token) }
    have hsound : hand.registry.IsSound tickets settled := h.routed (s.routed_receive frame)
    obtain ⟨effects, hreceived, hfirst⟩ : ∃ effects, s.Does received effects ∧
      s.LeavesLocals hand effects := leavesLocals_receive h hwaiting frame _ rfl rfl
    obtain ⟨more, hresolved, hsecond⟩ :=
      leavesLocals_resolve hsound rfl received rfl (hreceived.reading.trans hwaiting)
    exact ⟨_, (hreceived.trans hresolved).log, hfirst.trans hsecond⟩
  rcases s.beginRoute_cases party frame with
    ⟨-, hroute⟩ | ⟨_, _, -, -, hroute⟩ | ⟨ack, offered, -, hoffer, hroute⟩ <;> rw [hroute]
  · exact hboth
  · exact hboth
  · have hregistry := registry_of_offer hoffer
    let hand : Slot := { offered with reading := .acknowledging frame ack }
    obtain ⟨effects, hreceived, hleaves⟩ : ∃ effects, s.Does (s.receive frame).1 effects ∧
      s.LeavesLocals hand effects := leavesLocals_receive h hwaiting frame ack hregistry rfl
    have hlog := (hreceived.trans (does_offer hoffer)).log
    rw [List.append_nil] at hlog
    exact ⟨effects, hlog, hleaves⟩

/-- The reader goes on after its turn, and resolves the frame that it has in hand. -/
theorem leavesLocals_resumeReader (h : s.registry.IsSound tickets settled) (outcome : Outcome) :
    ∃ effects, (s.resumeReader outcome).log = s.log ++ effects ∧
      s.LeavesLocals (s.resumeReader outcome) effects := by
  unfold resumeReader
  split
  · next frame ack result hreading =>
    cases result with
    | ok _ =>
      let told := { s with reading := .waiting }.publish (.ackSent ack.token)
      obtain ⟨effects, hdoes, hleaves⟩ := leavesLocals_resolve h hreading told rfl rfl
      have htold : s.LeavesLocals s [.published (.ackSent ack.token)] :=
        leavesLocals_of_same rfl rfl (List.forall_mem_singleton.2 (.inr ⟨_, rfl⟩))
      exact ⟨_, hdoes.log.trans (List.append_assoc ..), htold.trans hleaves⟩
    | error e =>
      let refused := { s with reading := .waiting }
      obtain ⟨effects, hdoes, hleaves⟩ := leavesLocals_resolve h hreading refused rfl rfl
      exact ⟨effects, hdoes.log, hleaves⟩
  · next hreading =>
    refine ⟨[], (List.append_nil _).symm, rfl, ?_, ?_⟩
    · exact fun _ hmem => by cases hmem
    · simp [mentionInHand, hreading]
  · exact ⟨[], (List.append_nil _).symm, leavesLocals_of_same rfl rfl (List.forall_mem_nil _)⟩

/-! ## Completions -/

/-- Requests to the peer are left alone while these effects come, and so are what is remembered of
acknowledgments and the stream. -/
structure LeavesRemotes (s after : Slot) (effects : List Effect) : Prop where
  remotes : after.registry.servedBy .peer = s.registry.servedBy .peer
  history : after.registry.history = s.registry.history
  outlet : after.outlet = s.outlet
  sinks : s.SparesSinks .peer effects
  silent : ∀ bytes, .wrote bytes ∉ effects

theorem LeavesRemotes.trans (hfirst : s.LeavesRemotes between effects)
    (hsecond : between.LeavesRemotes after more) : s.LeavesRemotes after (effects ++ more) where
  remotes := hsecond.remotes.trans hfirst.remotes
  history := hsecond.history.trans hfirst.history
  outlet := hsecond.outlet.trans hfirst.outlet
  sinks := by
    intro delivery hmem
    rcases List.mem_append.1 hmem with hmem | hmem
    · exact hfirst.sinks delivery hmem
    · exact hfirst.remotes ▸ hsecond.sinks delivery hmem
  silent := by
    intro bytes hmem
    rcases List.mem_append.1 hmem with hmem | hmem
    · exact hfirst.silent bytes hmem
    · exact hsecond.silent bytes hmem

/-- A completion is taken if a request that is served in process has the token, withdrawn or not. -/
theorem completeLocal_iff (h : s.registry.IsSound tickets settled) (token : Token)
    (status : Status) (payload : Bytes) :
    (s.completeLocal token status payload).2 = true ↔
      ∃ entry ∈ s.registry.servedBy .vendor, entry.token = token := by
  rw [completeLocal]
  rcases Registry.complete_cases s.registry token .vendor with
    ⟨entry, hfind, hvendor, hcomplete⟩ | ⟨hcomplete, hother⟩ <;> rw [hcomplete]
  · have hmem := Registry.mem_servedBy_of_find? hfind
    rw [hvendor] at hmem
    refine iff_of_true ?_ ⟨entry, hmem, Registry.token_of_find? hfind⟩
    cases entry.isCancelled <;> rfl
  · refine iff_of_false Bool.false_ne_true ?_
    rintro ⟨entry, hmem, rfl⟩
    obtain ⟨hmem, hvendor⟩ := Registry.mem_servedBy.1 hmem
    exact hother entry (Registry.find?_of_mem h.tokens hmem) hvendor

theorem leavesRemotes_completeLocal (h : s.registry.IsSound tickets settled) (token : Token)
    (status : Status) (payload : Bytes) :
    ∃ effects, (s.completeLocal token status payload).1.log = s.log ++ effects ∧
      s.LeavesRemotes (s.completeLocal token status payload).1 effects := by
  obtain ⟨hremotes, hhistory⟩ := h.complete_vendor token
  have hregistry := s.registry_completeLocal token status payload
  have houtlet := s.outlet_completeLocal token status payload
  have hlog : ∃ effects, (s.completeLocal token status payload).1.log = s.log ++ effects ∧
      s.SparesSinks .peer effects ∧ ∀ bytes, .wrote bytes ∉ effects := by
    have hnothing : s.SparesSinks .peer [] ∧ ∀ bytes, Effect.wrote bytes ∉ ([] : List Effect) :=
      ⟨fun _ hmem => (List.not_mem_nil hmem).elim, fun _ => List.not_mem_nil⟩
    rw [completeLocal]
    rcases Registry.complete_cases s.registry token .vendor with
      ⟨entry, hfind, hvendor, hcomplete⟩ | ⟨hcomplete, -⟩ <;> rw [hcomplete]
    · by_cases hcancelled : entry.isCancelled = true
      · rw [if_pos hcancelled]
        exact ⟨[], (List.append_nil _).symm, hnothing⟩
      · rw [if_neg hcancelled]
        refine ⟨_, rfl, sparesSinks_of_ne h (Registry.mem_of_find? hfind) (by simp [hvendor]) _, ?_⟩
        simp
    · exact ⟨[], (List.append_nil _).symm, hnothing⟩
  obtain ⟨effects, hlog, hsinks, hsilent⟩ := hlog
  exact ⟨effects, hlog, hregistry ▸ hremotes, hregistry ▸ hhistory, houtlet, hsinks, hsilent⟩

/-- Nothing can be completed under a token that is not pending. -/
theorem completeLocalAll_of_find?_none {token : Token} (h : s.registry.find? token = none)
    (completions : List (Status × Bytes)) :
    s.completeLocalAll token completions = (s, completions.map fun _ => false) := by
  have hfirst : ∀ status payload, s.completeLocal token status payload = (s, false) := by
    intro status payload
    rw [completeLocal, Registry.complete, h]
  induction completions with
  | nil => rfl
  | cons completion completions ih => simp only [completeLocalAll, hfirst, ih, List.map_cons]

theorem find?_completeLocal {token : Token} {status : Status} {payload : Bytes}
    (h : (s.completeLocal token status payload).2 = true) :
    (s.completeLocal token status payload).1.registry.find? token = none := by
  rw [registry_completeLocal]
  rcases Registry.complete_cases s.registry token .vendor with
    ⟨entry, hfind, -, hcomplete⟩ | ⟨hcomplete, -⟩
  · rw [hcomplete]
    exact (Registry.find?_remove s.registry token token).trans (if_pos rfl)
  · rw [completeLocal, hcomplete] at h
    cases h

/-- At most one of several completions under one token is taken, and then the token is not pending
any more. -/
theorem completeLocalAll_cases (s : Slot) (token : Token) (completions : List (Status × Bytes)) :
    (s.completeLocalAll token completions).2.count true = 0 ∨
    (s.completeLocalAll token completions).2.count true = 1 ∧
      (s.completeLocalAll token completions).1.registry.find? token = none := by
  induction completions generalizing s with
  | nil => exact .inl rfl
  | cons completion completions ih =>
    obtain ⟨status, payload⟩ := completion
    simp only [completeLocalAll, List.count_cons]
    by_cases htaken : (s.completeLocal token status payload).2 = true
    · have hgone := find?_completeLocal htaken
      rw [completeLocalAll_of_find?_none hgone, htaken]
      refine .inr ⟨?_, hgone⟩
      simp [List.count_eq_zero]
    · simpa [htaken] using ih (s.completeLocal token status payload).1

end Slot

/-! ## Runs -/

/-- What the vendor completed while it was asked, and whether it was taken. -/
def Effect.completions : Effect → List Bool
  | .served _ _ _ completions => completions
  | _ => []

namespace Registry

theorem entries_complete_subset (r : Registry) (token : Token) (origin : Origin) :
    (r.complete token origin).1.entries ⊆ r.entries := by
  rcases complete_cases r token origin with ⟨_, -, -, hcomplete⟩ | ⟨hcomplete, -⟩ <;> rw [hcomplete]
  · exact List.filter_sublist.subset
  · exact List.Subset.refl _

theorem entries_completions_subset (r : Registry) (token : Token)
    (completions : List (Status × Bytes)) :
    (completions.foldl (fun registry _ => (registry.complete token .vendor).1) r).entries
      ⊆ r.entries := by
  induction completions generalizing r with
  | nil => exact List.Subset.refl _
  | cons completion completions ih =>
    exact List.Subset.trans (ih _) (r.entries_complete_subset token .vendor)

end Registry

namespace Slot

variable {s : Slot} {tickets : Nat} {settled : List Sink}

theorem completions_completeLocalAll (s : Slot) (token : Token)
    (completions : List (Status × Bytes)) :
    (s.completeLocalAll token completions).1.log.flatMap Effect.completions
      = s.log.flatMap Effect.completions := by
  induction completions generalizing s with
  | nil => rfl
  | cons completion completions ih =>
    obtain ⟨status, payload⟩ := completion
    refine (ih (s.completeLocal token status payload).1).trans ?_
    rw [completeLocal]
    split
    · simp [deliver, emit, Effect.completions]
    · rfl
    · rfl

/-- What is noted of a vendor that was asked is which of its completions were taken. -/
theorem completions_served (hlog : s.log = []) (request : RequestId) (token : Token)
    (data : Bytes) (completions : List (Status × Bytes)) :
    let completed := s.completeLocalAll token completions
    (completed.1.emit (.served request token data completed.2)).log.flatMap Effect.completions
      = completed.2 := by
  dsimp only
  have hbefore := s.completions_completeLocalAll token completions
  rw [hlog, List.flatMap_nil] at hbefore
  rw [emit, List.flatMap_append, hbefore]
  exact List.append_nil _

/-- If a sink is of one token only, it is not pending after a completion with that token is
taken. -/
theorem completeLocalAll_of_sink {sink : Sink} {token : Token}
    (h : ∀ entry ∈ s.registry.entries, entry.sink = sink → entry.token = token)
    (completions : List (Status × Bytes)) :
    (s.completeLocalAll token completions).2.count true = 0 ∨
    (s.completeLocalAll token completions).2.count true = 1 ∧
      ∀ entry ∈ (s.completeLocalAll token completions).1.registry.entries, entry.sink ≠ sink := by
  refine (s.completeLocalAll_cases token completions).imp_right ?_
  rintro ⟨hcount, hgone⟩
  refine ⟨hcount, fun entry hmem hsink => ?_⟩
  have hold := s.registry.entries_completions_subset token completions
    (s.registry_completeLocalAll token completions ▸ hmem)
  exact List.find?_eq_none.1 hgone entry hmem (beq_iff_eq.2 (h entry hold hsink))

/-- Of the completions that the vendor reports while it is asked at most one is taken, and then the
request is not pending any more. -/
theorem submitLocal_completions (h : s.registry.IsSound tickets settled) (hlog : s.log = [])
    (request : RequestId) (data : Bytes) :
    let submitted := (s.submitLocal request data tickets).1
    (submitted.log.flatMap Effect.completions).count true = 0 ∨
    (submitted.log.flatMap Effect.completions).count true = 1 ∧
      ∀ entry ∈ submitted.registry.entries, entry.sink ≠ tickets := by
  have hnothing : (s.log.flatMap Effect.completions).count true = 0 := by rw [hlog]; rfl
  dsimp only
  rw [submitLocal]
  split
  · exact .inl hnothing
  · cases hsubmit : s.registry.submit request tickets .vendor with
    | error e => exact .inl hnothing
    | ok result =>
      obtain ⟨registry, token⟩ := result
      obtain ⟨-, -, rfl⟩ := Registry.submit_ok hsubmit
      let registered : Slot := { s with
        registry := { s.registry with nextToken := token.raw + 1 }.add
          { token, request, sink := tickets, origin := .vendor } }
      let completions := (s.callbacks.vendor.serve request token data).completions
      -- Only the request that is submitted now has the new ticket.
      have hnew : ∀ entry ∈ registered.registry.entries, entry.sink = tickets →
          entry.token = token := by
        intro entry hmem hsink
        rcases List.mem_append.1 hmem with hold | hadded
        · exact absurd hsink (Nat.ne_of_lt (h.given entry hold))
        · rw [List.mem_singleton.1 hadded]
      have hcases := registered.completeLocalAll_of_sink hnew completions
      rw [← registered.completions_served hlog request token data completions] at hcases
      dsimp only
      split
      · exact hcases
      · refine hcases.imp_right fun hone => ⟨hone.1, fun entry hmem => ?_⟩
        exact hone.2 entry (List.mem_filter.1 hmem).1

end Slot

/-- Whether an action only lets frames through: they arrive, the reader takes them and goes on after
its turns, and the stream accepts what it is offered or fails. -/
def Action.isRouting : Action → Bool
  | .arrive _ | .read | .resume .reader | .accept _ | .failWrite _ | .attend => true
  | _ => false

namespace Session

variable {x : Session} {settled : List Sink}

/-- The submissions of which a step takes a completion, by their sinks. -/
def takes (x : Session) : Action → List Sink
  | .completeLocal token status payload =>
    if (x.slot.completeLocal token status payload).2 then
      ((x.slot.registry.find? token).map (·.sink)).toList
    else []
  | .submitLocal request data =>
    let submitted := (x.slot.submitLocal request data x.tickets).1
    List.replicate ((submitted.log.flatMap Effect.completions).count true) x.tickets
  | _ => []

/-- The submissions of which a completion is taken in a run, in this order. -/
def taken (x : Session) : List Action → List Sink
  | [] => []
  | action :: actions => x.takes action ++ (x.step action).taken actions

/-- A completion is taken of a submission that was pending, or is made by this step, and is never
pending again. -/
theorem ClosesOnce.takes_cases (h : x.ClosesOnce)
    (hsound : x.slot.registry.IsSound x.tickets settled) (action : Action) :
    x.takes action = [] ∨ ∃ sink, x.takes action = [sink] ∧ sink ∉ settled ∧
      (x.step action).slot.registry.IsSound (x.step action).tickets (sink :: settled) := by
  have hafter := h.isSound_step hsound action
  cases action with
  | completeLocal token status payload =>
    rw [takes]
    split
    · next htaken =>
      obtain ⟨entry, hmem, htoken⟩ := (Slot.completeLocal_iff hsound token status payload).1 htaken
      have hmem := (Registry.mem_servedBy.1 hmem).1
      have hfind := htoken ▸ Registry.find?_of_mem hsound.tokens hmem
      refine .inr ⟨entry.sink, by rw [hfind]; rfl, hsound.unsettled entry hmem, ?_⟩
      refine hafter.settle (hsound.given entry hmem) fun other hother hsink => ?_
      -- It would be the request that was taken away.
      have hgone := Slot.find?_completeLocal htaken
      have hold : other ∈ x.slot.registry.entries := by
        refine x.slot.registry.entries_complete_subset token .vendor ?_
        rw [← Slot.registry_completeLocal x.slot token status payload]
        exact hother
      rw [hsound.eq_of_sink hmem hold hsink] at hother
      exact List.find?_eq_none.1 hgone entry hother (beq_iff_eq.2 htoken)
    · exact .inl rfl
  | submitLocal request data =>
    rw [takes]
    rcases Slot.submitLocal_completions hsound h.log request data with hnone | ⟨hone, hgone⟩
    · exact .inl (by simp only [hnone, List.replicate_zero])
    · refine .inr ⟨x.tickets, by simp only [hone, List.replicate_one], ?_, ?_⟩
      · exact fun hmem => Nat.lt_irrefl _ (hsound.past _ hmem)
      · exact hafter.settle (Nat.lt_succ_self x.tickets) hgone
  | _ => exact .inl rfl

/-- At most one completion of each submission is taken. -/
theorem ClosesOnce.nodup_taken (h : x.ClosesOnce)
    (hsound : x.slot.registry.IsSound x.tickets settled) (actions : List Action) :
    (x.taken actions).Nodup ∧ ∀ sink ∈ x.taken actions, sink ∉ settled := by
  -- What is taken is settled from then on, so the induction is over all that may be settled.
  induction actions generalizing x settled with
  | nil => exact ⟨List.nodup_nil, List.forall_mem_nil _⟩
  | cons action actions ih =>
    rw [taken]
    rcases h.takes_cases hsound action with hnone | ⟨sink, hone, hunsettled, hsettled⟩
    · rw [hnone]
      exact ih (h.step action) (h.isSound_step hsound action)
    · obtain ⟨hnodup, hlater⟩ := ih (h.step action) hsettled
      rw [hone]
      refine ⟨List.nodup_cons.2 ⟨fun hmem => hlater sink hmem List.mem_cons_self, hnodup⟩, ?_⟩
      refine List.forall_mem_cons.2 ⟨hunsettled, fun other hmem hother => ?_⟩
      exact hlater other hmem (List.mem_cons_of_mem sink hother)

/-! ## Frames -/

/-- What happens in a routing step of a slot that it does not close. -/
theorem leavesLocals_act (hsound : x.slot.registry.IsSound x.tickets settled) {action : Action}
    (hrouting : action.isRouting = true) (hcloses : x.closing? action = none) :
    ∃ effects, (x.act action).slot.log = x.slot.log ++ effects ∧
      x.slot.LeavesLocals (x.act action).slot effects := by
  have hsame : ∀ {after : Slot}, after.registry = x.slot.registry →
      after.reading = x.slot.reading → after.log = x.slot.log →
      ∃ effects, after.log = x.slot.log ++ effects ∧ x.slot.LeavesLocals after effects := by
    intro after hregistry hreading hlog
    refine ⟨[], hlog.trans (List.append_nil _).symm, ?_⟩
    exact Slot.leavesLocals_of_same hregistry hreading (List.forall_mem_nil _)
  cases action with
  | arrive | failWrite | attend => exact hsame rfl rfl rfl
  | accept count =>
    have hdoes := x.slot.does_accept count
    refine ⟨_, hdoes.log, Slot.leavesLocals_of_same (x.slot.registry_accept count) hdoes.reading ?_⟩
    intro effect hmem
    split at hmem
    · cases hmem
    · exact .inl ⟨_, List.mem_singleton.1 hmem⟩
  | resume party =>
    cases party with
    | caller ticket => cases hrouting
    | reader =>
      rw [act]
      split
      · next outlet outcome _ =>
        obtain ⟨effects, hlog, hleaves⟩ :=
          Slot.leavesLocals_resumeReader (s := { x.slot with outlet }) hsound outcome
        exact ⟨effects, hlog, hleaves.locals, hleaves.sinks, hleaves.mentions⟩
      · exact hsame rfl rfl rfl
  | read =>
    rw [act]
    by_cases hwaiting : x.slot.reading = .waiting
    · rcases Slot.readNext?_cases hwaiting with ⟨-, hread⟩ | ⟨e, hnext, -⟩ | ⟨frame, -, hread⟩
      · rw [hread]
        exact hsame rfl rfl rfl
      · rw [closing?, hwaiting, hnext] at hcloses
        cases hcloses
      · obtain ⟨effects, hlog, hleaves⟩ := Slot.leavesLocals_begin
          (s := { x.slot with framer := x.slot.framer.nextFrame.1 }) hsound hwaiting .reader frame
        rw [hread]
        refine ⟨effects, ?_, hleaves.locals, hleaves.sinks, hleaves.mentions⟩
        dsimp only
        split <;> exact hlog
    · rw [Slot.readNext?_of_not_waiting hwaiting]
      exact hsame rfl rfl rfl
  | _ => cases hrouting

/-- While nothing that is served in process is pending there is nothing to be left alone. -/
theorem leavesLocals_of_nil {s after : Slot} (hbefore : s.registry.entries = [])
    (hafter : after.registry.entries = []) (effects : List Effect) :
    s.LeavesLocals after effects := by
  have hlocals : s.registry.servedBy .vendor = [] := by rw [Registry.servedBy, hbefore]; rfl
  have htokens : s.registry.localTokens = [] := by rw [Registry.localTokens, hlocals]; rfl
  refine ⟨by rw [hlocals, Registry.servedBy, hafter]; rfl, ?_, ?_⟩
  · intro delivery _ entry hmem
    rw [hlocals] at hmem
    cases hmem
  · have hread : effects.flatMap (Effect.readMention []) = [] := by
      refine List.flatMap_eq_nil_iff.2 fun effect _ => ?_
      unfold Effect.readMention
      split <;> simp
    have hunmatched : effects.flatMap (Effect.unmatchedMention []) = [] := by
      refine List.flatMap_eq_nil_iff.2 fun effect _ => ?_
      unfold Effect.unmatchedMention
      split <;> simp
    have hhand : ∀ s : Slot, s.mentionInHand [] = [] := by
      intro s
      unfold Slot.mentionInHand
      split <;> simp [Frame.mention]
    rw [htokens, hread, hunmatched, hhand, hhand]

theorem ClosesOnce.run (h : x.ClosesOnce) (actions : List Action) : (x.run actions).ClosesOnce :=
  run_induction (fun _ action h => h.step action) h actions

theorem ClosesOnce.leavesLocals_run (h : x.ClosesOnce)
    (hsound : x.slot.registry.IsSound x.tickets settled) {routing : List Action}
    (hrouting : ∀ action ∈ routing, action.isRouting = true)
    (hclosed : (x.run routing).slot.isClosed = x.slot.isClosed) :
    ∃ later, (x.run routing).trace = x.trace ++ later ∧
      x.slot.LeavesLocals (x.run routing).slot (later.map (·.effect)) := by
  -- A closed slot has nothing pending. An open one is open to the end, so no step closes it, and
  -- the induction is on the run.
  cases hopen : x.slot.isClosed with
  | true =>
    obtain ⟨-, later, htrace, -⟩ := h.run_of_isClosed hopen routing
    have hbefore := (h.isShut hopen).entries
    have hafter := ((h.run routing).isShut (hclosed.trans hopen)).entries
    exact ⟨later, htrace, leavesLocals_of_nil hbefore hafter _⟩
  | false =>
    induction routing generalizing x with
    | nil =>
      exact ⟨[], (List.append_nil _).symm,
        Slot.leavesLocals_of_same rfl rfl (List.forall_mem_nil _)⟩
    | cons action routing ih =>
      obtain ⟨hfirst, hothers⟩ := List.forall_mem_cons.1 hrouting
      have hlast : ((x.step action).run routing).slot.isClosed = false := hclosed.trans hopen
      -- What closes the slot would leave it closed to the end.
      have hnext : (x.step action).slot.isClosed = false := by
        by_contra hshut
        obtain ⟨hstill, -⟩ := (h.step action).run_of_isClosed (by simpa using hshut) routing
        rw [hlast] at hstill
        cases hstill
      have hcloses : x.closing? action = none := by
        cases hcloses : x.closing? action with
        | none => rfl
        | some closing =>
          have hshut : (x.step action).slot.isClosed = true := (act_closes hopen hcloses).1.isClosed
          rw [hnext] at hshut
          cases hshut
      obtain ⟨effects, hlog, hleaves⟩ := leavesLocals_act hsound hfirst hcloses
      have hleaves : x.slot.LeavesLocals (x.step action).slot effects :=
        ⟨hleaves.locals, hleaves.sinks, hleaves.mentions⟩
      obtain ⟨later, htrace, hmore⟩ := ih (h.step action) (h.isSound_step hsound action) hothers
        (hlast.trans hnext.symm) hnext
      refine ⟨_, trace_run_cons action h.log hlog htrace, ?_⟩
      rw [List.map_append, map_effect_noted]
      exact hleaves.trans hmore

/-! ## Completions -/

/-- The vendor reports a completion. -/
def completion (completion : Token × Status × Bytes) : Action :=
  .completeLocal completion.1 completion.2.1 completion.2.2

theorem ClosesOnce.leavesRemotes_run (h : x.ClosesOnce)
    (hsound : x.slot.registry.IsSound x.tickets settled)
    (completions : List (Token × Status × Bytes)) :
    ∃ later, (x.run (completions.map completion)).trace = x.trace ++ later ∧
      x.slot.LeavesRemotes (x.run (completions.map completion)).slot
        (later.map (·.effect)) := by
  induction completions generalizing x with
  | nil => exact ⟨[], (List.append_nil _).symm, rfl, rfl, rfl, by simp [Slot.SparesSinks], by simp⟩
  | cons first completions ih =>
    obtain ⟨effects, hlog, hleaves⟩ :=
      Slot.leavesRemotes_completeLocal hsound first.1 first.2.1 first.2.2
    have hleaves : x.slot.LeavesRemotes (x.step (completion first)).slot effects :=
      ⟨hleaves.remotes, hleaves.history, hleaves.outlet, hleaves.sinks, hleaves.silent⟩
    obtain ⟨later, htrace, hmore⟩ :=
      ih (h.step (completion first)) (h.isSound_step hsound (completion first))
    refine ⟨_, trace_run_cons (completion first) h.log hlog htrace, ?_⟩
    rw [List.map_append, map_effect_noted]
    exact hleaves.trans hmore

/-- **Requests served in process and requests to the peer are kept apart.** For a slot in use at any
time:

Whatever frames come in, in whatever pieces, as long as the slot is not closed by bytes that are no
frame, every pending request that is served in process stays exactly as it is, nothing is delivered
to it, and the frames that carry the token of one are those that are reported as unmatched.

However many completions the vendor reports, with whatever tokens, every pending request to the peer
stays exactly as it is, as do what is remembered of acknowledgments and the stream, and nothing is
delivered to one of them or written.

A completion is taken if and only if the token is that of a pending request that is served in
process, withdrawn or not; and since the slot was started at most one was taken of each
submission. -/
theorem requests_apart (id : SlotId) (options : SlotOptions) (actions : List Action) :
    let x := (start id options).run actions
    (∀ routing : List Action, (∀ action ∈ routing, action.isRouting = true) →
      (x.run routing).slot.isClosed = x.slot.isClosed →
      ∃ later, (x.run routing).trace = x.trace ++ later ∧
        x.slot.LeavesLocals (x.run routing).slot (later.map (·.effect))) ∧
    (∀ completions : List (Token × Status × Bytes),
      ∃ later, (x.run (completions.map completion)).trace = x.trace ++ later ∧
        x.slot.LeavesRemotes (x.run (completions.map completion)).slot (later.map (·.effect))) ∧
    (∀ token status payload, (x.slot.completeLocal token status payload).2 = true ↔
      ∃ entry ∈ x.slot.registry.servedBy .vendor, entry.token = token) ∧
    ((start id options).taken actions).Nodup := by
  intro x
  have h : x.ClosesOnce := closesOnce_run id options actions
  have hsound := isSound_run id options actions
  refine ⟨fun routing hrouting hclosed => h.leavesLocals_run hsound hrouting hclosed,
    h.leavesRemotes_run hsound, Slot.completeLocal_iff hsound, ?_⟩
  have hstart : (start id options).ClosesOnce := closesOnce_run id options []
  exact (hstart.nodup_taken (isSound_run id options []) actions).1

/-- The peer answers under the token of a request that is served in process, and asks for an
acknowledgment: it gets one, and the request goes on as if nothing had come. -/
theorem requests_apart_under_one_token :
    let callbacks : Callbacks := {
      table := .withShapes {} ⟨20⟩ .void .void
      vendor := { Vendor.unavailable with serve := fun _ _ _ => { verdict := .ok () } } }
    let actions : List Action := [.registerCallbacks callbacks, .submitLocal ⟨20⟩ [],
      .submit none ⟨20⟩ .void, .accept 12]
    let frame : Frame := ⟨.solicitedAckExpected, ⟨1⟩, 20, .success, []⟩
    let routing : List Action := [.arrive frame.encode, .read, .accept 12, .resume .reader]
    let x := (start ⟨0⟩ {}).run actions
    (∀ action ∈ routing, action.isRouting = true) ∧
    (x.run routing).slot.isClosed = x.slot.isClosed ∧
    x.slot.registry.localTokens = [⟨1⟩] ∧
    (∃ later, (x.run routing).trace = x.trace ++ later ∧
      x.slot.LeavesLocals (x.run routing).slot (later.map (·.effect)) ∧
      (later.map (·.effect)).flatMap (Effect.unmatchedMention [⟨1⟩])
        = [(⟨1⟩, .solicitedAckExpected)]) ∧
    (∃ later, (x.run [completion (⟨1⟩, .success, [])]).trace = x.trace ++ later ∧
      x.slot.LeavesRemotes (x.run [completion (⟨1⟩, .success, [])]).slot (later.map (·.effect))) ∧
    ((start ⟨0⟩ {}).taken (actions ++ [completion (⟨1⟩, .success, []),
      completion (⟨1⟩, .success, [])])).Nodup ∧
    (start ⟨0⟩ {}).taken (actions ++ [completion (⟨1⟩, .success, []),
      completion (⟨1⟩, .success, [])]) = [0] := by
  intro callbacks actions frame routing x
  have hrouting : ∀ action ∈ routing, action.isRouting = true := by
    simp [routing, Action.isRouting]
  have hclosed : (x.run routing).slot.isClosed = x.slot.isClosed := by cbv
  have htokens : x.slot.registry.localTokens = [⟨1⟩] := by cbv
  have htrace : (x.run routing).trace = x.trace ++ [
      ⟨true, frame.received⟩, ⟨true, .wrote (Command.ack ⟨1⟩).encode⟩,
      ⟨true, .published (.ackSent ⟨1⟩)⟩,
      ⟨true, .published (.unmatchedToken ⟨1⟩ .solicitedAckExpected)⟩] := by cbv
  have htaken : (start ⟨0⟩ {}).taken (actions ++ [completion (⟨1⟩, .success, []),
      completion (⟨1⟩, .success, [])]) = [0] := by cbv
  have hnow := requests_apart ⟨0⟩ {} actions
  have hx : (start ⟨0⟩ {}).run actions = x := rfl
  rw [hx] at hnow
  have hthen := requests_apart ⟨0⟩ {} (actions ++ [completion (⟨1⟩, .success, []),
    completion (⟨1⟩, .success, [])])
  obtain ⟨later, hlater, hleaves⟩ := hnow.1 routing hrouting hclosed
  obtain rfl := List.append_cancel_left (hlater.symm.trans htrace)
  exact ⟨hrouting, hclosed, htokens, ⟨_, htrace, hleaves, by decide⟩,
    hnow.2.1 [(⟨1⟩, .success, [])], hthen.2.2.2, htaken⟩

end Session

end RadioLink
