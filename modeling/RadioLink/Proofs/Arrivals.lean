import Mathlib
import RadioLink.Proofs.Turns

set_option autoImplicit false

/-! # Responses in any order

Frames are routed one after the other, and every frame changes something: it marks a request, takes
one away, or adds to the history of acknowledgments. What a response comes to depends on less than
that. It depends on the callbacks, which no frame changes, and on the request that stands under its
token, of which the marks do not count. So a frame leaves every request alone but the one that it
takes away, and that one is taken away by the first response to it, whatever came before and
whatever comes after. -/

namespace RadioLink

/-! ## Requests without their marks -/

/-- A request without the marks that frames leave on it. -/
def PendingRequest.unmarked (entry : PendingRequest) : PendingRequest :=
  { entry with isAcked := false, isReceived := false }

namespace Registry

/-- The pending requests, without the marks that frames leave on them. -/
def standing (r : Registry) : List PendingRequest :=
  r.entries.map (·.unmarked)

theorem standing_beginAck (r : Registry) (token : Token) :
    (r.beginAck token).1.standing = r.standing := by
  rcases beginAck_cases r token with ⟨_, _, _, _, h⟩ | ⟨_, _, _, _, h⟩ | ⟨_, _, _, h⟩ | ⟨_, h⟩
    <;> rw [h]
  refine map_modify (f := PendingRequest.unmarked) ?_ r token
  exact fun _ => rfl

theorem standing_markReceived (r : Registry) (token : Token) :
    (r.markReceived token).1.standing = r.standing := by
  rcases markReceived_cases r token with ⟨_, _, _, h⟩ | h <;> rw [h]
  refine map_modify (f := PendingRequest.unmarked) ?_ r token
  exact fun _ => rfl

theorem standing_remove (r : Registry) (token : Token) :
    (r.remove token).standing = r.standing.filter fun entry => !(entry.token == token) := by
  rw [standing, standing, List.filter_map]
  rfl

theorem find?_standing (r : Registry) (token : Token) :
    (r.standing.find? fun entry => entry.token == token)
      = (r.find? token).map PendingRequest.unmarked := by
  rw [standing, List.find?_map]
  rfl

end Registry

namespace Slot

variable {s t u : Slot} {frame : Frame} {entry : PendingRequest}

/-! ## One frame -/

/-- The responses that have gone to a sink. -/
def responsesTo (s : Slot) (sink : Sink) : List Response :=
  s.log.filterMap (Effect.responseTo? sink)

/-- The request that a frame is the response to. -/
def answered? (s : Slot) (frame : Frame) : Option PendingRequest :=
  if frame.kind.isResponse then
    (s.registry.standing.find? fun entry => entry.token == frame.token).filter
      fun entry => entry.origin == .peer
  else none

/-- The response to a request, unless it was cancelled. -/
def answer (s : Slot) (entry : PendingRequest) (frame : Frame) : List Response :=
  if entry.isCancelled then []
  else [s.buildResponse entry frame.request frame.status frame.payload]

theorem length_answer (s : Slot) (entry : PendingRequest) (frame : Frame) :
    (s.answer entry frame).length = if entry.isCancelled then 0 else 1 := by
  rw [answer]
  split <;> rfl

/-- The second slot is the first with other marks, turns and effects, none of which is a
response. -/
structure Undisturbed (s t : Slot) : Prop where
  callbacks : t.callbacks = s.callbacks
  slot : t.registry.slot = s.registry.slot
  standing : t.registry.standing = s.registry.standing
  responses : ∀ sink, t.responsesTo sink = s.responsesTo sink

/-- The second slot is the first after a frame: the request that the frame answers is gone, and its
sink has the response. -/
structure Answers (s : Slot) (frame : Frame) (t : Slot) : Prop where
  callbacks : t.callbacks = s.callbacks
  slot : t.registry.slot = s.registry.slot
  standing : t.registry.standing = match s.answered? frame with
    | some _ => s.registry.standing.filter fun entry => !(entry.token == frame.token)
    | none => s.registry.standing
  responses : ∀ sink, t.responsesTo sink = s.responsesTo sink ++ match s.answered? frame with
    | some entry => if entry.sink = sink then s.answer entry frame else []
    | none => []

theorem Undisturbed.trans (hfirst : s.Undisturbed t) (hsecond : t.Undisturbed u) :
    s.Undisturbed u where
  callbacks := hsecond.callbacks.trans hfirst.callbacks
  slot := hsecond.slot.trans hfirst.slot
  standing := hsecond.standing.trans hfirst.standing
  responses sink := (hsecond.responses sink).trans (hfirst.responses sink)

theorem answer_congr (hcallbacks : t.callbacks = s.callbacks)
    (hslot : t.registry.slot = s.registry.slot) : t.answer = s.answer := by
  funext entry frame
  rw [answer, answer, buildResponse_congr hcallbacks hslot]

/-- What happens before a frame is resolved does not count. -/
theorem Undisturbed.answers (hbefore : s.Undisturbed t) (h : t.Answers frame u) :
    s.Answers frame u := by
  have hanswered : t.answered? frame = s.answered? frame := by
    rw [answered?, answered?, hbefore.standing]
  constructor
  · exact h.callbacks.trans hbefore.callbacks
  · exact h.slot.trans hbefore.slot
  · rw [h.standing, hanswered, hbefore.standing]
  · intro sink
    rw [h.responses, hanswered, hbefore.responses,
      answer_congr hbefore.callbacks hbefore.slot]

theorem responsesTo_append {effects more : List Effect} (sink : Sink) (h : t.log = effects ++ more) :
    t.responsesTo sink = effects.filterMap (Effect.responseTo? sink)
      ++ more.filterMap (Effect.responseTo? sink) := by
  rw [responsesTo, h, List.filterMap_append]

theorem AreSilent.responses {effects : List Effect} (h : AreSilent effects) (sink : Sink) :
    effects.filterMap (Effect.responseTo? sink) = [] := by
  rw [List.filterMap_eq_nil_iff]
  intro effect hmem
  cases effect with
  | resolved delivery => exact absurd hmem (h delivery)
  | published | indicated | served | withdrawn | wrote => rfl

/-- Silent effects and other turns leave the requests undisturbed. -/
theorem undisturbed_of_silent (s : Slot) {registry : Registry} (outlet : Outlet)
    {effects : List Effect} (hslot : registry.slot = s.registry.slot)
    (hstanding : registry.standing = s.registry.standing) (hsilent : AreSilent effects) :
    s.Undisturbed { s with registry, outlet, log := s.log ++ effects } where
  callbacks := rfl
  slot := hslot
  standing := hstanding
  responses sink := by
    rw [responsesTo_append sink rfl, hsilent.responses, List.append_nil]
    rfl

theorem undisturbed_receive (s : Slot) (frame : Frame) : s.Undisturbed (s.receive frame).1 := by
  obtain ⟨registry, effects, hreceive, hslot, hsilent, -⟩ := s.receive_silent frame
  have hregistry : (s.receive frame).1.registry = registry := by rw [hreceive]
  have hstanding : registry.standing = s.registry.standing := by
    rcases s.registry_receive frame with hsame | hack
    · rw [← hregistry, hsame]
    · rw [← hregistry, hack, Registry.standing_beginAck]
  rw [hreceive]
  exact undisturbed_of_silent s s.outlet hslot hstanding hsilent

theorem undisturbed_offer {party : Party} {command : Command} (h : s.offer party command = .ok t) :
    s.Undisturbed t := by
  rw [offer] at h
  cases houtlet : s.outlet.offer party command.encodeBody with
  | error e =>
    rw [houtlet] at h
    cases h
  | ok outlet =>
    rw [houtlet] at h
    cases h
    exact ⟨rfl, rfl, rfl, fun _ => rfl⟩

theorem undisturbed_acknowledged (s : Slot) (ack : Command) (result : Except LinkError Unit) :
    s.Undisturbed (s.acknowledged ack result) := by
  cases result with
  | ok _ => exact undisturbed_of_silent s s.outlet rfl rfl (areSilent_published _)
  | error e => exact ⟨rfl, rfl, rfl, fun _ => rfl⟩

theorem undisturbed_accept (s : Slot) (count : Nat) : s.Undisturbed (s.accept count) := by
  rw [accept]
  dsimp only
  split
  · exact ⟨rfl, rfl, rfl, fun _ => rfl⟩
  · refine undisturbed_of_silent s _ rfl rfl ?_
    intro delivery hmem
    cases List.mem_singleton.1 hmem

/-- However a turn is taken, it is only for writing. -/
theorem undisturbed_takeTurn (s : Slot) (writing : Writing) :
    s.Undisturbed (s.takeTurn writing).1 := by
  cases writing with
  | succeeds => exact (s.undisturbed_accept _).trans ⟨rfl, rfl, rfl, fun _ => rfl⟩
  | fails accepted reason => exact (s.undisturbed_accept _).trans ⟨rfl, rfl, rfl, fun _ => rfl⟩

theorem answered?_eq (s : Slot) (hkind : frame.kind.isResponse = true) :
    s.answered? frame = ((s.registry.find? frame.token).map PendingRequest.unmarked).filter
      fun entry => entry.origin == .peer := by
  rw [answered?, if_pos hkind, Registry.find?_standing]

/-- What answers nothing leaves everything as it is. -/
theorem Undisturbed.answers_of_none (h : s.Undisturbed t) (hnone : s.answered? frame = none) :
    s.Answers frame t := by
  refine ⟨h.callbacks, h.slot, ?_, ?_⟩
  · rw [h.standing, hnone]
  · intro sink
    rw [h.responses, hnone, List.append_nil]

theorem answers_resolveResponse (s : Slot) (hkind : frame.kind.isResponse = true) :
    s.Answers frame (s.resolveResponse frame) := by
  rw [resolveResponse]
  rcases Registry.complete_cases s.registry frame.token .peer with
    ⟨entry, hfind, horigin, hcomplete⟩ | ⟨hcomplete, hother⟩
  · have hanswered : s.answered? frame = some entry.unmarked := by
      rw [s.answered?_eq hkind, hfind, Option.map_some, Option.filter_some, if_pos]
      exact beq_iff_eq.2 horigin
    have hstanding := Registry.standing_remove s.registry frame.token
    rw [hcomplete]
    cases hcancelled : entry.isCancelled with
    | false =>
      refine ⟨rfl, rfl, by rw [hanswered]; exact hstanding, ?_⟩
      intro sink
      have hanswer : s.answer entry.unmarked frame
          = [s.buildResponse entry frame.request frame.status frame.payload] :=
        if_neg (by rw [PendingRequest.unmarked, hcancelled]; exact Bool.false_ne_true)
      have hdelivered : [Effect.resolved ⟨entry.sink,
            s.buildResponse entry frame.request frame.status frame.payload⟩].filterMap
              (Effect.responseTo? sink)
          = if entry.sink = sink
              then [s.buildResponse entry frame.request frame.status frame.payload] else [] := by
        by_cases hsink : entry.sink = sink <;> simp [Effect.responseTo?, hsink]
      rw [hanswered, responsesTo_append sink rfl]
      dsimp only
      rw [hanswer]
      exact congrArg (s.responsesTo sink ++ ·) hdelivered
    | true =>
      refine ⟨rfl, rfl, by rw [hanswered]; exact hstanding, ?_⟩
      intro sink
      have hanswer : s.answer entry.unmarked frame = [] := if_pos hcancelled
      rw [hanswered]
      dsimp only
      rw [hanswer, ite_self, List.append_nil]
      rfl
  · have hnone : s.answered? frame = none := by
      rw [s.answered?_eq hkind, Option.filter_eq_none_iff]
      intro entry hentry horigin
      obtain ⟨pending, hfind, rfl⟩ := Option.map_eq_some_iff.1 hentry
      exact hother pending hfind (beq_iff_eq.1 horigin)
    rw [hcomplete]
    exact (undisturbed_of_silent s s.outlet rfl rfl (areSilent_published _)).answers_of_none hnone

/-- Frames that are no responses answer nothing. -/
theorem answered?_of_not_isResponse (s : Slot) (hkind : ¬ frame.kind.isResponse = true) :
    s.answered? frame = none :=
  if_neg hkind

theorem answers_resolveReceipt (s : Slot) (hkind : ¬ frame.kind.isResponse = true) :
    s.Answers frame (s.resolveReceipt frame) := by
  refine Undisturbed.answers_of_none ?_ (s.answered?_of_not_isResponse hkind)
  rw [resolveReceipt]
  have hstanding := s.registry.standing_markReceived frame.token
  rcases s.registry.markReceived_cases frame.token with ⟨_, _, _, hmarked⟩ | hmarked <;>
    rw [hmarked] at hstanding ⊢
  · exact undisturbed_of_silent s s.outlet rfl hstanding (areSilent_published _)
  · exact undisturbed_of_silent s s.outlet rfl rfl (areSilent_published _)

theorem answers_resolveIndication (s : Slot) (hkind : ¬ frame.kind.isResponse = true) :
    s.Answers frame (s.resolveIndication frame) := by
  refine Undisturbed.answers_of_none ?_ (s.answered?_of_not_isResponse hkind)
  rw [resolveIndication]
  split
  · exact ⟨rfl, rfl, rfl, fun _ => rfl⟩
  · split
    · refine undisturbed_of_silent s s.outlet rfl rfl ?_
      intro delivery hmem
      cases List.mem_singleton.1 hmem
    · exact ⟨rfl, rfl, rfl, fun _ => rfl⟩

theorem answers_resolve (s : Slot) (frame : Frame) : s.Answers frame (s.resolve frame) := by
  by_cases hkind : frame.kind.isResponse = true
  · rw [resolve_of_isResponse hkind]
    exact s.answers_resolveResponse hkind
  · unfold resolve
    cases hframe : frame.kind with
    | solicited | solicitedAckExpected =>
      rw [hframe] at hkind
      exact absurd rfl hkind
    | solicitedAck => exact s.answers_resolveReceipt hkind
    | unsolicited | unsolicitedAckExpected => exact s.answers_resolveIndication hkind

/-- Whatever becomes of its acknowledgment, a frame that is routed does what it is to do. -/
theorem answers_routeNow (s : Slot) (writing : Writing) (frame : Frame) :
    s.Answers frame (s.routeNow writing frame).1 := by
  have hreceive := s.undisturbed_receive frame
  rw [routeNow, beginRoute]
  generalize s.receive frame = taken at hreceive ⊢
  obtain ⟨received, ack?⟩ := taken
  cases ack? with
  | none => exact hreceive.answers (received.answers_resolve frame)
  | some ack =>
    cases hoffer : received.offer .reader ack with
    | error e =>
      simp only [hoffer]
      exact (hreceive.trans (received.undisturbed_acknowledged ack _)).answers
        (answers_resolve _ frame)
    | ok offered =>
      simp only [hoffer]
      exact (((hreceive.trans (undisturbed_offer hoffer)).trans
        (offered.undisturbed_takeTurn writing)).trans
        (undisturbed_acknowledged _ ack _)).answers (answers_resolve _ frame)

/-! ## One request -/

/-- Nobody waits under a token or with a sink any more. -/
def IsClear (s : Slot) (token : Token) (sink : Sink) : Prop :=
  ∀ entry ∈ s.registry.standing, entry.token ≠ token ∧ entry.sink ≠ sink

/-- A request to the peer waits under its token, and no other waits with its sink. -/
structure Awaits (s : Slot) (entry : PendingRequest) : Prop where
  origin : entry.origin = .peer
  find : (s.registry.standing.find? fun other => other.token == entry.token) = some entry
  alone : ∀ other ∈ s.registry.standing, other.sink = entry.sink → other.token = entry.token

/-- A request that is answered was found under the token of the frame. -/
theorem of_answered? (h : s.answered? frame = some entry) :
    frame.kind.isResponse = true ∧ entry ∈ s.registry.standing ∧ entry.token = frame.token := by
  unfold answered? at h
  split at h
  · next hkind =>
    obtain ⟨hfind, -⟩ := Option.filter_eq_some_iff.1 h
    exact ⟨hkind, List.mem_of_find?_eq_some hfind, by simpa using List.find?_some hfind⟩
  · cases h

/-- No frame makes a request stand that did not stand before. -/
theorem Answers.standing_subset (h : s.Answers frame t) :
    t.registry.standing ⊆ s.registry.standing := by
  rw [h.standing]
  split
  · exact List.filter_sublist.subset
  · exact List.Subset.refl _

theorem IsClear.answers {token : Token} {sink : Sink} (hclear : s.IsClear token sink)
    (h : s.Answers frame t) :
    t.IsClear token sink ∧ t.responsesTo sink = s.responsesTo sink := by
  refine ⟨fun entry hmem => hclear entry (h.standing_subset hmem), ?_⟩
  rw [h.responses]
  split
  · next entry hanswered =>
    obtain ⟨-, hmem, -⟩ := of_answered? hanswered
    rw [if_neg (hclear entry hmem).2, List.append_nil]
  · exact List.append_nil _

/-- What is no response to a request leaves it waiting. -/
theorem Awaits.passes (hawaits : s.Awaits entry) (h : s.Answers frame t)
    (hother : frame.kind.isResponse = true → frame.token ≠ entry.token) :
    t.Awaits entry ∧ t.responsesTo entry.sink = s.responsesTo entry.sink := by
  refine ⟨⟨hawaits.origin, ?_, fun other hmem =>
    hawaits.alone other (h.standing_subset hmem)⟩, ?_⟩
  · rw [h.standing]
    split
    · next taken hanswered =>
      obtain ⟨hkind, -, -⟩ := of_answered? hanswered
      rw [List.find?_filter, ← hawaits.find]
      congr 1
      funext other
      by_cases htoken : other.token = entry.token
      · simp [htoken, Ne.symm (hother hkind)]
      · simp [htoken]
    · exact hawaits.find
  · rw [h.responses]
    split
    · next taken hanswered =>
      obtain ⟨hkind, hmem, htoken⟩ := of_answered? hanswered
      have hsink : taken.sink ≠ entry.sink := fun he =>
        hother hkind (htoken.symm.trans (hawaits.alone taken hmem he))
      rw [if_neg hsink, List.append_nil]
    · exact List.append_nil _

/-- The response to a request takes it away. -/
theorem Awaits.answered (hawaits : s.Awaits entry) (h : s.Answers frame t)
    (hkind : frame.kind.isResponse = true) (htoken : frame.token = entry.token) :
    t.IsClear entry.token entry.sink ∧
      t.responsesTo entry.sink = s.responsesTo entry.sink ++ s.answer entry frame := by
  have hanswered : s.answered? frame = some entry := by
    rw [answered?, if_pos hkind, htoken, hawaits.find, Option.filter_some, if_pos]
    exact beq_iff_eq.2 hawaits.origin
  constructor
  · intro other hmem
    rw [h.standing, hanswered] at hmem
    obtain ⟨hmem, hne⟩ := List.mem_filter.1 hmem
    have hne : other.token ≠ entry.token := by simpa [htoken] using hne
    exact ⟨hne, fun he => hne (hawaits.alone other hmem he)⟩
  · rw [h.responses, hanswered]
    exact congrArg (_ ++ ·) (if_pos rfl)

/-! ## All frames -/

/-- Routes frames one after the other, each of them to its end. -/
def routeAll (s : Slot) (arrivals : List (Frame × Writing)) : Slot :=
  arrivals.foldl (fun s arrival => (s.routeNow arrival.2 arrival.1).1) s

theorem routeAll_cons (s : Slot) (arrival : Frame × Writing) (later : List (Frame × Writing)) :
    s.routeAll (arrival :: later) = ((s.routeNow arrival.2 arrival.1).1).routeAll later :=
  rfl

theorem IsClear.routeAll {token : Token} {sink : Sink} (hclear : s.IsClear token sink)
    (arrivals : List (Frame × Writing)) :
    (s.routeAll arrivals).IsClear token sink ∧
      (s.routeAll arrivals).responsesTo sink = s.responsesTo sink := by
  induction arrivals generalizing s with
  | nil => exact ⟨hclear, rfl⟩
  | cons arrival later ih =>
    obtain ⟨hstill, hsilent⟩ := hclear.answers (s.answers_routeNow arrival.2 arrival.1)
    obtain ⟨hend, hresponses⟩ := ih hstill
    exact ⟨hend, hresponses.trans hsilent⟩

/-- A request that waits is taken away by the first arrival of the response to it. -/
theorem Awaits.routeAll (hawaits : s.Awaits entry) {arrivals : List (Frame × Writing)}
    (hkind : frame.kind.isResponse = true) (htoken : frame.token = entry.token)
    (harrives : frame ∈ arrivals.map Prod.fst)
    (honly : ∀ other ∈ arrivals.map Prod.fst, other.kind.isResponse = true →
      other.token = entry.token → other = frame) :
    (s.routeAll arrivals).IsClear entry.token entry.sink ∧
      (s.routeAll arrivals).responsesTo entry.sink
        = s.responsesTo entry.sink ++ s.answer entry frame := by
  induction arrivals generalizing s with
  | nil => cases harrives
  | cons arrival later ih =>
    rw [List.map_cons] at harrives honly
    have hstep := s.answers_routeNow arrival.2 arrival.1
    by_cases hfirst : arrival.1 = frame
    · rw [hfirst] at hstep
      obtain ⟨hclear, hanswer⟩ := hawaits.answered hstep hkind htoken
      obtain ⟨hend, hsilent⟩ := hclear.routeAll later
      rw [routeAll_cons, hfirst]
      exact ⟨hend, hsilent.trans hanswer⟩
    · obtain ⟨hstill, hsilent⟩ := hawaits.passes hstep fun harrival he =>
        hfirst (honly arrival.1 List.mem_cons_self harrival he)
      have hlater := (List.mem_cons.1 harrives).resolve_left (Ne.symm hfirst)
      obtain ⟨hend, hanswer⟩ := ih hstill hlater
        fun other hmem => honly other (List.mem_cons_of_mem _ hmem)
      refine ⟨hend, hanswer.trans ?_⟩
      rw [hsilent, answer_congr hstep.callbacks hstep.slot]

/-- Frames arrive among which there is one response for each of some pending requests to the peer,
in any order and any number of times. Anything else may come in between, except other responses for
these requests. -/
structure Brings (s : Slot) (arrivals : List (Frame × Writing)) (answers : List Frame) : Prop where
  distinct : (answers.map (·.token)).Nodup
  areResponses : ∀ answer ∈ answers, answer.kind.isResponse = true
  arePending : ∀ answer ∈ answers,
    (s.registry.find? answer.token).any (fun entry => entry.origin == .peer) = true
  arrive : ∀ answer ∈ answers, answer ∈ arrivals.map Prod.fst
  others : ∀ other ∈ arrivals.map Prod.fst, other.kind.isResponse = true →
    other ∈ answers ∨ other.token ∉ answers.map (·.token)

/-- **Responses do not depend on the order of arrival, nor on what else arrives.** Pending requests
have sinks of their own. Whatever the order in which the responses to some of them arrive, whatever
arrives in between, and whatever becomes of the acknowledgments, each of these requests is gone in
the end, and its sink has got the responses that it gets when its response is routed alone: exactly
one, or none if it was cancelled. -/
theorem responses_as_if_alone {arrivals : List (Frame × Writing)} {answers : List Frame}
    (hbrings : s.Brings arrivals answers) (hsinks : (s.registry.entries.map (·.sink)).Nodup)
    {answer : Frame} (hanswer : answer ∈ answers) :
    ∃ entry responses, s.registry.find? answer.token = some entry ∧
      (∀ writing, (s.routeNow writing answer).1.responsesTo entry.sink
        = s.responsesTo entry.sink ++ responses) ∧
      (s.routeAll arrivals).responsesTo entry.sink = s.responsesTo entry.sink ++ responses ∧
      responses.length = (if entry.isCancelled then 0 else 1) ∧
      (s.routeAll arrivals).registry.find? answer.token = none := by
  have hkind := hbrings.areResponses answer hanswer
  have hpending := hbrings.arePending answer hanswer
  cases hfind : s.registry.find? answer.token with
  | none =>
    rw [hfind] at hpending
    cases hpending
  | some entry =>
    rw [hfind] at hpending
    have htoken := Registry.token_of_find? hfind
    have hawaits : s.Awaits entry.unmarked := by
      refine ⟨beq_iff_eq.1 hpending, ?_, ?_⟩
      · have hunmarked : entry.unmarked.token = answer.token := htoken
        rw [Registry.find?_standing, hunmarked, hfind, Option.map_some]
      · intro other hmem hsink
        obtain ⟨pending, hpending, rfl⟩ := List.mem_map.1 hmem
        obtain rfl : pending = entry :=
          List.inj_on_of_nodup_map hsinks hpending (Registry.mem_of_find? hfind) hsink
        rfl
    -- As the answers have distinct tokens, only repeats of this one have its token.
    have honly : ∀ other ∈ arrivals.map Prod.fst, other.kind.isResponse = true →
        other.token = entry.token → other = answer := by
      intro other hmem hother hsame
      rw [htoken] at hsame
      rcases hbrings.others other hmem hother with hmem | hnot
      · exact List.inj_on_of_nodup_map hbrings.distinct hmem hanswer hsame
      · exact absurd (List.mem_map.2 ⟨answer, hanswer, hsame.symm⟩) hnot
    obtain ⟨hclear, hresponses⟩ := hawaits.routeAll hkind htoken.symm
      (hbrings.arrive answer hanswer) honly
    refine ⟨entry, s.answer entry.unmarked answer, rfl, ?_, hresponses, ?_, ?_⟩
    · intro writing
      exact (hawaits.answered (s.answers_routeNow writing answer) hkind htoken.symm).2
    · exact s.length_answer entry.unmarked answer
    · have hgone : ((s.routeAll arrivals).registry.standing.find?
          fun other => other.token == answer.token) = none := by
        rw [List.find?_eq_none]
        intro other hmem
        rw [← htoken, beq_iff_eq]
        exact (hclear other hmem).1
      rw [Registry.find?_standing] at hgone
      exact Option.map_eq_none_iff.1 hgone

/-- Four requests are pending, of which the second is cancelled. The responses to three of them
arrive in another order, one of them twice, among an indication, a receipt, the response to the
fourth, and one for which nobody waits; the stream fails under the second acknowledgment. -/
theorem responses_as_if_alone_among_others :
    let s : Slot := { Slot.start ⟨0⟩ {} with
      callbacks := { table := { requests := [(⟨20⟩, .ofShapes .raw .raw)] } }
      registry := { slot := ⟨0⟩, historyLimit := 1, entries := [
        { token := ⟨1⟩, request := ⟨20⟩, sink := 0, origin := .peer },
        { token := ⟨2⟩, request := ⟨20⟩, sink := 1, origin := .peer, isCancelled := true },
        { token := ⟨3⟩, request := ⟨20⟩, sink := 2, origin := .peer },
        { token := ⟨4⟩, request := ⟨20⟩, sink := 3, origin := .peer }] } }
    let first : Frame := ⟨.solicited, ⟨1⟩, 20, .success, [1]⟩
    let second : Frame := ⟨.solicited, ⟨2⟩, 20, .success, [2]⟩
    let third : Frame := ⟨.solicitedAckExpected, ⟨3⟩, 20, .success, [3]⟩
    let answers := [first, second, third]
    let arrivals : List (Frame × Writing) := [
      (⟨.unsolicited, ⟨0⟩, 1000, .success, []⟩, .succeeds), (third, .succeeds),
      (⟨.solicitedAck, ⟨1⟩, 0, .success, []⟩, .succeeds),
      (⟨.solicited, ⟨4⟩, 20, .success, [4]⟩, .succeeds), (second, .succeeds),
      (⟨.solicitedAckExpected, ⟨9⟩, 20, .success, []⟩, .fails 3 "reset"), (third, .succeeds),
      (first, .succeeds)]
    s.Brings arrivals answers ∧ (s.registry.entries.map (·.sink)).Nodup ∧
    (∃ entry responses, s.registry.find? third.token = some entry ∧
      (∀ writing, (s.routeNow writing third).1.responsesTo entry.sink
        = s.responsesTo entry.sink ++ responses) ∧
      (s.routeAll arrivals).responsesTo entry.sink = s.responsesTo entry.sink ++ responses ∧
      responses.length = (if entry.isCancelled then 0 else 1) ∧
      (s.routeAll arrivals).registry.find? third.token = none) ∧
    (s.routeAll arrivals).responsesTo 0 = [⟨⟨0⟩, ⟨1⟩, ⟨20⟩, .success, .ok (.raw [1])⟩] ∧
    (s.routeAll arrivals).responsesTo 1 = [] ∧
    (s.routeAll arrivals).responsesTo 2 = [⟨⟨0⟩, ⟨3⟩, ⟨20⟩, .success, .ok (.raw [3])⟩] := by
  intro s first second third answers arrivals
  have hbrings : s.Brings arrivals answers := by
    constructor <;> decide
  have hsinks : (s.registry.entries.map (·.sink)).Nodup := by decide
  have hthird : third ∈ answers := by decide
  exact ⟨hbrings, hsinks, responses_as_if_alone hbrings hsinks hthird, by cbv, by cbv, by cbv⟩

end Slot

end RadioLink
