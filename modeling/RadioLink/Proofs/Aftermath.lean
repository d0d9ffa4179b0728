import Mathlib
import RadioLink.Proofs.Strides
import RadioLink.Proofs.Writing

set_option autoImplicit false

/-! # What is left to do when nothing is accepted any more

Closing a slot takes several steps, and other things go on in between. Once its requests are
drained, nothing can be pending again, so nothing that happens resolves a request or has the vendor
asked; but a reader that has not noticed yet may take in a frame, and whoever wrote a command is
told that it is sent. Once the outlet accepts nothing more, no frame is added to those that wait;
but one that waits may still be written.

The facts here are about the steps of a session that do not close it. Each of them treats the outlet
in one of seven ways (`Outlet.Treats`), and what holds of those holds of the steps. -/

namespace RadioLink

/-! ## Outlets -/

/-- What is left of the frame that a turn is for. -/
def Turn.rest? (turn : Turn) : Option Bytes :=
  match turn.errand with
  | .send rest => some rest
  | .inquire | .shut => none

namespace Outlet

variable {o next : Outlet}

/-- What is left of the frames that wait or are being written, in the order of their turns. -/
def rests (o : Outlet) : List Bytes :=
  o.turns.filterMap Turn.rest?

/-- What a step that does not close the slot does with its outlet. -/
inductive Treats (o : Outlet) : Action → Outlet → Prop
  | same (action : Action) : Treats o action o
  | offer (action : Action) {party : Party} {body : Bytes} {next : Outlet}
      (h : o.offer party body = .ok next) : Treats o action next
  | leave (ticket : Nat) : Treats o (.vanish ticket) (o.leave (.caller ticket))
  | tell {party : Party} {outcome : Outcome} {next : Outlet}
      (h : o.tell? party = some (next, outcome)) : Treats o (.resume party) next
  | accept (count : Nat) : Treats o (.accept count) (o.accept count).1
  | fail (reason : String) : Treats o (.failWrite reason) (o.fail reason)
  | attend : Treats o .attend o.attend.1

/-- From one moment to another these bytes are written, all of them of the first frame, and no frame
is added. Nothing is written after the stream was let go of. -/
structure Trickles (o : Outlet) (bytes : Bytes) (next : Outlet) : Prop where
  isClosing : next.isClosing = true
  hasStream : o.hasStream = false → next.hasStream = false ∧ bytes = []
  rests : bytes = [] ∧ next.rests.Sublist o.rests ∨
    ∃ left others, o.rests = (bytes ++ left) :: others ∧
      (next.rests = others ∨ next.rests = left :: others)

theorem trickles_of_turns (hclosing : next.isClosing = true)
    (hstream : o.hasStream = false → next.hasStream = false)
    (hturns : next.turns.Sublist o.turns) : o.Trickles [] next :=
  ⟨hclosing, fun hgone => ⟨hstream hgone, rfl⟩, .inl ⟨rfl, hturns.filterMap Turn.rest?⟩⟩

theorem offer_of_isClosing (h : o.isClosing = true) (party : Party) (body : Bytes) :
    o.offer party body = .error .transportClosed := by
  rw [offer, frameFor, if_pos h]
  rfl

/-- Taking the turns at the front leaves those behind them as they are. -/
theorem trickles_attend (h : o.isClosing = true) : o.Trickles [] o.attend.1 := by
  refine trickles_of_turns (o.attend_spec.1.trans h) ?_ ?_
  · fun_induction attend o with
    | case1 o party turns hturns ih => exact ih h
    | case2 o party turns hturns next _ hnext ih =>
      rw [hnext] at ih
      exact fun _ => ih h rfl
    | case3 o => exact id
  · clear h
    fun_induction attend o with
    | case1 o party turns hturns ih =>
      rw [hturns]
      exact ih.trans (List.sublist_cons_self _ _)
    | case2 o party turns hturns next _ hnext ih =>
      rw [hnext] at ih
      rw [hturns]
      exact ih.trans (List.sublist_cons_self _ _)
    | case3 o => exact List.Sublist.refl _

theorem trickles_fail (h : o.isClosing = true) (reason : String) :
    o.Trickles [] (o.fail reason) := by
  rw [fail]
  split
  · next party rest turns hturns =>
    refine trickles_of_turns rfl (fun _ => rfl) ?_
    rw [hturns]
    exact List.filter_sublist.trans (List.sublist_cons_self _ _)
  · exact trickles_of_turns h id (List.Sublist.refl _)

/-- The stream accepts some of what is left of the first frame, or nothing. -/
theorem trickles_accept (h : o.isClosing = true) (count : Nat) :
    o.Trickles (o.accept count).2 (o.accept count).1 := by
  obtain ⟨limit, isClosing, hasStream, turns, outcomes⟩ := o
  have hnothing : ∀ {others : List Turn} {more : List (Party × Outcome)},
      others.Sublist turns → Trickles ⟨limit, isClosing, hasStream, turns, outcomes⟩ []
        ⟨limit, isClosing, hasStream, others, more⟩ :=
    fun hothers => trickles_of_turns h id hothers
  rw [accept]
  split
  · next party rest others hturns =>
    obtain rfl : turns = _ := hturns
    cases hasStream with
    | false => exact hnothing (List.sublist_cons_self _ _)
    | true =>
      have hwhole : [rest] = [rest.take count ++ rest.drop count] := by
        rw [List.take_append_drop]
      have hrests := congrArg (· ++ others.filterMap Turn.rest?) hwhole
      simp only [if_true]
      split
      · exact ⟨h, fun hgone => (Bool.noConfusion hgone), .inr ⟨_, _, hrests, .inl rfl⟩⟩
      · exact ⟨h, fun hgone => (Bool.noConfusion hgone), .inr ⟨_, _, hrests, .inr rfl⟩⟩
  · exact hnothing (List.Sublist.refl _)

/-- Unless the stream accepts something, nothing is written at an outlet that closes. -/
theorem Treats.trickles {action : Action} (h : o.Treats action next) (hclosing : o.isClosing = true)
    (haccept : ∀ count, action ≠ .accept count) : o.Trickles [] next := by
  cases h with
  | same => exact trickles_of_turns hclosing id (List.Sublist.refl _)
  | offer _ h =>
    rw [offer_of_isClosing hclosing] at h
    cases h
  | leave ticket => exact trickles_of_turns hclosing id List.filter_sublist
  | tell htell =>
    rw [(of_tell? htell).2]
    exact trickles_of_turns hclosing id (List.Sublist.refl _)
  | accept count => exact absurd rfl (haccept count)
  | fail reason => exact trickles_fail hclosing reason
  | attend => exact trickles_attend hclosing

end Outlet

/-- Routing a frame offers an acknowledgment, or leaves the outlet alone. -/
theorem Slot.treats_beginRoute (s : Slot) (party : Party) (frame : Frame) (action : Action) :
    s.outlet.Treats action (s.beginRoute party frame).1.outlet := by
  rcases s.beginRoute_cases party frame with
    ⟨-, hroute⟩ | ⟨_, _, -, -, hroute⟩ | ⟨_, offered, -, hoffer, hroute⟩ <;> rw [hroute]
  · rw [outlet_resolve, outlet_receive]
    exact .same action
  · rw [outlet_resolve, outlet_receive]
    exact .same action
  · have houtlet := outlet_of_offer hoffer
    rw [outlet_receive] at houtlet
    exact .offer action houtlet

namespace Session

variable {x : Session}

/-- What a step that does not close the slot does with its outlet. -/
theorem treats_act {action : Action} (hcloses : x.closing? action = none) :
    x.slot.outlet.Treats action (x.act action).slot.outlet := by
  cases action with
  | submit chosen request payload =>
    show Outlet.Treats _ _
      (x.slot.beginSubmission (.caller x.tickets) chosen request payload x.tickets).1.outlet
    rcases x.slot.outlet_beginSubmission (.caller x.tickets) chosen request payload x.tickets with
      hkept | ⟨body, hoffer⟩
    · rw [hkept]
      exact .same _
    · exact .offer _ hoffer
  | submitLocal request data =>
    rw [act, Slot.outlet_submitLocal]
    exact .same _
  | completeLocal token status payload =>
    rw [act, Slot.outlet_completeLocal]
    exact .same _
  | cancel token =>
    rw [act, Slot.outlet_cancel]
    exact .same _
  | registerCallbacks | listen | arrive => exact .same _
  | shutDown | abandon => cases hcloses
  | vanish ticket => exact .leave ticket
  | resume party =>
    rw [act]
    split
    · next outlet outcome htell =>
      rw [outlet_goOn]
      exact .tell htell
    · exact .same _
  | accept count =>
    rw [act, Slot.outlet_accept]
    exact .accept count
  | failWrite reason => exact .fail reason
  | attend => exact .attend
  | read =>
    rcases act_read_cases hcloses with hidle | ⟨framer, frame, reading, -, -, hread⟩
    · rw [hidle]
      exact .same _
    · rw [hread]
      exact { x.slot with framer }.treats_beginRoute .reader frame .read
  | endOfStream =>
    rw [act_endOfStream hcloses]
    exact .same _
  | failRead =>
    rw [act_failRead hcloses]
    exact .same _

end Session

/-! ## Effects -/

/-- Nobody is answered, the vendor is not involved, and the slot does not say again that it
closes. -/
def Effect.isLate : Effect → Bool
  | .resolved _ | .served .. | .withdrawn _ | .published (.disconnected ..) => false
  | _ => true

/-- What comes of a frame, and of nothing else. -/
def Effect.isOfFrame (effect : Effect) : Bool :=
  effect.isReaders || effect.isResolution

namespace Slot

variable {s : Slot}

/-- The second slot is still drained, and did only what is left to do. A reader that is gone does
nothing. -/
structure Lingers (s t : Slot) : Prop where
  drained : t.IsDrained
  effects : ∃ effects, t.log = s.log ++ effects ∧ ∀ effect ∈ effects, effect.isLate = true ∧
    (s.reading.isLive = false → effect.isOfFrame = false)

theorem Lingers.of_same {t : Slot} (h : t.IsDrained) (hlog : t.log = s.log) : s.Lingers t :=
  ⟨h, [], hlog.trans (List.append_nil _).symm, List.forall_mem_nil _⟩

/-- One effect that does not come of a frame. -/
theorem Lingers.of_effect {t : Slot} {effect : Effect} (h : t.IsDrained)
    (hlog : t.log = s.log ++ [effect]) (hlate : effect.isLate = true)
    (hapart : effect.isOfFrame = false) : s.Lingers t :=
  ⟨h, [effect], hlog, List.forall_mem_singleton.2 ⟨hlate, fun _ => hapart⟩⟩

/-- What a reader does that is still there. -/
theorem Lingers.of_frame {t : Slot} {effects : List Effect} (h : t.IsDrained)
    (hreading : s.reading.isLive = true) (hlog : t.log = s.log ++ effects)
    (hlate : ∀ effect ∈ effects, effect.isLate = true) : s.Lingers t := by
  refine ⟨h, effects, hlog, fun effect hmem => ⟨hlate effect hmem, fun hgone => ?_⟩⟩
  rw [hreading] at hgone
  cases hgone

namespace IsDrained

/-- A frame finds nothing to be resolved. -/
theorem resolve (h : s.IsDrained) (frame : Frame) :
    (s.resolve frame).IsDrained ∧ ∃ effects, (s.resolve frame).log = s.log ++ effects ∧
      ∀ effect ∈ effects, effect.isLate = true := by
  have hnothing : s.registry.find? frame.token = none := h.find?_eq_none frame.token
  unfold Slot.resolve
  cases frame.kind with
  | solicited | solicitedAckExpected =>
    dsimp only
    rw [Slot.resolveResponse, Registry.complete, hnothing]
    exact ⟨⟨h.registry, h.entries⟩, _, rfl, List.forall_mem_singleton.2 rfl⟩
  | solicitedAck =>
    dsimp only
    rw [Slot.resolveReceipt, Registry.markReceived, hnothing]
    exact ⟨⟨h.registry, h.entries⟩, _, rfl, List.forall_mem_singleton.2 rfl⟩
  | unsolicited | unsolicitedAckExpected =>
    dsimp only
    rw [Slot.resolveIndication]
    split
    · exact ⟨h, [], (List.append_nil _).symm, List.forall_mem_nil _⟩
    · split
      · exact ⟨⟨h.registry, h.entries⟩, _, rfl, List.forall_mem_singleton.2 rfl⟩
      · exact ⟨h, [], (List.append_nil _).symm, List.forall_mem_nil _⟩

theorem receive (h : s.IsDrained) (frame : Frame) :
    (s.receive frame).1.IsDrained ∧ ∃ effects, (s.receive frame).1.log = s.log ++ effects ∧
      ∀ effect ∈ effects, effect.isLate = true := by
  refine ⟨?_, _, (s.does_receive frame).log, ?_⟩
  · have hdecided : (s.registry.beginAck frame.token).1 = s.registry := by
      rw [Registry.beginAck, h.find?_eq_none]
    rcases s.registry_receive frame with hsame | hack
    · exact ⟨hsame ▸ h.registry, hsame ▸ h.entries⟩
    · rw [hdecided] at hack
      exact ⟨hack ▸ h.registry, hack ▸ h.entries⟩
  · refine List.forall_mem_cons.2 ⟨rfl, fun effect hmem => ?_⟩
    split at hmem
    · rw [List.mem_singleton.1 hmem]
      rfl
    · cases hmem

theorem beginRoute (h : s.IsDrained) (party : Party) (frame : Frame) :
    (s.beginRoute party frame).1.IsDrained ∧
      ∃ effects, (s.beginRoute party frame).1.log = s.log ++ effects ∧
        ∀ effect ∈ effects, effect.isLate = true := by
  obtain ⟨hreceived, effects, hlog, heffects⟩ := h.receive frame
  obtain ⟨hresolved, more, hmore, hlate⟩ := hreceived.resolve frame
  have hboth : ((s.receive frame).1.resolve frame).log = s.log ++ (effects ++ more) := by
    rw [hmore, hlog, List.append_assoc]
  have hall : ∀ effect ∈ effects ++ more, effect.isLate = true :=
    List.forall_mem_append.2 ⟨heffects, hlate⟩
  rcases s.beginRoute_cases party frame with
    ⟨-, hroute⟩ | ⟨_, _, -, -, hroute⟩ | ⟨_, offered, -, hoffer, hroute⟩ <;> rw [hroute]
  · exact ⟨hresolved, _, hboth, hall⟩
  · exact ⟨hresolved, _, hboth, hall⟩
  · have hregistry := registry_of_offer hoffer
    refine ⟨⟨hregistry ▸ hreceived.registry, hregistry ▸ hreceived.entries⟩, effects, ?_, heffects⟩
    rw [(does_offer hoffer).log, List.append_nil, hlog]

/-- A reader that goes on with a frame finds nothing to be resolved. -/
theorem resumeReader (h : s.IsDrained) (outcome : Outcome) :
    s.Lingers (s.resumeReader outcome) := by
  unfold Slot.resumeReader
  split
  · next frame ack result hreading =>
    have hthere : s.reading.isLive = true := by rw [hreading]; rfl
    cases result with
    | ok _ =>
      have hacked : ({ s with reading := .waiting }.publish (.ackSent ack.token)).IsDrained :=
        ⟨h.registry, h.entries⟩
      obtain ⟨hdrained, effects, hlog, hlate⟩ := hacked.resolve frame
      refine .of_frame hdrained hthere (hlog.trans (List.append_assoc ..)) ?_
      exact List.forall_mem_append.2 ⟨List.forall_mem_singleton.2 rfl, hlate⟩
    | error e =>
      have hwaiting : { s with reading := .waiting }.IsDrained := ⟨h.registry, h.entries⟩
      obtain ⟨hdrained, effects, hlog, hlate⟩ := hwaiting.resolve frame
      exact .of_frame hdrained hthere hlog hlate
  · exact .of_same ⟨h.registry, h.entries⟩ rfl
  · exact .of_same h rfl

/-- A caller that goes on is told that its command is sent, or has nothing to take back. -/
theorem conclude (h : s.IsDrained) (submission : Submission) (result : Except LinkError Unit) :
    s.Lingers (s.conclude submission result).1 := by
  cases result with
  | ok _ => exact .of_effect ⟨h.registry, h.entries⟩ rfl rfl rfl
  | error e =>
    refine .of_same ⟨h.registry, ?_⟩ rfl
    exact List.eq_nil_of_subset_nil (h.entries ▸ List.filter_sublist.subset)

end IsDrained

end Slot

namespace Session

variable {x : Session}

/-- A reader that is gone does not come back. -/
theorem isLive_act (hgone : x.slot.reading.isLive = false) {action : Action}
    (hcloses : x.closing? action = none) : (x.act action).slot.reading.isLive = false := by
  have hdone : ∀ {after : Slot} {effects : List Effect}, x.slot.Does after effects →
      after.reading.isLive = false := fun hdoes => hdoes.reading ▸ hgone
  cases action with
  | submit chosen request payload => exact hdone (x.slot.does_beginSubmission ..)
  | submitLocal request data =>
    obtain ⟨_, hdoes, -⟩ := x.slot.does_submitLocal request data x.tickets
    exact hdone hdoes
  | completeLocal token status payload =>
    obtain ⟨_, hdoes, -⟩ := x.slot.does_completeLocal token status payload
    exact hdone hdoes
  | cancel token =>
    obtain ⟨_, hdoes, -⟩ := x.slot.does_cancel token
    exact hdone hdoes
  | registerCallbacks | listen | vanish | failWrite | attend | arrive => exact hgone
  | shutDown | abandon => cases hcloses
  | resume party =>
    rw [act]
    split
    · next outlet outcome _ =>
      unfold goOn
      cases party with
      | reader =>
        dsimp only
        unfold Slot.resumeReader
        split
        · next hreading _ =>
          have hthere : x.slot.reading.isLive = true := congrArg Reading.isLive hreading
          rw [hgone] at hthere
          cases hthere
        · rfl
        · exact hgone
      | caller ticket =>
        dsimp only
        split
        · next result submission _ _ =>
          obtain ⟨_, hdoes, -⟩ := { x.slot with outlet }.does_conclude submission result
          exact (congrArg Reading.isLive hdoes.reading).trans hgone
        · exact hgone
    · exact hgone
  | accept count => exact hdone (x.slot.does_accept count)
  | read =>
    have hbusy : x.slot.reading ≠ .waiting := fun hwaiting => by
      rw [hwaiting] at hgone
      cases hgone
    rw [act, Slot.readNext?_of_not_waiting hbusy]
    exact hgone
  | endOfStream =>
    rw [act_endOfStream hcloses]
    exact hgone
  | failRead =>
    rw [act_failRead hcloses]
    exact hgone

/-- Whatever happens to a drained slot, what is left to do is all that it does. -/
theorem lingers_act (h : x.slot.IsDrained) {action : Action} (hcloses : x.closing? action = none) :
    x.slot.Lingers (x.act action).slot := by
  have hsame : x.slot.Lingers x.slot := .of_same h rfl
  cases action with
  | submit chosen request payload =>
    obtain ⟨e, he⟩ := h.beginSubmission (.caller x.tickets) chosen request payload x.tickets
    rw [act, he]
    exact hsame
  | submitLocal request data =>
    obtain ⟨e, he⟩ := h.submitLocal request data x.tickets
    rw [act, he]
    exact hsame
  | completeLocal token status payload =>
    rw [act, h.completeLocal]
    exact hsame
  | cancel token =>
    rw [act, h.cancel]
    exact hsame
  | registerCallbacks callbacks => exact .of_effect ⟨h.registry, h.entries⟩ rfl rfl rfl
  | listen | vanish | failWrite | attend | arrive => exact .of_same ⟨h.registry, h.entries⟩ rfl
  | shutDown | abandon => cases hcloses
  | resume party =>
    rw [act]
    split
    · next outlet outcome _ =>
      have htold : { x.slot with outlet }.IsDrained := ⟨h.registry, h.entries⟩
      unfold goOn
      cases party with
      | reader =>
        obtain ⟨hdrained, heffects⟩ := htold.resumeReader outcome
        exact ⟨hdrained, heffects⟩
      | caller ticket =>
        dsimp only
        split
        · next result submission _ _ =>
          obtain ⟨hdrained, heffects⟩ := htold.conclude submission result
          exact ⟨hdrained, heffects⟩
        · exact .of_same htold rfl
    · exact hsame
  | accept count =>
    have hdoes := x.slot.does_accept count
    have hregistry := x.slot.registry_accept count
    have hdrained : (x.slot.accept count).IsDrained :=
      ⟨hregistry ▸ h.registry, hregistry ▸ h.entries⟩
    by_cases hempty : (x.slot.outlet.accept count).2.isEmpty
    · rw [if_pos hempty] at hdoes
      exact .of_same hdrained (hdoes.log.trans (List.append_nil _))
    · rw [if_neg hempty] at hdoes
      exact .of_effect hdrained hdoes.log rfl rfl
  | read =>
    rcases act_read_cases hcloses with hidle | ⟨framer, frame, reading, hwaiting, -, hread⟩
    · rw [hidle]
      exact hsame
    · have htaken : { x.slot with framer }.IsDrained := ⟨h.registry, h.entries⟩
      obtain ⟨hdrained, effects, hlog, hlate⟩ := htaken.beginRoute .reader frame
      have hthere : x.slot.reading.isLive = true := by rw [hwaiting]; rfl
      rw [hread]
      exact .of_frame ⟨hdrained.registry, hdrained.entries⟩ hthere hlog hlate
  | endOfStream =>
    rw [act_endOfStream hcloses]
    exact hsame
  | failRead =>
    rw [act_failRead hcloses]
    exact hsame

/-! ## Strides -/

/-- A stride that does not close the slot says nothing of closing. -/
theorem leavesOpen_stride {next : Stride} (hlog : x.slot.log = [])
    (hcloses : x.closedBy? next = none) :
    (x.stride next).slot.isClosed = x.slot.isClosed ∧
      ∃ later, (x.stride next).trace = x.trace ++ later ∧
        ∀ noted ∈ later, noted.effect.isDisconnected = false := by
  have hnothing : ∃ later, x.trace = x.trace ++ later ∧
      ∀ noted ∈ later, noted.effect.isDisconnected = false :=
    ⟨[], (List.append_nil _).symm, List.forall_mem_nil _⟩
  cases next with
  | register chosen request payload =>
    rw [stride, register]
    split
    · next registered submission hregister =>
      obtain ⟨-, -, nextToken, rfl⟩ := Slot.register_ok hregister
      exact ⟨rfl, hnothing⟩
    · exact ⟨rfl, hnothing⟩
  | offer ticket =>
    rw [stride, offer]
    split
    · exact ⟨rfl, hnothing⟩
    · split
      · next offered hoffer => exact ⟨(Slot.does_offer hoffer).isClosed, hnothing⟩
      · exact ⟨rfl, hnothing⟩
  | act action =>
    obtain ⟨hsame, effects, heffects, hquiet⟩ := act_leavesOpen hcloses
    refine ⟨hsame, _, trace_step action hlog heffects, fun noted hmem => ?_⟩
    obtain ⟨effect, heffect, rfl⟩ := List.mem_map.1 hmem
    exact hquiet effect heffect

theorem isLive_stride (hgone : x.slot.reading.isLive = false) {next : Stride}
    (hcloses : x.closedBy? next = none) : (x.stride next).slot.reading.isLive = false := by
  cases next with
  | register chosen request payload =>
    rw [stride, register]
    split
    · next registered submission hregister =>
      obtain ⟨-, -, nextToken, rfl⟩ := Slot.register_ok hregister
      exact hgone
    · exact hgone
  | offer ticket =>
    rw [stride, offer]
    split
    · exact hgone
    · split
      · next offered hoffer => exact (Slot.does_offer hoffer).reading ▸ hgone
      · exact hgone
  | act action => exact isLive_act hgone hcloses

/-- Whatever happens to a drained slot, what is left to do is all that it does. -/
theorem lingers_stride (hlog : x.slot.log = []) (h : x.slot.IsDrained) {next : Stride}
    (hcloses : x.closedBy? next = none) :
    (x.stride next).slot.IsDrained ∧
      ∃ later, (x.stride next).trace = x.trace ++ later ∧ ∀ noted ∈ later,
        noted.effect.isLate = true ∧
          (x.slot.reading.isLive = false → noted.effect.isOfFrame = false) := by
  have hnothing : ∃ later, x.trace = x.trace ++ later ∧ ∀ noted ∈ later,
      noted.effect.isLate = true ∧
        (x.slot.reading.isLive = false → noted.effect.isOfFrame = false) :=
    ⟨[], (List.append_nil _).symm, List.forall_mem_nil _⟩
  cases next with
  | register chosen request payload =>
    obtain ⟨e, hrefused⟩ := h.register chosen request payload x.tickets
    rw [stride, register, hrefused]
    exact ⟨h, hnothing⟩
  | offer ticket =>
    rw [stride, offer]
    split
    · exact ⟨h, hnothing⟩
    · split
      · next offered hoffer =>
        have hregistry := Slot.registry_of_offer hoffer
        exact ⟨⟨hregistry ▸ h.registry, hregistry ▸ h.entries⟩, hnothing⟩
      · exact ⟨⟨h.registry, h.entries⟩, hnothing⟩
  | act action =>
    obtain ⟨hdrained, effects, heffects, hlate⟩ := lingers_act h hcloses
    refine ⟨⟨hdrained.registry, hdrained.entries⟩, _, trace_step action hlog heffects, ?_⟩
    intro noted hmem
    obtain ⟨effect, heffect, rfl⟩ := List.mem_map.1 hmem
    exact hlate effect heffect

/-- Once the outlet is closing only the frames that wait at it are written. -/
theorem trickles_stride (hlog : x.slot.log = []) (hclosing : x.slot.outlet.isClosing = true)
    {next : Stride} (hcloses : x.closedBy? next = none) :
    ∃ bytes, (x.stride next).stream = x.stream ++ bytes ∧
      x.slot.outlet.Trickles bytes (x.stride next).slot.outlet := by
  have hsame : x.slot.outlet.Trickles [] x.slot.outlet :=
    Outlet.trickles_of_turns hclosing id (List.Sublist.refl _)
  cases next with
  | register chosen request payload =>
    rw [stride, register]
    split
    · next registered submission hregister =>
      obtain ⟨-, -, nextToken, rfl⟩ := Slot.register_ok hregister
      exact ⟨[], (List.append_nil _).symm, hsame⟩
    · exact ⟨[], (List.append_nil _).symm, hsame⟩
  | offer ticket =>
    refine ⟨[], ?_⟩
    rw [stride, offer, List.append_nil]
    split
    · exact ⟨rfl, hsame⟩
    · next submission _ =>
      have hrefused : x.slot.offer (.caller ticket) submission.command
          = .error .transportClosed := by
        rw [Slot.offer, Outlet.offer_of_isClosing hclosing]
        rfl
      rw [hrefused]
      exact ⟨rfl, Outlet.trickles_of_turns hclosing id (List.Sublist.refl _)⟩
  | act action =>
    by_cases haccept : ∀ count, action ≠ .accept count
    · obtain ⟨effects, heffects, hsilent⟩ := silent_of_not_closing hcloses haccept
      refine ⟨[], ?_, (treats_act hcloses).trickles hclosing haccept⟩
      rw [stride, stream_step action hlog heffects, writes_of_silent hsilent]
      rfl
    · simp only [not_forall, Classical.not_not] at haccept
      obtain ⟨count, rfl⟩ := haccept
      refine ⟨(x.slot.outlet.accept count).2, ?_, ?_⟩
      · exact stream_accept hlog count
      · show x.slot.outlet.Trickles _ (x.slot.accept count).outlet
        rw [Slot.outlet_accept]
        exact Outlet.trickles_accept hclosing count

end Session

end RadioLink
