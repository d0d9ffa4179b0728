import RadioLink.Proofs.ModemLink
import RadioLink.Proofs.Strides
import RadioLink.Proofs.Writing

set_option autoImplicit false

/-! # What a slot writes

The bytes that a slot has written are frames one after the other, each of them the command of a
submission or an acknowledgment, and at the end perhaps part of one more. That is so for as long as
nobody who is in the middle of a frame vanishes: whoever has begun a frame goes on with it, or the
outlet is dry from then on.

The `Flow` of a slot says which frames are written and which wait, one for each turn at an open
outlet, and `Streams` that the slot is as the flow has it. A frame that is offered is the last that
waits, and bytes that are accepted are of the first. -/

namespace RadioLink

/-! ## Frames in the stream -/

/-- The bytes of commands one after the other. -/
def sentBytes (all : List Sent) : Bytes :=
  (all.map Sent.command).flatMap Command.encode

theorem sentBytes_append (first second : List Sent) :
    sentBytes (first ++ second) = sentBytes first ++ sentBytes second := by
  rw [sentBytes, List.map_append, List.flatMap_append, sentBytes, sentBytes]

theorem sentBytes_singleton (item : Sent) : sentBytes [item] = item.command.encode :=
  List.append_nil _

/-- Who writes a command. -/
def Sent.party : Sent → Party
  | .call made => .caller made.ticket
  | .ack _ => .reader

/-- A turn is to write a frame, of which these bytes are written and some are left. -/
structure Turn.Carries (turn : Turn) (begun : Bytes) (item : Sent) : Prop where
  party : turn.party = item.party
  rest : ∃ rest, rest ≠ [] ∧ turn.errand = .send rest ∧ begun ++ rest = item.command.encode

/-- Each turn is to write one of these frames, of which only the first is begun. -/
inductive Carry (torn : Bytes) : List Turn → List Sent → Prop
  | nil (h : torn = []) : Carry torn [] []
  | cons {turn : Turn} {turns : List Turn} {item : Sent} {waiting : List Sent}
      (hfirst : turn.Carries torn item)
      (hothers : List.Forall₂ (fun turn item => turn.Carries [] item) turns waiting) :
      Carry torn (turn :: turns) (item :: waiting)

namespace Carry

variable {torn : Bytes} {turns : List Turn} {waiting : List Sent}

theorem of_forall₂
    (h : List.Forall₂ (fun turn item => Turn.Carries turn [] item) turns waiting) :
    Carry [] turns waiting := by
  cases h with
  | nil => exact .nil rfl
  | cons hfirst hothers => exact .cons hfirst hothers

/-- A frame that nobody has begun is carried by the turn that is asked for it. -/
theorem carries_new (item : Sent) :
    Turn.Carries ⟨item.party, .send item.command.encode⟩ [] item :=
  ⟨rfl, _, lengthPrefixed_ne_nil _, rfl, rfl⟩

theorem enqueue (h : Carry torn turns waiting) (item : Sent) :
    Carry torn (turns ++ [⟨item.party, .send item.command.encode⟩]) (waiting ++ [item]) := by
  cases h with
  | nil htorn =>
    subst htorn
    exact .cons (carries_new item) .nil
  | cons hfirst hothers =>
    exact .cons hfirst (List.rel_append hothers (.cons (carries_new item) .nil))

theorem forall₂_leave (ticket : Nat)
    (h : List.Forall₂ (fun turn item => Turn.Carries turn [] item) turns waiting) :
    List.Forall₂ (fun turn item => Turn.Carries turn [] item)
      (turns.filter fun turn => turn.party != .caller ticket)
      (waiting.filter fun item => item.party != .caller ticket) := by
  induction h with
  | nil => exact .nil
  | cons hfirst _ ih =>
    rw [List.filter_cons, List.filter_cons, hfirst.party]
    split
    · exact .cons hfirst ih
    · exact ih

/-- A caller that has begun no frame can vanish. -/
theorem leave (h : Carry torn turns waiting) {ticket : Nat}
    (hfirst : ∀ turn, turns.head? = some turn → turn.party = .caller ticket → torn = []) :
    Carry torn (turns.filter fun turn => turn.party != .caller ticket)
      (waiting.filter fun item => item.party != .caller ticket) := by
  cases h with
  | nil htorn => exact .nil htorn
  | @cons turn turns item waiting hcarries hothers =>
    have hleft := forall₂_leave ticket hothers
    by_cases hparty : turn.party = .caller ticket
    · have hsame : item.party = .caller ticket := hcarries.party.symm.trans hparty
      obtain rfl := hfirst turn rfl hparty
      rw [List.filter_cons_of_neg (by simp [hparty]), List.filter_cons_of_neg (by simp [hsame])]
      exact of_forall₂ hleft
    · have hsame : item.party ≠ .caller ticket := fun h => hparty (hcarries.party.trans h)
      rw [List.filter_cons_of_pos (by simp [hparty]), List.filter_cons_of_pos (by simp [hsame])]
      exact .cons hcarries hleft

end Carry

/-- The end of a stream is part of a frame. -/
def IsTorn (torn : Bytes) : Prop :=
  torn = [] ∨ ∃ command rest, rest ≠ [] ∧ torn ++ rest = Command.encode command ∧
    command.encodeBody.length < UInt32.size

/-- What a slot has written, and what waits to be written. -/
structure Flow where
  /-- The frames that are written in full. -/
  written : List Sent := []
  /-- What is written of the next one. -/
  torn : Bytes := []
  /-- The frames that turns are waiting for, the one that is begun first. -/
  waiting : List Sent := []

namespace Flow

def all (f : Flow) : List Sent :=
  f.written ++ f.waiting

end Flow

namespace Session

variable {x : Session} {calls accepted : List Call} {f : Flow}

/-- The call that a submission begins. -/
def begun? (x : Session) : Action → Option Call
  | .submit chosen request payload =>
    match (x.slot.beginSubmission (.caller x.tickets) chosen request payload x.tickets).2 with
    | .ok submission => some ⟨x.tickets, submission⟩
    | .error _ => none
  | _ => none

/-- The call that a caller is told is accepted. -/
def accepted? (x : Session) : Action → Option Call
  | .resume (.caller ticket) =>
    match x.slot.outlet.tell? (.caller ticket), x.submissions.lookup ticket with
    | some (_, .sent (.ok ())), some submission => some ⟨ticket, submission⟩
    | _, _ => none
  | _ => none

/-- A caller vanishes that has written part of its frame. -/
def Tears (x : Session) (action : Action) : Prop :=
  ∃ ticket rest submission, action = .vanish ticket ∧
    x.slot.outlet.turns.head? = some ⟨.caller ticket, .send rest⟩ ∧
    x.submissions.lookup ticket = some submission ∧ rest ≠ submission.command.encode

/-- What waits at the outlet: the turns of an open one carry frames, and the frames of callers are
those of submissions under way. -/
inductive Waits (x : Session) (f : Flow) : Prop
  | isOpen (hopen : x.slot.outlet.IsOpen)
      (houtcomes : ∀ entry ∈ x.slot.outlet.outcomes, entry.2 = .sent (.ok ()))
      (hturns : Carry f.torn x.slot.outlet.turns f.waiting)
      (hunderway : ∀ call, .call call ∈ f.waiting →
        (call.ticket, call.submission) ∈ x.submissions)
  | isDry (hdry : x.slot.outlet.IsDry) (hnone : f.waiting = [])

/-- The slot is as the flow has it. -/
structure Streams (x : Session) (calls accepted : List Call) (f : Flow) : Prop where
  closes : x.ClosesOnce
  fresh : x.IsFresh
  stream : x.stream = sentBytes f.written ++ f.torn
  torn : IsTorn f.torn
  waits : x.Waits f
  short : ∀ item ∈ f.all, item.command.encodeBody.length < UInt32.size
  tickets : (calls.map (·.ticket)).Nodup ∧ ∀ call ∈ calls, call.ticket < x.tickets
  submissions : ∀ entry ∈ x.submissions, ⟨entry.1, entry.2⟩ ∈ calls
  known : ∀ call, .call call ∈ f.all → call ∈ calls
  once : (f.all.filterMap Sent.call?).Nodup
  told : ∀ ticket, (.caller ticket, .sent (.ok ())) ∈ x.slot.outlet.outcomes →
    ∃ call, .call call ∈ f.written ∧ call.ticket = ticket
  accepted : ∀ call ∈ accepted, .call call ∈ f.written
  acks : ∀ token, .ack token ∈ f.all →
    ∃ frame : Frame, ⟨true, frame.received⟩ ∈ x.trace ∧ frame.ack? = some (.ack token)

/-- Calls with one ticket are one call. -/
theorem Streams.eq_of_ticket (h : x.Streams calls accepted f) {call other : Call}
    (hcall : call ∈ calls) (hother : other ∈ calls) (hticket : call.ticket = other.ticket) :
    call = other :=
  List.inj_on_of_nodup_map h.tickets.1 hcall hother hticket

/-- The call of whoever is told that its frame was written has it written. -/
theorem Streams.mem_written_of_told (h : x.Streams calls accepted f) {call : Call}
    (hcall : call ∈ calls)
    (htold : (.caller call.ticket, .sent (.ok ())) ∈ x.slot.outlet.outcomes) :
    .call call ∈ f.written := by
  obtain ⟨other, hother, hticket⟩ := h.told call.ticket htold
  rw [← h.eq_of_ticket (h.known other (List.mem_append_left _ hother)) hcall hticket]
  exact hother

/-- A call that still waits is not written. -/
theorem Streams.not_mem_written_of_waiting (h : x.Streams calls accepted f) {call : Call}
    (hwaiting : .call call ∈ f.waiting) : .call call ∉ f.written := by
  intro hwritten
  have honce := h.once
  rw [Flow.all, List.filterMap_append] at honce
  exact (List.nodup_append.1 honce).2.2 call (List.mem_filterMap.2 ⟨_, hwritten, rfl⟩) call
    (List.mem_filterMap.2 ⟨_, hwaiting, rfl⟩) rfl

theorem Streams.isOpen_or_isDry (h : x.Streams calls accepted f) :
    x.slot.outlet.IsOpen ∨ x.slot.outlet.IsDry := by
  cases h.waits with
  | isOpen hopen => exact .inl hopen
  | isDry hdry => exact .inr hdry

theorem Streams.isDry_of_isClosed (h : x.Streams calls accepted f) :
    x.slot.isClosed = true → x.slot.outlet.IsDry := fun hclosed =>
  ⟨(h.closes.isShut hclosed).outlet, (h.closes.isShut hclosed).turns⟩

theorem mem_trace_step {noted : Noted} (h : noted ∈ x.trace) (action : Action) :
    noted ∈ (x.step action).trace :=
  List.mem_append_left _ h

theorem Streams.acks_step (h : x.Streams calls accepted f) (action : Action) :
    ∀ token, .ack token ∈ f.all →
      ∃ frame : Frame, ⟨true, frame.received⟩ ∈ (x.step action).trace ∧
        frame.ack? = some (.ack token) := by
  intro token hmem
  obtain ⟨frame, hframe, hack⟩ := h.acks token hmem
  exact ⟨frame, mem_trace_step hframe action, hack⟩

/-- A step that offers nothing goes on with the frames that were there, or with some of them. What
is left to show is what has become of the stream and of the outlet. -/
theorem Streams.goes (h : x.Streams calls accepted f) {action : Action} {next : Flow}
    {done : List Call} (hall : next.all.Sublist f.all)
    (hsubmissions : (x.act action).submissions ⊆ x.submissions)
    (hstream : (x.step action).stream = sentBytes next.written ++ next.torn)
    (htorn : IsTorn next.torn) (hwaits : (x.step action).Waits next)
    (htold : ∀ ticket,
      (.caller ticket, .sent (.ok ())) ∈ (x.act action).slot.outlet.outcomes →
        ∃ call, .call call ∈ next.written ∧ call.ticket = ticket)
    (haccepted : ∀ call ∈ done, .call call ∈ next.written) :
    (x.step action).Streams calls done next where
  closes := h.closes.step action
  fresh := h.fresh.step action
  stream := hstream
  torn := htorn
  waits := hwaits
  short := fun item hmem => h.short item (hall.subset hmem)
  tickets := ⟨h.tickets.1, fun call hmem =>
    Nat.lt_of_lt_of_le (h.tickets.2 call hmem) (x.tickets_act action)⟩
  submissions := fun entry hmem => h.submissions entry (hsubmissions hmem)
  known := fun call hmem => h.known call (hall.subset hmem)
  once := (hall.filterMap _).nodup h.once
  told := htold
  accepted := haccepted
  acks := fun token hmem => h.acks_step action token (hall.subset hmem)

/-- After a calm step the flow is the same, or nothing waits any more. -/
theorem Streams.calm (h : x.Streams calls accepted f) {action : Action} (more : List Call)
    (haccept : ∀ count, action ≠ .accept count)
    (hcalm : x.slot.outlet.Calm (x.act action).slot.outlet)
    (hsubmissions : (x.act action).submissions ⊆ x.submissions)
    (hunderway : ∀ call, .call call ∈ f.waiting →
      (call.ticket, call.submission) ∈ x.submissions →
      (call.ticket, call.submission) ∈ (x.act action).submissions)
    (hmore : ∀ call ∈ more, .call call ∈ f.written) :
    ∃ next, (x.step action).Streams calls (accepted ++ more) next ∧ next.written = f.written := by
  have hstream := (stream_of_silent h.closes haccept).trans h.stream
  have htold : ∀ ticket, (.caller ticket, .sent (.ok ())) ∈ (x.act action).slot.outlet.outcomes →
      ∃ call, .call call ∈ f.written ∧ call.ticket = ticket :=
    fun ticket hmem => h.told ticket (hcalm.outcomes _ hmem)
  have haccepted : ∀ call ∈ accepted ++ more, .call call ∈ f.written :=
    List.forall_mem_append.2 ⟨h.accepted, hmore⟩
  rcases hcalm.turns with hdry | ⟨hturns, hclosing, hhas, houtcomes⟩
  · have hnone : (Flow.all { f with waiting := [] }).Sublist f.all :=
      (List.nil_sublist _).append_left _
    exact ⟨_, h.goes hnone hsubmissions hstream h.torn (.isDry hdry rfl) htold haccepted, rfl⟩
  · refine ⟨f, h.goes (List.Sublist.refl _) hsubmissions hstream h.torn ?_ htold haccepted, rfl⟩
    cases h.waits with
    | isOpen hopen hsent hcarry hknown =>
      refine .isOpen ⟨hclosing.trans hopen.isClosing, hhas.trans hopen.hasStream, ?_⟩ ?_ ?_ ?_
      · exact fun turn hmem => hopen.isSend turn (hturns ▸ hmem)
      · exact fun entry hmem => hsent entry (houtcomes hmem)
      · show Carry f.torn (x.act action).slot.outlet.turns f.waiting
        rw [hturns]
        exact hcarry
      · exact fun call hmem => hunderway call hmem (hknown call hmem)
    | isDry hdry hnone =>
      exact .isDry ⟨hclosing.trans hdry.isClosing, fun turn hmem =>
        hdry.turns turn (hturns ▸ hmem)⟩ hnone

/-! ### Frames that are offered -/

/-- A call with the next ticket is a call of its own. -/
theorem Streams.tickets_append (h : x.Streams calls accepted f) {item : Sent} {after : Nat}
    (hlater : x.tickets ≤ after)
    (hnew : ∀ call, item = .call call → call.ticket = x.tickets ∧ after = x.tickets + 1) :
    ((calls ++ item.call?.toList).map (·.ticket)).Nodup ∧
      ∀ call ∈ calls ++ item.call?.toList, call.ticket < after := by
  have hold : ∀ call ∈ calls, call.ticket < after := fun call hmem =>
    Nat.lt_of_lt_of_le (h.tickets.2 call hmem) hlater
  cases item with
  | ack token =>
    rw [Sent.call?, Option.toList_none, List.append_nil]
    exact ⟨h.tickets.1, hold⟩
  | call new =>
    obtain ⟨hticket, hafter⟩ := hnew new rfl
    rw [Sent.call?, Option.toList_some, List.map_append]
    refine ⟨List.nodup_append.2 ⟨h.tickets.1, List.nodup_singleton _, ?_⟩, ?_⟩
    · intro ticket hmem other hother
      obtain ⟨call, hcall, rfl⟩ := List.mem_map.1 hmem
      obtain rfl := List.mem_singleton.1 hother
      show call.ticket ≠ new.ticket
      rw [hticket]
      exact Nat.ne_of_lt (h.tickets.2 call hcall)
    · refine List.forall_mem_append.2 ⟨hold, List.forall_mem_singleton.2 ?_⟩
      rw [hticket, hafter]
      exact Nat.lt_succ_self _

/-- So its frame is not among those that are there. -/
theorem Streams.once_append (h : x.Streams calls accepted f) {item : Sent}
    (hnew : ∀ call, item = .call call → call.ticket = x.tickets) :
    ((f.all ++ [item]).filterMap Sent.call?).Nodup := by
  rw [List.filterMap_append]
  cases item with
  | ack token => exact (List.append_nil _).symm ▸ h.once
  | call new =>
    refine List.nodup_append.2 ⟨h.once, List.nodup_singleton _, ?_⟩
    intro call hcall other hother he
    obtain rfl := List.mem_singleton.1 hother
    obtain ⟨sent, hmem, hsent⟩ := List.mem_filterMap.1 hcall
    cases sent with
    | ack token => cases hsent
    | call made =>
      cases hsent
      have hlt := h.tickets.2 call (h.known call hmem)
      rw [he, hnew other rfl] at hlt
      exact Nat.lt_irrefl _ hlt

/-- A frame is offered that nobody offered before. -/
theorem Streams.offered (h : x.Streams calls accepted f) {action : Action} (item : Sent)
    (haccept : ∀ count, action ≠ .accept count)
    (hoffer : x.slot.outlet.offer item.party item.command.encodeBody
      = .ok (x.act action).slot.outlet)
    (hcall : ∀ call, item = .call call →
      call.ticket = x.tickets ∧ (x.act action).tickets = x.tickets + 1)
    (hsubmissions : (x.act action).submissions
      = x.submissions ++ item.call?.toList.map fun call => (call.ticket, call.submission))
    (hack : ∀ token, item = .ack token → ∃ frame : Frame,
      ⟨true, frame.received⟩ ∈ (x.step action).trace ∧ frame.ack? = some (.ack token)) :
    ∃ next, (x.step action).Streams (calls ++ item.call?.toList) accepted next ∧
      next.written = f.written := by
  have hnext := Outlet.offer_ok hoffer
  obtain ⟨hclosing, hlength⟩ := Outlet.accepts_of_offer hoffer
  have hshort := Nat.lt_of_le_of_lt hlength x.slot.outlet.limit.toNat_lt
  have hmem : ∀ call, .call call ∈ [item] → call ∈ item.call?.toList := by
    intro call hcallmem
    obtain rfl := List.mem_singleton.1 hcallmem
    exact List.mem_singleton.2 rfl
  cases h.waits with
  | isDry hdry =>
    rw [hdry.isClosing] at hclosing
    cases hclosing
  | isOpen hopen hsent hcarry hunderway =>
    have hall : Flow.all { f with waiting := f.waiting ++ [item] } = f.all ++ [item] :=
      (List.append_assoc ..).symm
    refine ⟨{ f with waiting := f.waiting ++ [item] }, ?_, rfl⟩
    exact {
      closes := h.closes.step action
      fresh := h.fresh.step action
      stream := (stream_of_silent h.closes haccept).trans h.stream
      torn := h.torn
      waits := by
        refine .isOpen ?_ ?_ ?_ ?_
        · show (x.act action).slot.outlet.IsOpen
          rw [hnext]
          exact Outlet.isOpen_enqueue hopen _ _
        · show ∀ entry ∈ (x.act action).slot.outlet.outcomes, entry.2 = _
          rw [hnext]
          exact hsent
        · show Carry f.torn (x.act action).slot.outlet.turns (f.waiting ++ [item])
          rw [hnext]
          exact hcarry.enqueue item
        · intro call hcallmem
          show _ ∈ (x.act action).submissions
          rw [hsubmissions]
          rcases List.mem_append.1 hcallmem with hold | hnew
          · exact List.mem_append_left _ (hunderway call hold)
          · exact List.mem_append_right _ (List.mem_map.2 ⟨call, hmem call hnew, rfl⟩)
      short := by
        rw [hall]
        exact List.forall_mem_append.2 ⟨h.short, List.forall_mem_singleton.2 hshort⟩
      tickets := h.tickets_append (x.tickets_act action) hcall
      submissions := by
        show ∀ entry ∈ (x.act action).submissions, _
        rw [hsubmissions]
        intro entry hentry
        rcases List.mem_append.1 hentry with hold | hnew
        · exact List.mem_append_left _ (h.submissions entry hold)
        · obtain ⟨call, hcallmem, rfl⟩ := List.mem_map.1 hnew
          exact List.mem_append_right _ hcallmem
      known := by
        rw [hall]
        intro call hcallmem
        rcases List.mem_append.1 hcallmem with hold | hnew
        · exact List.mem_append_left _ (h.known call hold)
        · exact List.mem_append_right _ (hmem call hnew)
      once := by
        rw [hall]
        exact h.once_append fun call he => (hcall call he).1
      told := by
        show ∀ ticket, (Party.caller ticket, _) ∈ (x.act action).slot.outlet.outcomes → _
        rw [hnext]
        exact h.told
      accepted := h.accepted
      acks := by
        rw [hall]
        intro token htoken
        rcases List.mem_append.1 htoken with hold | hnew
        · exact h.acks_step action token hold
        · exact hack token (List.mem_singleton.1 hnew).symm }

/-! ### Bytes that are accepted -/

/-- The stream accepts nothing where nobody writes. -/
theorem Streams.accept_nothing (h : x.Streams calls accepted f) {count : Nat}
    (hidle : x.slot.outlet.accept count = (x.slot.outlet, [])) :
    (x.step (.accept count)).Streams calls accepted f := by
  have houtlet : (x.act (.accept count)).slot.outlet = x.slot.outlet :=
    (x.slot.outlet_accept count).trans (congrArg Prod.fst hidle)
  have hstream := stream_accept h.closes.log count
  rw [hidle, List.append_nil] at hstream
  have hwaits : (x.step (.accept count)).Waits f := by
    cases h.waits with
    | isOpen hopen hsent hcarry hunderway =>
      exact .isOpen (houtlet ▸ hopen) (houtlet ▸ hsent) (houtlet ▸ hcarry) hunderway
    | isDry hdry hnone => exact .isDry (houtlet ▸ hdry) hnone
  exact h.goes (List.Sublist.refl _) (List.Subset.refl _) (hstream.trans h.stream) h.torn hwaits
    (houtlet ▸ h.told) h.accepted

section Accept

variable {turns : List Turn} {item : Sent} {waiting : List Sent} {rest : Bytes} {count : Nat}

/-- The stream accepts part of what is left of the first frame. -/
theorem Streams.accept_part (h : x.Streams calls accepted f) (hopen : x.slot.outlet.IsOpen)
    (hsent : ∀ entry ∈ x.slot.outlet.outcomes, entry.2 = .sent (.ok ()))
    (hunderway : ∀ call, .call call ∈ f.waiting →
      (call.ticket, call.submission) ∈ x.submissions)
    (hturns : x.slot.outlet.turns = ⟨item.party, .send rest⟩ :: turns)
    (hwaiting : f.waiting = item :: waiting)
    (hothers : List.Forall₂ (fun turn item => Turn.Carries turn [] item) turns waiting)
    (hbytes : f.torn ++ rest = item.command.encode) (hleft : rest.drop count ≠ [])
    (hpart : x.slot.outlet.accept count = ({ x.slot.outlet with
      turns := ⟨item.party, .send (rest.drop count)⟩ :: turns }, rest.take count)) :
    (x.step (.accept count)).Streams calls accepted { f with
      torn := f.torn ++ rest.take count } := by
  have hbegun : (f.torn ++ rest.take count) ++ rest.drop count = item.command.encode := by
    rw [List.append_assoc, List.take_append_drop, hbytes]
  have houtlet : (x.act (.accept count)).slot.outlet = { x.slot.outlet with
      turns := ⟨item.party, .send (rest.drop count)⟩ :: turns } :=
    (x.slot.outlet_accept count).trans (congrArg Prod.fst hpart)
  have hstream := stream_accept h.closes.log count
  rw [hpart, h.stream, List.append_assoc] at hstream
  have htorn : IsTorn (f.torn ++ rest.take count) := by
    refine .inr ⟨item.command, rest.drop count, hleft, hbegun, h.short item ?_⟩
    rw [Flow.all, hwaiting]
    exact List.mem_append_right _ List.mem_cons_self
  have hopens : (x.act (.accept count)).slot.outlet.IsOpen := by
    rw [houtlet]
    refine ⟨hopen.isClosing, hopen.hasStream, List.forall_mem_cons.2 ⟨rfl, fun turn hmem => ?_⟩⟩
    exact hopen.isSend turn (hturns ▸ List.mem_cons_of_mem _ hmem)
  refine h.goes (List.Sublist.refl _) (List.Subset.refl _) hstream htorn ?_ (houtlet ▸ h.told)
    h.accepted
  refine .isOpen hopens (houtlet ▸ hsent) ?_ hunderway
  show Carry _ (x.act (.accept count)).slot.outlet.turns f.waiting
  rw [houtlet, hwaiting]
  exact .cons ⟨rfl, _, hleft, rfl, hbegun⟩ hothers

/-- It accepts all that is left of it. -/
theorem Streams.accept_whole (h : x.Streams calls accepted f) (hopen : x.slot.outlet.IsOpen)
    (hsent : ∀ entry ∈ x.slot.outlet.outcomes, entry.2 = .sent (.ok ()))
    (hunderway : ∀ call, .call call ∈ f.waiting →
      (call.ticket, call.submission) ∈ x.submissions)
    (hturns : x.slot.outlet.turns = ⟨item.party, .send rest⟩ :: turns)
    (hwaiting : f.waiting = item :: waiting)
    (hothers : List.Forall₂ (fun turn item => Turn.Carries turn [] item) turns waiting)
    (hbytes : f.torn ++ rest = item.command.encode) (hdone : rest.drop count = [])
    (hwhole : x.slot.outlet.accept count
      = (x.slot.outlet.finish item.party (.sent (.ok ())) turns, rest.take count)) :
    (x.step (.accept count)).Streams calls accepted ⟨f.written ++ [item], [], waiting⟩ := by
  have houtlet : (x.act (.accept count)).slot.outlet
      = x.slot.outlet.finish item.party (.sent (.ok ())) turns :=
    (x.slot.outlet_accept count).trans (congrArg Prod.fst hwhole)
  have hstream := stream_accept h.closes.log count
  rw [hwhole, List.take_of_length_le (List.drop_eq_nil_iff.1 hdone), h.stream, List.append_assoc,
    hbytes, ← sentBytes_singleton, ← sentBytes_append] at hstream
  have hall : Flow.all ⟨f.written ++ [item], [], waiting⟩ = f.all := by
    rw [Flow.all, Flow.all, hwaiting, List.append_assoc]
    rfl
  refine h.goes (hall ▸ List.Sublist.refl _) (List.Subset.refl _)
    (hstream.trans (List.append_nil _).symm) (.inl rfl) ?_ ?_
    (fun call hmem => List.mem_append_left _ (h.accepted call hmem))
  · refine .isOpen ?_ ?_ ?_ fun call hmem =>
      hunderway call (hwaiting ▸ List.mem_cons_of_mem _ hmem)
    · show (x.act (.accept count)).slot.outlet.IsOpen
      rw [houtlet]
      exact ⟨hopen.isClosing, hopen.hasStream, fun turn hmem =>
        hopen.isSend turn (hturns ▸ List.mem_cons_of_mem _ hmem)⟩
    · show ∀ entry ∈ (x.act (.accept count)).slot.outlet.outcomes, _
      rw [houtlet]
      exact List.forall_mem_append.2 ⟨hsent, List.forall_mem_singleton.2 rfl⟩
    · show Carry _ (x.act (.accept count)).slot.outlet.turns _
      rw [houtlet]
      exact Carry.of_forall₂ hothers
  · rw [houtlet]
    intro ticket hmem
    rcases List.mem_append.1 hmem with hmem | hmem
    · obtain ⟨call, hcall, hticket⟩ := h.told ticket hmem
      exact ⟨call, List.mem_append_left _ hcall, hticket⟩
    · have hparty := congrArg Prod.fst (List.mem_singleton.1 hmem)
      cases item with
      | ack token => cases hparty
      | call call =>
        cases hparty
        exact ⟨call, List.mem_append_right _ List.mem_cons_self, rfl⟩

end Accept

/-- The stream accepts bytes of the first frame that waits. -/
theorem Streams.accept (h : x.Streams calls accepted f) (count : Nat) :
    ∃ next more, (x.step (.accept count)).Streams calls accepted next ∧
      next.written = f.written ++ more := by
  cases h.waits with
  | isDry hdry =>
    exact ⟨f, [], h.accept_nothing (Outlet.accept_of_isDry hdry count), (List.append_nil _).symm⟩
  | isOpen hopen hsent hcarry hunderway =>
    generalize hturns : x.slot.outlet.turns = turns at hcarry
    generalize hwaiting : f.waiting = waiting at hcarry
    cases hcarry with
    | nil =>
      exact ⟨f, [], h.accept_nothing (Outlet.accept_of_nil hturns count), (List.append_nil _).symm⟩
    | @cons turn turns item waiting hcarries hothers =>
      obtain ⟨party, errand⟩ := turn
      obtain ⟨rfl, rest, -, rfl, hbytes⟩ := hcarries
      rcases Outlet.accept_of_cons hopen hturns count with ⟨hleft, hpart⟩ | ⟨hdone, hwhole⟩
      · exact ⟨_, [], h.accept_part hopen hsent hunderway hturns hwaiting hothers hbytes hleft hpart,
          (List.append_nil _).symm⟩
      · exact ⟨_, [item],
          h.accept_whole hopen hsent hunderway hturns hwaiting hothers hbytes hdone hwhole, rfl⟩

/-- A submission under way is found by its ticket. -/
theorem Streams.lookup_of_mem (h : x.Streams calls accepted f) {call : Call}
    (hmem : (call.ticket, call.submission) ∈ x.submissions) :
    x.submissions.lookup call.ticket = some call.submission := by
  cases hlookup : x.submissions.lookup call.ticket with
  | none =>
    have hne := List.lookup_eq_none_iff.1 hlookup _ hmem
    simp at hne
  | some submission =>
    have hsame : (⟨call.ticket, submission⟩ : Call) = call :=
      h.eq_of_ticket (h.submissions _ (mem_of_lookup hlookup)) (h.submissions _ hmem) rfl
    rw [← hsame]

/-- A caller whose turn is the first one has written nothing of its frame, unless it tears it. -/
theorem Streams.torn_eq_nil (h : x.Streams calls accepted f) {ticket : Nat} {turn : Turn}
    (hwhole : ¬ x.Tears (.vanish ticket))
    (hcarry : Carry f.torn x.slot.outlet.turns f.waiting)
    (hunderway : ∀ call, .call call ∈ f.waiting →
      (call.ticket, call.submission) ∈ x.submissions)
    (hhead : x.slot.outlet.turns.head? = some turn) (hparty : turn.party = .caller ticket) :
    f.torn = [] := by
  generalize hturns : x.slot.outlet.turns = turns at hcarry
  generalize hwaiting : f.waiting = waiting at hcarry
  cases hcarry with
  | nil htorn => exact htorn
  | @cons first turns item waiting hcarries _ =>
    rw [hturns] at hhead
    cases hhead
    obtain ⟨party, errand⟩ := turn
    obtain ⟨hitem, rest, hrest, rfl, hbytes⟩ := hcarries
    obtain rfl : party = .caller ticket := hparty
    cases item with
    | ack token => cases hitem
    | call call =>
      cases hitem
      have hlookup := h.lookup_of_mem (hunderway call (hwaiting ▸ List.mem_cons_self))
      have hall : rest = call.submission.command.encode := by
        by_contra hpart
        refine hwhole ⟨call.ticket, rest, call.submission, rfl, ?_, hlookup, hpart⟩
        rw [hturns]
        rfl
      have hlength := congrArg List.length hbytes
      rw [hall, List.length_append] at hlength
      exact List.length_eq_zero_iff.1 (Nat.add_eq_right.1 hlength)

/-- A caller vanishes that has written nothing of its frame. -/
theorem Streams.vanish (h : x.Streams calls accepted f) {ticket : Nat}
    (hwhole : ¬ x.Tears (.vanish ticket)) :
    ∃ next, (x.step (.vanish ticket)).Streams calls accepted next ∧ next.written = f.written := by
  have haccept : ∀ count, Action.vanish ticket ≠ .accept count := fun _ => Action.noConfusion
  have hsubmissions : (x.act (.vanish ticket)).submissions ⊆ x.submissions :=
    List.filter_sublist.subset
  cases h.waits with
  | isDry hdry hnone =>
    have hcalm : x.slot.outlet.Calm (x.act (.vanish ticket)).slot.outlet :=
      ⟨x.slot.outlet.tellsNoMore_leave _, .inl (Outlet.isDry_leave hdry _)⟩
    obtain ⟨next, hnext, hsame⟩ := h.calm [] haccept hcalm hsubmissions
      (fun call hmem => by rw [hnone] at hmem; cases hmem) (List.forall_mem_nil _)
    exact ⟨next, (List.append_nil accepted) ▸ hnext, hsame⟩
  | isOpen hopen hsent hcarry hunderway =>
    have hfirst : ∀ turn, x.slot.outlet.turns.head? = some turn → turn.party = .caller ticket →
        f.torn = [] := fun _ hhead hparty => h.torn_eq_nil hwhole hcarry hunderway hhead hparty
    have hpart : (Flow.all { f with
        waiting := f.waiting.filter fun item => item.party != .caller ticket }).Sublist f.all :=
      List.filter_sublist.append_left _
    refine ⟨_, h.goes hpart hsubmissions ((stream_of_silent h.closes haccept).trans h.stream) h.torn
      ?_ (fun other hmem => h.told other (x.slot.outlet.tellsNoMore_leave _ _ hmem)) h.accepted, rfl⟩
    refine .isOpen ?_ ?_ (hcarry.leave hfirst) ?_
    · exact ⟨hopen.isClosing, hopen.hasStream, fun turn hmem =>
        hopen.isSend turn (List.mem_filter.1 hmem).1⟩
    · exact fun entry hmem => hsent entry (List.mem_filter.1 hmem).1
    · intro call hmem
      obtain ⟨hmem, hother⟩ := List.mem_filter.1 hmem
      refine List.mem_filter.2 ⟨hunderway call hmem, ?_⟩
      simpa [Sent.party] using hother

end Session

end RadioLink
