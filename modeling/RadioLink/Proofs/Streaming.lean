import RadioLink.Proofs.Acknowledging
import RadioLink.Proofs.Stream

set_option autoImplicit false

/-! # Every step keeps the stream in order

Each step of a slot leaves it as a flow has it (`Streams.step`): the one before, or one with another
frame that waits, or one of which more is written. -/

namespace RadioLink

namespace Session

variable {x : Session} {calls accepted : List Call} {f : Flow}

/-- A step that neither begins nor ends a submission, and leaves the outlet calm. -/
theorem Streams.pass (h : x.Streams calls accepted f) {action : Action}
    (haccept : ∀ count, action ≠ .accept count)
    (hcalm : x.slot.outlet.Calm (x.act action).slot.outlet)
    (hsubmissions : (x.act action).submissions = x.submissions) (hbegun : x.begun? action = none)
    (haccepted : x.accepted? action = none) :
    ∃ next more, (x.step action).Streams (calls ++ (x.begun? action).toList)
      (accepted ++ (x.accepted? action).toList) next ∧ next.written = f.written ++ more := by
  obtain ⟨next, hnext, hsame⟩ := h.calm [] haccept hcalm
    (fun entry hmem => hsubmissions ▸ hmem) (fun call _ hmem => hsubmissions ▸ hmem)
    (List.forall_mem_nil _)
  refine ⟨next, [], ?_, hsame.trans (List.append_nil _).symm⟩
  rw [hbegun, haccepted, Option.toList_none, List.append_nil]
  exact hnext

theorem Streams.submit (h : x.Streams calls accepted f) (chosen : Option Token)
    (request : RequestId) (payload : Payload) :
    ∃ next more, (x.step (.submit chosen request payload)).Streams
      (calls ++ (x.begun? (.submit chosen request payload)).toList)
      (accepted ++ (x.accepted? (.submit chosen request payload)).toList) next ∧
      next.written = f.written ++ more := by
  have haccept : ∀ count, Action.submit chosen request payload ≠ .accept count :=
    fun _ => Action.noConfusion
  rcases x.slot.beginSubmission_cases (.caller x.tickets) chosen request payload x.tickets with
    ⟨e, nextToken, hbegin⟩ | ⟨submission, nextToken, outlet, -, -, -, hoffer, hbegin⟩
  · refine h.pass haccept ?_ ?_ ?_ rfl
    · rw [act, hbegin]
      exact Outlet.calm_refl _
    · rw [act, hbegin]
    · rw [begun?, hbegin]
  · have hact : x.act (.submit chosen request payload) = { x with
        slot := { x.slot with
          registry := { x.slot.registry with nextToken }.add
            { token := submission.token, request, sink := x.tickets, origin := .peer }
          outlet }
        tickets := x.tickets + 1
        submissions := x.submissions ++ [(x.tickets, submission)] } := by rw [act, hbegin]
    have hbegun : x.begun? (.submit chosen request payload)
        = (Sent.call ⟨x.tickets, submission⟩).call? := by
      rw [begun?, hbegin]
      rfl
    obtain ⟨next, hnext, hsame⟩ := h.offered (.call ⟨x.tickets, submission⟩) haccept
      (by rw [hact]; exact hoffer) (fun call he => by cases he; rw [hact]; exact ⟨rfl, rfl⟩)
      (by rw [hact]; rfl) (fun token he => by cases he)
    refine ⟨next, [], ?_, hsame.trans (List.append_nil _).symm⟩
    rw [hbegun]
    simpa [accepted?] using hnext

/-- Whoever is told that its frame was written has it written. -/
theorem Streams.resume (h : x.Streams calls accepted f) (ticket : Nat) {outlet : Outlet}
    {outcome : Outcome} (htell : x.slot.outlet.tell? (.caller ticket) = some (outlet, outcome)) :
    ∃ next more, (x.step (.resume (.caller ticket))).Streams
      (calls ++ (x.begun? (.resume (.caller ticket))).toList)
      (accepted ++ (x.accepted? (.resume (.caller ticket))).toList) next ∧
      next.written = f.written ++ more := by
  have houtcome := (Outlet.of_tell? htell).1
  have hcalm : x.slot.outlet.Calm (x.act (.resume (.caller ticket))).slot.outlet := by
    rw [act, htell]
    dsimp only
    rw [outlet_goOn]
    exact Outlet.calm_tell? htell
  -- Only the submission that is told something is over.
  have hsubmissions : (x.act (.resume (.caller ticket))).submissions = x.submissions ∨
      (x.act (.resume (.caller ticket))).submissions
        = x.submissions.filter fun entry => entry.1 != ticket := by
    rw [act, htell]
    unfold goOn
    dsimp only
    split
    · exact .inr rfl
    · exact .inl rfl
  have hunderway : ∀ call, .call call ∈ f.waiting →
      (call.ticket, call.submission) ∈ x.submissions →
      (call.ticket, call.submission) ∈ (x.act (.resume (.caller ticket))).submissions := by
    intro call hwaiting hmem
    rcases hsubmissions with hsame | hfiltered
    · rw [hsame]
      exact hmem
    · rw [hfiltered]
      refine List.mem_filter.2 ⟨hmem, ?_⟩
      cases h.waits with
      | isDry hdry hnone =>
        rw [hnone] at hwaiting
        cases hwaiting
      | isOpen hopen hsent =>
        obtain rfl : outcome = _ := hsent _ houtcome
        refine bne_iff_ne.2 fun he => ?_
        obtain rfl : call.ticket = ticket := he
        exact h.not_mem_written_of_waiting hwaiting
          (h.mem_written_of_told (h.known call (List.mem_append_right _ hwaiting)) houtcome)
  have hmore : ∀ call ∈ (x.accepted? (.resume (.caller ticket))).toList,
      .call call ∈ f.written := by
    intro call hmem
    rw [Option.mem_toList, accepted?, htell] at hmem
    split at hmem
    · next submission htold hlookup =>
      cases htold
      cases hmem
      exact h.mem_written_of_told (h.submissions _ (mem_of_lookup hlookup)) houtcome
    · cases hmem
  obtain ⟨next, hnext, hsame⟩ := h.calm _ (fun _ => Action.noConfusion) hcalm
    (by
      rcases hsubmissions with hsame | hfiltered
      · rw [hsame]
        exact List.Subset.refl _
      · rw [hfiltered]
        exact List.filter_sublist.subset) hunderway hmore
  refine ⟨next, [], ?_, hsame.trans (List.append_nil _).symm⟩
  simpa [begun?] using hnext

/-- What a frame is acknowledged with. -/
theorem exists_of_ack? {frame : Frame} {ack : Command} (h : frame.ack? = some ack) :
    ∃ token, ack = .ack token := by
  rw [Frame.ack?] at h
  split at h <;> cases h
  · exact ⟨_, rfl⟩
  · exact ⟨_, rfl⟩

theorem Streams.read (h : x.Streams calls accepted f) :
    ∃ next more, (x.step .read).Streams (calls ++ (x.begun? .read).toList)
      (accepted ++ (x.accepted? .read).toList) next ∧ next.written = f.written ++ more := by
  have haccept : ∀ count, Action.read ≠ .accept count := fun _ => Action.noConfusion
  have hsubmissions : (x.act .read).submissions = x.submissions := by
    rw [act]
    split <;> rfl
  have hpass : x.slot.outlet.Calm (x.act .read).slot.outlet → _ :=
    fun hcalm => h.pass haccept hcalm hsubmissions rfl rfl
  by_cases hwaiting : x.slot.reading = .waiting
  · rcases Slot.readNext?_cases hwaiting with ⟨-, hread⟩ | ⟨e, -, hread⟩ | ⟨frame, -, hread⟩
    · refine hpass ?_
      rw [act, hread]
      exact Outlet.calm_refl _
    · refine hpass ?_
      rw [act, hread]
      exact Slot.calm_closeFromReaderNow (s := { x.slot with framer := x.slot.framer.nextFrame.1 })
        h.isDry_of_isClosed _
    · obtain ⟨s, hs⟩ : ∃ s : Slot, s = { x.slot with framer := x.slot.framer.nextFrame.1 } :=
        ⟨_, rfl⟩
      rw [← hs] at hread
      have houtlet : (s.receive frame).1.outlet = x.slot.outlet := by rw [Slot.outlet_receive, hs]
      have hresolved : x.slot.outlet = ((s.receive frame).1.resolve frame).outlet := by
        rw [Slot.outlet_resolve, houtlet]
      rcases s.beginRoute_cases .reader frame with
        ⟨-, hroute⟩ | ⟨_, _, -, -, hroute⟩ | ⟨ack, offered, hack, hoffer, hroute⟩
      · refine hpass ?_
        rw [act, hread, hroute]
        exact hresolved ▸ Outlet.calm_refl _
      · refine hpass ?_
        rw [act, hread, hroute]
        exact hresolved ▸ Outlet.calm_refl _
      · have hact : x.act .read = { x with
            slot := { offered with reading := .acknowledging frame ack } } := by
          rw [act, hread, hroute]
        have hasked : frame.ack? = some ack := by
          rcases s.receive_cases frame with ⟨_, hnone, -⟩ | ⟨other, hother, hasked, -⟩
          · rw [hack] at hnone
            cases hnone
          · rw [hack] at hother
            cases hother
            exact hasked
        obtain ⟨token, rfl⟩ := exists_of_ack? hasked
        have hnoted : ⟨true, frame.received⟩ ∈ (x.step .read).trace := by
          obtain ⟨effects, hlog, -⟩ := silent_beginRoute s .reader frame
          have hstep : (x.act .read).slot.log = x.slot.log ++ frame.received :: effects := by
            rw [hroute] at hlog
            rw [hact]
            exact hlog.trans (by rw [hs])
          rw [trace_step .read h.closes.log hstep]
          exact List.mem_append_right _ List.mem_cons_self
        have hoffered : x.slot.outlet.offer .reader (Command.ack token).encodeBody
            = .ok (x.act .read).slot.outlet := by
          have hafter : (x.act .read).slot.outlet = offered.outlet := by rw [hact]
          rw [hafter, ← houtlet]
          exact Slot.outlet_of_offer hoffer
        obtain ⟨next, hnext, hsame⟩ := h.offered (.ack token) haccept
          hoffered (fun call he => by cases he)
          (hsubmissions.trans (List.append_nil _).symm)
          (fun other he => by cases he; exact ⟨frame, hnoted, hasked⟩)
        refine ⟨next, [], ?_, hsame.trans (List.append_nil _).symm⟩
        simpa [accepted?, begun?, Sent.call?] using hnext
  · refine hpass ?_
    rw [act, Slot.readNext?_of_not_waiting hwaiting]
    exact Outlet.calm_refl _

/-- Whatever happens, what is written is frames, as long as no frame is torn by its caller. -/
theorem Streams.step (h : x.Streams calls accepted f) (action : Action)
    (hwhole : ¬ x.Tears action) :
    ∃ next more, (x.step action).Streams (calls ++ (x.begun? action).toList)
      (accepted ++ (x.accepted? action).toList) next ∧ next.written = f.written ++ more := by
  have hsame : x.slot.outlet.Calm x.slot.outlet := Outlet.calm_refl _
  have hclosed := h.isDry_of_isClosed
  cases action with
  | submit chosen request payload => exact h.submit chosen request payload
  | submitLocal request data =>
    refine h.pass (fun _ => Action.noConfusion) ?_ rfl rfl rfl
    rw [act, Slot.outlet_submitLocal]
    exact hsame
  | completeLocal token status payload =>
    refine h.pass (fun _ => Action.noConfusion) ?_ rfl rfl rfl
    rw [act, Slot.outlet_completeLocal]
    exact hsame
  | cancel token =>
    refine h.pass (fun _ => Action.noConfusion) ?_ rfl rfl rfl
    rw [act, Slot.outlet_cancel]
    exact hsame
  | registerCallbacks callbacks => exact h.pass (fun _ => Action.noConfusion) hsame rfl rfl rfl
  | listen isListening => exact h.pass (fun _ => Action.noConfusion) hsame rfl rfl rfl
  | arrive bytes => exact h.pass (fun _ => Action.noConfusion) hsame rfl rfl rfl
  | shutDown =>
    exact h.pass (fun _ => Action.noConfusion) (Slot.calm_shutDownNow hclosed _) rfl rfl rfl
  | abandon => exact h.pass (fun _ => Action.noConfusion) (Slot.calm_abandonNow hclosed) rfl rfl rfl
  | vanish ticket =>
    obtain ⟨next, hnext, hwritten⟩ := h.vanish hwhole
    refine ⟨next, [], ?_, hwritten.trans (List.append_nil _).symm⟩
    simpa [begun?, accepted?] using hnext
  | resume party =>
    cases htell : x.slot.outlet.tell? party with
    | none =>
      have hidle : x.act (.resume party) = x := by rw [act, htell]
      refine h.pass (fun _ => Action.noConfusion) ?_ ?_ rfl ?_
      · rw [hidle]
        exact hsame
      · rw [hidle]
      · cases party with
        | reader => rfl
        | caller ticket => rw [accepted?, htell]
    | some told =>
      obtain ⟨outlet, outcome⟩ := told
      cases party with
      | caller ticket => exact h.resume ticket htell
      | reader =>
        refine h.pass (fun _ => Action.noConfusion) ?_ ?_ rfl rfl
        · rw [act, htell]
          dsimp only
          rw [outlet_goOn]
          exact Outlet.calm_tell? htell
        · rw [act, htell]
          rfl
  | accept count =>
    obtain ⟨next, more, hnext, hwritten⟩ := h.accept count
    refine ⟨next, more, ?_, hwritten⟩
    simpa [begun?, accepted?] using hnext
  | failWrite reason =>
    exact h.pass (fun _ => Action.noConfusion) (x.slot.outlet.calm_fail reason) rfl rfl rfl
  | attend =>
    exact h.pass (fun _ => Action.noConfusion) (Outlet.calm_attend h.isOpen_or_isDry) rfl rfl rfl
  | read => exact h.read
  | endOfStream | failRead =>
    refine h.pass (fun _ => Action.noConfusion) ?_ ?_ rfl rfl
    · rw [act]
      split
      · exact Slot.calm_closeFromReaderNow hclosed _
      · exact hsame
    · rw [act]
      split <;> rfl

theorem streams_start (id : SlotId) (options : SlotOptions) :
    (start id options).Streams [] [] {} where
  closes := closesOnce_run id options []
  fresh := isFresh_run id options []
  stream := rfl
  torn := .inl rfl
  waits := .isOpen ⟨rfl, rfl, List.forall_mem_nil _⟩ (List.forall_mem_nil _) (.nil rfl)
    fun call hmem => by cases hmem
  short := List.forall_mem_nil _
  tickets := ⟨List.nodup_nil, List.forall_mem_nil _⟩
  submissions := List.forall_mem_nil _
  known := fun call hmem => by cases hmem
  once := List.nodup_nil
  told := fun ticket hmem => by cases hmem
  accepted := List.forall_mem_nil _
  acks := fun token hmem => by cases hmem

end Session

end RadioLink
