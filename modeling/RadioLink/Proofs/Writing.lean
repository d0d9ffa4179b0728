import RadioLink.Proofs.Handlings

set_option autoImplicit false

/-! # Which steps write

Only when the stream accepts bytes are any written (`silent_act`), and they are added to those that
were written before (`stream_accept`). Of most other steps it is enough to know that they leave the
outlet `Calm`: they offer nothing, and tell nobody that a frame was written. An outlet that `IsDry`
writes nothing any more. -/

namespace RadioLink

/-! ## Outlets -/

namespace Outlet

variable {o next last : Outlet}

/-- Nothing will be written at it any more. -/
structure IsDry (o : Outlet) : Prop where
  isClosing : o.isClosing = true
  turns : ∀ turn ∈ o.turns, isSend turn = false

/-- Nobody else is told that a frame was written. -/
def TellsNoMore (o next : Outlet) : Prop :=
  ∀ party, (party, .sent (.ok ())) ∈ next.outcomes → (party, .sent (.ok ())) ∈ o.outcomes

/-- Nothing was offered and nothing written, and the turns are as they were, or nothing will be
written any more. -/
structure Calm (o next : Outlet) : Prop where
  outcomes : o.TellsNoMore next
  turns : next.IsDry ∨ (next.turns = o.turns ∧ next.isClosing = o.isClosing ∧
    next.hasStream = o.hasStream ∧ next.outcomes ⊆ o.outcomes)

theorem calm_refl (o : Outlet) : o.Calm o :=
  ⟨fun _ => id, .inr ⟨rfl, rfl, rfl, List.Subset.refl _⟩⟩

theorem calm_tell? {party : Party} {outcome : Outcome}
    (htell : o.tell? party = some (next, outcome)) : o.Calm next := by
  rw [(of_tell? htell).2]
  exact ⟨fun _ hmem => List.mem_of_mem_eraseP hmem, .inr ⟨rfl, rfl, rfl, List.eraseP_subset⟩⟩

theorem accept_of_isDry (h : o.IsDry) (count : Nat) : o.accept count = (o, []) := by
  rw [accept]
  split
  · next party rest turns hturns =>
    have hsend := h.turns ⟨party, .send rest⟩ (hturns ▸ List.mem_cons_self)
    cases hsend
  · rfl

theorem isDry_leave (h : o.IsDry) (party : Party) : (o.leave party).IsDry :=
  ⟨h.isClosing, fun turn hmem => h.turns turn (List.mem_filter.1 hmem).1⟩

theorem tellsNoMore_leave (o : Outlet) (party : Party) : o.TellsNoMore (o.leave party) :=
  fun _ hmem => (List.mem_filter.1 hmem).1

/-- Who is made to give up is told that the frame was not written. -/
theorem tellsNoMore_giveUpSends (o : Outlet) : o.TellsNoMore o.giveUpSends := by
  intro party hmem
  rcases List.mem_append.1 hmem with hmem | hmem
  · exact hmem
  · obtain ⟨turn, -, hturn⟩ := List.mem_map.1 hmem
    cases hturn

theorem calm_abortNow (o : Outlet) : o.Calm o.abortNow :=
  ⟨o.tellsNoMore_giveUpSends, .inl ⟨rfl, Slot.turns_abortNow o⟩⟩

theorem calm_shutNow (o : Outlet) (party : Party) : o.Calm (o.shutNow party) :=
  ⟨o.tellsNoMore_giveUpSends, .inl ⟨rfl, Slot.turns_shutNow o party⟩⟩

theorem calm_fail (o : Outlet) (reason : String) : o.Calm (o.fail reason) := by
  rw [fail]
  split
  · next party rest turns hturns =>
    refine ⟨fun other hmem => ?_, .inl ⟨rfl, fun turn hmem => ?_⟩⟩
    · rcases List.mem_append.1 (tellsNoMore_giveUpSends _ other hmem) with hmem | hmem
      · exact hmem
      · cases List.mem_singleton.1 hmem
    · simpa using (List.mem_filter.1 hmem).2
  · exact calm_refl o

theorem tellsNoMore_attend (o : Outlet) : o.TellsNoMore o.attend.1 := by
  fun_induction attend o with
  | case1 o party turns hturns ih =>
    intro other hmem
    rcases List.mem_append.1 (ih other hmem) with hmem | hmem
    · exact hmem
    · cases List.mem_singleton.1 hmem
  | case2 o party turns hturns next _ hnext ih =>
    rw [hnext] at ih
    intro other hmem
    rcases List.mem_append.1 (ih other hmem) with hmem | hmem
    · exact hmem
    · cases List.mem_singleton.1 hmem
  | case3 o => exact fun _ => id

theorem calm_attend (h : o.IsOpen ∨ o.IsDry) : o.Calm o.attend.1 := by
  rcases h with hopen | hdry
  · rw [attend_of_isOpen hopen]
    exact calm_refl o
  · obtain ⟨hclosing, hturns⟩ := o.attend_spec
    exact ⟨o.tellsNoMore_attend,
      .inl ⟨hclosing.trans hdry.isClosing, fun turn hmem => hdry.turns turn (hturns hmem)⟩⟩

end Outlet

namespace Slot

variable {s : Slot}

/-- However a slot is closed, nothing will be written at its outlet any more. -/
theorem calm_closeAndShutNow (h : s.isClosed = true → s.outlet.IsDry) (party : Party)
    (reason : DrainReason) (why : String) :
    s.outlet.TellsNoMore (s.closeAndShutNow party reason why).1.outlet ∧
      (s.closeAndShutNow party reason why).1.outlet.IsDry := by
  cases hclosed : s.isClosed with
  | true =>
    rw [closeAndShutNow_of_closed hclosed]
    exact ⟨fun _ hmem => hmem, h hclosed⟩
  | false =>
    rw [closeAndShutNow_of_open hclosed]
    refine ⟨fun other hmem => ?_, rfl, turns_shutNow _ party⟩
    exact s.outlet.calm_abortNow.outcomes other ((Outlet.calm_shutNow _ party).outcomes other hmem)

theorem calm_closeFromReaderNow (h : s.isClosed = true → s.outlet.IsDry) (why : String) :
    s.outlet.Calm (s.closeFromReaderNow why).outlet := by
  obtain ⟨htells, hdry⟩ := s.calm_closeAndShutNow h .reader .transportClosed why
  rw [closeFromReaderNow]
  split <;> next heq => rw [heq] at htells hdry; exact ⟨htells, .inl hdry⟩

/-- The reader leaves, and then the slot closes. -/
theorem isDry_stopReader (h : s.isClosed = true → s.outlet.IsDry) :
    s.stopReader.isClosed = true → s.stopReader.outlet.IsDry :=
  fun hclosed => Outlet.isDry_leave (h hclosed) .reader

theorem calm_shutDownNow (h : s.isClosed = true → s.outlet.IsDry) (party : Party) :
    s.outlet.Calm (s.shutDownNow party).1.outlet := by
  obtain ⟨htells, hdry⟩ :=
    s.stopReader.calm_closeAndShutNow (isDry_stopReader h) party .shutDown "shut down locally"
  exact ⟨fun other hmem => s.outlet.tellsNoMore_leave .reader other (htells other hmem), .inl hdry⟩

theorem calm_abandonNow (h : s.isClosed = true → s.outlet.IsDry) :
    s.outlet.Calm s.abandonNow.outlet := by
  rw [abandonNow]
  cases hclosed : s.stopReader.isClosed with
  | true =>
    rw [closeNow_of_closed hclosed]
    exact ⟨s.outlet.tellsNoMore_leave .reader, .inl (isDry_stopReader h hclosed)⟩
  | false =>
    rw [closeNow_of_open hclosed]
    refine ⟨fun other hmem => s.outlet.tellsNoMore_leave .reader other ?_, .inl ?_⟩
    · exact s.stopReader.outlet.calm_abortNow.outcomes other hmem
    · exact ⟨rfl, turns_abortNow _⟩

/-- What closing a slot does is no bytes in the stream. -/
theorem ne_wrote_of_mem_farewell {effect : Effect} {reason : DrainReason} {why : String}
    (h : effect ∈ s.farewell reason why) (bytes : Bytes) : effect ≠ .wrote bytes := by
  rintro rfl
  simp [farewell, lastWords] at h

end Slot

/-! ## Bytes in the stream -/

theorem Effect.ne_wrote_of_isAfterword {effect : Effect} (h : effect.isAfterword = true)
    (bytes : Bytes) : effect ≠ .wrote bytes := by
  rintro rfl
  cases h

namespace Session

variable {x : Session}

/-- The bytes that the slot has written. -/
def stream (x : Session) : Bytes :=
  (writes x.trace).flatMap (·.2)

/-- A step that has these effects writes the bytes that are among them. -/
theorem stream_step (action : Action) {effects : List Effect} (hlog : x.slot.log = [])
    (h : (x.act action).slot.log = x.slot.log ++ effects) :
    (x.step action).stream = x.stream
      ++ (writes (effects.map (Noted.mk (x.isReaders action)))).flatMap (·.2) := by
  rw [stream, trace_step action hlog h, writes_append, List.flatMap_append, stream]

/-- Whoever goes on writes nothing. -/
theorem silent_goOn (x : Session) (outcome : Outcome) (party : Party) :
    ∃ effects, (x.goOn outcome party).slot.log = x.slot.log ++ effects ∧
      ∀ effect ∈ effects, ∀ bytes, effect ≠ .wrote bytes := by
  unfold goOn
  cases party with
  | reader =>
    dsimp only
    unfold Slot.resumeReader
    split
    · next frame ack result _ =>
      have hresolved : ∀ s : Slot, ∃ effects, (s.resolve frame).log = s.log ++ effects ∧
          ∀ effect ∈ effects, ∀ bytes, effect ≠ .wrote bytes := by
        intro s
        obtain ⟨effects, hdoes, heffects⟩ := s.does_resolve frame
        exact ⟨effects, hdoes.log, fun effect hmem =>
          Effect.ne_wrote_of_isResolution (heffects effect hmem)⟩
      cases result with
      | error e => exact hresolved _
      | ok _ =>
        obtain ⟨effects, hlog, hsilent⟩ :=
          hresolved ({ x.slot with reading := .waiting }.publish (.ackSent ack.token))
        refine ⟨.published (.ackSent ack.token) :: effects, ?_, ?_⟩
        · rw [List.append_cons]
          exact hlog
        · exact List.forall_mem_cons.2 ⟨fun _ => Effect.noConfusion, hsilent⟩
    · exact ⟨[], (List.append_nil _).symm, List.forall_mem_nil _⟩
    · exact ⟨[], (List.append_nil _).symm, List.forall_mem_nil _⟩
  | caller ticket =>
    dsimp only
    split
    · next submission _ =>
      obtain ⟨effects, hdoes, heffects⟩ := x.slot.does_conclude submission _
      refine ⟨effects, hdoes.log, fun effect hmem => ?_⟩
      obtain ⟨_, _, _, rfl⟩ := heffects effect hmem
      exact fun _ => Effect.noConfusion
    · exact ⟨[], (List.append_nil _).symm, List.forall_mem_nil _⟩

/-- Routing a frame writes nothing as long as its acknowledgment waits for its turn. -/
theorem silent_beginRoute (s : Slot) (party : Party) (frame : Frame) :
    ∃ effects, (s.beginRoute party frame).1.log = s.log ++ frame.received :: effects ∧
      ∀ effect ∈ effects, ∀ bytes, effect ≠ .wrote bytes := by
  have hreceived : ∃ effects, s.Does (s.receive frame).1 (frame.received :: effects) ∧
      ∀ effect ∈ effects, ∀ bytes, effect ≠ .wrote bytes := by
    refine ⟨_, s.does_receive frame, fun effect hmem => ?_⟩
    split at hmem
    · rw [List.mem_singleton.1 hmem]
      exact fun _ => Effect.noConfusion
    · cases hmem
  obtain ⟨effects, hreceived, heffects⟩ := hreceived
  obtain ⟨more, hresolved, hmore⟩ := (s.receive frame).1.does_resolve frame
  have hboth : ∀ effect ∈ effects ++ more, ∀ bytes, effect ≠ .wrote bytes :=
    List.forall_mem_append.2 ⟨heffects, fun effect hmem =>
      Effect.ne_wrote_of_isResolution (hmore effect hmem)⟩
  rcases s.beginRoute_cases party frame with
    ⟨-, hroute⟩ | ⟨_, _, -, -, hroute⟩ | ⟨_, offered, -, hoffer, hroute⟩ <;> rw [hroute]
  · exact ⟨_, (hreceived.trans hresolved).log, hboth⟩
  · exact ⟨_, (hreceived.trans hresolved).log, hboth⟩
  · refine ⟨effects, (hreceived.trans (Slot.does_offer hoffer)).log.trans ?_, heffects⟩
    rw [List.append_nil]

/-- A step that does not close the slot writes nothing, unless the stream accepts something. -/
theorem silent_of_not_closing {action : Action} (hcloses : x.closing? action = none)
    (haccept : ∀ count, action ≠ .accept count) :
    ∃ effects, (x.act action).slot.log = x.slot.log ++ effects ∧
      ∀ effect ∈ effects, ∀ bytes, effect ≠ .wrote bytes := by
  have hnothing : ∃ effects, x.slot.log = x.slot.log ++ effects ∧
      ∀ effect ∈ effects, ∀ bytes, effect ≠ .wrote bytes :=
    ⟨[], (List.append_nil _).symm, List.forall_mem_nil _⟩
  have hcallers : ∀ {effects : List Effect}, (∀ effect ∈ effects, effect.isForCallers = true) →
      ∀ effect ∈ effects, ∀ bytes, effect ≠ .wrote bytes := fun h effect hmem =>
    (Effect.isApart_of_isForCallers (h effect hmem)).2
  cases action with
  | accept count => exact absurd rfl (haccept count)
  | shutDown | abandon => cases hcloses
  | submit chosen request payload =>
    exact ⟨[], (x.slot.does_beginSubmission ..).log, List.forall_mem_nil _⟩
  | submitLocal request data =>
    obtain ⟨effects, hdoes, heffects⟩ := x.slot.does_submitLocal request data x.tickets
    exact ⟨effects, hdoes.log, hcallers heffects⟩
  | completeLocal token status payload =>
    obtain ⟨effects, hdoes, heffects⟩ := x.slot.does_completeLocal token status payload
    exact ⟨effects, hdoes.log, hcallers heffects⟩
  | cancel token =>
    obtain ⟨effects, hdoes, heffects⟩ := x.slot.does_cancel token
    exact ⟨effects, hdoes.log, hcallers heffects⟩
  | registerCallbacks callbacks =>
    exact ⟨_, rfl, List.forall_mem_singleton.2 fun _ => Effect.noConfusion⟩
  | listen | vanish | failWrite | attend | arrive => exact hnothing
  | resume party =>
    rw [act]
    split
    · next outlet outcome _ => exact silent_goOn { x with slot := { x.slot with outlet } } ..
    · exact hnothing
  | read =>
    rcases act_read_cases hcloses with hidle | ⟨framer, frame, reading, -, -, hread⟩
    · rw [hidle]
      exact hnothing
    · obtain ⟨effects, hroute, heffects⟩ := silent_beginRoute { x.slot with framer } .reader frame
      rw [hread]
      exact ⟨_, hroute, List.forall_mem_cons.2 ⟨fun _ => Effect.noConfusion, heffects⟩⟩
  | endOfStream =>
    rw [act_endOfStream hcloses]
    exact hnothing
  | failRead =>
    rw [act_failRead hcloses]
    exact hnothing

/-- Unless the stream accepts something, nothing is written. -/
theorem silent_act {action : Action} (hshut : x.slot.isClosed = true → x.slot.IsShut)
    (haccept : ∀ count, action ≠ .accept count) :
    ∃ effects, (x.act action).slot.log = x.slot.log ++ effects ∧
      ∀ effect ∈ effects, ∀ bytes, effect ≠ .wrote bytes := by
  cases hclosed : x.slot.isClosed with
  | true =>
    obtain ⟨-, effects, hlog, heffects⟩ := act_staysShut (hshut hclosed) action
    exact ⟨effects, hlog, fun effect hmem => Effect.ne_wrote_of_isAfterword (heffects effect hmem)⟩
  | false =>
    cases hcloses : x.closing? action with
    | some closing =>
      obtain ⟨-, hlog⟩ := act_closes hclosed hcloses
      exact ⟨_, hlog, fun _ => Slot.ne_wrote_of_mem_farewell⟩
    | none => exact silent_of_not_closing hcloses haccept

/-- So the bytes in the stream are the same after the step. -/
theorem stream_of_silent {action : Action} (h : x.ClosesOnce)
    (haccept : ∀ count, action ≠ .accept count) : (x.step action).stream = x.stream := by
  obtain ⟨effects, hlog, hsilent⟩ := silent_act h.isShut haccept
  rw [stream_step action h.log hlog, writes_of_silent hsilent]
  exact List.append_nil _

/-- And those that the stream accepts are added to them. -/
theorem stream_accept (hlog : x.slot.log = []) (count : Nat) :
    (x.step (.accept count)).stream = x.stream ++ (x.slot.outlet.accept count).2 := by
  rw [stream_step (.accept count) hlog (x.slot.does_accept count).log]
  split
  · next hempty => rw [List.isEmpty_iff.1 hempty]; rfl
  · exact congrArg (x.stream ++ ·) (List.append_nil _)

end Session

end RadioLink
