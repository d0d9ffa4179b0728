import RadioLink.Proofs.Accounts

set_option autoImplicit false

/-! # Every frame is acknowledged as it asks to be

A run of a slot that leaves the outlet open keeps the accounts of its reader (`accounts_run`), and
what they say of the trace is that every frame was acknowledged as it asks to be, before anything
came of it, with exactly one command or because it was before. -/

namespace RadioLink

/-! ## Steps -/

theorem Slot.isClosing_beginRoute (s : Slot) (party : Party) (frame : Frame) :
    (s.beginRoute party frame).1.outlet.isClosing = s.outlet.isClosing := by
  rcases s.beginRoute_cases party frame with
    ⟨-, hroute⟩ | ⟨_, _, -, -, hroute⟩ | ⟨_, offered, -, hoffer, hroute⟩ <;> rw [hroute]
  · rw [outlet_resolve, outlet_receive]
  · rw [outlet_resolve, outlet_receive]
  · rw [Outlet.offer_ok (outlet_of_offer hoffer), outlet_receive]
    rfl

namespace Session

variable {x y : Session} {handled : List Handling} {pieces : List Bytes} {blocks : List Block}

theorem isClosing_closeFromReaderNow {s : Slot} (h : s.outlet.isClosing = true) (why : String) :
    (s.closeFromReaderNow why).outlet.isClosing = true := by
  rw [Slot.closeFromReaderNow]
  cases hclosed : s.isClosed with
  | true =>
    rw [Slot.closeAndShutNow_of_closed hclosed]
    exact h
  | false =>
    rw [Slot.closeAndShutNow_of_open hclosed]
    rfl

/-- An outlet that is closing stays so. -/
theorem isClosing_act (h : x.slot.outlet.isClosing = true) (action : Action) :
    (x.act action).slot.outlet.isClosing = true := by
  cases action with
  | submit chosen request payload =>
    show (x.slot.beginSubmission _ _ _ _ _).1.outlet.isClosing = true
    rcases x.slot.outlet_beginSubmission (.caller x.tickets) chosen request payload x.tickets with
      hsame | ⟨body, hoffer⟩
    · rw [hsame]
      exact h
    · rw [Outlet.offer_ok hoffer]
      exact h
  | submitLocal request data =>
    show (x.slot.submitLocal _ _ _).1.outlet.isClosing = true
    rw [Slot.outlet_submitLocal]
    exact h
  | completeLocal token status payload =>
    show (x.slot.completeLocal _ _ _).1.outlet.isClosing = true
    rw [Slot.outlet_completeLocal]
    exact h
  | cancel token =>
    show (x.slot.cancel _).1.outlet.isClosing = true
    rw [Slot.outlet_cancel]
    exact h
  | registerCallbacks | listen | vanish | arrive => exact h
  | shutDown =>
    show (x.slot.shutDownNow _).1.outlet.isClosing = true
    rw [Slot.shutDownNow]
    cases hclosed : x.slot.stopReader.isClosed with
    | true =>
      rw [Slot.closeAndShutNow_of_closed hclosed]
      exact h
    | false =>
      rw [Slot.closeAndShutNow_of_open hclosed]
      rfl
  | abandon =>
    show x.slot.abandonNow.outlet.isClosing = true
    rw [Slot.abandonNow]
    cases hclosed : x.slot.stopReader.isClosed with
    | true =>
      rw [Slot.closeNow_of_closed hclosed]
      exact h
    | false =>
      rw [Slot.closeNow_of_open hclosed]
      rfl
  | resume party =>
    rw [act]
    split
    · next outlet outcome htell =>
      have hnext : outlet.isClosing = true := by
        rw [(Outlet.of_tell? htell).2]
        exact h
      exact (congrArg Outlet.isClosing (outlet_goOn _ outcome party)).trans hnext
    · exact h
  | accept count =>
    show (x.slot.accept count).outlet.isClosing = true
    rw [Slot.outlet_accept, Outlet.isClosing_accept]
    exact h
  | failWrite reason =>
    show (x.slot.outlet.fail reason).isClosing = true
    rw [Outlet.fail]
    split
    · rfl
    · exact h
  | attend => exact x.slot.outlet.attend_spec.1.trans h
  | read =>
    rw [act]
    by_cases hwaiting : x.slot.reading = .waiting
    · rcases Slot.readNext?_cases hwaiting with ⟨-, hread⟩ | ⟨e, -, hread⟩ | ⟨frame, -, hread⟩ <;>
        rw [hread]
      · exact h
      · exact isClosing_closeFromReaderNow
          (s := { x.slot with framer := x.slot.framer.nextFrame.1 }) h _
      · have hroute := Slot.isClosing_beginRoute { x.slot with
          framer := x.slot.framer.nextFrame.1 } .reader frame
        dsimp only
        split <;> exact hroute.trans h
    · rw [Slot.readNext?_of_not_waiting hwaiting]
      exact h
  | endOfStream | failRead =>
    rw [act]
    split
    · exact isClosing_closeFromReaderNow h _
    · exact h

/-- A caller that goes on after its turn goes past the reader. -/
theorem goesPast_resume (h : x.slot.outlet.IsOpen) {ticket : Nat} {outlet : Outlet}
    {outcome : Outcome} (htell : x.slot.outlet.tell? (.caller ticket) = some (outlet, outcome)) :
    ∃ effects, x.GoesPast (x.act (.resume (.caller ticket))) effects ∧
      ∀ effect ∈ effects, effect.isApart := by
  have hkeeps := Outlet.keepsReader_tell? h htell
  have hstill : x.slot.framer = x.slot.framer.push [] := by rw [Framer.push, List.append_nil]
  rw [act, htell]
  unfold goOn
  dsimp only
  split
  · next submission _ =>
    obtain ⟨effects, hdoes, heffects⟩ := Slot.does_conclude { x.slot with outlet } submission _
    refine ⟨effects, ⟨hdoes.log, rfl, hdoes.isClosed, hdoes.reading, ?_, ?_, ?_⟩, ?_⟩
    · exact ⟨[], hdoes.framer.trans hstill, (List.append_nil _).symm⟩
    · exact Slot.acked_conclude _ submission _
    · rw [Slot.outlet_conclude]
      exact hkeeps
    · intro effect hmem
      obtain ⟨_, _, _, rfl⟩ := heffects effect hmem
      exact ⟨rfl, fun _ => Effect.noConfusion⟩
  · exact ⟨[], ⟨(List.append_nil _).symm, rfl, rfl, rfl, ⟨[], hstill, (List.append_nil _).symm⟩,
      List.Subset.refl _, hkeeps⟩, List.forall_mem_nil _⟩

/-- A step from which an open outlet comes out open is accounted for. -/
theorem Accounts.step (h : x.Accounts handled pieces blocks) (action : Action)
    (hopen : (x.step action).slot.outlet.isClosing = false) :
    ∃ handled pieces blocks, (x.step action).Accounts handled pieces blocks := by
  cases hcloses : x.closing? action with
  | some closing =>
    obtain ⟨hshut, -⟩ := act_closes h.isClosed hcloses
    have hclosing : (x.step action).slot.outlet.isClosing = true := hshut.outlet
    rw [hclosing] at hopen
    cases hopen
  | none =>
    have hidle : x.act action = x →
        ∃ handled pieces blocks, (x.step action).Accounts handled pieces blocks := by
      intro hact
      rw [step_of_idle h.log hact]
      exact ⟨handled, pieces, blocks, h⟩
    have hkept := Outlet.keepsReader_refl h.isOpen
    have hstill : ∃ bytes, x.slot.framer = x.slot.framer.push bytes ∧
        x.arrived = x.arrived ++ bytes := by
      refine ⟨[], ?_, (List.append_nil _).symm⟩
      rw [Framer.push, List.append_nil]
    cases action with
    | submit chosen request payload =>
      have hdoes := x.slot.does_beginSubmission (.caller x.tickets) chosen request payload x.tickets
      have hacked := x.slot.acked_beginSubmission (.caller x.tickets) chosen request payload
        x.tickets
      have houtlet : x.slot.outlet.KeepsReader (x.slot.beginSubmission (.caller x.tickets) chosen
          request payload x.tickets).1.outlet := by
        rcases x.slot.outlet_beginSubmission (.caller x.tickets) chosen request payload x.tickets
          with hsame | ⟨body, hoffer⟩
        · rw [hsame]
          exact hkept
        · exact Outlet.keepsReader_offer h.isOpen hoffer
      exact ⟨_, _, _, h.goPast (.of_does hdoes rfl rfl hacked houtlet) rfl
        (List.forall_mem_nil _)⟩
    | submitLocal request data =>
      obtain ⟨effects, hdoes, heffects⟩ := x.slot.does_submitLocal request data x.tickets
      have hpast : x.GoesPast (x.act (.submitLocal request data)) effects := by
        refine .of_does hdoes rfl rfl (x.slot.acked_submitLocal request data x.tickets) ?_
        show x.slot.outlet.KeepsReader (x.slot.submitLocal _ _ _).1.outlet
        rw [Slot.outlet_submitLocal]
        exact hkept
      exact ⟨_, _, _, h.goPast hpast rfl fun effect hmem =>
        Effect.isApart_of_isForCallers (heffects effect hmem)⟩
    | completeLocal token status payload =>
      obtain ⟨effects, hdoes, heffects⟩ := x.slot.does_completeLocal token status payload
      have hpast : x.GoesPast (x.act (.completeLocal token status payload)) effects := by
        refine .of_does hdoes rfl rfl ?_ ?_
        · show (x.slot.completeLocal _ _ _).1.registry.acked ⊆ _
          rw [Slot.registry_completeLocal]
          exact Registry.acked_complete _ _ _
        · show x.slot.outlet.KeepsReader (x.slot.completeLocal _ _ _).1.outlet
          rw [Slot.outlet_completeLocal]
          exact hkept
      exact ⟨_, _, _, h.goPast hpast rfl fun effect hmem =>
        Effect.isApart_of_isForCallers (heffects effect hmem)⟩
    | cancel token =>
      obtain ⟨effects, hdoes, heffects⟩ := x.slot.does_cancel token
      have hpast : x.GoesPast (x.act (.cancel token)) effects := by
        refine .of_does hdoes rfl rfl ?_ ?_
        · show (x.slot.cancel _).1.registry.acked ⊆ _
          rw [Slot.registry_cancel]
          exact Registry.acked_cancel _ _
        · show x.slot.outlet.KeepsReader (x.slot.cancel _).1.outlet
          rw [Slot.outlet_cancel]
          exact hkept
      exact ⟨_, _, _, h.goPast hpast rfl fun effect hmem =>
        Effect.isApart_of_isForCallers (heffects effect hmem)⟩
    | registerCallbacks callbacks =>
      have hpast : x.GoesPast (x.act (.registerCallbacks callbacks))
          [.published (.callbacksRegistered callbacks.vendor.version)] := by
        exact ⟨rfl, rfl, rfl, rfl, hstill, List.Subset.refl _, hkept⟩
      exact ⟨_, _, _, h.goPast hpast rfl
        (List.forall_mem_singleton.2 ⟨rfl, fun _ => Effect.noConfusion⟩)⟩
    | listen isListening =>
      have hpast : x.GoesPast (x.act (.listen isListening)) [] :=
        ⟨(List.append_nil _).symm, rfl, rfl, rfl, hstill, List.Subset.refl _, hkept⟩
      exact ⟨_, _, _, h.goPast hpast rfl (List.forall_mem_nil _)⟩
    | shutDown | abandon => cases hcloses
    | vanish ticket =>
      have hpast : x.GoesPast (x.act (.vanish ticket)) [] :=
        ⟨(List.append_nil _).symm, rfl, rfl, rfl, hstill, List.Subset.refl _,
          Outlet.keepsReader_leave h.isOpen ticket⟩
      exact ⟨_, _, _, h.goPast hpast rfl (List.forall_mem_nil _)⟩
    | resume party =>
      cases htell : x.slot.outlet.tell? party with
      | none => exact hidle (by rw [act, htell])
      | some told =>
        obtain ⟨outlet, outcome⟩ := told
        cases party with
        | reader =>
          obtain ⟨_, hafter⟩ := h.resume htell
          exact ⟨_, _, _, hafter⟩
        | caller ticket =>
          obtain ⟨effects, hpast, heffects⟩ := goesPast_resume h.isOpen htell
          exact ⟨_, _, _, h.goPast hpast rfl heffects⟩
    | accept count =>
      cases hturns : x.slot.outlet.turns with
      | nil =>
        have hhead : ∀ first, x.slot.outlet.turns.head? = some first → first.party ≠ .reader := by
          intro first hfirst
          rw [hturns] at hfirst
          cases hfirst
        obtain ⟨_, hafter⟩ := h.accept_caller count hhead
        exact ⟨_, _, _, hafter⟩
      | cons turn turns =>
        by_cases hparty : turn.party = .reader
        · obtain ⟨rest, hturn⟩ := Outlet.eq_send_of_isOpen h.isOpen (hturns ▸ List.mem_cons_self)
          rw [hturn, hparty] at hturns
          obtain ⟨_, _, hafter⟩ := h.accept_reader count hturns
          exact ⟨_, _, _, hafter⟩
        · have hhead : ∀ first, x.slot.outlet.turns.head? = some first → first.party ≠ .reader := by
            intro first hfirst
            rw [hturns] at hfirst
            cases hfirst
            exact hparty
          obtain ⟨_, hafter⟩ := h.accept_caller count hhead
          exact ⟨_, _, _, hafter⟩
    | failWrite reason =>
      cases hturns : x.slot.outlet.turns with
      | nil =>
        refine hidle ?_
        rw [act, Slot.failWrite, Outlet.fail, hturns]
      | cons turn turns =>
        obtain ⟨rest, hturn⟩ := Outlet.eq_send_of_isOpen h.isOpen (hturns ▸ List.mem_cons_self)
        rw [hturn] at hturns
        change (x.slot.outlet.fail reason).isClosing = false at hopen
        rw [Outlet.fail, hturns] at hopen
        cases hopen
    | attend =>
      refine hidle ?_
      rw [act, Outlet.attend_of_isOpen h.isOpen]
    | arrive bytes =>
      have hpast : x.GoesPast (x.act (.arrive bytes)) [] :=
        ⟨(List.append_nil _).symm, rfl, rfl, rfl, ⟨bytes, rfl, rfl⟩, List.Subset.refl _, hkept⟩
      exact ⟨_, _, _, h.goPast hpast rfl (List.forall_mem_nil _)⟩
    | read =>
      obtain ⟨_, _, hafter⟩ := h.read hcloses
      exact ⟨_, _, _, hafter⟩
    | endOfStream | failRead =>
      rw [closing?] at hcloses
      split at hcloses
      · cases hcloses
      · next hreading =>
        refine hidle ?_
        rw [act]
        split
        · next hwaiting => exact absurd hwaiting hreading
        · rfl

/-! ## Runs -/

theorem accounts_start (id : SlotId) (options : SlotOptions) :
    (start id options).Accounts [] [] [] where
  log := rfl
  isClosed := rfl
  isOpen := ⟨rfl, rfl, List.forall_mem_nil _⟩
  limit := rfl
  proper := fun earlier h later hsplit => by cases earlier <;> cases hsplit
  arrived := rfl
  effects := rfl
  others := fun noted hmem _ => by rw [List.mem_singleton.1 hmem]; rfl
  writes := rfl
  acked := List.forall_mem_nil _
  stands := .waiting rfl rfl rfl

theorem accounts_run (id : SlotId) (options : SlotOptions) (actions : List Action)
    (hopen : ((start id options).run actions).slot.outlet.isClosing = false) :
    ∃ handled pieces blocks, ((start id options).run actions).Accounts handled pieces blocks := by
  refine run_induction (P := fun x => x.slot.outlet.isClosing = false →
    ∃ handled pieces blocks, x.Accounts handled pieces blocks) ?_ ?_ actions hopen
  · intro x action ih hafter
    cases hbefore : x.slot.outlet.isClosing with
    | true =>
      have hstill : (x.step action).slot.outlet.isClosing = true := isClosing_act hbefore action
      rw [hstill] at hafter
      cases hafter
    | false =>
      obtain ⟨handled, pieces, blocks, h⟩ := ih hbefore
      exact h.step action hafter
  · exact fun _ => ⟨_, _, _, accounts_start id options⟩

/-- The pieces in the reader's blocks are those of its acknowledgments. -/
theorem Accounts.readerPieces (h : x.Accounts handled pieces blocks) :
    readerPieces blocks
      = handled.filterMap Handling.written? ++ if pieces.isEmpty then [] else [pieces] := by
  have hstands := h.stands
  generalize x.slot.reading = reading at hstands
  cases hstands with
  | waiting _ _ hblocks => exact hblocks.trans (List.append_nil _).symm
  | writing _ _ _ _ before _ _ _ _ _ hblocks hbefore =>
    rw [hblocks, readerPieces_append, hbefore, readerPieces_begun]
  | written _ ack _ _ _ _ hpieces hblocks =>
    have hne : pieces.isEmpty = false := by
      rw [List.isEmpty_eq_false_iff]
      rintro rfl
      exact lengthPrefixed_ne_nil _ hpieces.symm
    rw [hblocks, hne]
    rfl

/-- **Every frame is acknowledged as it asks to be.** Whatever happens to a slot, as long as its
outlet is open the frames that have arrived are those that the reader has handled, and one that it
is acknowledging. What the reader did are the handlings one after the other, and nobody else does
such things: each frame was taken in, the acknowledgment that it asks for was written or is a
duplicate of one that was, and only then it was resolved.

In the stream each acknowledgment stands in one block, that nobody else writes into; and the
reader's blocks are the acknowledgments that were written, in the order in which the frames
arrived. -/
theorem acknowledged_as_asked (id : SlotId) (options : SlotOptions) (actions : List Action) :
    let x := (start id options).run actions
    x.slot.outlet.isClosing = false →
    ∃ handled pieces blocks,
      Handling.AreProper handled ∧
      x.arrived = (handled.flatMap fun h => h.frame.encode) ++ x.slot.reading.bytes
        ++ x.slot.framer.buffer ∧
      readerEffects x.trace = handled.flatMap Handling.effects ++ x.slot.reading.effects pieces ∧
      (∀ noted ∈ x.trace, noted.byReader = false → noted.effect.isReaders = false) ∧
      (match x.slot.reading with
        | .waiting => pieces = []
        | .acknowledging frame ack =>
          frame.ack? = some ack ∧ ∃ rest, pieces.flatten ++ rest = ack.encode
        | .closing | .stopped => False) ∧
      writes x.trace = blocks.flatMap Block.writes ∧
      readerPieces blocks
        = handled.filterMap Handling.written? ++ if pieces.isEmpty then [] else [pieces] := by
  intro x hopen
  obtain ⟨handled, pieces, blocks, h⟩ := accounts_run id options actions hopen
  refine ⟨handled, pieces, blocks, h.proper, h.arrived, h.effects, h.others, ?_, h.writes,
    h.readerPieces⟩
  have hstands := h.stands
  change x.slot.outlet.Stands handled blocks x.slot.reading pieces at hstands
  generalize x.slot.reading = reading at hstands
  cases hstands with
  | waiting => rfl
  | writing _ _ _ rest _ hack _ _ hpieces => exact ⟨hack, rest, hpieces⟩
  | written _ _ _ hack _ _ hpieces => exact ⟨hack, [], (List.append_nil _).trans hpieces⟩

/-- A response comes twice, and then an indication. The response is acknowledged in two pieces
before it is resolved, by its token, and the second one is a duplicate; the indication is
acknowledged by its number, although nobody has a decoder for it. -/
theorem acknowledged_in_two_pieces :
    let asking : Frame := ⟨.solicitedAckExpected, ⟨1⟩, 20, .success, []⟩
    let telling : Frame := ⟨.unsolicitedAckExpected, ⟨0⟩, 1000, .success, []⟩
    let ack := (Command.mk ⟨800⟩ ⟨1⟩ []).encode
    let callbacks : Callbacks := { table := .withShapes {} ⟨20⟩ .void .void }
    let x := (start ⟨0⟩ {}).run [.registerCallbacks callbacks, .submit (some ⟨1⟩) ⟨20⟩ .void,
      .accept 12, .resume (.caller 0), .arrive (asking.encode ++ asking.encode ++ telling.encode),
      .read, .accept 5, .accept 7, .resume .reader, .read, .read, .accept 12, .resume .reader]
    x.slot.outlet.isClosing = false ∧
    readerEffects x.trace = [asking.received, .wrote (ack.take 5), .wrote (ack.drop 5),
      .published (.ackSent ⟨1⟩), .resolved ⟨0, ⟨⟨0⟩, ⟨1⟩, ⟨20⟩, .success, .ok .void⟩⟩,
      asking.received, .published (.duplicateAck ⟨1⟩),
      .published (.unmatchedToken ⟨1⟩ .solicitedAckExpected),
      telling.received, .wrote (Command.mk ⟨800⟩ ⟨1000⟩ []).encode,
      .published (.ackSent ⟨1000⟩)] ∧
    ∃ handled, Handling.AreProper handled ∧
      readerEffects x.trace = handled.flatMap Handling.effects ∧
      x.arrived = handled.flatMap fun h => h.frame.encode := by
  intro asking telling ack callbacks x
  have hopen : x.slot.outlet.isClosing = false := by cbv
  have hreading : x.slot.reading = .waiting := by cbv
  have hbuffer : x.slot.framer.buffer = [] := by cbv
  have hdone : readerEffects x.trace = [asking.received, .wrote (ack.take 5), .wrote (ack.drop 5),
      .published (.ackSent ⟨1⟩), .resolved ⟨0, ⟨⟨0⟩, ⟨1⟩, ⟨20⟩, .success, .ok .void⟩⟩,
      asking.received, .published (.duplicateAck ⟨1⟩),
      .published (.unmatchedToken ⟨1⟩ .solicitedAckExpected),
      telling.received, .wrote (Command.mk ⟨800⟩ ⟨1000⟩ []).encode,
      .published (.ackSent ⟨1000⟩)] := by cbv
  obtain ⟨handled, pieces, blocks, hproper, harrived, heffects, -⟩ :=
    acknowledged_as_asked ⟨0⟩ {} [.registerCallbacks callbacks, .submit (some ⟨1⟩) ⟨20⟩ .void,
      .accept 12, .resume (.caller 0), .arrive (asking.encode ++ asking.encode ++ telling.encode),
      .read, .accept 5, .accept 7, .resume .reader, .read, .read, .accept 12, .resume .reader] hopen
  refine ⟨hopen, hdone, handled, hproper, ?_, ?_⟩
  · rw [heffects, hreading]
    exact List.append_nil _
  · rw [harrived, hreading, hbuffer, List.append_nil]
    exact List.append_nil _

end Session

end RadioLink
