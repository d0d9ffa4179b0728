import Mathlib
import RadioLink.Proofs.LinkReading

set_option autoImplicit false

/-! # A slot and a modem stay in balance

Every run of a link leaves it in balance with some books. When nothing is left on its way the books
have only what was handled and what was settled, and so they say what came of each call. -/

namespace RadioLink

namespace Link

variable {l : Link} {setup : Setup} {b : Books} {a : Reply} {coming : List Reply}

/-! ## Runs -/

theorem balances_start (setup : Setup) : (start setup).Balances setup {} where
  log := rfl
  slot := ⟨rfl, rfl, rfl, rfl⟩
  reading := rfl
  progress := trivial
  calls := rfl
  tickets := ⟨List.nodup_nil, List.forall_mem_nil _⟩
  codecs := List.forall_mem_nil _
  outbound := ⟨⟨rfl, rfl, List.forall_mem_nil _⟩, List.forall_mem_nil _, rfl, rfl, rfl⟩
  handled := ⟨rfl, rfl, rfl, rfl, rfl⟩
  inbound := ⟨rfl⟩
  registry := ⟨List.Perm.refl _, List.nodup_nil, List.forall_mem_nil _⟩
  effects := rfl

theorem Balances.act (h : l.Balances setup b) (hsetup : setup.Fits)
    (hcalls : ∀ call ∈ l.calls, call.Fits) (move : Move) :
    ∃ next, (l.act move).Balances setup next := by
  cases move with
  | submit chosen request payload => exact h.submit chosen request payload
  | resume party =>
    cases htell : l.session.slot.outlet.tell? party with
    | none =>
      rw [resume_of_none h.log htell]
      exact ⟨b, h⟩
    | some told =>
      cases party with
      | reader =>
        obtain ⟨next, hnext, -⟩ := h.resume_reader htell
        exact ⟨next, hnext⟩
      | caller ticket => exact ⟨b, h.resume_caller htell⟩
  | accept count => exact ⟨b, h.accept count⟩
  | arrive count => exact ⟨b, h.arrive count⟩
  | read => exact h.read hsetup
  | process count => exact h.process hcalls count
  | emit => exact ⟨b, h.emit⟩

theorem calls_subset_act (l : Link) (move : Move) : l.calls ⊆ (l.act move).calls := by
  cases move with
  | submit chosen request payload =>
    simp only [act]
    split
    · exact List.subset_append_left _ _
    · exact List.Subset.refl _
  | emit =>
    simp only [act]
    split <;> exact List.Subset.refl _
  | resume | accept | arrive | read | process => exact List.Subset.refl _

theorem calls_subset_run (l : Link) (moves : List Move) : l.calls ⊆ (l.run moves).calls := by
  induction moves generalizing l with
  | nil => exact List.Subset.refl _
  | cons move moves ih => exact List.Subset.trans (calls_subset_act l move) (ih (l.act move))

/-- A link stays in balance as long as the modem can read what is written for it. -/
theorem Balances.run (h : l.Balances setup b) (hsetup : setup.Fits) (moves : List Move)
    (hcalls : ∀ call ∈ (l.run moves).calls, call.Fits) :
    ∃ next, (l.run moves).Balances setup next := by
  induction moves generalizing l b with
  | nil => exact ⟨b, h⟩
  | cons move moves ih =>
    have hnow : ∀ call ∈ l.calls, call.Fits := fun call hmem =>
      hcalls call (calls_subset_run l (move :: moves) hmem)
    obtain ⟨next, hnext⟩ := h.act hsetup hnow move
    exact ih hnext hcalls

/-- When nothing is on its way to the modem, it has nothing left to handle. -/
theorem Balances.todo_of_isDrained (h : l.Balances setup b) (hcalls : ∀ call ∈ l.calls, call.Fits)
    (hdrained : l.IsDrained) : b.todo = [] := by
  cases htodo : b.todo with
  | nil => rfl
  | cons sent todo =>
    have hbytes := h.outbound.bytes
    rw [hdrained.toModem, hdrained.turns, List.append_nil, List.flatMap_nil, List.append_nil, htodo,
      List.map_cons, List.flatMap_cons] at hbytes
    have hlength : sent.command.encodeBody.length ≤ l.modem.framer.limit.toNat := by
      rw [h.outbound.limit]
      refine sent.length_command fun call hcall => hcalls call ?_
      rw [h.calls, htodo]
      exact List.mem_append_right _ (List.mem_filterMap.2 ⟨sent, List.mem_cons_self, hcall⟩)
    -- The framer of the modem never keeps a command that is complete.
    have hfront := h.outbound.front
    rw [hbytes, Command.encode, Front.of_lengthPrefixed hlength] at hfront
    cases hfront

/-- When nothing is on its way to the slot, every reply is settled. -/
theorem Balances.nothing_coming (h : l.Balances setup b)
    (hfits : ∀ call ∈ l.calls, call.AnswerFits setup) (hdrained : l.IsDrained) :
    b.progress = .none ∧ b.coming = [] := by
  have hframes : b.progress.frames ++ b.coming.flatMap Reply.frames = [] := by
    have hbytes := h.inbound.bytes
    have hlengths := h.length_frames hfits
    cases hall : b.progress.frames ++ b.coming.flatMap Reply.frames with
    | nil => rfl
    | cons frame frames =>
      rw [hdrained.toSlot, hdrained.output, List.append_nil, List.flatten_nil, List.append_nil,
        hall, List.flatMap_cons] at hbytes
      rw [hall] at hlengths
      have hnext := Framer.nextFrame_of_encode hbytes (hlengths frame List.mem_cons_self)
      rw [hdrained.frames] at hnext
      cases hnext
  obtain ⟨hprogress, hcoming⟩ := List.append_eq_nil_iff.1 hframes
  constructor
  · have hreading := h.reading
    rw [hdrained.reading] at hreading
    cases hcase : b.progress with
    | none => rfl
    | received a =>
      rw [hcase] at hprogress
      cases hprogress
    | acknowledging a =>
      rw [hcase] at hreading
      cases hreading
  · cases hcase : b.coming with
    | nil => rfl
    | cons a coming =>
      rw [hcase, List.flatMap_cons, Reply.frames_eq] at hcoming
      split at hcoming <;> cases hcoming

theorem Balances.frames_of_isDrained (h : l.Balances setup b) (hsetup : setup.Fits)
    (hdrained : l.IsDrained) : b.progress = .none ∧ b.coming = [] :=
  h.nothing_coming (fun call _ => hsetup.answerFits call) hdrained

end Link

/-! ## What callers get -/

/-- The responses that a call gets from a modem: one if there is a rule for its request. -/
def Call.responses (call : Call) (setup : Setup) : List Response :=
  match setup.rules.lookup call.submission.request with
  | some rule => [(Reply.outcome setup.id setup.callbacks.table ⟨call, rule⟩).response]
  | none => []

/-- Every response is a resolution. -/
theorem responsesTo_eq (trace : List Noted) (ticket : Nat) :
    responsesTo trace ticket = (resolutions trace).filterMap (Effect.responseTo? ticket) := by
  have hall : ∀ effect : Effect, effect.responseTo? ticket
      = if effect.isResolution then effect.responseTo? ticket else none := by
    intro effect
    cases effect with
    | published kind => exact (ite_self _).symm
    | resolved | indicated | served | withdrawn | wrote => rfl
  rw [resolutions, List.filterMap_filter, List.filterMap_map, responsesTo]
  exact congrArg (List.filterMap · trace) (funext fun noted => hall noted.effect)

/-- What comes of one call is told to its own caller and to nobody else. -/
theorem filterMap_responseTo (setup : Setup) (first : Call) (ticket : Nat) :
    ((replies setup.rules [first]).flatMap (Reply.effects setup.id setup.callbacks.table)).filterMap
        (Effect.responseTo? ticket)
      = if first.ticket = ticket then first.responses setup else [] := by
  rw [Call.responses]
  cases hrule : setup.rules.lookup first.submission.request with
  | none =>
    rw [(replies_of_none hrule).1]
    simp only [List.flatMap_nil, List.filterMap_nil, ite_self]
  | some rule =>
    rw [(replies_of_some hrule).1, List.flatMap_cons, List.flatMap_nil, List.append_nil,
      Reply.effects, List.filterMap_append]
    have hreceipt : (if rule.style = .earlyAck then
        [Effect.published (.requestAcknowledged first.submission.token)] else []).filterMap
          (Effect.responseTo? ticket) = [] := by
      split <;> rfl
    rw [hreceipt]
    by_cases hticket : first.ticket = ticket <;>
      simp [Effect.responseTo?, Reply.outcome, hticket]

theorem filterMap_responseTo_of_not_mem (setup : Setup) {calls : List Call} {ticket : Nat}
    (hnot : ticket ∉ calls.map (·.ticket)) :
    ((replies setup.rules calls).flatMap (Reply.effects setup.id setup.callbacks.table)).filterMap
      (Effect.responseTo? ticket) = [] := by
  induction calls with
  | nil => rfl
  | cons first calls ih =>
    rw [List.map_cons, List.mem_cons, not_or] at hnot
    rw [← List.singleton_append, replies_append, List.flatMap_append, List.filterMap_append,
      filterMap_responseTo, if_neg (Ne.symm hnot.1), ih hnot.2]
    rfl

theorem filterMap_responseTo_of_mem (setup : Setup) {calls : List Call} {call : Call}
    (hdistinct : (calls.map (·.ticket)).Nodup) (hmem : call ∈ calls) :
    ((replies setup.rules calls).flatMap (Reply.effects setup.id setup.callbacks.table)).filterMap
      (Effect.responseTo? call.ticket) = call.responses setup := by
  induction calls with
  | nil => cases hmem
  | cons first calls ih =>
    rw [List.map_cons, List.nodup_cons] at hdistinct
    rw [← List.singleton_append, replies_append, List.flatMap_append, List.filterMap_append,
      filterMap_responseTo]
    rcases List.mem_cons.1 hmem with rfl | hmem
    · rw [if_pos rfl, filterMap_responseTo_of_not_mem setup hdistinct.1, List.append_nil]
    · have hother : first.ticket ≠ call.ticket := fun hsame =>
        hdistinct.1 (hsame ▸ List.mem_map_of_mem hmem)
      rw [if_neg hother, ih hdistinct.2 hmem, List.nil_append]

namespace Link

/-- A link that has nothing on its way has answered every call as the rules of the modem say, and
the calls that are still pending are those that the modem holds. -/
theorem calls_answered (setup : Setup) (moves : List Move) (hsetup : setup.Fits)
    (hcalls : ∀ call ∈ ((start setup).run moves).calls, call.Fits)
    (hdrained : ((start setup).run moves).IsDrained) :
    let l := (start setup).run moves
    l.modem.received = l.calls.map (·.command) ∧
    (l.calls.map (·.ticket)).Nodup ∧
    (∀ call ∈ l.calls, (setup.callbacks.table.request? call.submission.request).isSome = true ∧
      responsesTo l.session.trace call.ticket = call.responses setup) ∧
    resolutions l.session.trace = (replies setup.rules l.calls).flatMap
      (Reply.effects setup.id setup.callbacks.table) ∧
    l.modem.acks = ackTokens (replies setup.rules l.calls) ∧
    l.modem.unanswered = (held setup.rules l.calls).map (·.command) ∧
    (l.session.slot.registry.entries.map (·.token)).Perm (l.modem.unanswered.map (·.token)) := by
  obtain ⟨b, h⟩ := (balances_start setup).run hsetup moves hcalls
  have htodo := h.todo_of_isDrained hcalls hdrained
  obtain ⟨hprogress, hcoming⟩ := h.frames_of_isDrained hsetup hdrained
  intro l
  have hhandled : b.handled = l.calls := by
    have hall := h.calls
    rw [htodo] at hall
    exact (hall.trans (List.append_nil _)).symm
  have hsettled : b.settled = replies setup.rules l.calls := by
    rw [← hhandled, h.handled.replies, hprogress, hcoming]
    simp only [Progress.replies, List.append_nil]
  have heffects : resolutions l.session.trace = (replies setup.rules l.calls).flatMap
      (Reply.effects setup.id setup.callbacks.table) := by
    rw [← hsettled, h.effects, hprogress]
    exact List.append_nil _
  have hacks : l.modem.acks = ackTokens (replies setup.rules l.calls) := by
    have hall := h.handled.acks
    rw [htodo, hprogress, hsettled] at hall
    simpa only [List.filterMap_nil, Progress.acked, List.append_nil] using hall
  have hunanswered := h.handled.unanswered
  have htokens := h.registry.claims.map Prod.fst
  rw [Books.pending, htodo, hprogress, hcoming] at htokens
  rw [hhandled] at hunanswered htokens
  refine ⟨?_, h.tickets.1, fun call hmem => ⟨h.codecs call hmem, ?_⟩, heffects, hacks, hunanswered,
    ?_⟩
  · rw [← hhandled]
    exact h.handled.received
  · rw [responsesTo_eq, heffects]
    exact filterMap_responseTo_of_mem setup h.tickets.1 hmem
  · rw [hunanswered]
    simpa [Call.claim, Call.entry, Call.command, Submission.command, Progress.replies,
      Function.comp_def] using htokens

/-- Of four calls one fails, one is acknowledged, one is answered after a receipt, and one is
held. -/
theorem four_calls_answered :
    let table := (((DispatchTable.withShapes {} ⟨20⟩ .void .int).withShapes ⟨21⟩ .void
      .int).withShapes ⟨22⟩ .void .raw).withShapes ⟨23⟩ .void .void
    let setup : Setup := ⟨⟨0⟩, {}, { table }, "modem",
      [(⟨20⟩, .fail ⟨2⟩), (⟨21⟩, (ModemRule.ok [7, 0, 0, 0]).ackExpected),
        (⟨22⟩, (ModemRule.ok [1, 2, 3]).earlyAck)]⟩
    let moves : List Move := [.submit none ⟨20⟩ .void, .submit none ⟨21⟩ .void,
      .submit none ⟨22⟩ .void, .submit none ⟨23⟩ .void, .accept 5, .accept 7, .accept 12,
      .accept 12, .process 20, .accept 12, .process 28, .emit, .emit, .arrive 30, .read, .emit,
      .emit, .arrive 100, .read, .accept 12, .process 12, .resume .reader, .read, .read,
      .resume (.caller 0), .resume (.caller 1), .resume (.caller 2), .resume (.caller 3)]
    let l := (start setup).run moves
    setup.Fits ∧ l.IsDrained ∧
    l.calls = [⟨0, ⟨⟨1⟩, ⟨20⟩, []⟩⟩, ⟨1, ⟨⟨2⟩, ⟨21⟩, []⟩⟩, ⟨2, ⟨⟨3⟩, ⟨22⟩, []⟩⟩,
      ⟨3, ⟨⟨4⟩, ⟨23⟩, []⟩⟩] ∧
    resolutions l.session.trace = [
      .resolved ⟨0, ⟨⟨0⟩, ⟨1⟩, ⟨20⟩, ⟨2⟩, .ok .void⟩⟩,
      .resolved ⟨1, ⟨⟨0⟩, ⟨2⟩, ⟨21⟩, .success, .ok (.int 7)⟩⟩,
      .published (.requestAcknowledged ⟨3⟩),
      .resolved ⟨2, ⟨⟨0⟩, ⟨3⟩, ⟨22⟩, .success, .ok (.raw [1, 2, 3])⟩⟩] ∧
    l.modem.acks = [⟨2⟩] ∧
    (l.session.slot.registry.entries.map (·.token)).Perm [⟨4⟩] := by
  intro table setup moves l
  have hsetup : setup.Fits := by
    unfold Setup.Fits
    decide
  have hcalls : l.calls = [⟨0, ⟨⟨1⟩, ⟨20⟩, []⟩⟩, ⟨1, ⟨⟨2⟩, ⟨21⟩, []⟩⟩, ⟨2, ⟨⟨3⟩, ⟨22⟩, []⟩⟩,
      ⟨3, ⟨⟨4⟩, ⟨23⟩, []⟩⟩] := by cbv
  have hfits : ∀ call ∈ l.calls, call.Fits := by
    rw [hcalls]
    unfold Call.Fits
    decide
  have hend : (l.toModem, l.toSlot, l.modem.output, l.session.slot.outlet.turns,
      l.session.slot.outlet.outcomes, l.session.slot.reading,
      l.session.slot.framer.nextFrame.2) = ([], [], [], [], [], .waiting, none) := by cbv
  have hdrained : l.IsDrained := by
    simp only [Prod.mk.injEq] at hend
    obtain ⟨htoModem, htoSlot, houtput, hturns, houtcomes, hreading, hframes⟩ := hend
    exact ⟨htoModem, htoSlot, houtput, hturns, houtcomes, hreading, hframes⟩
  obtain ⟨-, -, -, heffects, hacks, hunanswered, hpending⟩ :=
    calls_answered setup moves hsetup hfits hdrained
  change resolutions l.session.trace = (replies _ l.calls).flatMap _ at heffects
  change l.modem.acks = ackTokens (replies _ l.calls) at hacks
  change l.modem.unanswered = (held _ l.calls).map _ at hunanswered
  rw [hcalls] at heffects hacks hunanswered
  rw [hunanswered] at hpending
  exact ⟨hsetup, hdrained, hcalls, heffects, hacks, hpending⟩

end Link

end RadioLink
