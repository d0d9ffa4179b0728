import RadioLink.Proofs.Station

set_option autoImplicit false

/-! # The limits in a simulation

Four limits meet in a simulation. The configuration bounds how long a frame may be; the outlet of a
slot refuses what is longer, and its reader takes it for an error; and the simulated modem reads
commands up to a limit of its own. As long as the modem can read the commands that a slot accepts
and the slot can read the responses to them, neither end fails: every call gets the response by the
rule for its request and nothing else. Between 72 and 8192 bytes this goes for all calls.

A lower limit is a valid one, and then a response that is longer closes the slot that asked for it.
A higher one is valid as well, and then a command may be longer than the modem can read. And where
more is asked for than the pipes hold, nobody may be answered: each end may wait for the other one
to read. -/

namespace RadioLink

/-- What the slot with a number and its modem are set up with. -/
def Stock.setup (number : UInt8) (options : SlotOptions) : Setup where
  id := ⟨number⟩
  options
  callbacks := { table := Stock.table }
  modem := (Stock.modem number).id
  rules := (Stock.modem number).rules

/-- The slots of a simulation and their modems. -/
def Simulation.stations (s : Simulation) : List Station :=
  s.benches.filterMap Station.ofBench?

namespace Station

/-- What happens at the stations with these numbers. -/
def runAll (stations : List Station) (moves : List (Nat × Move)) : List Station :=
  moves.foldl (fun stations entry => stations.modify entry.1 (·.act entry.2)) stations

/-- What happens at the station with a number. -/
def movesOf (number : Nat) (moves : List (Nat × Move)) : List Move :=
  moves.filterMap fun entry => if entry.1 = number then some entry.2 else none

/-- No station takes part in what happens at another one. -/
theorem getElem?_runAll (stations : List Station) (moves : List (Nat × Move)) (number : Nat) :
    (runAll stations moves)[number]?
      = stations[number]?.map fun st => st.run (movesOf number moves) := by
  induction moves generalizing stations with
  | nil => exact Option.map_id'.symm
  | cons entry moves ih =>
    have hrun : runAll stations (entry :: moves)
        = runAll (stations.modify entry.1 (·.act entry.2)) moves := rfl
    rw [hrun, ih, List.getElem?_modify]
    cases stations[number]? with
    | none => rfl
    | some st =>
      by_cases hnumber : entry.1 = number <;>
        simp only [movesOf, List.filterMap_cons, hnumber, if_true, if_false] <;> rfl

end Station

namespace Simulation

variable {options : SlotOptions}

/-- A slot that has just started stands, and so does its modem. -/
theorem stands_of_bench? {number : UInt8} {b : Bench} (hbench : bench? options number = some b) :
    ∃ st, Station.ofBench? b = some st ∧ st.Stands (Stock.setup number options) 65536 {} := by
  rw [bench?, Bench.start?, Slot.start?] at hbench
  split at hbench
  · obtain rfl := Option.some.inj hbench
    refine ⟨_, rfl, ?_⟩
    exact {
      balances := {
        log := rfl
        slot := ⟨rfl, rfl, rfl, rfl⟩
        reading := rfl
        progress := trivial
        calls := rfl
        tickets := ⟨List.nodup_nil, List.forall_mem_nil _⟩
        codecs := List.forall_mem_nil _
        outbound := ⟨⟨rfl, rfl, List.forall_mem_nil _⟩, List.forall_mem_nil _, rfl, rfl, rfl⟩
        handled := ⟨rfl, rfl, rfl, rfl, rfl⟩
        inbound := ⟨rfl⟩
        registry := ⟨List.Perm.refl _, List.nodup_nil, List.forall_mem_nil _⟩
        effects := rfl }
      work := ⟨rfl, rfl, rfl, ⟨rfl, rfl⟩, ⟨rfl, rfl⟩⟩
      accounts := ⟨[], [], [], {
        log := rfl
        isClosed := rfl
        isOpen := ⟨rfl, rfl, List.forall_mem_nil _⟩
        limit := rfl
        proper := fun earlier h later hsplit => by cases earlier <;> cases hsplit
        arrived := rfl
        effects := rfl
        others := List.forall_mem_nil _
        writes := rfl
        acked := List.forall_mem_nil _
        stands := .waiting rfl rfl rfl }⟩
      within := List.forall_mem_nil _
      table := (by decide : Stock.table.request? .acknowledgement = none) }
  · cases hbench

theorem forall₂_of_mapM {α β : Type} {f : α → Option β} {inputs : List α} {outputs : List β}
    (h : inputs.mapM f = some outputs) :
    List.Forall₂ (fun input output => f input = some output) inputs outputs := by
  induction inputs generalizing outputs with
  | nil =>
    cases h
    exact .nil
  | cons input inputs ih =>
    rw [List.mapM_cons] at h
    obtain ⟨output, houtput, h⟩ := Option.bind_eq_some_iff.1 h
    obtain ⟨others, hothers, h⟩ := Option.bind_eq_some_iff.1 h
    cases h
    exact .cons houtput (ih hothers)

theorem forall₂_filterMap {α β γ : Type} {R : α → β → Prop} {P : α → γ → Prop} {f : β → Option γ}
    {inputs : List α} {outputs : List β} (h : List.Forall₂ R inputs outputs)
    (hf : ∀ input output, R input output → ∃ result, f output = some result ∧ P input result) :
    List.Forall₂ P inputs (outputs.filterMap f) := by
  induction h with
  | nil => exact .nil
  | cons hhead _ ih =>
    obtain ⟨result, hresult, hp⟩ := hf _ _ hhead
    rw [List.filterMap_cons_some hresult]
    exact .cons hp ih

/-- All stations of a simulation that has just started stand, each with its number. -/
theorem stands_of_start? {count : UInt8} {sim : Simulation}
    (hstart : start? count options = some sim) {number : Nat} {st : Station}
    (hst : sim.stations[number]? = some st) :
    st.Stands (Stock.setup (UInt8.ofNat number) options) 65536 {} := by
  obtain ⟨benches, hbenches, rfl⟩ := Option.map_eq_some_iff.1 hstart
  have hall : List.Forall₂ (fun n (st : Station) =>
      st.Stands (Stock.setup (UInt8.ofNat n) options) 65536 {})
      (List.range count.toNat) (stations { benches }) :=
    forall₂_filterMap (forall₂_of_mapM hbenches) fun _ _ => stands_of_bench?
  obtain ⟨hnumber, rfl⟩ := List.getElem?_eq_some_iff.1 hst
  have hrange : number < (List.range count.toNat).length := by
    rw [hall.length_eq]
    exact hnumber
  have hstands := hall.get hrange hnumber
  simp only [List.get_eq_getElem, List.getElem_range] at hstands
  exact hstands

/-! ## Calls that both ends can read -/

/-- No response of a stock modem is longer than 72 bytes. -/
theorem length_stock_response (number : UInt8) :
    ∀ entry ∈ (Stock.modem number).rules, frameHeaderSize + entry.2.payload.length ≤ 72 := by
  have hall : ∀ n < 256, ∀ entry ∈ (Stock.modem (UInt8.ofNat n)).rules,
      frameHeaderSize + entry.2.payload.length ≤ 72 := by decide +kernel
  have hnumber := hall number.toNat number.toNat_lt
  rw [UInt8.ofNat_toNat] at hnumber
  exact hnumber

/-- Between these limits no slot accepts a call that one of the two ends cannot read. -/
theorem isReadable_of_limits {count : UInt8} {sim : Simulation}
    (hstart : start? count options = some sim) (hlow : 72 ≤ options.maxFrameLen.toNat)
    (hhigh : options.maxFrameLen.toNat ≤ defaultMaxFrameLen.toNat)
    (moves : List (Nat × Station.Move)) {number : Nat} {st : Station}
    (hst : (Station.runAll sim.stations moves)[number]? = some st) :
    ∀ call ∈ st.calls, call.IsReadable (Stock.setup (UInt8.ofNat number) options) := by
  rw [Station.getElem?_runAll] at hst
  obtain ⟨first, hfirst, rfl⟩ := Option.map_eq_some_iff.1 hst
  have hsetup : (Stock.setup (UInt8.ofNat number) options).Fits := fun entry hmem =>
    Nat.le_trans (length_stock_response _ entry hmem) hlow
  obtain ⟨b, hstands⟩ := (stands_of_start? hstart hfirst).run_of_limits hsetup hhigh _
  exact hstands.isReadable hsetup hhigh

/-- **The limits agree** wherever both ends can read what they are sent. Take a simulation of any
number of slots and any configuration, and any moves of any of its stations, one after the other. As
long as the modem of a slot can read the commands that the slot has accepted, and the slot can read
the responses to them by the rules of the modem: the slot stays open and its modem never fails, and
nothing comes for a call but the response by the rule, and that at most once. Without new calls only
so many moves change anything. When nothing can move any more all calls have got their responses,
unless the replies that are missing are longer than a pipe holds. -/
theorem limits_agree (config : Config) (count : UInt8) {sim : Simulation}
    (hstart : start? count config.slotOptions = some sim) (moves : List (Nat × Station.Move))
    {number : Nat} {st : Station}
    (hst : (Station.runAll sim.stations moves)[number]? = some st)
    (hcalls : ∀ call ∈ st.calls,
      call.IsReadable (Stock.setup (UInt8.ofNat number) config.slotOptions)) :
    let setup := Stock.setup (UInt8.ofNat number) config.slotOptions
    st.session.slot.isClosed = false ∧ st.work.task.ending = none ∧
    (∀ call ∈ st.calls,
      responsesTo st.session.trace call.ticket <+: call.responses setup) ∧
    (∃ most, ∀ later : List Station.Move, (∀ move ∈ later, move.isSubmission = false) →
      st.NeverIdle later → later.length ≤ most) ∧
    (st.IsStill →
      (∀ call ∈ st.calls, responsesTo st.session.trace call.ticket = call.responses setup) ∨
      65536 ≤ ((replies setup.rules st.awaiting).flatMap Reply.bytes).length) := by
  intro setup
  rw [Station.getElem?_runAll] at hst
  obtain ⟨first, hfirst, rfl⟩ := Option.map_eq_some_iff.1 hst
  obtain ⟨b, h⟩ := (stands_of_start? hstart hfirst).run hcalls
  obtain ⟨_, _, _, haccounts⟩ := h.accounts
  refine ⟨haccounts.isClosed, h.work.ending, fun call hmem => h.balances.responsesTo_prefix hmem,
    ⟨_, fun later hothers hbusy => h.length_le hcalls hothers hbusy⟩, fun hstill => ?_⟩
  exact h.answered_or_full (by decide) hcalls hstill

/-- Two slots with a limit that the longest response just fits. The second one asks for the operator
and has to acknowledge the response. -/
theorem limits_agree_at_72 :
    let config : Config := { maxFrameLen := 72 }
    let moves : List (Nat × Station.Move) := [(0, .submit none Stock.signalStrength .void),
      (1, .submit none Stock.operator .void), (0, .write 12), (1, .write 7), (1, .work),
      (1, .write 5), (1, .work), (0, .work), (1, .work), (1, .read 50), (1, .read 50), (1, .read 50),
      (1, .resume (.caller 0)), (1, .write 12), (1, .resume .reader), (1, .work)]
    let carrier : Payload :=
      .strings [some "Simulated Carrier", some "SimCarrier", some "310201"]
    ∃ sim st, start? 2 config.slotOptions = some sim ∧
      (Station.runAll sim.stations moves)[1]? = some st ∧
      (∀ call ∈ st.calls, call.IsReadable (Stock.setup 1 config.slotOptions)) ∧
      st.calls.map (·.submission) = [⟨⟨1⟩, Stock.operator, []⟩] ∧
      (responsesTo st.session.trace 0).map (·.result) = [.ok carrier] ∧
      st.work.task.modem.acks = [⟨1⟩] ∧
      st.session.slot.isClosed = false ∧ st.work.task.ending = none := by
  intro config moves carrier
  have hall : ((start? 2 config.slotOptions).bind fun sim =>
      (Station.runAll sim.stations moves)[1]?).map (fun st => (st.calls.map (·.submission),
        (responsesTo st.session.trace 0).map (·.result), st.work.task.modem.acks))
      = some ([⟨⟨1⟩, Stock.operator, []⟩], [.ok carrier], [⟨1⟩]) := by decide +kernel
  obtain ⟨st, hbind, hst⟩ := Option.map_eq_some_iff.1 hall
  obtain ⟨sim, hstart, hstation⟩ := Option.bind_eq_some_iff.1 hbind
  simp only [Prod.mk.injEq] at hst
  obtain ⟨hcalls, hresponses, hacks⟩ := hst
  have hreadable : ∀ call ∈ st.calls, call.IsReadable (Stock.setup 1 config.slotOptions) :=
    isReadable_of_limits hstart (by decide) (by decide) moves hstation
  obtain ⟨hopen, hending, -⟩ := limits_agree config 2 hstart moves hstation hreadable
  exact ⟨sim, st, hstart, hstation, hreadable, hcalls, hresponses, hacks, hopen, hending⟩

/-- A valid limit may be too low for a response. The signal strength takes 28 bytes; with a limit of
27 the slot takes the response for an error and closes, and all that the caller gets is that the
peer is gone. -/
theorem response_beyond_limit_closes_slot :
    let config : Config := { maxFrameLen := 27 }
    let moves : List (Nat × Station.Move) := [(0, .submit none Stock.signalStrength .void),
      (0, .write 12), (0, .resume (.caller 0)), (0, .work), (0, .work), (0, .read 4096),
      (0, .read 4096)]
    config.check = .ok () ∧
    (Stock.modem 0).rules.lookup Stock.signalStrength
      = some (.ok (Payload.ints [18, 99]).encode) ∧
    ((start? 1 config.slotOptions).bind fun sim => (Station.runAll sim.stations moves)[0]?).map
        (fun st => (st.calls.map (·.submission), st.session.slot.isClosed,
          (responsesTo st.session.trace 0).map fun response => (response.status, response.result)))
      = some ([⟨⟨1⟩, Stock.signalStrength, []⟩], true,
          [(.radioNotAvailable, .error .transportClosed)]) := by
  dsimp only
  exact ⟨by decide, by decide +kernel, by decide +kernel⟩

/-- The other end has a limit of its own. A slot with a limit of 16384 bytes accepts a command of
8200, at whose length the modem fails, and what the caller gets is that the peer is gone. -/
theorem command_beyond_limit_ends_modem :
    let config : Config := { maxFrameLen := 16384 }
    let moves : List (Nat × Station.Move) := [
      (0, .submit none Stock.radioPower (.ints (List.replicate 2047 1))), (0, .write 4), (0, .work),
      (0, .read 0)]
    let st := (start? 1 config.slotOptions).bind fun sim => (Station.runAll sim.stations moves)[0]?
    config.check = .ok () ∧
    st.map (·.calls.map (·.command.encodeBody.length)) = some [8200] ∧
    st.map (·.work.task.ending) = some (some (.failed (.parse (.frameTooLarge 8200 8192)))) ∧
    st.map (fun st => (st.session.slot.isClosed,
        (responsesTo st.session.trace 0).map fun response => (response.status, response.result)))
      = some (true, [(.radioNotAvailable, .error .transportClosed)]) := by
  dsimp only
  exact ⟨by decide, by decide +kernel, by decide +kernel, by decide +kernel⟩

end Simulation

namespace Station

/-- Both pipes are full, the outlet is in the middle of a frame, the reader does not wait for the
next one, and the modem has more to say. -/
structure IsJammed (st : Station) : Prop where
  log : st.session.slot.log = []
  outcomes : st.session.slot.outlet.outcomes = []
  stream : st.session.slot.outlet.hasStream = true
  writes : ∃ party rest turns, rest ≠ [] ∧
    st.session.slot.outlet.turns = ⟨party, .send rest⟩ :: turns
  reading : st.session.slot.reading ≠ .waiting
  outgoing : st.work.task.outgoing ≠ []
  inbound : st.work.inbound.isClosed = false ∧ st.work.inbound.room = 0
  outbound : st.work.outbound.isClosed = false ∧ st.work.outbound.room = 0

/-- Neither end can go on before the other one does. -/
theorem IsJammed.isStill {st : Station} (h : st.IsJammed) : st.IsStill := by
  intro move hother
  cases move with
  | submit => cases hother
  | resume party =>
    have hidle : st.session.act (.resume party) = st.session := by
      rw [Session.act, Outlet.tell?, h.outcomes]
      rfl
    rw [act, Session.step_of_idle h.log hidle]
  | write count =>
    obtain ⟨party, rest, turns, hrest, hturns⟩ := h.writes
    have hattend : st.session.slot.outlet.attend = (st.session.slot.outlet, false) := by
      rw [Outlet.attend]
      split
      · next hfirst => cases hturns.symm.trans hfirst
      · next hfirst => cases hturns.symm.trans hfirst
      · rfl
    have haccept : st.session.slot.outlet.accept 0 = (st.session.slot.outlet, []) := by
      have hstream := h.stream
      generalize st.session.slot.outlet = o at hturns hstream
      obtain ⟨limit, isClosing, hasStream, others, outcomes⟩ := o
      obtain rfl : others = _ := hturns
      obtain rfl : hasStream = true := hstream
      simp [Outlet.accept, hrest]
    have hidle : st.session.act (.accept 0) = st.session := by
      rw [Session.act, Slot.accept, haccept]
      rfl
    rw [act, Station.write, hattend]
    simp only [Nat.lt_irrefl, if_false, h.inbound.1, Bool.and_false, Bool.false_eq_true,
      h.inbound.2, Nat.min_zero]
    rw [accept, Session.step_of_idle h.log hidle, haccept, Pipe.put, List.append_nil]
  | read count =>
    rw [act, Station.read]
    split
    · next hwaiting => exact absurd hwaiting h.reading
    · rfl
  | work =>
    have hnothing : st.work.step? = none := by
      have hbusy : st.work.task.outgoing.isEmpty = false := List.isEmpty_eq_false_iff.2 h.outgoing
      rw [ModemWork.step?, ModemWork.write?, hbusy, h.outbound.1, h.outbound.2]
      simp
    rw [act, hnothing]

/-- Four calls whose commands and responses both ends can read, over pipes that hold 16 bytes each.
The reader has the response to the first and has to acknowledge it after the commands that wait
already; these fill the one pipe, and the modem, which fills the other one with the response to the
second, reads no more of them. Nothing can move, and nobody is answered. -/
theorem full_pipes_answer_nobody :
    let asks : Move := .submit none Stock.operator .void
    let moves : List Move := [asks, .write 12, .resume (.caller 0), .work, .work, .read 16, .work,
      .read 16, .work, .read 16, .work, .read 16, .work, .read 16, asks, asks, asks, .read 16,
      .write 12, .resume (.caller 1), .write 12, .work, .work, .write 12, .resume (.caller 2),
      .write 12]
    let start : Station := {
      session := (Session.start ⟨0⟩ {}).step (.registerCallbacks { table := Stock.table })
      work := ⟨{ modem := Stock.modem 0 }, { capacity := 16 }, { capacity := 16 }⟩ }
    let st := start.run moves
    st.IsStill ∧ (∀ call ∈ st.calls, call.IsReadable (Stock.setup 0 {})) ∧
    st.calls.map (fun call =>
        (call.submission.request, (responsesTo st.session.trace call.ticket).length))
      = List.replicate 4 (Stock.operator, 0) ∧
    st.work.inbound.held.length = 16 ∧ st.work.outbound.held.length = 16 := by
  intro asks moves start st
  have hjammed : st.IsJammed := {
    log := List.isEmpty_iff.1 (by decide +kernel)
    outcomes := List.isEmpty_iff.1 (by decide +kernel)
    stream := by decide +kernel
    writes := ⟨.caller 3, [4, 0, 0, 0], [⟨.reader, .send (Command.ack ⟨1⟩).encode⟩], by decide,
      by decide +kernel⟩
    reading := by decide +kernel
    outgoing := by decide +kernel
    inbound := by decide +kernel
    outbound := by decide +kernel }
  have hcommands : ∀ call ∈ st.calls, call.command.encodeBody.length ≤ 8192 := by decide +kernel
  have hsetup : (Stock.setup 0 {}).Fits := fun entry hmem =>
    Nat.le_trans (Simulation.length_stock_response 0 entry hmem) (by decide)
  exact ⟨hjammed.isStill, fun call hmem => ⟨hcommands call hmem, hsetup.answerFits call⟩,
    by decide +kernel, by decide +kernel, by decide +kernel⟩

end Station

end RadioLink
