import RadioLink.Proofs.Streaming

set_option autoImplicit false

/-! # What a modem hears of a slot

A modem tells acknowledgments from commands by the request number alone. An `Uplink` is a slot in use
and a modem that hears what the slot writes, in pieces of any size. Whatever the modem says reaches
the slot as bytes that arrive, and as anything may arrive nothing is assumed about it.

As long as no call has the reserved number for its request, the modem takes every command for one
and every acknowledgment for one, each of them once and in the order in which they were written. A
command that is longer than the modem reads stops it there, and then it hears nothing more. -/

namespace RadioLink

/-- A slot, and a modem that hears what it writes. -/
structure Uplink where
  session : Session
  modem : Modem
  /-- How many of the bytes that the slot has written the modem has heard. -/
  heard : Nat := 0
  /-- The calls that asked for a turn to write their command. -/
  calls : List Call := []
  /-- The calls whose callers were told that they are accepted. -/
  accepted : List Call := []
  /-- What the modem did with what it has heard. -/
  handled : List Handled := []

namespace Uplink

/-- What can happen. -/
inductive Move
  | slot (action : Action)
  /-- The modem hears some bytes more. -/
  | hear (count : Nat)
  | setRule (request : RequestId) (rule : ModemRule)
  | clearRule (request : RequestId)
  | answerNext (rule : ModemRule)
  /-- Bytes are queued, for a frame or an indication or as they are. -/
  | queue (bytes : Bytes)
  | takeOutput

def start (id : SlotId) (options : SlotOptions) (modem : String)
    (rules : List (RequestId × ModemRule)) : Uplink where
  session := Session.start id options
  modem := { id := modem, rules }

/-- The bytes that the modem hears next. -/
def next (l : Uplink) (count : Nat) : Bytes :=
  (l.session.stream.drop l.heard).take count

def act (l : Uplink) : Move → Uplink
  | .slot action =>
    { l with
      session := l.session.step action
      calls := l.calls ++ (l.session.begun? action).toList
      accepted := l.accepted ++ (l.session.accepted? action).toList }
  | .hear count =>
    { l with
      modem := (l.modem.process (l.next count)).1
      heard := l.heard + (l.next count).length
      handled := l.handled ++ (l.modem.process (l.next count)).2.1 }
  | .setRule request rule => { l with modem := l.modem.setRule request rule }
  | .clearRule request => { l with modem := l.modem.clearRule request }
  | .answerNext rule => { l with modem := (l.modem.answerNext rule).1 }
  | .queue bytes => { l with modem := l.modem.queueRaw bytes }
  | .takeOutput => { l with modem := l.modem.takeOutput.1 }

def run (l : Uplink) (moves : List Move) : Uplink :=
  moves.foldl act l

/-- No caller vanishes in the middle of its frame. -/
def NeverTears (l : Uplink) : List Move → Prop
  | [] => True
  | .slot action :: later => ¬ l.session.Tears action ∧ (l.act (.slot action)).NeverTears later
  | move :: later => (l.act move).NeverTears later

end Uplink

/-! ## The modem -/

/-- What the modem does with a command that is a call, or is an acknowledgment. -/
def Sent.IsHandledAs : Sent → Handled → Prop
  | .call made, handled => handled = .answered made.command ∨ handled = .held made.command
  | .ack token, handled => handled = .ack token

/-- A modem that has heard these commands one after the other. -/
structure Modem.HasHeard (m : Modem) (heard : List Sent) (handled : List Handled) : Prop where
  handled : List.Forall₂ Sent.IsHandledAs heard handled
  received : m.received = (heard.filterMap Sent.call?).map (·.command)
  acks : m.acks = heard.filterMap Sent.token?

namespace Modem.HasHeard

variable {m : Modem} {heard : List Sent} {handled : List Handled}

/-- What a modem keeps of what it has heard does not depend on anything else about it. -/
theorem of_same (h : m.HasHeard heard handled) {other : Modem}
    (hreceived : other.received = m.received) (hacks : other.acks = m.acks) :
    other.HasHeard heard handled :=
  ⟨h.handled, hreceived.trans h.received, hacks.trans h.acks⟩

theorem handle (h : m.HasHeard heard handled) {item : Sent}
    (hrequest : ∀ call, item = .call call → call.submission.request ≠ .acknowledgement) :
    (m.handle item.command).1.HasHeard (heard ++ [item])
      (handled ++ [(m.handle item.command).2]) := by
  have hhandled : item.IsHandledAs (m.handle item.command).2 →
      List.Forall₂ Sent.IsHandledAs (heard ++ [item]) (handled ++ [(m.handle item.command).2]) :=
    fun hitem => List.rel_append h.handled (.cons hitem .nil)
  cases item with
  | ack token =>
    refine ⟨hhandled rfl, ?_, ?_⟩
    · rw [List.filterMap_append]
      exact h.received.trans (by rw [List.filterMap_cons_none rfl, List.filterMap_nil,
        List.append_nil])
    · rw [List.filterMap_append, ← h.acks]
      rfl
  | call call =>
    have hack : call.command.isAck = false := beq_eq_false_iff_ne.2 (hrequest call rfl)
    refine ⟨hhandled ?_, ?_, ?_⟩
    · simp only [Sent.command, Modem.handle, hack, Bool.false_eq_true, if_false]
      split
      · exact .inl rfl
      · exact .inr rfl
    · rw [Sent.command, m.handle_call (hrequest call rfl), List.filterMap_append, List.map_append,
        ← h.received]
      rfl
    · rw [Sent.command, m.handle_call (hrequest call rfl), List.filterMap_append, ← h.acks]
      exact (List.append_nil _).symm

theorem handleAll (h : m.HasHeard heard handled) {more : List Sent}
    (hrequests : ∀ call, .call call ∈ more → call.submission.request ≠ .acknowledgement) :
    (m.handleAll (more.map Sent.command)).1.HasHeard (heard ++ more)
      (handled ++ (m.handleAll (more.map Sent.command)).2) := by
  induction more generalizing m heard handled with
  | nil =>
    rw [List.append_nil]
    exact (List.append_nil handled).symm ▸ h
  | cons item more ih =>
    have hfirst := h.handle fun call he => hrequests call (he ▸ List.mem_cons_self)
    have hrest := ih hfirst fun call hmem => hrequests call (List.mem_cons_of_mem _ hmem)
    rw [List.append_assoc, List.append_assoc] at hrest
    exact hrest

end Modem.HasHeard

/-! ## Steps -/

/-- What is torn off could be made whole: no more than one command is begun. -/
theorem IsTorn.whole {torn : Bytes} (h : IsTorn torn) :
    ∃ partly rest, torn ++ rest = partly.flatMap Command.encode ∧
      (∀ command ∈ partly, command.encodeBody.length < UInt32.size) ∧
      (partly = [] ∨ (∃ command, partly = [command]) ∧ rest ≠ []) := by
  rcases h with rfl | ⟨command, rest, hrest, hbytes, hshort⟩
  · exact ⟨[], [], rfl, List.forall_mem_nil _, .inl rfl⟩
  · exact ⟨[command], rest, hbytes.trans (List.append_nil _).symm,
      List.forall_mem_singleton.2 hshort, .inr ⟨⟨command, rfl⟩, hrest⟩⟩

namespace Uplink

variable {l : Uplink} {f : Flow} {heard later : List Sent}

/-- Of the frames that are written the modem has heard some, and it has begun no other. -/
structure Hears (l : Uplink) (f : Flow) (heard later : List Sent) : Prop where
  streams : l.session.Streams l.calls l.accepted f
  written : f.written = heard ++ later
  modem : l.modem.HasHeard heard l.handled
  count : l.heard ≤ l.session.stream.length
  bytes : l.session.stream.take l.heard = sentBytes heard ++ l.modem.framer.buffer
  limit : l.modem.framer.limit = defaultMaxFrameLen
  front : ∀ body left,
    Front.of l.modem.framer.limit l.modem.framer.buffer ≠ .complete body left

/-- What the modem has not taken in yet is what it still has to hear. -/
theorem Hears.rest (h : l.Hears f heard later) :
    l.modem.framer.buffer ++ l.session.stream.drop l.heard = sentBytes later ++ f.torn := by
  have hsplit := (List.take_append_drop l.heard l.session.stream).trans h.streams.stream
  rw [h.bytes, h.written, sentBytes_append, List.append_assoc, List.append_assoc] at hsplit
  exact List.append_cancel_left hsplit

/-- With some bytes more, the modem takes in some of the frames that it has still to hear, and there
is nothing else that it could take in. -/
theorem Hears.drain (h : l.Hears f heard later) (count : Nat) :
    ∃ more left framer ending, later = more ++ left ∧
      (l.modem.framer.push (l.next count)).drain Command.decodeBody
        = (framer, more.map Sent.command, ending) ∧
      framer.limit = l.modem.framer.limit ∧
      l.modem.framer.buffer ++ l.next count = sentBytes more ++ framer.buffer ∧
      ∀ body left, Front.of l.modem.framer.limit framer.buffer ≠ .complete body left := by
  obtain ⟨partly, rest, hwhole, hpartly, hone⟩ := h.streams.torn.whole
  have hcommands : (l.modem.framer.push (l.next count)).buffer
      ++ ((l.session.stream.drop l.heard).drop count ++ rest)
      = (later.map Sent.command ++ partly).flatMap Command.encode := by
    rw [Framer.push, next, List.append_assoc, ← List.append_assoc (List.take ..),
      List.take_append_drop, ← List.append_assoc, h.rest, List.append_assoc, hwhole,
      List.flatMap_append]
    rfl
  have hshort : ∀ command ∈ later.map Sent.command ++ partly,
      command.encodeBody.length < UInt32.size := by
    refine List.forall_mem_append.2 ⟨List.forall_mem_map.2 fun item hitem => ?_, hpartly⟩
    exact h.streams.short item
      (List.mem_append_left _ (h.written ▸ List.mem_append_right _ hitem))
  obtain ⟨read, left, framer, ending, hread, hdrain, hlimit, hbuffer, hleft, hfront⟩ :=
    Framer.drain_prefix hcommands hshort
  -- The command that is torn off is not read, as its last bytes are not there.
  obtain ⟨others, hothers⟩ : ∃ others, later.map Sent.command = read ++ others := by
    rcases hone with rfl | ⟨⟨command, rfl⟩, hrest⟩
    · exact ⟨left, (List.append_nil _).symm.trans hread⟩
    · rcases List.eq_nil_or_concat left with rfl | ⟨init, last, rfl⟩
      · simp only [List.flatMap_nil, List.append_eq_nil_iff] at hleft
        exact absurd hleft.2.2 hrest
      · rw [List.concat_eq_append, ← List.append_assoc] at hread
        exact ⟨init, (List.append_inj' hread rfl).1⟩
  obtain ⟨more, last, rfl, rfl, -⟩ := List.map_eq_append_iff.1 hothers
  exact ⟨more, last, framer, ending, rfl, hdrain, hlimit, hbuffer, hfront⟩

/-- The modem hears some bytes more. -/
theorem Hears.hear (h : l.Hears f heard later) (count : Nat)
    (hrequests : ∀ call ∈ l.calls, call.submission.request ≠ .acknowledgement) :
    ∃ more left, (l.act (.hear count)).Hears f (heard ++ more) left := by
  obtain ⟨more, last, framer, ending, rfl, hdrain, hlimit, hbuffer, hfront⟩ := h.drain count
  have hprocess : l.modem.process (l.next count)
      = (({ l.modem with framer }.handleAll (more.map Sent.command)).1,
        ({ l.modem with framer }.handleAll (more.map Sent.command)).2, ending) := by
    rw [Modem.process, hdrain]
  have hknown : ∀ call, .call call ∈ more → call.submission.request ≠ .acknowledgement := by
    intro call hcall
    refine hrequests call (h.streams.known call (List.mem_append_left _ ?_))
    rw [h.written]
    exact List.mem_append_right _ (List.mem_append_left _ hcall)
  have hfilled : ({ l.modem with framer } : Modem).HasHeard heard l.handled :=
    h.modem.of_same rfl rfl
  have hheard := hfilled.handleAll hknown
  have hframer : (l.act (.hear count)).modem.framer = framer := by
    rw [act, hprocess]
    exact Modem.framer_handleAll _ _
  have hlength : (l.act (.hear count)).heard = l.heard + (l.next count).length := rfl
  refine ⟨more, last, ?_⟩
  exact {
    streams := h.streams
    written := by rw [List.append_assoc]; exact h.written
    modem := by
      rw [act, hprocess]
      exact hheard
    count := by
      rw [hlength, next, List.length_take, List.length_drop]
      have hcount := h.count
      show _ ≤ l.session.stream.length
      omega
    bytes := by
      rw [hlength, hframer]
      show l.session.stream.take _ = _
      have hnext : (l.session.stream.drop l.heard).take (l.next count).length = l.next count := by
        rw [next, List.length_take, List.take_eq_take_iff]
        omega
      rw [List.take_add, h.bytes, hnext, List.append_assoc, sentBytes_append, List.append_assoc]
      exact congrArg (sentBytes heard ++ ·) hbuffer
    limit := by
      rw [hframer, hlimit]
      exact h.limit
    front := by
      rw [hframer, hlimit]
      exact hfront }

/-- The slot does something: at most more is written. -/
theorem Hears.slot (h : l.Hears f heard later) {action : Action}
    (hwhole : ¬ l.session.Tears action) :
    ∃ next more, (l.act (.slot action)).Hears next heard (later ++ more) := by
  obtain ⟨next, more, hnext, hwritten⟩ := h.streams.step action hwhole
  obtain ⟨bytes, hbytes⟩ : ∃ bytes, (l.session.step action).stream = l.session.stream ++ bytes := by
    by_cases haccept : ∃ count, action = .accept count
    · obtain ⟨count, rfl⟩ := haccept
      exact ⟨_, Session.stream_accept h.streams.closes.log count⟩
    · refine ⟨[], (Session.stream_of_silent h.streams.closes ?_).trans (List.append_nil _).symm⟩
      exact fun count he => haccept ⟨count, he⟩
  have hsame : (l.act (.slot action)).session.stream = l.session.stream ++ bytes := hbytes
  refine ⟨next, more, { h with streams := hnext, written := ?_, count := ?_, bytes := ?_ }⟩
  · rw [hwritten, h.written, List.append_assoc]
  · rw [hsame, List.length_append]
    exact Nat.le_add_right_of_le h.count
  · rw [hsame]
    exact (List.take_append_of_le_length h.count).trans h.bytes

/-- The modem changes without hearing anything. -/
theorem Hears.tend (h : l.Hears f heard later) {modem : Modem}
    (hframer : modem.framer = l.modem.framer) (hreceived : modem.received = l.modem.received)
    (hacks : modem.acks = l.modem.acks) : ({ l with modem } : Uplink).Hears f heard later :=
  { h with
    modem := h.modem.of_same hreceived hacks
    bytes := hframer ▸ h.bytes
    limit := hframer ▸ h.limit
    front := hframer ▸ h.front }

theorem Hears.act (h : l.Hears f heard later) (move : Move)
    (hwhole : ∀ action, move = .slot action → ¬ l.session.Tears action)
    (hrequests : ∀ call ∈ l.calls, call.submission.request ≠ .acknowledgement) :
    ∃ f heard later, (l.act move).Hears f heard later := by
  cases move with
  | slot action =>
    obtain ⟨next, more, hnext⟩ := h.slot (hwhole action rfl)
    exact ⟨_, _, _, hnext⟩
  | hear count =>
    obtain ⟨more, left, hnext⟩ := h.hear count hrequests
    exact ⟨_, _, _, hnext⟩
  | setRule | clearRule | queue => exact ⟨_, _, _, h.tend rfl rfl rfl⟩
  | answerNext rule =>
    refine ⟨_, _, _, h.tend ?_ ?_ ?_⟩ <;> rw [Modem.answerNext] <;> split <;> rfl
  | takeOutput =>
    refine ⟨_, _, _, h.tend ?_ ?_ ?_⟩ <;> rw [Modem.takeOutput] <;> split <;> rfl

/-! ## Runs -/

theorem calls_subset_act (l : Uplink) (move : Move) : l.calls ⊆ (l.act move).calls := by
  cases move with
  | slot action => exact List.subset_append_left ..
  | _ => exact List.Subset.refl _

theorem calls_subset_run (l : Uplink) (moves : List Move) : l.calls ⊆ (l.run moves).calls := by
  induction moves generalizing l with
  | nil => exact List.Subset.refl _
  | cons move moves ih => exact List.Subset.trans (l.calls_subset_act move) (ih _)

theorem Hears.run (h : l.Hears f heard later) {moves : List Move} (hwhole : l.NeverTears moves)
    (hrequests : ∀ call ∈ (l.run moves).calls, call.submission.request ≠ .acknowledgement) :
    ∃ f heard later, (l.run moves).Hears f heard later := by
  induction moves generalizing l f heard later with
  | nil => exact ⟨_, _, _, h⟩
  | cons move moves ih =>
    have hfirst : (∀ action, move = .slot action → ¬ l.session.Tears action) ∧
        (l.act move).NeverTears moves := by
      cases move with
      | slot action => exact ⟨fun _ he => by cases he; exact hwhole.1, hwhole.2⟩
      | _ => exact ⟨fun _ he => (by cases he), hwhole⟩
    obtain ⟨_, _, _, hnext⟩ := h.act move hfirst.1
      fun call hmem => hrequests call (l.calls_subset_run (move :: moves) hmem)
    exact ih hnext hfirst.2 hrequests

theorem hears_start (id : SlotId) (options : SlotOptions) (modem : String)
    (rules : List (RequestId × ModemRule)) : (start id options modem rules).Hears {} [] [] where
  streams := Session.streams_start id options
  written := rfl
  modem := ⟨.nil, rfl, rfl⟩
  count := Nat.le_refl _
  bytes := rfl
  limit := rfl
  front := fun _ _ hfront => by cases hfront

/-- What a modem has not handled although it has heard everything starts with a command that is too
long for it. -/
theorem Hears.later_eq_nil (h : l.Hears f heard later)
    (hall : l.session.stream.length ≤ l.heard)
    (hfits : ∀ item ∈ later, item.command.encodeBody.length ≤ defaultMaxFrameLen.toNat) :
    later = [] := by
  cases later with
  | nil => rfl
  | cons item later =>
    have hrest := h.rest
    rw [List.drop_eq_nil_iff.2 hall, List.append_nil] at hrest
    have hlength : item.command.encodeBody.length ≤ l.modem.framer.limit.toNat :=
      h.limit.symm ▸ hfits item List.mem_cons_self
    have hfront := Front.of_lengthPrefixed hlength (sentBytes later ++ f.torn)
    refine absurd ?_ (h.front item.command.encodeBody (sentBytes later ++ f.torn))
    rw [hrest, ← hfront, sentBytes, List.map_cons, List.flatMap_cons, List.append_assoc]
    rfl

/-- **Commands are heard as commands, and acknowledgments as acknowledgments**, if no call has the
reserved number for its request. Whatever happens to a slot and to the modem that hears it, as long
as no caller vanishes in the middle of its frame: the bytes that the slot has written are frames,
and at the end perhaps part of one more. Every call that was accepted is among them, and none of
them is there twice. The modem has handled the first of these frames one after the other, and all of
them if it has heard everything and none is too long for it: each call was recorded as received and
was answered or held, and nothing but an acknowledgment was taken for one. So every token that the
modem has as acknowledged is asked for by a frame that the slot has taken in. -/
theorem commands_heard_as_commands (id : SlotId) (options : SlotOptions) (modem : String)
    (rules : List (RequestId × ModemRule)) {moves : List Move}
    (hwhole : (start id options modem rules).NeverTears moves)
    (hrequests : ∀ call ∈ ((start id options modem rules).run moves).calls,
      call.submission.request ≠ .acknowledgement) :
    let l := (start id options modem rules).run moves
    ∃ written torn heard later,
      l.session.stream = sentBytes written ++ torn ∧ IsTorn torn ∧ written = heard ++ later ∧
      (written.filterMap Sent.call?).Nodup ∧
      (∀ call, .call call ∈ written → call ∈ l.calls) ∧
      (∀ call ∈ l.accepted, .call call ∈ written) ∧
      List.Forall₂ Sent.IsHandledAs heard l.handled ∧
      l.modem.received = (heard.filterMap Sent.call?).map (·.command) ∧
      l.modem.acks = heard.filterMap Sent.token? ∧
      (l.heard = l.session.stream.length →
        (∀ call ∈ l.calls, call.command.encodeBody.length ≤ defaultMaxFrameLen.toNat) →
        later = []) ∧
      ∀ token ∈ l.modem.acks, ∃ frame : Frame,
        ⟨true, frame.received⟩ ∈ l.session.trace ∧ frame.ack? = some (.ack token) := by
  intro l
  obtain ⟨f, heard, later, h⟩ := (hears_start id options modem rules).run hwhole hrequests
  have honce := h.streams.once
  rw [Flow.all, List.filterMap_append] at honce
  refine ⟨f.written, f.torn, heard, later, h.streams.stream, h.streams.torn, h.written,
    (List.nodup_append.1 honce).1, ?_, h.streams.accepted, h.modem.handled, h.modem.received,
    h.modem.acks, ?_, ?_⟩
  · exact fun call hmem => h.streams.known call (List.mem_append_left _ hmem)
  · intro hall hfits
    refine h.later_eq_nil (Nat.le_of_eq hall.symm) fun item hmem => ?_
    cases item with
    | ack token =>
      rw [Sent.command, Command.length_encodeBody]
      exact (by decide : commandHeaderSize + 0 ≤ defaultMaxFrameLen.toNat)
    | call call =>
      refine hfits call (h.streams.known call (List.mem_append_left _ ?_))
      rw [h.written]
      exact List.mem_append_right _ hmem
  · intro token hmem
    rw [h.modem.acks] at hmem
    obtain ⟨item, hitem, htoken⟩ := List.mem_filterMap.1 hmem
    cases item with
    | call call => cases htoken
    | ack other =>
      cases htoken
      refine h.streams.acks token (List.mem_append_left _ ?_)
      rw [h.written]
      exact List.mem_append_left _ hitem

/-- The modem hears a command in two pieces, and then the acknowledgment of the response that it was
made to send. -/
theorem command_heard_before_acknowledgment :
    let callbacks : Callbacks := { table := .withShapes {} ⟨20⟩ .void .void }
    let response : Frame := .response .solicitedAckExpected ⟨1⟩ ⟨20⟩ .success []
    let first := start ⟨0⟩ {} "modem" []
    let moves : List Move := [.slot (.registerCallbacks callbacks), .slot (.submit none ⟨20⟩ .void),
      .slot (.accept 12), .hear 5, .slot (.resume (.caller 0)), .slot (.arrive response.encode),
      .slot .read, .slot (.accept 12), .hear 100]
    let l := first.run moves
    first.NeverTears moves ∧
    (∀ call ∈ l.calls, call.submission.request ≠ .acknowledgement) ∧
    l.accepted = [⟨0, ⟨⟨1⟩, ⟨20⟩, []⟩⟩] ∧
    l.handled = [.held ⟨⟨20⟩, ⟨1⟩, []⟩, .ack ⟨1⟩] ∧
    l.modem.received = [⟨⟨20⟩, ⟨1⟩, []⟩] ∧
    ∃ frame : Frame, ⟨true, frame.received⟩ ∈ l.session.trace ∧
      frame.ack? = some (.ack ⟨1⟩) := by
  intro callbacks response first moves l
  have hwhole : first.NeverTears moves := by
    simp [moves, NeverTears, Session.Tears]
  have hcalls : l.calls = [⟨0, ⟨⟨1⟩, ⟨20⟩, []⟩⟩] := by cbv
  have hrequests : ∀ call ∈ l.calls, call.submission.request ≠ .acknowledgement := by
    rw [hcalls]
    exact List.forall_mem_singleton.2 (by decide)
  have hacks : l.modem.acks = [⟨1⟩] := by cbv
  obtain ⟨-, -, -, -, -, -, -, -, -, -, -, -, -, -, hasked⟩ :=
    commands_heard_as_commands ⟨0⟩ {} "modem" [] hwhole hrequests
  exact ⟨hwhole, hrequests, by cbv, by cbv, by cbv,
    hasked ⟨1⟩ (hacks ▸ List.mem_singleton.2 rfl)⟩

/-- A table may have the reserved number for a request. Then the command of a call that was accepted
is taken for an acknowledgment, although nothing at all has arrived at the slot: the modem has not
received it, and neither answers nor holds it. -/
theorem call_with_reserved_number_heard_as_acknowledgment :
    let callbacks : Callbacks := { table := .withShapes {} .acknowledgement .raw .raw }
    let l := (start ⟨0⟩ {} "modem" [(.acknowledgement, .ok [])]).run [
      .slot (.registerCallbacks callbacks), .slot (.submit (some ⟨7⟩) .acknowledgement (.raw [])),
      .slot (.accept 12), .slot (.resume (.caller 0)), .hear 12]
    l.accepted = [⟨0, ⟨⟨7⟩, .acknowledgement, []⟩⟩] ∧
    l.session.stream = (Command.mk .acknowledgement ⟨7⟩ []).encode ∧
    l.heard = l.session.stream.length ∧
    l.handled = [.ack ⟨7⟩] ∧ l.modem.acks = [⟨7⟩] ∧ l.modem.received = [] ∧
    l.session.arrived = [] := by
  dsimp only
  exact ⟨by cbv, by cbv, by cbv, by cbv, by cbv, by cbv, by cbv⟩

end Uplink

end RadioLink
