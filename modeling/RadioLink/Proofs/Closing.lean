import Mathlib
import RadioLink.Proofs.Session

set_option autoImplicit false

/-! # Closing a slot in one step

The end of the stream, bytes that are no frame, a failed read, a shutdown and the loss of the slot
all close it. In a session that is one step: the first of them resolves what is pending, gives up
what is being written, and says so; every other one changes nothing that others can notice. What
holds when other things come in between is a matter of its own.

`Session.closing?` says which step closes an open slot and why, and an open slot does exactly that
(`act_closes`). A closed slot `IsShut`: its registry and its outlet refuse everything and nobody
reads, so no step can do more than tell a caller what came of a command that was written before
(`act_staysShut`). -/

namespace RadioLink

def Effect.isDisconnected : Effect → Bool
  | .published (.disconnected ..) => true
  | _ => false

/-- What a slot may still do when it is closed: a caller learns that its command was written before,
or callbacks are registered. -/
def Effect.isAfterword : Effect → Bool
  | .published (.commandSent ..) | .published (.callbacksRegistered _) => true
  | _ => false

/-! ## Closing -/

/-- The response to a request that is still pending when the slot closes. -/
def PendingRequest.lastWord (entry : PendingRequest) (id : SlotId) : DrainReason → Response
  | .transportClosed =>
    ⟨id, entry.token, entry.request, .radioNotAvailable, .error .transportClosed⟩
  | .shutDown => ⟨id, entry.token, entry.request, .cancelled, .error .shutDown⟩

namespace Slot

variable {s : Slot}

/-- Nothing is pending, and nothing can be registered. -/
structure IsDrained (s : Slot) : Prop where
  registry : s.registry.isClosed = true
  entries : s.registry.entries = []

/-- Nothing can be registered or written, and nobody reads. -/
structure IsShut (s : Slot) : Prop extends s.IsDrained where
  isClosed : s.isClosed = true
  outlet : s.outlet.isClosing = true
  turns : ∀ turn ∈ s.outlet.turns, Outlet.isSend turn = false
  reading : s.reading = .closing ∨ s.reading = .stopped

/-- The pending requests that nobody has withdrawn. -/
def awaited (s : Slot) : List PendingRequest :=
  s.registry.entries.filter fun entry => !entry.isCancelled

/-- What the slot says to them when it closes. -/
def lastWords (s : Slot) (reason : DrainReason) : List Effect :=
  s.awaited.map fun entry => .resolved ⟨entry.sink, entry.lastWord s.id reason⟩

/-- What closing a slot does: every request that nobody has withdrawn is resolved with an error, and
the observers are told how many there were. -/
def farewell (s : Slot) (reason : DrainReason) (why : String) : List Effect :=
  s.lastWords reason ++ [.published (.disconnected why s.awaited.length)]

theorem drain_eq (s : Slot) (reason : DrainReason) :
    s.drain reason = ({ s with
      registry := { s.registry with entries := [], isClosed := true }
      log := s.log ++ s.lastWords reason }, s.awaited.length) := by
  cases reason <;> simp [drain, Registry.drain, lastWords, awaited, PendingRequest.respond,
    PendingRequest.lastWord, DrainReason.status, DrainReason.error, id]

theorem closeNow_of_open (h : s.isClosed = false) (reason : DrainReason) (why : String) :
    s.closeNow reason why = ({ s with
      registry := { s.registry with entries := [], isClosed := true }
      outlet := s.outlet.abortNow, isClosed := true
      log := s.log ++ s.farewell reason why }, true) := by
  rw [closeNow, h, if_neg Bool.false_ne_true, drain_eq]
  simp only [publish, emit, farewell, List.append_assoc]

theorem closeNow_of_closed (h : s.isClosed = true) (reason : DrainReason) (why : String) :
    s.closeNow reason why = (s, false) := by
  rw [closeNow, if_pos h]

theorem closeAndShutNow_of_open (h : s.isClosed = false) (party : Party) (reason : DrainReason)
    (why : String) :
    s.closeAndShutNow party reason why = ({ s with
      registry := { s.registry with entries := [], isClosed := true }
      outlet := s.outlet.abortNow.shutNow party, isClosed := true
      log := s.log ++ s.farewell reason why }, true) := by
  rw [closeAndShutNow, closeNow_of_open h]

theorem closeAndShutNow_of_closed (h : s.isClosed = true) (party : Party) (reason : DrainReason)
    (why : String) : s.closeAndShutNow party reason why = (s, false) := by
  rw [closeAndShutNow, closeNow_of_closed h]

/-- Nothing that is left at an outlet after it was told to close is for writing. -/
theorem turns_abortNow (o : Outlet) : ∀ turn ∈ o.abortNow.turns, Outlet.isSend turn = false := by
  intro turn hmem
  simpa using (List.mem_filter.1 hmem).2

theorem turns_shutNow (o : Outlet) (party : Party) :
    ∀ turn ∈ (o.shutNow party).turns, Outlet.isSend turn = false := by
  intro turn hmem
  rcases List.mem_append.1 hmem with hmem | hmem
  · exact turns_abortNow o turn hmem
  · rw [List.mem_singleton.1 hmem]
    rfl

/-- An open slot that is closed from the side of its reader. -/
theorem closeFromReaderNow_of_open (h : s.isClosed = false) (why : String) :
    (s.closeFromReaderNow why).IsShut ∧
      (s.closeFromReaderNow why).log = s.log ++ s.farewell .transportClosed why := by
  rw [closeFromReaderNow, closeAndShutNow_of_open h]
  exact ⟨⟨⟨rfl, rfl⟩, rfl, rfl, turns_shutNow _ _, .inl rfl⟩, rfl⟩

theorem shutDownNow_of_open (h : s.isClosed = false) (party : Party) :
    (s.shutDownNow party).1.IsShut ∧
      (s.shutDownNow party).1.log = s.log ++ s.farewell .shutDown "shut down locally" := by
  rw [shutDownNow, closeAndShutNow_of_open (s := s.stopReader) h]
  exact ⟨⟨⟨rfl, rfl⟩, rfl, rfl, turns_shutNow _ _, .inr rfl⟩, rfl⟩

theorem abandonNow_of_open (h : s.isClosed = false) :
    s.abandonNow.IsShut ∧ s.abandonNow.log = s.log ++ s.farewell .shutDown "manager dropped" := by
  rw [abandonNow, closeNow_of_open (s := s.stopReader) h]
  exact ⟨⟨⟨rfl, rfl⟩, rfl, rfl, turns_abortNow _, .inr rfl⟩, rfl⟩

/-! ## Closed slots -/

namespace IsDrained

theorem find?_eq_none (h : s.IsDrained) (token : Token) : s.registry.find? token = none := by
  rw [Registry.find?, h.entries, List.find?_nil]

/-- Nothing is registered. -/
theorem register (h : s.IsDrained) (chosen : Option Token) (request : RequestId)
    (payload : Payload) (sink : Sink) : ∃ e, s.register chosen request payload sink = .error e := by
  rw [Slot.register]
  cases s.encode request payload with
  | error e => exact ⟨e, rfl⟩
  | ok body =>
    refine ⟨.transportClosed, ?_⟩
    cases chosen with
    | none => simp only [bind, Except.bind, Registry.submit_of_isClosed h.registry]
    | some token => simp only [bind, Except.bind, Registry.submitWithToken_of_isClosed h.registry]

/-- Whatever is submitted is refused and changes nothing. -/
theorem beginSubmission (h : s.IsDrained) (party : Party) (chosen : Option Token)
    (request : RequestId) (payload : Payload) (sink : Sink) :
    ∃ e, s.beginSubmission party chosen request payload sink = (s, .error e) := by
  obtain ⟨e, he⟩ := h.register chosen request payload sink
  exact ⟨e, by rw [Slot.beginSubmission, he]⟩

/-- The vendor is not asked any more. -/
theorem submitLocal (h : s.IsDrained) (request : RequestId) (data : Bytes) (sink : Sink) :
    ∃ e, s.submitLocal request data sink = (s, .error e) := by
  rw [Slot.submitLocal]
  dsimp only
  split
  · exact ⟨_, rfl⟩
  · rw [Registry.submit_of_isClosed h.registry]
    exact ⟨_, rfl⟩

theorem cancel (h : s.IsDrained) (token : Token) : s.cancel token = (s, false) := by
  rw [Slot.cancel, Registry.cancel, h.find?_eq_none]

theorem completeLocal (h : s.IsDrained) (token : Token) (status : Status) (payload : Bytes) :
    s.completeLocal token status payload = (s, false) := by
  rw [Slot.completeLocal, Registry.complete, h.find?_eq_none]

end IsDrained

namespace IsShut

/-- A slot stays shut as long as its registry keeps refusing, its outlet only loses turns, and its
reader does not start again. -/
theorem of_same (h : s.IsShut) {t : Slot} (hclosed : t.isClosed = s.isClosed)
    (hregistry : t.registry.isClosed = s.registry.isClosed)
    (hentries : t.registry.entries ⊆ s.registry.entries)
    (houtlet : t.outlet.isClosing = s.outlet.isClosing) (hturns : t.outlet.turns ⊆ s.outlet.turns)
    (hreading : t.reading = s.reading ∨ t.reading = .stopped) : t.IsShut where
  isClosed := hclosed.trans h.isClosed
  registry := hregistry.trans h.registry
  entries := List.eq_nil_of_subset_nil (h.entries ▸ hentries)
  outlet := houtlet.trans h.outlet
  turns := fun turn hmem => h.turns turn (hturns hmem)
  reading := by
    rcases hreading with hreading | hreading
    · rw [hreading]
      exact h.reading
    · exact .inr hreading

theorem accept (h : s.IsShut) (count : Nat) : s.accept count = s := by
  have haccept : s.outlet.accept count = (s.outlet, []) := by
    rw [Outlet.accept]
    split
    · next party rest turns hturns =>
      have hsend := h.turns ⟨party, .send rest⟩ (hturns ▸ List.mem_cons_self)
      cases hsend
    · rfl
  rw [Slot.accept, haccept]
  rfl

theorem failWrite (h : s.IsShut) (reason : String) : s.failWrite reason = s := by
  have hfail : s.outlet.fail reason = s.outlet := by
    rw [Outlet.fail]
    split
    · next party rest turns hturns =>
      have hsend := h.turns ⟨party, .send rest⟩ (hturns ▸ List.mem_cons_self)
      cases hsend
    · rfl
  rw [Slot.failWrite, hfail]

theorem readNext? (h : s.IsShut) : s.readNext? = none := by
  rw [Slot.readNext?]
  rcases h.reading with hreading | hreading <;> rw [hreading]

/-- A shutdown of a closed slot only takes its reader away. -/
theorem shutDownNow (h : s.IsShut) (party : Party) :
    (s.shutDownNow party).1.IsShut ∧ (s.shutDownNow party).1.log = s.log := by
  rw [Slot.shutDownNow, closeAndShutNow_of_closed (s := s.stopReader) h.isClosed]
  exact ⟨h.of_same rfl rfl (List.Subset.refl _) rfl List.filter_sublist.subset (.inr rfl), rfl⟩

theorem abandonNow (h : s.IsShut) : s.abandonNow.IsShut ∧ s.abandonNow.log = s.log := by
  rw [Slot.abandonNow, closeNow_of_closed (s := s.stopReader) h.isClosed]
  exact ⟨h.of_same rfl rfl (List.Subset.refl _) rfl List.filter_sublist.subset (.inr rfl), rfl⟩

/-- Whoever had a turn goes on, and finds the slot shut. -/
theorem conclude (h : s.IsShut) (submission : Submission) (result : Except LinkError Unit) :
    (s.conclude submission result).1.IsShut ∧
      ∃ effects, (s.conclude submission result).1.log = s.log ++ effects ∧
        ∀ effect ∈ effects, effect.isAfterword = true := by
  cases result with
  | ok _ =>
    refine ⟨h.of_same rfl rfl (List.Subset.refl _) rfl (List.Subset.refl _) (.inl rfl), _, rfl, ?_⟩
    exact List.forall_mem_singleton.2 rfl
  | error e =>
    refine ⟨?_, [], (List.append_nil _).symm, List.forall_mem_nil _⟩
    exact h.of_same rfl rfl List.filter_sublist.subset rfl (List.Subset.refl _) (.inl rfl)

theorem resumeReader (h : s.IsShut) (outcome : Outcome) :
    (s.resumeReader outcome).IsShut ∧ (s.resumeReader outcome).log = s.log := by
  unfold Slot.resumeReader
  split
  · next hreading => rcases h.reading with h | h <;> rw [h] at hreading <;> cases hreading
  · exact ⟨h.of_same rfl rfl (List.Subset.refl _) rfl (List.Subset.refl _) (.inr rfl), rfl⟩
  · exact ⟨h, rfl⟩

end IsShut

end Slot

/-! ## Steps -/

theorem Effect.isDisconnected_of_isForCallers {effect : Effect} (h : effect.isForCallers = true) :
    effect.isDisconnected = false := by
  unfold isForCallers at h
  split at h
  case h_5 => cases h
  all_goals rfl

theorem Effect.isDisconnected_of_isResolution {effect : Effect} (h : effect.isResolution = true) :
    effect.isDisconnected = false := by
  unfold isResolution at h
  split at h
  case h_5 => cases h
  all_goals rfl

theorem Effect.isDisconnected_of_isAfterword {effect : Effect} (h : effect.isAfterword = true) :
    effect.isDisconnected = false := by
  unfold isAfterword at h
  split at h
  case h_3 => cases h
  all_goals rfl

theorem Slot.does_beginRoute (s : Slot) (party : Party) (frame : Frame) :
    ∃ effects, s.Does (s.beginRoute party frame).1 effects ∧
      ∀ effect ∈ effects, effect.isDisconnected = false := by
  have hreceived : ∃ effects, s.Does (s.receive frame).1 effects ∧
      ∀ effect ∈ effects, effect.isDisconnected = false := by
    refine ⟨_, s.does_receive frame, List.forall_mem_cons.2 ⟨rfl, ?_⟩⟩
    intro effect hmem
    split at hmem
    · rw [List.mem_singleton.1 hmem]
      rfl
    · cases hmem
  obtain ⟨effects, hreceived, heffects⟩ := hreceived
  obtain ⟨more, hresolved, hmore⟩ := (s.receive frame).1.does_resolve frame
  have hquiet : ∀ effect ∈ effects ++ more, effect.isDisconnected = false :=
    List.forall_mem_append.2 ⟨heffects, fun effect hmem =>
      Effect.isDisconnected_of_isResolution (hmore effect hmem)⟩
  rcases s.beginRoute_cases party frame with
    ⟨-, hroute⟩ | ⟨_, _, -, -, hroute⟩ | ⟨_, offered, -, hoffer, hroute⟩ <;> rw [hroute]
  · exact ⟨_, hreceived.trans hresolved, hquiet⟩
  · exact ⟨_, hreceived.trans hresolved, hquiet⟩
  · refine ⟨_, hreceived.trans (Slot.does_offer hoffer), ?_⟩
    rw [List.append_nil]
    exact heffects

namespace Session

variable {x : Session}

/-- Why a step closes the slot, if it is one that closes a slot. -/
def closing? (x : Session) : Action → Option (DrainReason × String)
  | .shutDown => some (.shutDown, "shut down locally")
  | .abandon => some (.shutDown, "manager dropped")
  | .endOfStream =>
    match x.slot.reading with
    | .waiting => some (.transportClosed, "peer closed the channel")
    | _ => none
  | .failRead reason =>
    match x.slot.reading with
    | .waiting => some (.transportClosed, (LinkError.io reason).message)
    | _ => none
  | .read =>
    match x.slot.reading, x.slot.framer.nextFrame.2 with
    | .waiting, some (.error e) => some (.transportClosed, (LinkError.framing e).message)
    | _, _ => none
  | _ => none

/-- A reader that does not close the slot has nothing to do, or begins to route the next frame. -/
theorem act_read_cases (h : x.closing? .read = none) :
    x.act .read = x ∨
    ∃ framer frame reading, x.slot.reading = .waiting ∧
      x.slot.framer.nextFrame = (framer, some (.ok frame)) ∧
      x.act .read = { x with
        slot := { ({ x.slot with framer }.beginRoute .reader frame).1 with reading } } := by
  by_cases hwaiting : x.slot.reading = .waiting
  · rcases Slot.readNext?_cases hwaiting with ⟨-, hread⟩ | ⟨e, hnext, -⟩ | ⟨frame, hnext, hread⟩
    · exact .inl (by rw [act, hread])
    · rw [closing?, hwaiting, hnext] at h
      cases h
    · rw [act, hread]
      dsimp only
      split
      · exact .inr ⟨_, frame, _, hwaiting, Prod.ext rfl hnext, rfl⟩
      · exact .inr ⟨_, frame, _, hwaiting, Prod.ext rfl hnext, rfl⟩
  · exact .inl (by rw [act, Slot.readNext?_of_not_waiting hwaiting])

/-- What the stream comes to only matters to a reader that waits for a frame. -/
theorem act_endOfStream (h : x.closing? .endOfStream = none) : x.act .endOfStream = x := by
  rw [act]
  split
  · next hwaiting =>
    rw [closing?, hwaiting] at h
    cases h
  · rfl

theorem act_failRead {reason : String} (h : x.closing? (.failRead reason) = none) :
    x.act (.failRead reason) = x := by
  rw [act]
  split
  · next hwaiting =>
    rw [closing?, hwaiting] at h
    cases h
  · rfl

/-- The slot is left open or closed as it was, and has not said that it closes. -/
def LeavesOpen (x y : Session) : Prop :=
  y.slot.isClosed = x.slot.isClosed ∧
    ∃ effects, y.slot.log = x.slot.log ++ effects ∧
      ∀ effect ∈ effects, effect.isDisconnected = false

theorem LeavesOpen.of_same {y : Session} (hclosed : y.slot.isClosed = x.slot.isClosed)
    (hlog : y.slot.log = x.slot.log) : x.LeavesOpen y :=
  ⟨hclosed, [], hlog.trans (List.append_nil _).symm, List.forall_mem_nil _⟩

theorem LeavesOpen.of_does {y : Session} {effects : List Effect}
    (h : x.slot.Does y.slot effects)
    (heffects : ∀ effect ∈ effects, effect.isDisconnected = false) : x.LeavesOpen y :=
  ⟨h.isClosed, effects, h.log, heffects⟩

/-- Whoever goes on leaves the slot open. -/
theorem leavesOpen_goOn {y : Session} (hclosed : y.slot.isClosed = x.slot.isClosed)
    (hlog : y.slot.log = x.slot.log) (outcome : Outcome) (party : Party) :
    x.LeavesOpen (y.goOn outcome party) := by
  cases party with
  | reader =>
    rw [goOn]
    unfold Slot.resumeReader
    split
    · next frame ack result _ =>
      cases result with
      | ok _ =>
        obtain ⟨effects, hresolved, heffects⟩ := ({ y.slot with reading := .waiting }.publish
          (.ackSent ack.token)).does_resolve frame
        refine ⟨hresolved.isClosed.trans hclosed,
          .published (.ackSent ack.token) :: effects, ?_, ?_⟩
        · rw [← hlog, List.append_cons]
          exact hresolved.log
        · refine List.forall_mem_cons.2 ⟨rfl, fun effect hmem => ?_⟩
          exact Effect.isDisconnected_of_isResolution (heffects effect hmem)
      | error e =>
        obtain ⟨effects, hresolved, heffects⟩ :=
          { y.slot with reading := .waiting }.does_resolve frame
        refine ⟨hresolved.isClosed.trans hclosed, effects, hlog ▸ hresolved.log, ?_⟩
        intro effect hmem
        exact Effect.isDisconnected_of_isResolution (heffects effect hmem)
    · exact .of_same hclosed hlog
    · exact .of_same hclosed hlog
  | caller ticket =>
    unfold goOn
    dsimp only
    split
    · next submission _ =>
      obtain ⟨effects, hdoes, heffects⟩ := y.slot.does_conclude submission _
      refine ⟨hdoes.isClosed.trans hclosed, effects, hlog ▸ hdoes.log, fun effect hmem => ?_⟩
      obtain ⟨_, _, _, rfl⟩ := heffects effect hmem
      rfl
    · exact .of_same hclosed hlog

/-- A step that does not close the slot leaves it open. -/
theorem act_leavesOpen {action : Action} (h : x.closing? action = none) :
    x.LeavesOpen (x.act action) := by
  cases action with
  | submit chosen request payload =>
    exact .of_does (x.slot.does_beginSubmission ..) (List.forall_mem_nil _)
  | submitLocal request data =>
    obtain ⟨effects, hdoes, heffects⟩ := x.slot.does_submitLocal request data x.tickets
    exact .of_does hdoes fun effect hmem => Effect.isDisconnected_of_isForCallers (heffects _ hmem)
  | completeLocal token status payload =>
    obtain ⟨effects, hdoes, heffects⟩ := x.slot.does_completeLocal token status payload
    exact .of_does hdoes fun effect hmem => Effect.isDisconnected_of_isForCallers (heffects _ hmem)
  | cancel token =>
    obtain ⟨effects, hdoes, heffects⟩ := x.slot.does_cancel token
    exact .of_does hdoes fun effect hmem => Effect.isDisconnected_of_isForCallers (heffects _ hmem)
  | registerCallbacks callbacks => exact ⟨rfl, _, rfl, List.forall_mem_singleton.2 rfl⟩
  | listen | vanish | failWrite | attend | arrive => exact .of_same rfl rfl
  | shutDown | abandon => cases h
  | resume party =>
    rw [act]
    split
    · next outlet outcome _ =>
      exact leavesOpen_goOn (y := { x with slot := { x.slot with outlet } }) rfl rfl outcome party
    · exact .of_same rfl rfl
  | accept count =>
    refine .of_does (x.slot.does_accept count) ?_
    intro effect hmem
    split at hmem
    · cases hmem
    · rw [List.mem_singleton.1 hmem]
      rfl
  | read =>
    rcases act_read_cases h with hidle | ⟨framer, frame, reading, -, -, hread⟩
    · rw [hidle]
      exact .of_same rfl rfl
    · obtain ⟨effects, hroute, heffects⟩ :=
        { x.slot with framer }.does_beginRoute .reader frame
      rw [hread]
      exact ⟨hroute.isClosed, effects, hroute.log, heffects⟩
  | endOfStream =>
    rw [act_endOfStream h]
    exact .of_same rfl rfl
  | failRead reason =>
    rw [act_failRead h]
    exact .of_same rfl rfl

/-- A step that closes a slot closes it if it is open. -/
theorem act_closes {action : Action} {reason : DrainReason} {why : String}
    (hopen : x.slot.isClosed = false) (h : x.closing? action = some (reason, why)) :
    (x.act action).slot.IsShut ∧
      (x.act action).slot.log = x.slot.log ++ x.slot.farewell reason why := by
  cases action with
  | shutDown =>
    cases h
    exact Slot.shutDownNow_of_open hopen _
  | abandon =>
    cases h
    exact Slot.abandonNow_of_open hopen
  | endOfStream =>
    rw [closing?] at h
    split at h
    · next hwaiting =>
      cases h
      rw [act, hwaiting]
      exact Slot.closeFromReaderNow_of_open hopen _
    · cases h
  | failRead =>
    rw [closing?] at h
    split at h
    · next hwaiting =>
      cases h
      rw [act, hwaiting]
      exact Slot.closeFromReaderNow_of_open hopen _
    · cases h
  | read =>
    rw [closing?] at h
    split at h
    · next e hwaiting hnext =>
      cases h
      rw [act]
      rcases Slot.readNext?_cases hwaiting with
        ⟨hnone, -⟩ | ⟨_, herror, hread⟩ | ⟨frame, hframe, -⟩
      · rw [hnone] at hnext
        cases hnext
      · rw [herror] at hnext
        cases hnext
        rw [hread]
        have hsame : { x.slot with framer := x.slot.framer.nextFrame.1 }.isClosed = false := hopen
        exact Slot.closeFromReaderNow_of_open hsame _
      · rw [hframe] at hnext
        cases hnext
    · cases h
  | _ => cases h

/-- A slot is shut, and has done nothing since then but what remains to be done. -/
def StaysShut (x y : Session) : Prop :=
  y.slot.IsShut ∧ ∃ effects, y.slot.log = x.slot.log ++ effects ∧
    ∀ effect ∈ effects, effect.isAfterword = true

theorem StaysShut.of_same {y : Session} (h : y.slot.IsShut) (hlog : y.slot.log = x.slot.log) :
    x.StaysShut y :=
  ⟨h, [], hlog.trans (List.append_nil _).symm, List.forall_mem_nil _⟩

theorem staysShut_goOn {y : Session} (h : y.slot.IsShut) (hlog : y.slot.log = x.slot.log)
    (outcome : Outcome) (party : Party) : x.StaysShut (y.goOn outcome party) := by
  unfold goOn
  cases party with
  | reader => exact .of_same (h.resumeReader outcome).1 ((h.resumeReader outcome).2.trans hlog)
  | caller ticket =>
    dsimp only
    split
    · next submission _ =>
      rw [StaysShut, ← hlog]
      exact h.conclude submission _
    · exact .of_same h hlog

/-- A slot that is shut stays so whatever happens. -/
theorem act_staysShut (h : x.slot.IsShut) (action : Action) : x.StaysShut (x.act action) := by
  cases action with
  | submit chosen request payload =>
    obtain ⟨e, he⟩ := h.beginSubmission (.caller x.tickets) chosen request payload x.tickets
    rw [act, he]
    exact .of_same h rfl
  | submitLocal request data =>
    obtain ⟨e, he⟩ := h.submitLocal request data x.tickets
    rw [act, he]
    exact .of_same h rfl
  | completeLocal token status payload =>
    rw [act, h.completeLocal]
    exact .of_same h rfl
  | cancel token =>
    rw [act, h.cancel]
    exact .of_same h rfl
  | registerCallbacks callbacks =>
    refine ⟨h.of_same rfl rfl (List.Subset.refl _) rfl (List.Subset.refl _) (.inl rfl), _, rfl, ?_⟩
    exact List.forall_mem_singleton.2 rfl
  | listen | arrive =>
    exact .of_same (h.of_same rfl rfl (List.Subset.refl _) rfl (List.Subset.refl _) (.inl rfl)) rfl
  | shutDown => exact .of_same (h.shutDownNow _).1 (h.shutDownNow _).2
  | abandon => exact .of_same h.abandonNow.1 h.abandonNow.2
  | vanish ticket =>
    exact .of_same (h.of_same rfl rfl (List.Subset.refl _) rfl List.filter_sublist.subset
      (.inl rfl)) rfl
  | resume party =>
    rw [act]
    split
    · next outlet outcome htell =>
      have hshut : { x.slot with outlet }.IsShut := by
        rw [(Outlet.of_tell? htell).2]
        exact h.of_same rfl rfl (List.Subset.refl _) rfl (List.Subset.refl _) (.inl rfl)
      exact staysShut_goOn (y := { x with slot := { x.slot with outlet } }) hshut rfl outcome party
    · exact .of_same h rfl
  | accept count =>
    rw [act, h.accept]
    exact .of_same h rfl
  | failWrite reason =>
    rw [act, h.failWrite]
    exact .of_same h rfl
  | attend =>
    obtain ⟨hclosing, hturns⟩ := x.slot.outlet.attend_spec
    exact .of_same (h.of_same rfl rfl (List.Subset.refl _) hclosing hturns (.inl rfl)) rfl
  | read =>
    rw [act, h.readNext?]
    exact .of_same h rfl
  | endOfStream | failRead =>
    rw [act]
    rcases h.reading with hreading | hreading <;> rw [hreading] <;> exact .of_same h rfl

/-! ## Runs -/

/-- How often the observers were told that the slot closed. -/
def disconnections (trace : List Noted) : Nat :=
  trace.countP fun noted => noted.effect.isDisconnected

theorem disconnections_append {trace : List Noted} {effects : List Effect} {byReader : Bool}
    (h : ∀ effect ∈ effects, effect.isDisconnected = false) :
    disconnections (trace ++ effects.map (Noted.mk byReader)) = disconnections trace := by
  have hnone : (effects.map (Noted.mk byReader)).countP (fun noted => noted.effect.isDisconnected)
      = 0 := by
    rw [List.countP_map, List.countP_eq_zero]
    intro effect hmem
    simp [h effect hmem]
  rw [disconnections, List.countP_append, hnone, Nat.add_zero, disconnections]

theorem disconnections_farewell (s : Slot) (reason : DrainReason) (why : String)
    (trace : List Noted) (byReader : Bool) :
    disconnections (trace ++ (s.farewell reason why).map (Noted.mk byReader))
      = disconnections trace + 1 := by
  rw [Slot.farewell, List.map_append, ← List.append_assoc, disconnections, List.countP_append]
  congr 1
  refine disconnections_append ?_
  intro effect hmem
  obtain ⟨entry, -, rfl⟩ := List.mem_map.1 hmem
  rfl

/-- The observers were told once if the slot is closed, and never if it is not; and a slot that is
closed is shut. -/
structure ClosesOnce (x : Session) : Prop where
  log : x.slot.log = []
  disconnections : disconnections x.trace = if x.slot.isClosed then 1 else 0
  isShut : x.slot.isClosed = true → x.slot.IsShut

/-- Only the log of a slot that is shut is taken away. -/
theorem isShut_takeLog {s : Slot} (h : s.IsShut) : s.takeLog.1.IsShut :=
  h.of_same rfl rfl (List.Subset.refl _) rfl (List.Subset.refl _) (.inl rfl)

theorem ClosesOnce.step (h : x.ClosesOnce) (action : Action) : (x.step action).ClosesOnce := by
  cases hclosed : x.slot.isClosed with
  | true =>
    obtain ⟨hshut, effects, hlog, heffects⟩ := act_staysShut (h.isShut hclosed) action
    have hstill : (x.step action).slot.isClosed = true := hshut.isClosed
    refine ⟨rfl, ?_, fun _ => isShut_takeLog hshut⟩
    rw [trace_step action h.log hlog, disconnections_append, h.disconnections, hclosed, hstill]
    exact fun effect hmem => Effect.isDisconnected_of_isAfterword (heffects effect hmem)
  | false =>
    cases hcloses : x.closing? action with
    | none =>
      obtain ⟨hsame, effects, hlog, heffects⟩ := act_leavesOpen hcloses
      have hstill : (x.step action).slot.isClosed = false := hsame.trans hclosed
      refine ⟨rfl, ?_, fun h => by rw [hstill] at h; cases h⟩
      rw [trace_step action h.log hlog, disconnections_append heffects, h.disconnections, hclosed,
        hstill]
    | some closing =>
      obtain ⟨hshut, hlog⟩ := act_closes hclosed hcloses
      have hnow : (x.step action).slot.isClosed = true := hshut.isClosed
      refine ⟨rfl, ?_, fun _ => isShut_takeLog hshut⟩
      rw [trace_step action h.log hlog, disconnections_farewell, h.disconnections, hclosed, hnow]
      rfl

theorem closesOnce_run (id : SlotId) (options : SlotOptions) (actions : List Action) :
    ((start id options).run actions).ClosesOnce :=
  run_induction (fun _ action h => h.step action) ⟨rfl, rfl, fun h => by cases h⟩ actions

theorem ClosesOnce.run_of_isClosed (h : x.ClosesOnce) (hclosed : x.slot.isClosed = true)
    (actions : List Action) :
    (x.run actions).slot.isClosed = true ∧ ∃ later, (x.run actions).trace = x.trace ++ later ∧
      ∀ noted ∈ later, noted.effect.isAfterword = true := by
  induction actions generalizing x with
  | nil => exact ⟨hclosed, [], (List.append_nil _).symm, List.forall_mem_nil _⟩
  | cons action actions ih =>
    obtain ⟨hshut, effects, hlog, heffects⟩ := act_staysShut (h.isShut hclosed) action
    obtain ⟨hstill, later, htrace, hlater⟩ := ih (h.step action) hshut.isClosed
    refine ⟨hstill, _, trace_run_cons action h.log hlog htrace, ?_⟩
    refine List.forall_mem_append.2 ⟨fun noted hmem => ?_, hlater⟩
    obtain ⟨effect, heffect, rfl⟩ := List.mem_map.1 hmem
    exact heffects effect heffect

end Session

end RadioLink
