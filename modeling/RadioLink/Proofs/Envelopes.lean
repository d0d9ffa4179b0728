import Mathlib
import RadioLink.Proofs.Session

set_option autoImplicit false

/-! # Slots that differ in their callbacks

Two slots that are in the same state but for their callbacks are given the same: the same bytes
arrive, the same turns are taken, the same requests are withdrawn, and so on, only that nothing is
submitted, as whether a request can be submitted is for the callbacks to say. What is sent to the
outside is then the same in both up to what the payloads are read as. That is made precise by the
envelope of an effect: the effect without the contents that a codec determines. Failures of codecs
are among these contents, so none of them changes what is acknowledged, what is resolved, and what
is told to the observers.

The two runs go in lockstep. Each operation of a slot is shown to keep them alike, from there each
step, and by induction each run. -/

namespace RadioLink

/-- What is left of an effect without what codecs determine of it: of a response, the status and the
result are taken out, and of an indication nothing is left. -/
def Effect.envelope? : Effect → Option Effect
  | .resolved ⟨sink, response⟩ =>
    some (.resolved ⟨sink, { response with status := .success, result := .ok .void }⟩)
  | .indicated _ => none
  | effect => some effect

/-- What is left of effects without what codecs determine of them. -/
def envelopes (effects : List Effect) : List Effect :=
  effects.filterMap Effect.envelope?

theorem envelopes_append (effects more : List Effect) :
    envelopes (effects ++ more) = envelopes effects ++ envelopes more :=
  List.filterMap_append

/-- What is added to two logs counts by its envelopes. -/
theorem log_append {log other effects others : List Effect}
    (hlog : envelopes other = envelopes log) (h : envelopes others = envelopes effects) :
    envelopes (other ++ others) = envelopes (log ++ effects) := by
  rw [envelopes_append, envelopes_append, hlog, h]

namespace Slot

/-- The second slot differs from the first in its callbacks and in contents only. -/
def Alike (s t : Slot) : Prop :=
  ∃ callbacks log, t = { s with callbacks, log } ∧ envelopes log = envelopes s.log

namespace Alike

variable {s t : Slot}

/-! ## Operations -/

theorem publish (h : s.Alike t) (kind : EventKind) : (s.publish kind).Alike (t.publish kind) := by
  obtain ⟨callbacks, log, rfl, hlog⟩ := h
  exact ⟨callbacks, _, rfl, log_append hlog rfl⟩

theorem registerCallbacks (h : s.Alike t) (callbacks : Callbacks) :
    (s.registerCallbacks callbacks).Alike (t.registerCallbacks callbacks) := by
  obtain ⟨_, log, rfl, hlog⟩ := h
  exact ⟨callbacks, _, rfl, log_append hlog rfl⟩

theorem cancel (h : s.Alike t) (token : Token) :
    (s.cancel token).1.Alike (t.cancel token).1 := by
  obtain ⟨callbacks, log, rfl, hlog⟩ := h
  simp only [Slot.cancel]
  rcases s.registry.cancel token with ⟨registry, isCancelled⟩
  cases isCancelled with
  | true => exact ⟨callbacks, _, rfl, log_append hlog rfl⟩
  | false => exact ⟨callbacks, log, rfl, hlog⟩

theorem conclude (h : s.Alike t) (submission : Submission) (result : Except LinkError Unit) :
    (s.conclude submission result).1.Alike (t.conclude submission result).1 := by
  cases result with
  | ok _ => exact h.publish _
  | error e =>
    obtain ⟨callbacks, log, rfl, hlog⟩ := h
    exact ⟨callbacks, log, rfl, hlog⟩

/-- Whatever a codec says, a response is for the request that was pending. -/
theorem envelope_deliver {pending : PendingRequest} {callbacks : Callbacks} {log : List Effect}
    (decodeAs : RequestId) (status : Status) (payload : Bytes) :
    envelopes [.resolved ⟨pending.sink,
        buildResponse { s with callbacks, log } pending decodeAs status payload⟩]
      = envelopes [.resolved ⟨pending.sink, s.buildResponse pending decodeAs status payload⟩] := by
  have hresponse : ∀ t : Slot, t.id = s.id → ∃ given result,
      t.buildResponse pending decodeAs status payload = pending.respond s.id given result := by
    intro t hid
    rw [buildResponse, hid]
    split
    · exact ⟨_, _, rfl⟩
    · split
      · exact ⟨_, _, rfl⟩
      · split <;> exact ⟨_, _, rfl⟩
  obtain ⟨_, _, hsecond⟩ := hresponse { s with callbacks, log } rfl
  obtain ⟨_, _, hfirst⟩ := hresponse s rfl
  rw [hsecond, hfirst]
  rfl

theorem completeLocal (h : s.Alike t) (token : Token) (status : Status) (payload : Bytes) :
    (s.completeLocal token status payload).1.Alike (t.completeLocal token status payload).1 := by
  obtain ⟨callbacks, log, rfl, hlog⟩ := h
  simp only [Slot.completeLocal]
  rcases s.registry.complete token .vendor with ⟨registry, completion⟩
  cases completion with
  | pending pending => exact ⟨callbacks, _, rfl, log_append hlog (envelope_deliver _ _ _)⟩
  | cancelled request => exact ⟨callbacks, log, rfl, hlog⟩
  | unmatched => exact ⟨callbacks, log, rfl, hlog⟩

/-! ### Frames -/

/-- Both slots decide alike with what a frame is acknowledged. -/
theorem receive (h : s.Alike t) (frame : Frame) :
    ∃ first second ack?, s.receive frame = (first, ack?) ∧ t.receive frame = (second, ack?) ∧
      first.Alike second := by
  obtain ⟨callbacks, log, rfl, hlog⟩ := h
  have htaken : ∀ registry kinds,
      Alike { s with registry, log := s.log ++ kinds }
        { s with registry, callbacks, log := log ++ kinds } :=
    fun registry kinds => ⟨callbacks, _, rfl, log_append hlog rfl⟩
  unfold Slot.receive
  cases frame.kind with
  | solicitedAckExpected =>
    simp only [Slot.publish, emit]
    rcases s.registry.beginAck frame.token with ⟨registry, decision⟩
    cases decision with
    | send => exact ⟨_, _, _, rfl, rfl, htaken registry _⟩
    | unknown => exact ⟨_, _, _, rfl, rfl, htaken s.registry _⟩
    | duplicate =>
      simp only [List.append_assoc]
      exact ⟨_, _, _, rfl, rfl, htaken s.registry _⟩
  | solicited | unsolicited | solicitedAck | unsolicitedAckExpected =>
    exact ⟨_, _, _, rfl, rfl, htaken s.registry _⟩

/-- An acknowledgment is refused for both slots, or waits for its turn in both. -/
theorem offer (h : s.Alike t) (party : Party) (command : Command) :
    (∃ e, s.offer party command = .error e ∧ t.offer party command = .error e) ∨
    ∃ first second, s.offer party command = .ok first ∧ t.offer party command = .ok second ∧
      first.Alike second := by
  obtain ⟨callbacks, log, rfl, hlog⟩ := h
  simp only [Slot.offer]
  cases s.outlet.offer party command.encodeBody with
  | error e => exact .inl ⟨e, rfl, rfl⟩
  | ok outlet => exact .inr ⟨_, _, rfl, rfl, callbacks, log, rfl, hlog⟩

theorem acknowledged (h : s.Alike t) (ack : Command) (result : Except LinkError Unit) :
    (s.acknowledged ack result).Alike (t.acknowledged ack result) := by
  cases result with
  | ok _ => exact h.publish _
  | error e => exact h

theorem resolveResponse (h : s.Alike t) (frame : Frame) :
    (s.resolveResponse frame).Alike (t.resolveResponse frame) := by
  obtain ⟨callbacks, log, rfl, hlog⟩ := h
  simp only [Slot.resolveResponse]
  -- The request is gone from the registry of both before anything is decoded.
  rcases s.registry.complete frame.token .peer with ⟨registry, completion⟩
  cases completion with
  | pending pending => exact ⟨callbacks, _, rfl, log_append hlog (envelope_deliver _ _ _)⟩
  | cancelled request => exact ⟨callbacks, log, rfl, hlog⟩
  | unmatched => exact ⟨callbacks, _, rfl, log_append hlog rfl⟩

theorem resolveReceipt (h : s.Alike t) (frame : Frame) :
    (s.resolveReceipt frame).Alike (t.resolveReceipt frame) := by
  obtain ⟨callbacks, log, rfl, hlog⟩ := h
  simp only [Slot.resolveReceipt]
  rcases s.registry.markReceived frame.token with ⟨registry, isMarked⟩
  cases isMarked with
  | true => exact ⟨callbacks, _, rfl, log_append hlog rfl⟩
  | false => exact ⟨callbacks, _, rfl, log_append hlog rfl⟩

/-- An indication changes nothing but what the listener hears. -/
theorem resolveIndication_eq (s : Slot) (frame : Frame) :
    ∃ effects, s.resolveIndication frame = { s with log := s.log ++ effects } ∧
      envelopes effects = [] := by
  rw [Slot.resolveIndication]
  split
  · exact ⟨[], by rw [List.append_nil], rfl⟩
  · split
    · exact ⟨_, rfl, rfl⟩
    · exact ⟨[], by rw [List.append_nil], rfl⟩

theorem resolveIndication (h : s.Alike t) (frame : Frame) :
    (s.resolveIndication frame).Alike (t.resolveIndication frame) := by
  obtain ⟨effects, hfirst, heffects⟩ := resolveIndication_eq s frame
  obtain ⟨others, hsecond, hothers⟩ := resolveIndication_eq t frame
  obtain ⟨callbacks, log, rfl, hlog⟩ := h
  rw [hfirst, hsecond]
  exact ⟨callbacks, _, rfl, log_append hlog (hothers.trans heffects.symm)⟩

theorem resolve (h : s.Alike t) (frame : Frame) : (s.resolve frame).Alike (t.resolve frame) := by
  unfold Slot.resolve
  cases frame.kind with
  | solicited | solicitedAckExpected => exact h.resolveResponse frame
  | solicitedAck => exact h.resolveReceipt frame
  | unsolicited | unsolicitedAckExpected => exact h.resolveIndication frame

theorem beginRoute (h : s.Alike t) (party : Party) (frame : Frame) :
    ∃ first second ack?, s.beginRoute party frame = (first, ack?) ∧
      t.beginRoute party frame = (second, ack?) ∧ first.Alike second := by
  obtain ⟨first, second, ack?, hs, ht, hreceived⟩ := h.receive frame
  rw [Slot.beginRoute, Slot.beginRoute, hs, ht]
  cases ack? with
  | none => exact ⟨_, _, none, rfl, rfl, hreceived.resolve frame⟩
  | some ack =>
    rcases Alike.offer hreceived party ack with
      ⟨e, hfirst, hsecond⟩ | ⟨_, _, hfirst, hsecond, hoffered⟩
    · simp only [hfirst, hsecond]
      exact ⟨_, _, none, rfl, rfl, (hreceived.acknowledged ack (.error e)).resolve frame⟩
    · simp only [hfirst, hsecond]
      exact ⟨_, _, some ack, rfl, rfl, hoffered⟩

/-! ### Closing -/

theorem closeNow (h : s.Alike t) (reason : DrainReason) (why : String) :
    ∃ first second isClosing, s.closeNow reason why = (first, isClosing) ∧
      t.closeNow reason why = (second, isClosing) ∧ first.Alike second := by
  obtain ⟨callbacks, log, rfl, hlog⟩ := h
  simp only [Slot.closeNow]
  split
  · exact ⟨_, _, _, rfl, rfl, callbacks, log, rfl, hlog⟩
  · exact ⟨_, _, _, rfl, rfl, callbacks, _, rfl, log_append (log_append hlog rfl) rfl⟩

theorem closeAndShutNow (h : s.Alike t) (party : Party) (reason : DrainReason) (why : String) :
    ∃ first second isClosing, s.closeAndShutNow party reason why = (first, isClosing) ∧
      t.closeAndShutNow party reason why = (second, isClosing) ∧ first.Alike second := by
  obtain ⟨first, second, isClosing, hs, ht, hclosed⟩ := h.closeNow reason why
  rw [Slot.closeAndShutNow, Slot.closeAndShutNow, hs, ht]
  cases isClosing with
  | false => exact ⟨_, _, _, rfl, rfl, hclosed⟩
  | true =>
    obtain ⟨callbacks, log, rfl, hlog⟩ := hclosed
    exact ⟨_, _, _, rfl, rfl, callbacks, log, rfl, hlog⟩

theorem stopReader (h : s.Alike t) : s.stopReader.Alike t.stopReader := by
  obtain ⟨callbacks, log, rfl, hlog⟩ := h
  exact ⟨callbacks, log, rfl, hlog⟩

theorem shutDownNow (h : s.Alike t) (party : Party) :
    (s.shutDownNow party).1.Alike (t.shutDownNow party).1 := by
  obtain ⟨first, second, isClosing, hs, ht, hclosed⟩ :=
    h.stopReader.closeAndShutNow party .shutDown "shut down locally"
  rw [Slot.shutDownNow, Slot.shutDownNow, hs, ht]
  exact hclosed

theorem abandonNow (h : s.Alike t) : s.abandonNow.Alike t.abandonNow := by
  obtain ⟨first, second, isClosing, hs, ht, hclosed⟩ :=
    h.stopReader.closeNow .shutDown "manager dropped"
  rw [Slot.abandonNow, Slot.abandonNow, hs, ht]
  exact hclosed

theorem closeFromReaderNow (h : s.Alike t) (why : String) :
    (s.closeFromReaderNow why).Alike (t.closeFromReaderNow why) := by
  obtain ⟨first, second, isClosing, hs, ht, callbacks, log, rfl, hlog⟩ :=
    h.closeAndShutNow .reader .transportClosed why
  rw [Slot.closeFromReaderNow, Slot.closeFromReaderNow, hs, ht]
  cases isClosing <;> exact ⟨callbacks, log, rfl, hlog⟩

/-! ### The reader and the stream -/

theorem readNext? (h : s.Alike t) :
    (s.readNext? = none ∧ t.readNext? = none) ∨
    ∃ first second, s.readNext? = some first ∧ t.readNext? = some second ∧
      first.Alike second := by
  obtain ⟨callbacks, log, rfl, hlog⟩ := h
  simp only [Slot.readNext?]
  cases s.reading with
  | acknowledging frame ack => exact .inl ⟨rfl, rfl⟩
  | closing => exact .inl ⟨rfl, rfl⟩
  | stopped => exact .inl ⟨rfl, rfl⟩
  | waiting =>
    rcases s.framer.nextFrame with ⟨framer, result⟩
    have hcut : Alike { s with framer, reading := .waiting }
        { s with framer, reading := .waiting, callbacks, log } := ⟨callbacks, log, rfl, hlog⟩
    rcases result with _ | e | frame
    · exact .inl ⟨rfl, rfl⟩
    · exact .inr ⟨_, _, rfl, rfl, hcut.closeFromReaderNow _⟩
    · obtain ⟨first, second, ack?, hs, ht, hbegun⟩ := hcut.beginRoute .reader frame
      dsimp only
      rw [hs, ht]
      cases ack? with
      | none => exact .inr ⟨_, _, rfl, rfl, hbegun⟩
      | some ack =>
        obtain ⟨callbacks, log, rfl, hlog⟩ := hbegun
        exact .inr ⟨_, _, rfl, rfl, callbacks, log, rfl, hlog⟩

theorem resumeReader (h : s.Alike t) (outcome : Outcome) :
    (s.resumeReader outcome).Alike (t.resumeReader outcome) := by
  obtain ⟨callbacks, log, rfl, hlog⟩ := h
  simp only [Slot.resumeReader]
  split
  · next frame ack result _ =>
    have hwaiting : Alike { s with reading := .waiting }
        { s with reading := .waiting, callbacks, log } := ⟨callbacks, log, rfl, hlog⟩
    exact (hwaiting.acknowledged ack result).resolve frame
  · exact ⟨callbacks, log, rfl, hlog⟩
  · exact ⟨callbacks, log, rfl, hlog⟩

theorem accept (h : s.Alike t) (count : Nat) : (s.accept count).Alike (t.accept count) := by
  obtain ⟨callbacks, log, rfl, hlog⟩ := h
  simp only [Slot.accept]
  split
  · exact ⟨callbacks, log, rfl, hlog⟩
  · exact ⟨callbacks, _, rfl, log_append hlog rfl⟩

end Alike

end Slot

/-- Whether a step submits something, which the callbacks in force may refuse. -/
def Action.submits : Action → Bool
  | .submit .. | .submitLocal .. => true
  | _ => false

/-- What is left of what a slot did without what codecs determine of it. -/
def Noted.envelope? (noted : Noted) : Option Noted :=
  noted.effect.envelope?.map (Noted.mk noted.byReader)

theorem filterMap_envelope?_noted (effects : List Effect) (byReader : Bool) :
    (effects.map (Noted.mk byReader)).filterMap Noted.envelope?
      = (envelopes effects).map (Noted.mk byReader) := by
  rw [List.filterMap_map, envelopes, List.map_filterMap]
  rfl

namespace Session

variable {x y : Session}

/-- A session under other callbacks. -/
def under (x : Session) (callbacks : Callbacks) : Session :=
  { x with slot := { x.slot with callbacks } }

/-! ## Steps -/

/-- The second session differs from the first in the callbacks of its slot, and in the contents of
what the slot did so far. -/
def Alike (x y : Session) : Prop :=
  ∃ callbacks trace, y = { x.under callbacks with trace } ∧
    trace.filterMap Noted.envelope? = x.trace.filterMap Noted.envelope?

/-- The second session differs from the first in the slot, where that is alike, and in the trace:
so it is in the middle of a step. -/
def ActsAlike (x y : Session) : Prop :=
  ∃ slot trace, y = { x with slot, trace } ∧ x.slot.Alike slot

theorem Alike.goOn {slot : Slot} (trace : List Noted) (h : x.slot.Alike slot) (outcome : Outcome)
    (party : Party) :
    (x.goOn outcome party).ActsAlike (Session.goOn { x with slot, trace } outcome party) := by
  unfold Session.goOn
  cases party with
  | reader => exact ⟨_, trace, rfl, h.resumeReader outcome⟩
  | caller ticket =>
    dsimp only
    split
    · next result submission _ => exact ⟨_, trace, rfl, h.conclude submission result⟩
    · exact ⟨slot, trace, rfl, h⟩

theorem Alike.act (h : x.Alike y) {action : Action} (haction : action.submits = false) :
    (x.act action).ActsAlike (y.act action) := by
  obtain ⟨callbacks, trace, rfl, -⟩ := h
  have hslot : x.slot.Alike { x.slot with callbacks } := ⟨callbacks, _, rfl, rfl⟩
  cases action with
  | submit chosen request payload => cases haction
  | submitLocal request data => cases haction
  | completeLocal token status payload =>
    exact ⟨_, trace, rfl, hslot.completeLocal token status payload⟩
  | cancel token => exact ⟨_, trace, rfl, hslot.cancel token⟩
  | registerCallbacks given => exact ⟨_, trace, rfl, hslot.registerCallbacks given⟩
  | listen isListening => exact ⟨_, trace, rfl, callbacks, _, rfl, rfl⟩
  | shutDown => exact ⟨_, trace, rfl, hslot.shutDownNow _⟩
  | abandon => exact ⟨_, trace, rfl, hslot.abandonNow⟩
  | vanish ticket => exact ⟨_, trace, rfl, callbacks, _, rfl, rfl⟩
  | resume party =>
    simp only [Session.act, under]
    cases x.slot.outlet.tell? party with
    | none => exact ⟨_, trace, rfl, hslot⟩
    | some told =>
      have htold : Slot.Alike { x.slot with outlet := told.1 }
          { x.slot with outlet := told.1, callbacks } := ⟨callbacks, _, rfl, rfl⟩
      exact Alike.goOn (x := { x with slot := _ }) trace htold told.2 party
  | accept count => exact ⟨_, trace, rfl, hslot.accept count⟩
  | failWrite reason => exact ⟨_, trace, rfl, callbacks, _, rfl, rfl⟩
  | attend => exact ⟨_, trace, rfl, callbacks, _, rfl, rfl⟩
  | arrive bytes => exact ⟨_, trace, rfl, callbacks, _, rfl, rfl⟩
  | read =>
    simp only [Session.act, under]
    rcases hslot.readNext? with ⟨hfirst, hsecond⟩ | ⟨_, _, hfirst, hsecond, hread⟩
    · rw [hfirst, hsecond]
      exact ⟨_, trace, rfl, hslot⟩
    · rw [hfirst, hsecond]
      exact ⟨_, trace, rfl, hread⟩
  | endOfStream =>
    simp only [Session.act, under]
    split
    · exact ⟨_, trace, rfl, hslot.closeFromReaderNow _⟩
    · exact ⟨_, trace, rfl, hslot⟩
  | failRead reason =>
    simp only [Session.act, under]
    split
    · exact ⟨_, trace, rfl, hslot.closeFromReaderNow _⟩
    · exact ⟨_, trace, rfl, hslot⟩

theorem Alike.step (h : x.Alike y) {action : Action} (haction : action.submits = false) :
    (x.step action).Alike (y.step action) := by
  obtain ⟨_, _, hact, callbacks, log, rfl, hlog⟩ := h.act haction
  obtain ⟨_, trace, rfl, htrace⟩ := h
  rw [Session.step, Session.step, hact]
  refine ⟨callbacks, _, rfl, ?_⟩
  -- Who acts does not depend on callbacks, so the new notes have the same envelopes.
  have hreaders : ∀ given, isReaders { x.under given with trace } action = x.isReaders action :=
    fun _ => by cases action <;> rfl
  simp only [List.filterMap_append, filterMap_envelope?_noted, htrace, hreaders, hlog]

/-! ## Runs -/

theorem Alike.run (h : x.Alike y) {actions : List Action}
    (hactions : ∀ action ∈ actions, action.submits = false) :
    (x.run actions).Alike (y.run actions) := by
  induction actions generalizing x y with
  | nil => exact h
  | cons action actions ih =>
    obtain ⟨haction, hothers⟩ := List.forall_mem_cons.1 hactions
    exact ih (h.step haction) hothers

/-- **Failures of codecs are contained.** A session in any state is continued under either of two
sets of callbacks, whatever happens as long as nothing is submitted: whatever arrives, however it is
cut, however much of it is read, accepted or refused, and whatever is withdrawn or completed in
process. Then the sessions end in the same state but for the callbacks: the same requests are
pending, the same acknowledgments are remembered, the same turns are waited for. And what they did
has the same envelopes in the same order: the same bytes were written, the same events were
published, and responses went to the same sinks for the same tokens and requests. -/
theorem codecs_change_contents_only (x : Session) (first second : Callbacks)
    {actions : List Action} (hactions : ∀ action ∈ actions, action.submits = false) :
    ∃ callbacks trace,
      (x.under second).run actions = { ((x.under first).run actions).under callbacks with trace } ∧
      trace.filterMap Noted.envelope?
        = ((x.under first).run actions).trace.filterMap Noted.envelope? :=
  Alike.run (x := x.under first) ⟨second, x.trace, rfl, rfl⟩ hactions

/-- A response that has to be acknowledged, an indication and a late response arrive. One table reads
all of them; the other has no entry for the first request and refuses the payload of the second, so
that the sinks get other statuses and results, and the listener gets nothing. -/
theorem codecs_change_contents_of_two_responses :
    let reading : Callbacks := { table :=
      { requests := [(⟨20⟩, .ofShapes .raw .raw), (⟨21⟩, .ofShapes .raw .raw)]
        indications := [(⟨1000⟩, decodeShape .raw)] } }
    let failing : Callbacks := { table := { requests := [(⟨21⟩, .refusing "no")] } }
    let x := (start ⟨0⟩ {}).run [.registerCallbacks reading, .listen true,
      .submit (some ⟨5⟩) ⟨20⟩ (.raw []), .submit (some ⟨6⟩) ⟨21⟩ (.raw []), .accept 12, .accept 12]
    let indication : Frame := ⟨.unsolicited, ⟨0⟩, 1000, .success, [2]⟩
    let late : Frame := ⟨.solicited, ⟨6⟩, 21, .success, [3]⟩
    let actions : List Action := [
      .arrive (Frame.encode ⟨.solicitedAckExpected, ⟨5⟩, 20, .success, [1]⟩),
      .arrive indication.encode, .arrive late.encode,
      .read, .accept 12, .resume .reader, .read, .read]
    (∀ action ∈ actions, action.submits = false) ∧
    (∃ callbacks trace,
      (x.under failing).run actions
        = { ((x.under reading).run actions).under callbacks with trace } ∧
      trace.filterMap Noted.envelope?
        = ((x.under reading).run actions).trace.filterMap Noted.envelope?) ∧
    ((x.under reading).run actions).trace.drop 7 = [
      ⟨true, .resolved ⟨0, ⟨⟨0⟩, ⟨5⟩, ⟨20⟩, .success, .ok (.raw [1])⟩⟩⟩,
      ⟨true, indication.received⟩, ⟨true, .indicated ⟨⟨0⟩, ⟨1000⟩, .ok (.raw [2])⟩⟩,
      ⟨true, late.received⟩,
      ⟨true, .resolved ⟨1, ⟨⟨0⟩, ⟨6⟩, ⟨21⟩, .success, .ok (.raw [3])⟩⟩⟩] ∧
    ((x.under failing).run actions).trace.drop 7 = [
      ⟨true, .resolved ⟨0, ⟨⟨0⟩, ⟨5⟩, ⟨20⟩, .requestNotSupported, .error (.unknownRequest ⟨20⟩)⟩⟩⟩,
      ⟨true, indication.received⟩, ⟨true, late.received⟩,
      ⟨true, .resolved ⟨1, ⟨⟨0⟩, ⟨6⟩, ⟨21⟩, .success, .error (.decode (.other "no"))⟩⟩⟩] := by
  intro reading failing x indication late actions
  have hactions : ∀ action ∈ actions, action.submits = false := by decide
  exact ⟨hactions, codecs_change_contents_only x reading failing hactions, by cbv, by cbv⟩

end Session

end RadioLink
