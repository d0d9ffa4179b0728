import RadioLink.Proofs.Acknowledging

set_option autoImplicit false

/-! # What the listener hears

An indication goes to the listener when its frame is resolved: at once, or after its acknowledgment,
however that ends. `Session.routing?` says which frame a step resolves, and `Routing.heard?` what
the listener is to hear of it under the callbacks that are in force then.

That nothing is added, left out or put in another place follows from what a single step does
(`Session.Passes`). The listener hears of the frame that the step resolves, and of nothing else; a
frame leaves the bytes that have arrived in the order in which it stands there, and is in the hand
of the reader until it is resolved; and as long as it is, the reader has a turn at the outlet or is
to be told what came of it. -/

namespace RadioLink

/-! ## What there is to hear -/

/-- An indication that goes to the listener. -/
def Effect.indication? : Effect → Option Indication
  | .indicated indication => some indication
  | _ => none

/-- What the listener has heard, oldest first. -/
def indications (trace : List Noted) : List Indication :=
  trace.filterMap fun noted => noted.effect.indication?

/-- A frame that is resolved, and the callbacks that are in force then. -/
structure Routing where
  frame : Frame
  callbacks : Callbacks

/-- What the listener is to hear of a frame. Of what answers a command it hears nothing, nor of an
indication without a decoder; of any other it hears what the decoder makes of it, be it an error. -/
def Routing.heard? (id : SlotId) (r : Routing) : Option Indication :=
  if r.frame.kind.isSolicited then none
  else (r.callbacks.table.indication? r.frame.indicationId).map fun decoder =>
    ⟨id, r.frame.indicationId, decoder r.frame.id r.frame.payload⟩

/-- What the listener is to hear of some frames. -/
def heard (id : SlotId) (routed : List Routing) : List Indication :=
  routed.filterMap (Routing.heard? id)

theorem heard_append (id : SlotId) (routed more : List Routing) :
    heard id (routed ++ more) = heard id routed ++ heard id more :=
  List.filterMap_append

theorem heard_of_isSolicited {id : SlotId} {r : Routing} (h : r.frame.kind.isSolicited = true) :
    heard id [r] = [] := by
  rw [heard, List.filterMap_cons, Routing.heard?, if_pos h, List.filterMap_nil]

theorem Effect.indication?_of_isForCallers {effect : Effect} (h : effect.isForCallers = true) :
    effect.indication? = none := by
  cases effect with
  | indicated => cases h
  | published | resolved | served | withdrawn | wrote => rfl

theorem filterMap_indication?_farewell (s : Slot) (reason : DrainReason) (why : String) :
    (s.farewell reason why).filterMap Effect.indication? = [] := by
  rw [Slot.farewell, Slot.lastWords, List.filterMap_append, List.filterMap_map]
  exact List.append_eq_nil_iff.2 ⟨List.filterMap_eq_nil_iff.2 fun _ _ => rfl, rfl⟩

namespace Slot

/-! ## The steps of a slot -/

/-- A step changes the registry and the outlet only, is the same slot's, and tells the listener
this. -/
structure Tells (before after : Slot) (told : List Indication) : Prop where
  does : ∃ effects, before.Does after effects ∧ effects.filterMap Effect.indication? = told
  id : after.id = before.id

variable {s before between after : Slot} {told more : List Indication} {effects : List Effect}

theorem Does.isListening (h : before.Does after effects) :
    after.isListening = before.isListening := by
  rw [h]

theorem Does.callbacks (h : before.Does after effects) : after.callbacks = before.callbacks := by
  rw [h]

theorem Tells.trans (hfirst : before.Tells between told) (hsecond : between.Tells after more) :
    before.Tells after (told ++ more) where
  does := by
    obtain ⟨effects, hdoes, rfl⟩ := hfirst.does
    obtain ⟨others, hothers, rfl⟩ := hsecond.does
    exact ⟨effects ++ others, hdoes.trans hothers, List.filterMap_append⟩
  id := hsecond.id.trans hfirst.id

/-- A step whose effects are for others. -/
theorem Tells.silent (hdoes : before.Does after effects)
    (heffects : ∀ effect ∈ effects, effect.indication? = none)
    (hid : after.registry.slot = before.registry.slot) : before.Tells after [] :=
  ⟨⟨effects, hdoes, List.filterMap_eq_nil_iff.2 heffects⟩, hid⟩

theorem tells_outlet (s : Slot) (outlet : Outlet) : s.Tells { s with outlet } [] := by
  have hdoes : s.Does { s with outlet } [] := by rw [Does, List.append_nil]
  exact .silent hdoes (List.forall_mem_nil _) rfl

theorem tells_cancel (s : Slot) (token : Token) : s.Tells (s.cancel token).1 [] := by
  obtain ⟨effects, hdoes, heffects⟩ := s.does_cancel token
  refine .silent hdoes (fun effect hmem => ?_) ?_
  · exact Effect.indication?_of_isForCallers (heffects effect hmem)
  · rw [registry_cancel, Registry.slot_cancel]

theorem tells_completeLocal (s : Slot) (token : Token) (status : Status) (payload : Bytes) :
    s.Tells (s.completeLocal token status payload).1 [] := by
  obtain ⟨effects, hdoes, heffects⟩ := s.does_completeLocal token status payload
  refine .silent hdoes (fun effect hmem => ?_) ?_
  · exact Effect.indication?_of_isForCallers (heffects effect hmem)
  · rw [registry_completeLocal, Registry.slot_complete]

theorem slot_completions (r : Registry) (token : Token) (completions : List (Status × Bytes)) :
    (completions.foldl (fun registry _ => (registry.complete token .vendor).1) r).slot
      = r.slot := by
  induction completions generalizing r with
  | nil => rfl
  | cons completion completions ih => exact (ih _).trans (r.slot_complete token .vendor)

theorem tells_submitLocal (s : Slot) (request : RequestId) (data : Bytes) (sink : Sink) :
    s.Tells (s.submitLocal request data sink).1 [] := by
  obtain ⟨effects, hdoes, heffects⟩ := s.does_submitLocal request data sink
  refine .silent hdoes (fun effect hmem => ?_) ?_
  · exact Effect.indication?_of_isForCallers (heffects effect hmem)
  · rcases s.submitLocal_registry request data sink with
      hsame | ⟨token, nextToken, -, completions, _, rfl, hcompleted | htakenBack⟩
    · rw [hsame]
    · rw [hcompleted, slot_completions]
      rfl
    · rw [htakenBack]
      exact slot_completions _ token completions

theorem tells_beginSubmission (s : Slot) (party : Party) (chosen : Option Token)
    (request : RequestId) (payload : Payload) (sink : Sink) :
    s.Tells (s.beginSubmission party chosen request payload sink).1 [] := by
  refine .silent (s.does_beginSubmission ..) (List.forall_mem_nil _) ?_
  rcases s.beginSubmission_cases party chosen request payload sink with
    ⟨e, nextToken, hbegin⟩ | ⟨submission, nextToken, outlet, -, -, -, -, hbegin⟩ <;> rw [hbegin]
  rfl

theorem tells_conclude (s : Slot) (submission : Submission) (result : Except LinkError Unit) :
    s.Tells (s.conclude submission result).1 [] := by
  obtain ⟨effects, hdoes, heffects⟩ := s.does_conclude submission result
  refine .silent hdoes (fun effect hmem => ?_) ?_
  · obtain ⟨_, _, _, rfl⟩ := heffects effect hmem
    rfl
  · cases result <;> rfl

theorem tells_accept (s : Slot) (count : Nat) : s.Tells (s.accept count) [] := by
  refine .silent (s.does_accept count) (fun effect hmem => ?_) ?_
  · split at hmem
    · cases hmem
    · rw [List.mem_singleton.1 hmem]
      rfl
  · rw [registry_accept]

/-! ### Frames -/

theorem tells_receive (s : Slot) (frame : Frame) : s.Tells (s.receive frame).1 [] := by
  refine .silent (s.does_receive frame) (List.forall_mem_cons.2 ⟨rfl, fun effect hmem => ?_⟩) ?_
  · split at hmem
    · rw [List.mem_singleton.1 hmem]
      rfl
    · cases hmem
  · rcases s.registry_receive frame with hsame | hmarked
    · rw [hsame]
    · rw [hmarked, Registry.slot_beginAck]

theorem tells_offer {offered : Slot} {party : Party} {command : Command}
    (h : s.offer party command = .ok offered) : s.Tells offered [] :=
  .silent (does_offer h) (List.forall_mem_nil _) (by rw [registry_of_offer h])

theorem tells_acknowledged (s : Slot) (ack : Command) (result : Except LinkError Unit) :
    s.Tells (s.acknowledged ack result) [] := by
  cases result with
  | ok _ => exact .silent (does_emit s s.registry _) (List.forall_mem_singleton.2 rfl) rfl
  | error e => exact .silent (does_refl s) (List.forall_mem_nil _) rfl

/-- What answers a command is not for the listener. -/
theorem tells_resolveResponse (s : Slot) (frame : Frame) :
    s.Tells (s.resolveResponse frame) [] := by
  have hid : (s.resolveResponse frame).registry.slot = s.registry.slot := by
    rw [registry_resolveResponse, Registry.slot_complete]
  revert hid
  unfold resolveResponse
  split
  · exact .silent (does_emit s _ _) (List.forall_mem_singleton.2 rfl)
  · exact .silent (does_registry s _) (List.forall_mem_nil _)
  · exact .silent (does_emit s s.registry _) (List.forall_mem_singleton.2 rfl)

theorem tells_resolveReceipt (s : Slot) (frame : Frame) : s.Tells (s.resolveReceipt frame) [] := by
  have hid : (s.resolveReceipt frame).registry.slot = s.registry.slot := by
    rw [registry_resolveReceipt, Registry.slot_markReceived]
  revert hid
  unfold resolveReceipt
  split
  · exact .silent (does_emit s _ _) (List.forall_mem_singleton.2 rfl)
  · exact .silent (does_emit s s.registry _) (List.forall_mem_singleton.2 rfl)

theorem tells_resolveIndication (hlistening : s.isListening = true) {frame : Frame}
    (hkind : ¬frame.kind.isSolicited = true) :
    s.Tells (s.resolveIndication frame) (heard s.id [⟨frame, s.callbacks⟩]) := by
  rw [heard, List.filterMap_cons, Routing.heard?, if_neg hkind, resolveIndication]
  cases s.callbacks.table.indication? frame.indicationId with
  | none => exact .silent (does_refl s) (List.forall_mem_nil _) rfl
  | some decoder =>
    dsimp only
    rw [if_pos hlistening]
    exact ⟨⟨_, does_emit s s.registry _, rfl⟩, rfl⟩

/-- The listener hears of the frame that is resolved, if it is for the listener. -/
theorem tells_resolve (hlistening : s.isListening = true) (frame : Frame) :
    s.Tells (s.resolve frame) (heard s.id [⟨frame, s.callbacks⟩]) := by
  rw [resolve]
  cases hkind : frame.kind with
  | solicited | solicitedAckExpected =>
    rw [heard_of_isSolicited (by rw [hkind]; rfl)]
    exact s.tells_resolveResponse frame
  | solicitedAck =>
    rw [heard_of_isSolicited (by rw [hkind]; rfl)]
    exact s.tells_resolveReceipt frame
  | unsolicited | unsolicitedAckExpected =>
    exact tells_resolveIndication hlistening (by rw [hkind]; exact Bool.false_ne_true)

/-- When the acknowledgment of a frame is over, the listener hears of the frame, however it
ended. -/
theorem tells_endRoute (hlistening : s.isListening = true) (frame : Frame) (ack : Command)
    (result : Except LinkError Unit) :
    s.Tells (s.endRoute frame ack result) (heard s.id [⟨frame, s.callbacks⟩]) := by
  have hacked := s.tells_acknowledged ack result
  obtain ⟨effects, hdoes, -⟩ := hacked.does
  have hresolved := tells_resolve (s := s.acknowledged ack result)
    (hdoes.isListening.trans hlistening) frame
  rw [hacked.id, hdoes.callbacks] at hresolved
  exact hacked.trans hresolved

/-- When a frame is taken, the listener hears of it, unless it is to be acknowledged first. -/
theorem tells_beginRoute (hlistening : s.isListening = true) (party : Party) (frame : Frame) :
    s.Tells (s.beginRoute party frame).1
      (if (s.beginRoute party frame).2 = none then heard s.id [⟨frame, s.callbacks⟩] else []) := by
  have hreceived := s.tells_receive frame
  obtain ⟨effects, hdoes, -⟩ := hreceived.does
  have hresolved := tells_resolve (s := (s.receive frame).1)
    (hdoes.isListening.trans hlistening) frame
  rw [hreceived.id, hdoes.callbacks] at hresolved
  rcases s.beginRoute_cases party frame with
    ⟨-, hroute⟩ | ⟨_, _, -, -, hroute⟩ | ⟨_, offered, -, hoffer, hroute⟩ <;> rw [hroute]
  · rw [if_pos rfl]
    exact hreceived.trans hresolved
  · rw [if_pos rfl]
    exact hreceived.trans hresolved
  · rw [if_neg (Option.some_ne_none _)]
    exact hreceived.trans (tells_offer hoffer)

theorem resumeReader_cases (s : Slot) (outcome : Outcome) :
    (∃ frame ack result, s.reading = .acknowledging frame ack ∧ outcome = .sent result ∧
      s.resumeReader outcome = { s with reading := .waiting }.endRoute frame ack result) ∨
    (s.reading = .closing ∧ outcome = .shut ∧
      s.resumeReader outcome = { s with reading := .stopped }) ∨
    ((∀ frame ack result, s.reading = .acknowledging frame ack → outcome ≠ .sent result) ∧
      s.resumeReader outcome = s) := by
  unfold resumeReader
  split
  · next frame ack result hreading => exact .inl ⟨frame, ack, result, hreading, rfl, rfl⟩
  · next hreading => exact .inr (.inl ⟨hreading, rfl, rfl⟩)
  · next hother _ =>
    exact .inr (.inr ⟨fun frame ack result hreading => hother frame ack result hreading, rfl⟩)

/-! ### Closing -/

/-- The reader is gone, and the listener is told nothing. If the slot is still open, the reader was
gone before. -/
structure Quits (before after : Slot) : Prop where
  log : ∃ effects, after.log = before.log ++ effects ∧
    effects.filterMap Effect.indication? = []
  id : after.id = before.id
  isListening : after.isListening = before.isListening
  isLive : after.reading.isLive = false
  isOpen : after.isClosed = false → before.isClosed = false ∧ before.reading.isLive = false

/-- Closing leaves the reader and the listener alone. -/
theorem closeNow_spec (s : Slot) (reason : DrainReason) (why : String) :
    ∃ registry outlet effects, (s.closeNow reason why).1
        = { s with registry, outlet, isClosed := true, log := s.log ++ effects } ∧
      registry.slot = s.registry.slot ∧ effects.filterMap Effect.indication? = [] := by
  cases hclosed : s.isClosed with
  | true =>
    rw [closeNow_of_closed hclosed]
    exact ⟨s.registry, s.outlet, [], by rw [List.append_nil, ← hclosed], rfl, rfl⟩
  | false =>
    rw [closeNow_of_open hclosed]
    exact ⟨_, _, _, rfl, rfl, filterMap_indication?_farewell s reason why⟩

theorem closeAndShutNow_spec (s : Slot) (party : Party) (reason : DrainReason) (why : String) :
    ∃ registry outlet effects, (s.closeAndShutNow party reason why).1
        = { s with registry, outlet, isClosed := true, log := s.log ++ effects } ∧
      registry.slot = s.registry.slot ∧ effects.filterMap Effect.indication? = [] := by
  obtain ⟨registry, outlet, effects, hclose, hrest⟩ := s.closeNow_spec reason why
  rw [closeAndShutNow]
  split <;> next heq =>
    rw [heq] at hclose
    obtain rfl := hclose
    exact ⟨_, _, effects, rfl, hrest⟩

theorem quits_shutDownNow (s : Slot) (party : Party) : s.Quits (s.shutDownNow party).1 := by
  obtain ⟨registry, outlet, effects, hclose, hid, heffects⟩ :=
    s.stopReader.closeAndShutNow_spec party .shutDown "shut down locally"
  rw [shutDownNow, hclose]
  exact ⟨⟨effects, rfl, heffects⟩, hid, rfl, rfl, fun hopen => by cases hopen⟩

theorem quits_abandonNow (s : Slot) : s.Quits s.abandonNow := by
  obtain ⟨registry, outlet, effects, hclose, hid, heffects⟩ :=
    s.stopReader.closeNow_spec .shutDown "manager dropped"
  rw [abandonNow, hclose]
  exact ⟨⟨effects, rfl, heffects⟩, hid, rfl, rfl, fun hopen => by cases hopen⟩

theorem quits_closeFromReaderNow (s : Slot) (why : String) : s.Quits (s.closeFromReaderNow why) := by
  obtain ⟨registry, outlet, effects, hclose, hid, heffects⟩ :=
    s.closeAndShutNow_spec .reader .transportClosed why
  rw [closeFromReaderNow]
  split <;> next heq =>
    rw [heq] at hclose
    obtain rfl := hclose
    exact ⟨⟨effects, rfl, heffects⟩, hid, rfl, rfl, fun hopen => by cases hopen⟩

end Slot

/-! ## The reader's turn -/

namespace Outlet

variable {o next : Outlet}

/-- The reader has a turn to write, or is to be told what came of one. -/
def ServesReader (o : Outlet) : Prop :=
  (∃ rest, ⟨.reader, .send rest⟩ ∈ o.turns) ∨ ∃ result, (.reader, .sent result) ∈ o.outcomes

theorem servesReader_offer {body : Bytes} (h : o.offer .reader body = .ok next) :
    next.ServesReader := by
  rw [offer_ok h]
  exact .inl ⟨_, List.mem_append_right _ List.mem_cons_self⟩

theorem ServesReader.offer (h : o.ServesReader) {party : Party} {body : Bytes}
    (hoffer : o.offer party body = .ok next) : next.ServesReader := by
  rw [offer_ok hoffer]
  exact h.imp_left fun ⟨rest, hmem⟩ => ⟨rest, List.mem_append_left _ hmem⟩

/-- When the first turn ends, whoever wrote in it is told what came of that. -/
theorem ServesReader.finish (h : o.ServesReader) {first : Turn} {turns : List Turn}
    (hturns : o.turns = first :: turns) {outcome : Outcome}
    (hsent : isSend first = true → ∃ result, outcome = .sent result) :
    (o.finish first.party outcome turns).ServesReader := by
  rcases h with ⟨rest, hmem⟩ | ⟨result, hmem⟩
  · rcases List.mem_cons.1 (hturns ▸ hmem) with rfl | hmem
    · obtain ⟨result, rfl⟩ := hsent rfl
      exact .inr ⟨result, List.mem_append_right _ List.mem_cons_self⟩
    · exact .inl ⟨rest, hmem⟩
  · exact .inr ⟨result, List.mem_append_left _ hmem⟩

/-- Whoever has to give up is told so. -/
theorem ServesReader.giveUpSends (h : o.ServesReader) : o.giveUpSends.ServesReader := by
  refine .inr ?_
  rcases h with ⟨rest, hmem⟩ | ⟨result, hmem⟩
  · refine ⟨.error .transportClosed, List.mem_append_right _ (List.mem_map.2 ?_)⟩
    exact ⟨⟨.reader, .send rest⟩, List.mem_filter.2 ⟨hmem, rfl⟩, rfl⟩
  · exact ⟨result, List.mem_append_left _ hmem⟩

theorem ServesReader.fail (h : o.ServesReader) (reason : String) :
    (o.fail reason).ServesReader := by
  rw [Outlet.fail]
  split
  · next party rest turns hturns =>
    have hfinish : (o.finish party (.sent (.error (.io reason))) turns).ServesReader :=
      h.finish hturns fun _ => ⟨_, rfl⟩
    exact hfinish.giveUpSends
  · exact h

theorem ServesReader.accept (h : o.ServesReader) (count : Nat) :
    (o.accept count).1.ServesReader := by
  rw [Outlet.accept]
  split
  · next party rest turns hturns =>
    have hfinish (result : Except LinkError Unit) :
        (o.finish party (.sent result) turns).ServesReader :=
      h.finish hturns fun _ => ⟨result, rfl⟩
    split
    · dsimp only
      split
      · exact hfinish _
      · rcases h with ⟨left, hmem⟩ | hover
        · rcases List.mem_cons.1 (hturns ▸ hmem) with hfirst | hmem
          · cases hfirst
            exact .inl ⟨_, List.mem_cons_self⟩
          · exact .inl ⟨left, List.mem_cons_of_mem _ hmem⟩
        · exact .inr hover
    · exact hfinish _
  · exact h

theorem ServesReader.attend (h : o.ServesReader) : o.attend.1.ServesReader := by
  fun_induction Outlet.attend o with
  | case1 o party turns hturns ih =>
    exact ih (h.finish hturns fun hsend => by cases hsend)
  | case2 o party turns hturns next _ hnext ih =>
    rw [hnext] at ih
    have hreleased : ({ o with hasStream := false } : Outlet).ServesReader := h
    exact ih (hreleased.finish hturns fun hsend => by cases hsend)
  | case3 => exact h

/-- The reader loses nothing when a caller leaves. -/
theorem ServesReader.leave (h : o.ServesReader) (ticket : Nat) :
    (o.leave (.caller ticket)).ServesReader :=
  h.imp (fun ⟨rest, hmem⟩ => ⟨rest, List.mem_filter.2 ⟨hmem, rfl⟩⟩)
    fun ⟨result, hmem⟩ => ⟨result, List.mem_filter.2 ⟨hmem, rfl⟩⟩

theorem ServesReader.tell_caller (h : o.ServesReader) {ticket : Nat} {outcome : Outcome}
    (htell : o.tell? (.caller ticket) = some (next, outcome)) : next.ServesReader := by
  rw [(of_tell? htell).2]
  exact h.imp_right fun ⟨result, hmem⟩ =>
    ⟨result, (List.mem_eraseP_of_neg Bool.false_ne_true).2 hmem⟩

/-- The reader is told what came of its turn to write, or still has that before it. -/
theorem ServesReader.tell_reader (h : o.ServesReader) {outcome : Outcome}
    (htell : o.tell? .reader = some (next, outcome)) :
    next.ServesReader ∨ ∃ result, outcome = .sent result := by
  rcases h with ⟨rest, hmem⟩ | ⟨result, hmem⟩
  · rw [(of_tell? htell).2]
    exact .inl (.inl ⟨rest, hmem⟩)
  · have hmine : (.reader, .sent result) ∈ o.readerOutcomes := List.mem_filter.2 ⟨hmem, rfl⟩
    rw [readerOutcomes_tell? htell] at hmine
    rcases List.mem_cons.1 hmine with hfirst | hlater
    · cases hfirst
      exact .inr ⟨result, rfl⟩
    · exact .inl (.inr ⟨result, (List.mem_filter.1 hlater).1⟩)

end Outlet

/-! ## Steps -/

namespace Session

variable {x y z : Session} {routed more : List Routing}

/-- The frame that a step resolves, if it resolves one: a frame that is taken and that no
acknowledgment comes before, or a frame whose acknowledgment is over. -/
def routing? (x : Session) : Action → Option Routing
  | .read =>
    match x.slot.reading, x.slot.framer.nextFrame.2 with
    | .waiting, some (.ok frame) =>
      let begun := { x.slot with framer := x.slot.framer.nextFrame.1 }.beginRoute .reader frame
      if begun.2 = none then some ⟨frame, x.slot.callbacks⟩ else none
    | _, _ => none
  | .resume .reader =>
    match x.slot.reading, x.slot.outlet.tell? .reader with
    | .acknowledging frame _, some (_, .sent _) => some ⟨frame, x.slot.callbacks⟩
    | _, _ => none
  | _ => none

/-- The frames that a run resolves, in this order. -/
def routings (x : Session) : List Action → List Routing
  | [] => []
  | action :: actions => (x.routing? action).toList ++ (x.step action).routings actions

/-- The bytes that have arrived and whose frames are not resolved. -/
def unrouted (x : Session) : Bytes :=
  x.slot.reading.bytes ++ x.slot.framer.buffer

/-- What the listener has heard, up to now. -/
def told (x : Session) : List Indication :=
  indications x.trace ++ x.slot.log.filterMap Effect.indication?

/-- The reader of an open slot goes on reading. -/
def IsRead (x : Session) : Prop :=
  x.slot.isClosed = false → x.slot.reading.isLive = true

/-- While a frame is in the hand of the reader, the reader has a turn at the outlet or is to be told
what came of it. -/
def IsServed (x : Session) : Prop :=
  ∀ frame ack, x.slot.reading = .acknowledging frame ack → x.slot.outlet.ServesReader

/-- From one moment to another these frames are resolved, the listener hears of them and of nothing
else, and they are taken from the front of what has arrived. A reader that has stopped resolves
nothing any more. -/
structure Passes (x y : Session) (routed : List Routing) : Prop where
  told : y.told = x.told ++ heard x.slot.id routed
  id : y.slot.id = x.slot.id
  isListening : y.slot.isListening = x.slot.isListening
  stream : ∃ bytes left, y.arrived = x.arrived ++ bytes ∧
    x.unrouted ++ bytes = (routed.flatMap fun r => r.frame.encode) ++ left ∧
    (y.slot.reading.isLive = true → left = y.unrouted)
  stopped : x.slot.reading.isLive = false → routed = [] ∧ y.slot.reading.isLive = false
  read : x.IsRead → y.IsRead
  served : x.IsServed → y.IsServed

theorem told_of_log {effects : List Effect} {hears : List Indication} (htrace : y.trace = x.trace)
    (hlog : y.slot.log = x.slot.log ++ effects)
    (heffects : effects.filterMap Effect.indication? = hears) : y.told = x.told ++ hears := by
  rw [told, told, htrace, hlog, List.filterMap_append, heffects, List.append_assoc]

theorem passes_refl (x : Session) : x.Passes x [] where
  told := (List.append_nil _).symm
  id := rfl
  isListening := rfl
  stream := ⟨[], x.unrouted, (List.append_nil _).symm, List.append_nil _, fun _ => rfl⟩
  stopped := fun hstopped => ⟨rfl, hstopped⟩
  read := fun hread => hread
  served := fun hserved => hserved

theorem Passes.trans (hfirst : x.Passes y routed) (hsecond : y.Passes z more) :
    x.Passes z (routed ++ more) where
  told := by
    rw [hsecond.told, hfirst.told, hfirst.id, heard_append, List.append_assoc]
  id := hsecond.id.trans hfirst.id
  isListening := hsecond.isListening.trans hfirst.isListening
  stream := by
    obtain ⟨bytes, left, harrived, hbytes, hleft⟩ := hfirst.stream
    obtain ⟨others, rest, hothers, hmore, hrest⟩ := hsecond.stream
    cases hlive : y.slot.reading.isLive with
    | true =>
      refine ⟨bytes ++ others, rest, ?_, ?_, hrest⟩
      · rw [hothers, harrived, List.append_assoc]
      · rw [← List.append_assoc, hbytes, hleft hlive, List.append_assoc, hmore,
          List.flatMap_append, List.append_assoc]
    | false =>
      -- Nothing is resolved any more, so whatever arrives from here on is left.
      obtain ⟨rfl, hstopped⟩ := hsecond.stopped hlive
      refine ⟨bytes ++ others, left ++ others, ?_, ?_, fun hgoes => ?_⟩
      · rw [hothers, harrived, List.append_assoc]
      · rw [← List.append_assoc, hbytes, List.append_nil, List.append_assoc]
      · rw [hstopped] at hgoes
        cases hgoes
  stopped := by
    intro hstopped
    obtain ⟨rfl, hthere⟩ := hfirst.stopped hstopped
    exact hsecond.stopped hthere
  read := fun hread => hsecond.read (hfirst.read hread)
  served := fun hserved => hsecond.served (hfirst.served hserved)

/-- A step in which the reader has no part. -/
theorem Passes.of_tells (htells : x.slot.Tells y.slot []) (htrace : y.trace = x.trace)
    (harrived : y.arrived = x.arrived)
    (houtlet : ∀ frame ack, x.slot.reading = .acknowledging frame ack →
      x.slot.outlet.ServesReader → y.slot.outlet.ServesReader) : x.Passes y [] := by
  obtain ⟨⟨effects, hdoes, heffects⟩, hid⟩ := htells
  refine ⟨told_of_log htrace hdoes.log heffects, hid, hdoes.isListening, ?_, ?_, ?_, ?_⟩
  · refine ⟨[], x.unrouted, ?_, List.append_nil _, fun _ => ?_⟩
    · rw [harrived, List.append_nil]
    · rw [unrouted, unrouted, hdoes.reading, hdoes.framer]
  · intro hstopped
    rw [hdoes.reading]
    exact ⟨rfl, hstopped⟩
  · intro hread hopen
    rw [hdoes.reading]
    exact hread (hdoes.isClosed.symm.trans hopen)
  · intro hserved frame ack hreading
    rw [hdoes.reading] at hreading
    exact houtlet frame ack hreading (hserved frame ack hreading)

/-- A step after which the reader is gone. -/
theorem Passes.of_quits (hquits : x.slot.Quits y.slot) (htrace : y.trace = x.trace)
    (harrived : y.arrived = x.arrived) : x.Passes y [] := by
  obtain ⟨⟨effects, hlog, heffects⟩, hid, hlistening, hstopped, hopen⟩ := hquits
  refine ⟨told_of_log htrace hlog heffects, hid, hlistening, ?_, fun _ => ⟨rfl, hstopped⟩,
    fun hread hstillOpen => ?_, fun _ frame ack hreading => ?_⟩
  · refine ⟨[], x.unrouted, ?_, List.append_nil _, fun hlive => ?_⟩
    · rw [harrived, List.append_nil]
    · rw [hstopped] at hlive
      cases hlive
  · obtain ⟨hwasOpen, hwasGone⟩ := hopen hstillOpen
    cases (hread hwasOpen).symm.trans hwasGone
  · rw [hreading] at hstopped
    cases hstopped

/-! ### The reader's steps -/

theorem passes_closeFromReaderNow (x : Session) (framer : Framer) (why : String) :
    x.Passes { x with slot := { x.slot with framer }.closeFromReaderNow why } [] := by
  obtain ⟨hlog, hid, hlistening, hstopped, hopen⟩ :=
    { x.slot with framer }.quits_closeFromReaderNow why
  exact .of_quits ⟨hlog, hid, hlistening, hstopped, hopen⟩ rfl rfl

theorem routing?_read_of_frame (hwaiting : x.slot.reading = .waiting) {frame : Frame}
    (hnext : x.slot.framer.nextFrame.2 = some (.ok frame)) :
    let begun := { x.slot with framer := x.slot.framer.nextFrame.1 }.beginRoute .reader frame
    x.routing? .read = if begun.2 = none then some ⟨frame, x.slot.callbacks⟩ else none := by
  rw [routing?, hwaiting, hnext]

theorem routing?_read_eq_none
    (h : ∀ frame, x.slot.reading = .waiting → x.slot.framer.nextFrame.2 ≠ some (.ok frame)) :
    x.routing? .read = none := by
  rw [routing?]
  split
  · next frame hwaiting hnext => exact absurd hnext (h frame hwaiting)
  · rfl

/-- A frame is resolved, and the reader waits for the next one. -/
theorem Passes.of_resolved {framer : Framer} {outlet : Outlet} {reading : Reading} {after : Slot}
    {frame : Frame} (hlive : x.slot.reading.isLive = true) (hwaiting : reading = .waiting)
    (hunrouted : x.unrouted = frame.encode ++ framer.buffer)
    (htells : { x.slot with framer, outlet, reading }.Tells after
      (heard x.slot.id [⟨frame, x.slot.callbacks⟩])) :
    x.Passes { x with slot := after } [⟨frame, x.slot.callbacks⟩] := by
  obtain ⟨⟨effects, hdoes, heffects⟩, hid⟩ := htells
  refine ⟨told_of_log rfl hdoes.log heffects, hid, hdoes.isListening, ?_, fun hstopped => ?_,
    fun _ _ => ?_, fun _ other ack hreading => ?_⟩
  · refine ⟨[], framer.buffer, (List.append_nil _).symm, ?_, fun _ => ?_⟩
    · rw [hunrouted, List.append_nil, List.flatMap_singleton]
    · rw [unrouted, hdoes.reading, hdoes.framer, hwaiting]
      rfl
  · rw [hlive] at hstopped
    cases hstopped
  · rw [hdoes.reading, hwaiting, Reading.isLive]
  · rw [hdoes.reading, hwaiting] at hreading
    cases hreading

/-- A frame comes into the hand of the reader, which waits for its turn at the outlet. -/
theorem Passes.of_taken {framer : Framer} {offered : Slot} {frame : Frame} {ack : Command}
    (hlive : x.slot.reading.isLive = true)
    (hunrouted : x.unrouted = frame.encode ++ framer.buffer)
    (htells : { x.slot with framer }.Tells offered [])
    (hserves : offered.outlet.ServesReader) :
    x.Passes { x with slot := { offered with reading := .acknowledging frame ack } } [] := by
  obtain ⟨⟨effects, hdoes, heffects⟩, hid⟩ := htells
  refine ⟨told_of_log rfl hdoes.log heffects, hid, hdoes.isListening, ?_, fun hstopped => ?_,
    fun _ _ => rfl, fun _ _ _ _ => hserves⟩
  · refine ⟨[], x.unrouted, (List.append_nil _).symm, List.append_nil _, fun _ => ?_⟩
    rw [hunrouted, unrouted, hdoes.framer]
    rfl
  · rw [hlive] at hstopped
    cases hstopped

/-- The reader takes a frame, which is resolved at once or is in the hand of the reader from then
on. -/
theorem passes_read_frame (hlistening : x.slot.isListening = true)
    (hwaiting : x.slot.reading = .waiting) {frame : Frame}
    (hnext : x.slot.framer.nextFrame.2 = some (.ok frame)) :
    x.Passes (x.act .read) (x.routing? .read).toList := by
  obtain ⟨-, hbuffer, -⟩ := Framer.of_nextFrame hnext
  have hlive : x.slot.reading.isLive = true := by rw [hwaiting, Reading.isLive]
  have hunrouted : x.unrouted = frame.encode ++ x.slot.framer.nextFrame.1.buffer := by
    rw [unrouted, hwaiting, hbuffer]
    rfl
  rw [routing?_read_of_frame hwaiting hnext, act, Slot.readNext?_of_frame hwaiting hnext]
  dsimp only
  have htells := Slot.tells_beginRoute
    (s := { x.slot with framer := x.slot.framer.nextFrame.1 }) hlistening .reader frame
  rcases Slot.beginRoute_cases { x.slot with framer := x.slot.framer.nextFrame.1 } .reader frame
    with ⟨-, hroute⟩ | ⟨_, _, -, -, hroute⟩ | ⟨ack, offered, -, hoffer, hroute⟩ <;>
    rw [hroute] at htells ⊢
  · exact .of_resolved hlive hwaiting hunrouted htells
  · exact .of_resolved hlive hwaiting hunrouted htells
  · have hserves := Outlet.servesReader_offer (Slot.outlet_of_offer hoffer)
    exact .of_taken hlive hunrouted htells hserves

theorem passes_read (hlistening : x.slot.isListening = true) :
    x.Passes (x.act .read) (x.routing? .read).toList := by
  by_cases hwaiting : x.slot.reading = .waiting
  · rcases Slot.readNext?_cases hwaiting with ⟨hnext, hread⟩ | ⟨e, hnext, hread⟩ | ⟨frame, hnext, -⟩
    · rw [routing?_read_eq_none (fun _ _ hframe => by cases hnext.symm.trans hframe), act, hread]
      exact passes_refl x
    · rw [routing?_read_eq_none (fun _ _ hframe => by cases hnext.symm.trans hframe), act, hread]
      exact passes_closeFromReaderNow x x.slot.framer.nextFrame.1 _
    · exact passes_read_frame hlistening hwaiting hnext
  · rw [routing?_read_eq_none fun frame h => absurd h hwaiting, act,
      Slot.readNext?_of_not_waiting hwaiting]
    exact passes_refl x

theorem routing?_resume_eq_none (h : ∀ frame ack outlet result,
    x.slot.reading = .acknowledging frame ack →
    x.slot.outlet.tell? .reader ≠ some (outlet, .sent result)) :
    x.routing? (.resume .reader) = none := by
  rw [routing?]
  split
  · next frame ack outlet result hreading htell => exact absurd htell (h _ _ _ _ hreading)
  · rfl

/-- The reader goes on with the frame in its hand, whatever came of the acknowledgment. -/
theorem passes_resume_frame (hlistening : x.slot.isListening = true) {frame : Frame} {ack : Command}
    (hreading : x.slot.reading = .acknowledging frame ack) {outlet : Outlet}
    {result : Except LinkError Unit}
    (htell : x.slot.outlet.tell? .reader = some (outlet, .sent result)) :
    x.Passes
      { x with slot := { x.slot with outlet, reading := .waiting }.endRoute frame ack result }
      (x.routing? (.resume .reader)).toList := by
  have hroutes : x.routing? (.resume .reader) = some ⟨frame, x.slot.callbacks⟩ := by
    rw [routing?, hreading, htell]
  have hlive : x.slot.reading.isLive = true := by rw [hreading, Reading.isLive]
  have hunrouted : x.unrouted = frame.encode ++ x.slot.framer.buffer := by
    rw [unrouted, hreading, Reading.bytes]
  have htells := Slot.tells_endRoute (s := { x.slot with outlet, reading := .waiting })
    hlistening frame ack result
  rw [hroutes]
  exact .of_resolved hlive rfl hunrouted htells

theorem passes_resume_reader (hlistening : x.slot.isListening = true) :
    x.Passes (x.act (.resume .reader)) (x.routing? (.resume .reader)).toList := by
  cases htell : x.slot.outlet.tell? .reader with
  | none =>
    have hnone : x.routing? (.resume .reader) = none :=
      routing?_resume_eq_none fun _ _ _ _ _ hsent => by cases htell.symm.trans hsent
    rw [hnone, act, htell]
    exact passes_refl x
  | some told =>
    obtain ⟨outlet, outcome⟩ := told
    have hact : x.act (.resume .reader)
        = { x with slot := { x.slot with outlet }.resumeReader outcome } := by rw [act, htell]; rfl
    rw [hact]
    rcases Slot.resumeReader_cases { x.slot with outlet } outcome with
      ⟨frame, ack, result, hreading, rfl, hresume⟩ | ⟨hreading, rfl, hresume⟩ | ⟨hother, hresume⟩
    · rw [hresume]
      exact passes_resume_frame hlistening hreading htell
    · have hnone : x.routing? (.resume .reader) = none :=
        routing?_resume_eq_none fun _ _ _ _ _ hsent => by cases htell.symm.trans hsent
      have hgone : x.slot.reading.isLive = false := congrArg Reading.isLive hreading
      rw [hresume, hnone]
      exact .of_quits ⟨⟨[], (List.append_nil _).symm, rfl⟩, rfl, rfl, rfl, fun h => ⟨h, hgone⟩⟩
        rfl rfl
    · have hnone : x.routing? (.resume .reader) = none := by
        refine routing?_resume_eq_none fun frame ack _ result hreading hsent => ?_
        cases htell.symm.trans hsent
        exact hother frame ack result hreading rfl
      rw [hresume, hnone]
      refine .of_tells (Slot.tells_outlet ..) rfl rfl fun frame ack hreading hserves => ?_
      -- What the reader was told is not about its frame, so that is still to come.
      refine (hserves.tell_reader htell).resolve_right ?_
      rintro ⟨result, hsent⟩
      exact hother frame ack result hreading hsent

theorem passes_resume_caller (x : Session) (ticket : Nat) :
    x.Passes (x.act (.resume (.caller ticket))) [] := by
  rw [act]
  cases htell : x.slot.outlet.tell? (.caller ticket) with
  | none => exact passes_refl x
  | some told =>
    obtain ⟨outlet, outcome⟩ := told
    have hserves : ∀ frame ack, x.slot.reading = .acknowledging frame ack →
        x.slot.outlet.ServesReader → outlet.ServesReader :=
      fun _ _ _ hserves => hserves.tell_caller htell
    dsimp only [goOn]
    split
    · next result submission _ _ =>
      refine .of_tells ((Slot.tells_outlet x.slot outlet).trans (Slot.tells_conclude ..)) rfl rfl ?_
      rw [Slot.outlet_conclude]
      exact hserves
    · exact .of_tells (Slot.tells_outlet ..) rfl rfl hserves

/-- What a step does about the frame that it resolves, if it resolves one. -/
theorem passes_act (hlistening : x.slot.isListening = true) {action : Action}
    (haction : action ≠ .listen false) : x.Passes (x.act action) (x.routing? action).toList := by
  cases action with
  | submit chosen request payload =>
    refine .of_tells (Slot.tells_beginSubmission ..) rfl rfl fun _ _ _ hserves => ?_
    rcases x.slot.outlet_beginSubmission (.caller x.tickets) chosen request payload x.tickets with
      hsame | ⟨body, hoffer⟩
    · exact hsame ▸ hserves
    · exact hserves.offer hoffer
  | submitLocal request data =>
    refine .of_tells (Slot.tells_submitLocal ..) rfl rfl fun _ _ _ hserves => ?_
    exact (x.slot.outlet_submitLocal request data x.tickets).symm ▸ hserves
  | completeLocal token status payload =>
    refine .of_tells (Slot.tells_completeLocal ..) rfl rfl fun _ _ _ hserves => ?_
    exact (x.slot.outlet_completeLocal token status payload).symm ▸ hserves
  | cancel token =>
    refine .of_tells (Slot.tells_cancel ..) rfl rfl fun _ _ _ hserves => ?_
    exact (x.slot.outlet_cancel token).symm ▸ hserves
  | registerCallbacks callbacks =>
    exact { passes_refl x with told := told_of_log rfl rfl rfl }
  | listen isListening =>
    cases isListening with
    | true => exact { passes_refl x with isListening := hlistening.symm }
    | false => exact absurd rfl haction
  | shutDown => exact .of_quits (x.slot.quits_shutDownNow _) rfl rfl
  | abandon => exact .of_quits x.slot.quits_abandonNow rfl rfl
  | vanish ticket =>
    exact .of_tells (Slot.tells_outlet ..) rfl rfl fun _ _ _ hserves => hserves.leave ticket
  | resume party =>
    cases party with
    | reader => exact passes_resume_reader hlistening
    | caller ticket => exact passes_resume_caller x ticket
  | accept count =>
    refine .of_tells (Slot.tells_accept ..) rfl rfl fun _ _ _ hserves => ?_
    exact (x.slot.outlet_accept count).symm ▸ hserves.accept count
  | failWrite reason =>
    exact .of_tells (Slot.tells_outlet ..) rfl rfl fun _ _ _ hserves => hserves.fail reason
  | attend => exact .of_tells (Slot.tells_outlet ..) rfl rfl fun _ _ _ hserves => hserves.attend
  | arrive bytes =>
    refine { passes_refl x with stream := ⟨bytes, _, rfl, rfl, fun _ => ?_⟩ }
    exact List.append_assoc _ _ _
  | read => exact passes_read hlistening
  | endOfStream =>
    rw [act]
    split
    · exact passes_closeFromReaderNow x x.slot.framer _
    · exact passes_refl x
  | failRead reason =>
    rw [act]
    split
    · exact passes_closeFromReaderNow x x.slot.framer _
    · exact passes_refl x

/-! ## Runs -/

theorem trace_act (x : Session) (action : Action) : (x.act action).trace = x.trace := by
  cases action with
  | resume party =>
    rw [act]
    split
    · cases party with
      | reader => rfl
      | caller ticket =>
        dsimp only [goOn]
        split <;> rfl
    · rfl
  | read | endOfStream | failRead =>
    rw [act]
    split <;> rfl
  | _ => rfl

/-- Taking note of a step adds nothing to it. -/
theorem Passes.noted {action : Action} (h : x.Passes (x.act action) routed) :
    x.Passes (x.step action) routed where
  told := by
    rw [← h.told, Session.told, Session.told, step, trace_act, indications, List.filterMap_append,
      List.filterMap_map]
    exact List.append_nil _
  id := h.id
  isListening := h.isListening
  stream := h.stream
  stopped := h.stopped
  read := h.read
  served := h.served

/-- What a run does about the frames that it resolves. -/
theorem passes_run (hlistening : x.slot.isListening = true) {actions : List Action}
    (hactions : ∀ action ∈ actions, action ≠ .listen false) :
    x.Passes (x.run actions) (x.routings actions) := by
  induction actions generalizing x with
  | nil => exact passes_refl x
  | cons action actions ih =>
    obtain ⟨haction, hothers⟩ := List.forall_mem_cons.1 hactions
    have hfirst := (passes_act hlistening haction).noted
    exact hfirst.trans (ih (hfirst.isListening.trans hlistening) hothers)

theorem log_run (hlog : x.slot.log = []) (actions : List Action) :
    (x.run actions).slot.log = [] :=
  run_induction (P := fun x => x.slot.log = []) (fun _ _ _ => rfl) hlog actions

/-- A slot that has just started to read, and that has a listener. -/
def listening (id : SlotId) (options : SlotOptions) : Session :=
  (start id options).step (.listen true)

/-- **The listener hears every indication once and in order.** Take a slot with a listener that is
not taken away, and let anything happen to it. What the listener hears is what there is to hear of
the frames that are resolved, in this order, under the callbacks that are in force when each of them
is, and nothing else; of an acknowledgment it makes no difference how it ends.

These frames are those that arrived, in this order, and none is passed over. As long as the slot is
open, what is left is the frame in the hand of the reader and the bytes behind it, and the reader
has its turn at the outlet before it, or is to be told what came of that. -/
theorem hears_each_indication_once (id : SlotId) (options : SlotOptions) (actions : List Action)
    (hactions : ∀ action ∈ actions, action ≠ .listen false) :
    let x := listening id options
    let routed := x.routings actions
    let y := x.run actions
    indications y.trace = routed.filterMap (Routing.heard? id) ∧
    (∃ left, y.arrived = (routed.flatMap fun r => r.frame.encode) ++ left ∧
      (y.slot.isClosed = false → y.slot.reading.isLive = true ∧
        left = y.slot.reading.bytes ++ y.slot.framer.buffer)) ∧
    ∀ frame ack, y.slot.reading = .acknowledging frame ack →
      (∃ rest, ⟨.reader, .send rest⟩ ∈ y.slot.outlet.turns) ∨
        ∃ result, (.reader, .sent result) ∈ y.slot.outlet.outcomes := by
  intro x routed y
  have hread : x.IsRead := fun _ => rfl
  have hserved : x.IsServed := fun frame ack hreading => by cases hreading
  have hpasses : x.Passes y routed := passes_run rfl hactions
  have hlog : y.slot.log = [] := log_run rfl actions
  refine ⟨?_, ?_, hpasses.served hserved⟩
  · have htold := hpasses.told
    rw [told, hlog, List.filterMap_nil, List.append_nil] at htold
    exact htold
  · obtain ⟨bytes, left, harrived, hbytes, hleft⟩ := hpasses.stream
    refine ⟨left, ?_, fun hopen => ?_⟩
    · rw [harrived, ← hbytes]
      rfl
    · have hlive := hpasses.read hread hopen
      exact ⟨hlive, hleft hlive⟩

/-- An indication whose acknowledgment is written, one that cannot be read, a response to nobody, an
indication without a decoder, and one whose acknowledgment fails after other callbacks were
registered. -/
theorem hears_three_of_four_indications :
    let first : Callbacks := { table := {
      indications := [(⟨1000⟩, decodeShape .raw), (⟨1009⟩, decodeShape .int)] } }
    let second : Callbacks := { table := { indications := [(⟨1000⟩, decodeShape .void)] } }
    let written : Frame := .indication .unsolicitedAckExpected ⟨1000⟩ [1]
    let unreadable : Frame := .indication .unsolicited ⟨1009⟩ [7]
    let response : Frame := .response .solicited ⟨5⟩ ⟨20⟩ .success []
    let unknown : Frame := .indication .unsolicited ⟨1500⟩ []
    let failed : Frame := .indication .unsolicitedAckExpected ⟨1000⟩ []
    let frames := [written, unreadable, response, unknown, failed]
    let actions : List Action := [.registerCallbacks first, .arrive (frames.flatMap Frame.encode),
      .read, .accept 5, .accept 7, .resume .reader, .read, .read, .read, .read,
      .registerCallbacks second, .failWrite "gone", .resume .reader]
    let x := listening ⟨0⟩ {}
    (∀ action ∈ actions, action ≠ .listen false) ∧
    (x.routings actions).map (·.frame) = frames ∧
    indications (x.run actions).trace = [⟨⟨0⟩, ⟨1000⟩, .ok (.raw [1])⟩,
      ⟨⟨0⟩, ⟨1009⟩, .error (.truncated 0)⟩, ⟨⟨0⟩, ⟨1000⟩, .ok .void⟩] := by
  intro first second written unreadable response unknown failed frames actions x
  have hactions : ∀ action ∈ actions, action ≠ .listen false := by simp [actions]
  obtain ⟨hheard, -⟩ := hears_each_indication_once ⟨0⟩ {} actions hactions
  refine ⟨hactions, by cbv, hheard.trans ?_⟩
  cbv

end Session

end RadioLink
