import Mathlib
import RadioLink.Proofs.LinkBalance

set_option autoImplicit false

/-! # Reading keeps a link in balance

A reader that takes a frame finds the next one of the reply that is to come (`Balances.reads`): the
response, the receipt before it, or a response that it has to acknowledge first. -/

namespace RadioLink

theorem Reply.length_frames {a : Reply} {limit : Nat}
    (h : frameHeaderSize + a.rule.payload.length ≤ limit) :
    ∀ frame ∈ a.frames, frame.encodeBody.length ≤ limit := by
  have hresponse : a.response.encodeBody.length ≤ limit := by
    rw [Frame.length_encodeBody]
    exact h
  have hreceipt : a.receipt.encodeBody.length ≤ limit := by
    rw [Frame.length_encodeBody]
    exact Nat.le_trans (Nat.add_le_add_left (Nat.zero_le _) _) h
  rw [frames_eq]
  split
  · exact List.forall_mem_cons.2 ⟨hreceipt, List.forall_mem_singleton.2 hresponse⟩
  · exact List.forall_mem_singleton.2 hresponse

namespace Books

variable {b : Books} {a : Reply} {coming : List Reply} {progress : Progress}

/-- The books when the first frame of a reply was taken, and the reply goes on. -/
def begin (b : Books) (progress : Progress) (coming : List Reply) : Books :=
  { b with progress, coming }

theorem mem_pending_of_coming (rules : List (RequestId × ModemRule))
    (hcoming : b.coming = a :: coming) : a.call ∈ b.pending rules := by
  rw [pending, hcoming]
  exact List.mem_append_left _ (List.mem_append_right _ List.mem_cons_self)

theorem pending_begin (hprogress : b.progress = .none) (hcoming : b.coming = a :: coming)
    (hreplies : progress.replies = [a]) (rules : List (RequestId × ModemRule)) :
    (b.begin progress coming).pending rules = b.pending rules := by
  show held rules b.handled ++ progress.replies.map (·.call) ++ coming.map (·.call)
    ++ b.todo.filterMap Sent.call? = _
  rw [pending, hprogress, hcoming, hreplies, Progress.replies, List.map_nil, List.append_nil,
    List.append_assoc (held rules b.handled)]
  rfl

theorem Handled.begin {rules : List (RequestId × ModemRule)} {m : Modem} (h : b.Handled rules m)
    (hprogress : b.progress = .none) (hcoming : b.coming = a :: coming)
    (hreplies : progress.replies = [a]) (hacked : progress.acked = []) :
    (b.begin progress coming).Handled rules m := by
  refine ⟨h.sameRules, h.received, h.unanswered, ?_, ?_⟩
  · show _ = ackTokens (b.settled ++ progress.acked)
    rw [hacked, ← show b.progress.acked = [] by rw [hprogress]; rfl]
    exact h.acks
  · show RadioLink.replies rules b.handled = b.settled ++ progress.replies ++ coming
    rw [h.replies, hprogress, hcoming, hreplies, Progress.replies, List.append_nil,
      List.append_assoc]
    rfl

theorem calls_send_ack (b : Books) (token : Token) :
    (b.send (.ack token)).todo.filterMap Sent.call? = b.todo.filterMap Sent.call? := by
  rw [send, List.filterMap_append]
  exact List.append_nil _

theorem pending_send_ack (b : Books) (token : Token) (rules : List (RequestId × ModemRule)) :
    (b.send (.ack token)).pending rules = b.pending rules :=
  congrArg (held rules b.handled ++ b.progress.replies.map (·.call) ++ b.coming.map (·.call) ++ ·)
    (calls_send_ack b token)

/-- The acknowledgment of a response is the last that the modem has to take in. -/
theorem Handled.acknowledge {rules : List (RequestId × ModemRule)} {m : Modem}
    (h : b.Handled rules m) (hprogress : b.progress = .none) (hcoming : b.coming = a :: coming)
    (hstyle : a.rule.style = .ackExpected) :
    ((b.send (.ack a.call.submission.token)).begin (.acknowledging a) coming).Handled rules m := by
  have hacks := h.acks
  rw [hprogress, Progress.acked, List.append_nil] at hacks
  refine ⟨h.sameRules, h.received, h.unanswered, ?_, ?_⟩
  · show m.acks ++ (b.todo ++ [_]).filterMap Sent.token? = ackTokens (b.settled ++ [a])
    rw [List.filterMap_append, ← List.append_assoc, hacks]
    simp only [ackTokens, List.filter_append, List.filter_cons, List.filter_nil, hstyle,
      decide_true, if_true, List.map_append]
    rfl
  · show RadioLink.replies rules b.handled = b.settled ++ [a] ++ coming
    rw [h.replies, hprogress, hcoming, Progress.replies, List.append_nil, List.append_assoc]
    rfl

end Books

namespace Link

variable {l : Link} {setup : Setup} {b : Books} {a : Reply} {coming : List Reply}

/-- Every frame that is still to come is within the limit of the slot. -/
theorem Balances.length_frames (h : l.Balances setup b)
    (hfits : ∀ call ∈ l.calls, call.AnswerFits setup) :
    ∀ frame ∈ b.progress.frames ++ b.coming.flatMap Reply.frames,
      frame.encodeBody.length ≤ l.session.slot.framer.limit.toNat := by
  rw [h.slot.framer]
  have hreply : ∀ a ∈ b.progress.replies ++ b.coming, ∀ frame ∈ a.frames,
      frame.encodeBody.length ≤ setup.options.maxFrameLen.toNat := fun a hmem =>
    let ⟨hcall, hrule⟩ := h.reply hmem
    a.length_frames (hfits a.call hcall a.rule hrule)
  refine List.forall_mem_append.2 ⟨fun frame hmem => ?_, fun frame hmem => ?_⟩
  · cases hprogress : b.progress with
    | none | acknowledging a =>
      rw [hprogress] at hmem
      cases hmem
    | received a =>
      rw [hprogress] at hmem hreply
      obtain rfl := List.mem_singleton.1 hmem
      refine hreply a List.mem_cons_self _ ?_
      rw [Reply.frames_eq]
      split
      · exact List.mem_cons_of_mem _ List.mem_cons_self
      · exact List.mem_cons_self
  · obtain ⟨a, ha, hframe⟩ := List.mem_flatMap.1 hmem
    exact hreply a (List.mem_append_right _ ha) frame hframe

/-- A reader that has nothing to take goes on waiting. -/
theorem read_of_none (hlog : l.session.slot.log = []) (hread : l.session.slot.readNext? = none) :
    l.act .read = l := by
  have hidle : l.session.act .read = l.session := by simp only [Session.act, hread]
  rw [act, Session.step_of_idle hlog hidle]

/-- What the reader does leaves the outlet as the slot has it after that. -/
theorem outlet_read {slot : Slot} (hread : l.session.slot.readNext? = some slot) :
    (l.act .read).session.slot.outlet = slot.outlet := by
  have hact : l.session.act .read = { l.session with slot } := by simp only [Session.act, hread]
  rw [act, Session.step_of_act hact]

/-- A response that need not be acknowledged is resolved at once. -/
theorem Balances.read_response (h : l.Balances setup b) (hdue : b.Due a coming)
    (hstyle : a.rule.style ≠ .ackExpected) (hwaiting : l.session.slot.reading = .waiting)
    (hframe : l.session.slot.framer.nextFrame.2 = some (.ok a.response))
    (hbuffer : l.session.slot.framer.nextFrame.1.buffer ++ l.toSlot ++ l.modem.output.flatten
      = (coming.flatMap Reply.frames).flatMap Frame.encode) :
    (l.act .read).Balances setup (b.settle a coming) ∧
      (l.act .read).session.slot.outlet = l.session.slot.outlet := by
  have hkind : a.response.kind.expectsAck = false := by
    show a.rule.style.responseKind.expectsAck = false
    cases hstyled : a.rule.style with
    | plain | earlyAck => rfl
    | ackExpected => exact absurd hstyled hstyle
  have hread := Slot.readNext?_of_not_expectsAck hwaiting hframe hkind
  have hact : l.session.act .read = { l.session with
      slot := Slot.resolve { l.session.slot with
        framer := l.session.slot.framer.nextFrame.1, reading := .waiting
        log := l.session.slot.log ++ [a.response.received] } a.response } := by
    simp only [Session.act, hread, ← hwaiting]
  refine ⟨h.settle hdue hact (by rw [h.log]; rfl) h.slot.outlet
    ((Framer.of_nextFrame hframe).1.trans h.slot.framer) h.outbound ⟨hbuffer⟩, ?_⟩
  rw [outlet_read hread, Slot.outlet_resolve]

/-- A receipt is noted, and the response is due after it. -/
theorem Balances.read_receipt (h : l.Balances setup b) (hprogress : b.progress = .none)
    (hcoming : b.coming = a :: coming) (hstyle : a.rule.style = .earlyAck)
    (hframe : l.session.slot.framer.nextFrame.2 = some (.ok a.receipt))
    (hbuffer : l.session.slot.framer.nextFrame.1.buffer ++ l.toSlot ++ l.modem.output.flatten
      = (a.response :: coming.flatMap Reply.frames).flatMap Frame.encode) :
    (l.act .read).Balances setup (b.begin (.received a) coming) ∧
      (l.act .read).session.slot.outlet = l.session.slot.outlet := by
  have hreading := h.reading
  rw [hprogress] at hreading
  have hpending : (b.begin (.received a) coming).pending setup.rules = b.pending setup.rules :=
    Books.pending_begin hprogress hcoming rfl _
  have hmem := Books.mem_pending_of_coming setup.rules hcoming
  obtain ⟨registry, hresolve, hslot, hholds⟩ := Slot.resolve_receipt
    (s := { l.session.slot with
      framer := l.session.slot.framer.nextFrame.1
      log := l.session.slot.log ++ [a.receipt.received] }) h.registry hmem
  have hread := Slot.readNext?_of_not_expectsAck hreading hframe rfl
  rw [hresolve] at hread
  have hact : l.session.act .read = { l.session with
      slot := Slot.publish { l.session.slot with
        registry, framer := l.session.slot.framer.nextFrame.1
        log := l.session.slot.log ++ [a.receipt.received] }
        (.requestAcknowledged a.call.submission.token) } := by
    simp only [Session.act, hread]
  refine ⟨?_, (outlet_read hread).trans rfl⟩
  rw [act, Session.step_of_act hact]
  refine { h with
    log := rfl
    slot := ⟨hslot.trans h.slot.id, h.slot.callbacks, h.slot.outlet,
      (Framer.of_nextFrame hframe).1.trans h.slot.framer⟩
    reading := hreading
    progress := hstyle
    outbound := ⟨h.outbound.isOpen, h.outbound.outcomes, h.outbound.limit, h.outbound.bytes,
      h.outbound.front⟩
    handled := h.handled.begin hprogress hcoming rfl rfl
    inbound := ⟨hbuffer⟩
    registry := ?_
    effects := ?_ }
  · rw [hpending]
    rw [hprogress] at hholds
    exact hholds
  · show resolutions (l.session.trace ++ (l.session.slot.log ++ [_] ++ [_]).map _) = _
    have heffects := h.effects
    rw [hprogress, Progress.effects, List.append_nil] at heffects
    rw [resolutions_append, h.log, heffects]
    rfl

/-- A response that has to be acknowledged waits until that is done. -/
theorem Balances.read_acknowledging (h : l.Balances setup b) (hprogress : b.progress = .none)
    (hcoming : b.coming = a :: coming) (hstyle : a.rule.style = .ackExpected)
    (hframe : l.session.slot.framer.nextFrame.2 = some (.ok a.response))
    (hbuffer : l.session.slot.framer.nextFrame.1.buffer ++ l.toSlot ++ l.modem.output.flatten
      = (coming.flatMap Reply.frames).flatMap Frame.encode) :
    (l.act .read).Balances setup
        ((b.send (.ack a.call.submission.token)).begin (.acknowledging a) coming) ∧
      (l.act .read).session.slot.outlet = l.session.slot.outlet.enqueue .reader
        (.send (Sent.ack a.call.submission.token).command.encode) := by
  have hreading := h.reading
  have hholds := h.registry
  rw [hprogress] at hreading hholds
  have hmem := Books.mem_pending_of_coming setup.rules hcoming
  obtain ⟨registry, hreceive, hslot, hregistry⟩ := Slot.receive_response
    (s := { l.session.slot with framer := l.session.slot.framer.nextFrame.1 }) hstyle hholds hmem
  obtain ⟨hlimit, -, hlength⟩ := Framer.of_nextFrame hframe
  -- The acknowledgment is shorter than the frame that was read, so it is not refused.
  have hack : (Command.ack a.call.submission.token).encodeBody.length
      ≤ l.session.slot.outlet.limit.toNat := by
    rw [h.slot.outlet, ← h.slot.framer]
    refine Nat.le_trans ?_ hlength
    rw [Command.length_encodeBody, Frame.length_encodeBody]
    exact Nat.le_trans (by decide : commandHeaderSize + 0 ≤ frameHeaderSize) (Nat.le_add_right _ _)
  have hread := Slot.readNext?_of_offer hreading hframe hreceive
    (Outlet.offer_of_isOpen h.outbound.isOpen hack .reader)
  have hact : l.session.act .read = { l.session with
      slot := { l.session.slot with
        registry, framer := l.session.slot.framer.nextFrame.1
        outlet := l.session.slot.outlet.enqueue .reader
          (.send (Sent.ack a.call.submission.token).command.encode)
        reading := .acknowledging a.response (.ack a.call.submission.token)
        log := l.session.slot.log ++ [a.response.received] } } := by
    simp only [Session.act, hread]
    rfl
  have houtbound := h.outbound.send .reader (.ack a.call.submission.token)
  refine ⟨?_, outlet_read hread⟩
  rw [act, Session.step_of_act hact]
  refine { h with
    log := rfl
    slot := ⟨hslot.trans h.slot.id, h.slot.callbacks, h.slot.outlet, hlimit.trans h.slot.framer⟩
    reading := rfl
    progress := hstyle
    calls := ?_
    outbound := ⟨houtbound.isOpen, houtbound.outcomes, houtbound.limit, houtbound.bytes,
      houtbound.front⟩
    handled := ?_
    inbound := ⟨hbuffer⟩
    registry := ?_
    effects := ?_ }
  · exact h.calls.trans (congrArg (b.handled ++ ·) (Books.calls_send_ack b _).symm)
  · exact h.handled.acknowledge hprogress hcoming hstyle
  · rw [Books.pending_begin (b := b.send _) hprogress hcoming rfl, Books.pending_send_ack]
    exact hregistry
  · have hsilent :
        (l.session.slot.log ++ [a.response.received]).filter Effect.isResolution = [] := by
      rw [h.log]
      rfl
    have heffects := h.silent hsilent (l.session.isReaders .read)
    rw [hprogress] at heffects
    exact heffects

/-- What the reader does next: nothing, or it takes a response that it resolves at once, a receipt,
or a response that it has to acknowledge first. -/
inductive Reads (l : Link) (setup : Setup) (b : Books) : Prop
  | idle (hread : l.session.slot.readNext? = none)
  | response {a : Reply} {coming : List Reply} (hdue : b.Due a coming)
      (hacked : b.progress.acked = [])
      (hnext : (l.act .read).Balances setup (b.settle a coming))
      (houtlet : (l.act .read).session.slot.outlet = l.session.slot.outlet)
  | receipt {a : Reply} {coming : List Reply} (hprogress : b.progress = .none)
      (hcoming : b.coming = a :: coming) (hstyle : a.rule.style = .earlyAck)
      (hnext : (l.act .read).Balances setup (b.begin (.received a) coming))
      (houtlet : (l.act .read).session.slot.outlet = l.session.slot.outlet)
  | acknowledging {a : Reply} {coming : List Reply} (hprogress : b.progress = .none)
      (hcoming : b.coming = a :: coming) (hstyle : a.rule.style = .ackExpected)
      (hnext : (l.act .read).Balances setup
        ((b.send (.ack a.call.submission.token)).begin (.acknowledging a) coming))
      (houtlet : (l.act .read).session.slot.outlet = l.session.slot.outlet.enqueue .reader
        (.send (Sent.ack a.call.submission.token).command.encode))

/-- The reader takes the next frame, which is the next of a reply that has begun, or the first of
the reply that comes next. -/
theorem Balances.reads (h : l.Balances setup b)
    (hfits : ∀ call ∈ l.calls, call.AnswerFits setup) : l.Reads setup b := by
  by_cases hbusy : l.session.slot.reading ≠ .waiting
  · exact .idle (Slot.readNext?_of_not_waiting hbusy)
  have hwaiting := Classical.not_not.1 hbusy
  have hstream := h.inbound.bytes
  rw [List.append_assoc] at hstream
  rcases Framer.nextFrame_of_frames hstream (h.length_frames hfits) with
    hnone | ⟨frame, rest, hframes, hframe, hbuffer⟩
  · exact .idle (Slot.readNext?_of_no_frame hnone)
  rw [← List.append_assoc] at hbuffer
  cases hprogress : b.progress with
  | acknowledging a =>
    have hreading := h.reading
    rw [hwaiting, hprogress] at hreading
    cases hreading
  | received a =>
    rw [hprogress] at hframes
    cases hframes
    have hdue := Books.due_of_received hprogress h.progress
    have hstyle : a.rule.style = .earlyAck := by
      have hproper := h.progress
      rw [hprogress] at hproper
      exact hproper
    have hother : a.rule.style ≠ .ackExpected := by rw [hstyle]; decide
    obtain ⟨hnext, houtlet⟩ := h.read_response hdue hother hwaiting hframe hbuffer
    exact .response hdue (by rw [hprogress]; rfl) hnext houtlet
  | none =>
    rw [hprogress] at hframes
    cases hcoming : b.coming with
    | nil =>
      rw [hcoming] at hframes
      cases hframes
    | cons a coming =>
      rw [hcoming, List.flatMap_cons, Reply.frames_eq] at hframes
      cases hstyle : a.rule.style with
      | plain =>
        rw [hstyle, if_neg (by decide)] at hframes
        cases hframes
        have hdue := Books.due_of_plain hprogress hcoming hstyle
        have hother : a.rule.style ≠ .ackExpected := by rw [hstyle]; decide
        obtain ⟨hnext, houtlet⟩ := h.read_response hdue hother hwaiting hframe hbuffer
        exact .response hdue (by rw [hprogress]; rfl) hnext houtlet
      | ackExpected =>
        rw [hstyle, if_neg (by decide)] at hframes
        cases hframes
        obtain ⟨hnext, houtlet⟩ := h.read_acknowledging hprogress hcoming hstyle hframe hbuffer
        exact .acknowledging hprogress hcoming hstyle hnext houtlet
      | earlyAck =>
        rw [hstyle, if_pos rfl] at hframes
        cases hframes
        obtain ⟨hnext, houtlet⟩ := h.read_receipt hprogress hcoming hstyle hframe hbuffer
        exact .receipt hprogress hcoming hstyle hnext houtlet

theorem Balances.read (h : l.Balances setup b) (hfits : setup.Fits) :
    ∃ next, (l.act .read).Balances setup next := by
  cases h.reads fun call _ => hfits.answerFits call with
  | idle hread =>
    rw [read_of_none h.log hread]
    exact ⟨b, h⟩
  | response _ _ hnext | receipt _ _ _ hnext | acknowledging _ _ _ hnext => exact ⟨_, hnext⟩

end Link

end RadioLink
