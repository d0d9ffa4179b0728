import RadioLink.Proofs.LinkAnswers

set_option autoImplicit false

/-! # What a link has left to do

What is still to happen on a link without new calls can be counted. A byte for the modem has to be
accepted by the stream and then to be heard, and a turn has to end and its party to be told. Of a
reply each frame has to be read, and a response that asks for it has to be acknowledged. The bytes
of a reply that the modem has not made yet have to be written and to arrive after that, so they are
counted twice for a call that waits to be handled. -/

namespace RadioLink

/-! ## At the outlet -/

namespace Outlet

variable {o next : Outlet}

/-- What an outlet has left to do. -/
def left (o : Outlet) : Nat :=
  (o.turns.map fun turn => 2 * turn.bytes.length + 2).sum + o.outcomes.length

theorem left_enqueue (o : Outlet) (party : Party) (bytes : Bytes) :
    (o.enqueue party (.send bytes)).left = o.left + (2 * bytes.length + 2) := by
  simp only [left, enqueue, List.map_append, List.sum_append, List.map_cons, List.map_nil,
    List.sum_cons, List.sum_nil, Turn.bytes]
  omega

theorem left_tell? {party : Party} {outcome : Outcome}
    (htell : o.tell? party = some (next, outcome)) : next.left + 1 = o.left := by
  obtain ⟨hmem, rfl⟩ := of_tell? htell
  have hlength := List.length_eraseP_add_one (p := fun entry => entry.1 == party) hmem
    (beq_self_eq_true party)
  simp only [left]
  omega

/-- What the stream accepts has only to be heard after that. -/
theorem left_accept (h : o.IsOpen) (count : Nat) :
    (o.turns = [] ∨ count = 0) ∧ o.accept count = (o, []) ∨
    (o.accept count).1.left + (o.accept count).2.length < o.left := by
  cases hturns : o.turns with
  | nil => exact .inl ⟨.inl rfl, accept_of_nil hturns count⟩
  | cons turn turns =>
    obtain ⟨rest, hturn⟩ := eq_send_of_isOpen h (hturns ▸ List.mem_cons_self)
    rw [hturn] at hturns
    have hleft : o.left = 2 * rest.length + 2
        + (turns.map fun turn => 2 * turn.bytes.length + 2).sum + o.outcomes.length := by
      rw [left, hturns, List.map_cons, List.sum_cons]
      rfl
    rcases accept_of_cons h hturns count with ⟨hrest, haccept⟩ | ⟨-, haccept⟩
    · have hlength := List.length_pos_iff.2 hrest
      rw [List.length_drop] at hlength
      by_cases hnone : count = 0
      · refine .inl ⟨.inr hnone, ?_⟩
        rw [haccept, hnone, List.take_zero, List.drop_zero, ← hturns]
      · right
        rw [haccept, hleft]
        simp only [left, List.map_cons, List.sum_cons, Turn.bytes, List.length_drop,
          List.length_take]
        omega
    · right
      rw [haccept, hleft]
      simp only [left, finish, List.length_append, List.length_singleton, List.length_take]
      omega

end Outlet

/-! ## In the books -/

namespace Reply

/-- The bytes that a reply is made of. -/
def bytes (a : Reply) : Bytes :=
  a.frames.flatMap Frame.encode

/-- What is left to do about a reply of which no frame was taken. -/
def left (a : Reply) : Nat :=
  a.frames.length + if a.rule.style = .ackExpected then
    2 * (Sent.ack a.call.submission.token).command.encode.length + 2 else 0

theorem left_of_ackExpected {a : Reply} (hstyle : a.rule.style = .ackExpected) :
    a.left = 2 * (Sent.ack a.call.submission.token).command.encode.length + 3 := by
  rw [left, frames_eq, hstyle, if_neg (by decide), if_pos rfl, List.length_singleton]
  omega

theorem left_of_earlyAck {a : Reply} (hstyle : a.rule.style = .earlyAck) : a.left = 2 := by
  rw [left, frames_eq, hstyle, if_pos rfl, if_neg (by decide)]
  rfl

theorem left_pos (a : Reply) : 0 < a.left := by
  rw [left, frames_eq]
  split <;> simp only [List.length_cons] <;> omega

end Reply

/-- What is left to do about a reply that has begun. -/
def Progress.left : Progress → Nat
  | none | acknowledging _ => 0
  | received _ => 1

namespace Books

variable {b next : Books} {a : Reply} {coming : List Reply} {rules : List (RequestId × ModemRule)}

/-- What is left to do about the replies, beyond the bytes that are made. -/
def left (b : Books) (rules : List (RequestId × ModemRule)) : Nat :=
  b.progress.left + (b.coming.map Reply.left).sum
    + ((replies rules (b.todo.filterMap Sent.call?)).map fun a => a.left + 2 * a.bytes.length).sum

theorem left_begin (rules : List (RequestId × ModemRule)) (progress : Progress)
    (hprogress : b.progress = .none) (hcoming : b.coming = a :: coming) :
    (b.begin progress coming).left rules + a.left = b.left rules + progress.left := by
  simp only [left, begin, hprogress, hcoming, Progress.left, List.map_cons, List.sum_cons]
  omega

theorem left_send_ack (token : Token) : (b.send (.ack token)).left rules = b.left rules := by
  rw [left, calls_send_ack]
  rfl

/-- A response that is resolved without an acknowledgment leaves less to do. -/
theorem left_settle (hdue : b.Due a coming) (hacked : b.progress.acked = []) :
    (b.settle a coming).left rules < b.left rules := by
  have hreplies := hdue.replies
  simp only [left, settle]
  cases hprogress : b.progress with
  | none =>
    rw [hprogress, Progress.replies, List.nil_append] at hreplies
    have hpos := a.left_pos
    simp only [hreplies, Progress.left, List.map_cons, List.sum_cons]
    omega
  | received other =>
    rw [hprogress, Progress.replies, List.singleton_append, List.cons.injEq] at hreplies
    simp only [hreplies.2, Progress.left]
    omega
  | acknowledging other =>
    rw [hprogress] at hacked
    cases hacked

theorem left_settle_acknowledging (hprogress : b.progress = .acknowledging a) :
    (b.settle a b.coming).left rules = b.left rules := by
  simp only [left, settle, hprogress, Progress.left]

/-- Of a call that is handled the bytes of the reply are made. -/
theorem Passes.left {rest : List Sent} (h : b.Passes next rules rest) :
    ∃ made, next.coming = b.coming ++ made ∧
      next.left rules + 2 * (made.flatMap Reply.bytes).length = b.left rules := by
  obtain ⟨passed, htodo, hcoming⟩ := h.coming
  refine ⟨_, hcoming, ?_⟩
  have hsum : ∀ made : List Reply, (made.map fun a => a.left + 2 * a.bytes.length).sum
      = (made.map Reply.left).sum + 2 * (made.flatMap Reply.bytes).length := by
    intro made
    induction made with
    | nil => rfl
    | cons a made ih =>
      simp only [List.map_cons, List.sum_cons, List.flatMap_cons, List.length_append, ih]
      omega
  simp only [Books.left, hcoming, h.progress, h.todo, htodo, List.filterMap_append, replies_append,
    List.map_append, List.sum_append, hsum]
  omega

end Books

/-! ## On the link -/

namespace Link

variable {l : Link} {setup : Setup} {b : Books}

/-- Whoever is told something leaves less to do. -/
theorem Balances.left_resume (h : l.Balances setup b) (party : Party) :
    l.session.slot.outlet.tell? party = none ∨
    ∃ next, (l.act (.resume party)).Balances setup next ∧
      (l.act (.resume party)).session.slot.outlet.left + next.left setup.rules
        < l.session.slot.outlet.left + b.left setup.rules := by
  cases htell : l.session.slot.outlet.tell? party with
  | none => exact .inl rfl
  | some told =>
    obtain ⟨outlet, outcome⟩ := told
    right
    have houtlet : (l.act (.resume party)).session.slot.outlet = outlet := by
      have hact : l.session.act (.resume party)
          = { l.session with slot := { l.session.slot with outlet } }.goOn outcome party := by
        simp only [Session.act, htell]
      rw [Link.act, Session.step_of_act hact]
      exact Session.outlet_goOn _ outcome party
    have hleft := Outlet.left_tell? htell
    rw [houtlet]
    cases party with
    | caller ticket => exact ⟨b, h.resume_caller htell, by omega⟩
    | reader =>
      obtain ⟨next, hnext, rfl | ⟨a, hprogress, rfl⟩⟩ := h.resume_reader htell
      · exact ⟨next, hnext, by omega⟩
      · refine ⟨_, hnext, ?_⟩
        rw [Books.left_settle_acknowledging hprogress]
        omega

/-- A reader that takes a frame leaves less to do. -/
theorem Balances.left_read (h : l.Balances setup b)
    (hfits : ∀ call ∈ l.calls, call.AnswerFits setup) :
    l.session.slot.readNext? = none ∨ ∃ next, (l.act .read).Balances setup next ∧
      (l.act .read).session.slot.outlet.left + next.left setup.rules
        < l.session.slot.outlet.left + b.left setup.rules := by
  cases h.reads hfits with
  | idle hread => exact .inl hread
  | response hdue hacked hnext houtlet =>
    refine .inr ⟨_, hnext, ?_⟩
    rw [houtlet]
    exact Nat.add_lt_add_left (Books.left_settle hdue hacked) _
  | @receipt a coming hprogress hcoming hstyle hnext houtlet =>
    refine .inr ⟨_, hnext, ?_⟩
    have hleft := Books.left_begin setup.rules (.received a) hprogress hcoming
    rw [Reply.left_of_earlyAck hstyle, Progress.left] at hleft
    rw [houtlet]
    omega
  | @acknowledging a coming hprogress hcoming hstyle hnext houtlet =>
    refine .inr ⟨_, hnext, ?_⟩
    have hleft := Books.left_begin (b := b.send (.ack a.call.submission.token)) setup.rules
      (.acknowledging a) hprogress hcoming
    rw [Reply.left_of_ackExpected hstyle, Books.left_send_ack, Progress.left] at hleft
    rw [houtlet, Outlet.left_enqueue]
    omega

/-- What the modem takes in is replaced by the bytes that it makes of it. -/
theorem Balances.left_process (h : l.Balances setup b) (hfits : ∀ call ∈ l.calls, call.Fits)
    (count : Nat) : (l.modem.process (l.toModem.take count)).2.2 = none ∧
      ∃ next, (l.act (.process count)).Balances setup next ∧
        next.left setup.rules + 2 * (l.act (.process count)).modem.output.flatten.length
          = b.left setup.rules + 2 * l.modem.output.flatten.length := by
  obtain ⟨next, rest, hnext, hpasses, hending⟩ := h.process_passes hfits count
  refine ⟨hending, next, hnext, ?_⟩
  obtain ⟨made, hcoming, hleft⟩ := hpasses.left
  have hbefore := congrArg List.length h.inbound.bytes
  have hafter := congrArg List.length hnext.inbound.bytes
  have hmade : (made.flatMap Reply.frames).flatMap Frame.encode = made.flatMap Reply.bytes :=
    List.flatMap_assoc
  simp only [hcoming, hpasses.progress, List.flatMap_append, List.length_append, hmade]
    at hbefore hafter
  change l.session.slot.framer.buffer.length + l.toSlot.length
    + (l.act (.process count)).modem.output.flatten.length = _ at hafter
  omega

end Link

end RadioLink
