import RadioLink.Proofs.Turns

set_option autoImplicit false

/-! # Responses reach the submission that they answer

A slot and a peer exchange commands and frames. The peer answers each command that it has received
at most once, in any order, and may say other things in between; on the side of the slot anything
may be done between two frames. The books kept here number the submissions, whose sinks are those
numbers, and the commands that reach the peer, and note for each frame in flight which command it
answers.

A token may be used over and over. What ties an answer to its submission is that a command stays
`Unsettled` until its answer is routed, and that meanwhile its token is owned by nobody else:
`Linked` says so, in a strong form for as long as the outlet is open and in a weak form that
survives a failure of the stream, after which a command may be in flight that nobody waits for. -/

namespace RadioLink

/-- A command that reaches the peer. -/
structure Posted where
  command : Command
  /-- The submission that wrote it; an acknowledgment has none. -/
  sender : Option Sink

/-- A frame that is on its way to the slot. -/
structure Inbound where
  frame : Frame
  /-- The place of the command that it answers, if it answers one. -/
  answers : Option Nat

/-- A slot, its peer, and what is on its way between them. -/
structure Exchange where
  slot : Slot
  /-- How many submissions there were, which is the sink of the next one. -/
  submissions : Nat := 0
  /-- The commands that reach the peer, in the order in which they do. -/
  posted : List Posted := []
  /-- How many commands the peer has received. -/
  arrived : Nat := 0
  /-- The places of the commands that the peer has answered. -/
  answered : List Nat := []
  /-- The frames that are on their way to the slot, oldest first. -/
  inbound : List Inbound := []

/-- What can happen next. A command under which the stream fails may reach the peer or not. -/
inductive Move
  | submit (chosen : Option Token) (request : RequestId) (payload : Payload) (writing : Writing)
    (arrives : Bool)
  | submitLocal (request : RequestId) (data : Bytes)
  | completeLocal (token : Token) (status : Status) (payload : Bytes)
  /-- A caller withdraws, or its time is up. -/
  | cancel (token : Token)
  | registerCallbacks (callbacks : Callbacks)
  /-- The peer receives the next command. -/
  | receive
  /-- The peer answers a command. -/
  | answer (index : Nat) (kind : FrameKind) (status : Status) (payload : Bytes)
  /-- The peer sends a receipt or an indication. -/
  | remark (frame : Frame)
  /-- The slot routes the next frame, and acknowledges it if it has to. -/
  | route (writing : Writing) (arrives : Bool)

namespace Exchange

/-- What the peer gets of a command that was offered to the stream. -/
def reaching (sender : Option Sink) (arrives : Bool) :
    Option (Command × Except LinkError Unit) → List Posted
  | none => []
  | some (command, result) => if result.isOk || arrives then [⟨command, sender⟩] else []

/-- The peer answers a command that it has received and has not answered. Acknowledgments are not
answered. -/
def answer (x : Exchange) (index : Nat) (kind : FrameKind) (status : Status) (payload : Bytes) :
    Exchange :=
  match x.posted[index]? with
  | some ⟨command, _⟩ =>
    if index < x.arrived ∧ index ∉ x.answered ∧ command.isAck = false ∧ kind.isResponse = true then
      { x with
        answered := x.answered ++ [index]
        inbound := x.inbound ++
          [⟨.response kind command.token command.request status payload, some index⟩] }
    else x
  | none => x

/-- The slot routes the next frame. -/
def route (x : Exchange) (writing : Writing) (arrives : Bool) : Exchange :=
  match x.inbound with
  | [] => x
  | next :: inbound =>
    let (slot, given) := x.slot.routeNow writing next.frame
    { x with slot, inbound, posted := x.posted ++ reaching none arrives given }

/-- Makes a move. -/
def act (x : Exchange) : Move → Exchange
  | .submit chosen request payload writing arrives =>
    let (slot, given) := x.slot.submitNow writing chosen request payload x.submissions
    { x with
      slot
      submissions := x.submissions + 1
      posted := x.posted ++ reaching (some x.submissions) arrives given }
  | .submitLocal request data =>
    { x with
      slot := (x.slot.submitLocal request data x.submissions).1
      submissions := x.submissions + 1 }
  | .completeLocal token status payload =>
    { x with slot := (x.slot.completeLocal token status payload).1 }
  | .cancel token => { x with slot := (x.slot.cancel token).1 }
  | .registerCallbacks callbacks => { x with slot := x.slot.registerCallbacks callbacks }
  | .receive => if x.arrived < x.posted.length then { x with arrived := x.arrived + 1 } else x
  | .answer index kind status payload => x.answer index kind status payload
  | .remark frame =>
    if frame.kind.isResponse then x else { x with inbound := x.inbound ++ [⟨frame, none⟩] }
  | .route writing arrives => x.route writing arrives

/-- Makes a move, so that afterwards the log is that of the move. -/
def step (x : Exchange) (move : Move) : Exchange :=
  { x with slot := x.slot.takeLog.1 }.act move

/-- Makes moves one after the other. -/
def run (x : Exchange) (moves : List Move) : Exchange :=
  moves.foldl step x

/-- A slot that has just started to read, and nothing on its way. -/
def start (id : SlotId) (options : SlotOptions) : Exchange :=
  { slot := Slot.start id options }

/-! ## What is known of an exchange -/

/-- The places of the commands whose answers are on their way. -/
def answersInFlight (x : Exchange) : List Nat :=
  x.inbound.filterMap (·.answers)

/-- The answer to a command is still to be routed. -/
def Unsettled (x : Exchange) (index : Nat) : Prop :=
  index ∉ x.answered ∨ index ∈ x.answersInFlight

/-- The books about the peer are in order. -/
structure Tidy (x : Exchange) : Prop where
  sender_lt : ∀ (index : Nat) (command : Command) (sink : Sink),
    x.posted[index]? = some ⟨command, some sink⟩ → sink < x.submissions
  sender_inj : ∀ (i j : Nat) (first second : Command) (sink : Sink),
    x.posted[i]? = some ⟨first, some sink⟩ → x.posted[j]? = some ⟨second, some sink⟩ → i = j
  sender_none : ∀ (index : Nat) (command : Command),
    x.posted[index]? = some ⟨command, none⟩ → command.isAck = true
  answered_lt : ∀ index ∈ x.answered, index < x.posted.length
  arrived_le : x.arrived ≤ x.posted.length
  answers_nodup : x.answersInFlight.Nodup
  answers : ∀ item ∈ x.inbound, ∀ index, item.answers = some index →
    index ∈ x.answered ∧ ∃ command sink, x.posted[index]? = some ⟨command, some sink⟩ ∧
      item.frame.token = command.token ∧ item.frame.request = command.request
  remarks : ∀ item ∈ x.inbound, item.answers = none → item.frame.kind.isResponse = false

/-- While a command is unsettled, nobody but its submission owns its token; and its submission does
own it, unless the stream has failed. -/
structure Linked (x : Exchange) : Prop where
  idle : x.slot.outlet.IsIdle
  owned : ∀ (index : Nat) (command : Command) (sink : Sink) (owner : Owner),
    x.posted[index]? = some ⟨command, some sink⟩ → x.Unsettled index →
    x.slot.registry.owner? command.token = some owner → owner.origin = .peer →
    owner = ⟨command.request, sink, .peer⟩
  pending : x.slot.outlet.isClosing = false →
    ∀ (index : Nat) (command : Command) (sink : Sink),
    x.posted[index]? = some ⟨command, some sink⟩ → x.Unsettled index →
    x.slot.registry.owner? command.token = some ⟨command.request, sink, .peer⟩

variable {x : Exchange}

theorem getElem?_reaching {sender : Option Sink} {arrives : Bool}
    {given : Option (Command × Except LinkError Unit)} {index : Nat} {posted : Posted}
    (h : (x.posted ++ reaching sender arrives given)[index]? = some posted) :
    x.posted[index]? = some posted ∨
      index = x.posted.length ∧ ∃ command result, given = some (command, result) ∧
        posted = ⟨command, sender⟩ := by
  rcases Nat.lt_or_ge index x.posted.length with hlt | hge
  · rw [List.getElem?_append_left hlt] at h
    exact .inl h
  · rw [List.getElem?_append_right hge] at h
    have hmem := List.mem_of_getElem? h
    obtain ⟨hlt, _⟩ := List.getElem?_eq_some_iff.1 h
    cases given with
    | none => cases hmem
    | some pair =>
      obtain ⟨command, result⟩ := pair
      simp only [reaching] at hmem hlt
      split at hmem
      · next hreach =>
        rw [if_pos hreach, List.length_singleton] at hlt
        exact .inr ⟨by omega, command, result, rfl, List.mem_singleton.1 hmem⟩
      · cases hmem

theorem getElem?_posted_append {index : Nat} {posted : Posted} (more : List Posted)
    (h : x.posted[index]? = some posted) : (x.posted ++ more)[index]? = some posted := by
  obtain ⟨hlt, _⟩ := List.getElem?_eq_some_iff.1 h
  rw [List.getElem?_append_left hlt, h]

/-! ## The books about the peer -/

theorem Tidy.submit (h : Tidy x) (slot : Slot) (arrives : Bool)
    (given : Option (Command × Except LinkError Unit)) :
    Tidy { x with
      slot
      submissions := x.submissions + 1
      posted := x.posted ++ reaching (some x.submissions) arrives given } where
  sender_lt := by
    intro index command sink hposted
    rcases getElem?_reaching hposted with hposted | ⟨_, _, _, _, he⟩
    · exact Nat.lt_succ_of_lt (h.sender_lt index command sink hposted)
    · cases he
      exact Nat.lt_succ_self _
  sender_inj := by
    intro i j first second sink hi hj
    rcases getElem?_reaching hi with hi | ⟨hilast, _, _, _, hinew⟩
    · rcases getElem?_reaching hj with hj | ⟨_, _, _, _, hjnew⟩
      · exact h.sender_inj i j first second sink hi hj
      · cases hjnew
        exact absurd (h.sender_lt i first _ hi) (Nat.lt_irrefl _)
    · cases hinew
      rcases getElem?_reaching hj with hj | ⟨hjlast, _, _, _, _⟩
      · exact absurd (h.sender_lt j second _ hj) (Nat.lt_irrefl _)
      · rw [hilast, hjlast]
  sender_none := by
    intro index command hposted
    rcases getElem?_reaching hposted with hposted | ⟨_, _, _, _, he⟩
    · exact h.sender_none index command hposted
    · cases he
  answered_lt := by
    intro index hmem
    rw [List.length_append]
    exact Nat.lt_add_right _ (h.answered_lt index hmem)
  arrived_le := by
    rw [List.length_append]
    exact Nat.le_add_right_of_le h.arrived_le
  answers_nodup := h.answers_nodup
  answers := by
    intro item hitem index hindex
    obtain ⟨hanswered, command, sink, hposted, hsame⟩ := h.answers item hitem index hindex
    exact ⟨hanswered, command, sink, getElem?_posted_append _ hposted, hsame⟩
  remarks := h.remarks

theorem Tidy.submitLocal (h : Tidy x) (slot : Slot) :
    Tidy { x with slot, submissions := x.submissions + 1 } :=
  { h with
    sender_lt := fun index command sink hposted =>
      Nat.lt_succ_of_lt (h.sender_lt index command sink hposted) }

theorem Tidy.withSlot (h : Tidy x) (slot : Slot) : Tidy { x with slot } :=
  { h with }

theorem Tidy.answer (h : Tidy x) (index : Nat) (kind : FrameKind) (status : Status)
    (payload : Bytes) : Tidy (x.answer index kind status payload) := by
  rw [Exchange.answer]
  split
  · next command sender hposted =>
    split
    · next hcan =>
      obtain ⟨harrived, hnew, hcommand, _⟩ := hcan
      have hflight : index ∉ x.answersInFlight := by
        intro hmem
        obtain ⟨item, hitem, he⟩ := List.mem_filterMap.1 hmem
        exact hnew (h.answers item hitem index he).1
      exact { h with
        answered_lt := by
          intro other hmem
          rcases List.mem_append.1 hmem with hmem | hmem
          · exact h.answered_lt other hmem
          · rw [List.mem_singleton.1 hmem]
            exact Nat.lt_of_lt_of_le harrived h.arrived_le
        answers_nodup := by
          simp only [answersInFlight, List.filterMap_append, List.filterMap_cons,
            List.filterMap_nil]
          rw [List.nodup_append]
          refine ⟨h.answers_nodup, by simp, ?_⟩
          intro first hfirst second hsecond he
          rw [he, List.mem_singleton.1 hsecond] at hfirst
          exact hflight hfirst
        answers := by
          intro item hitem other hother
          rcases List.mem_append.1 hitem with hitem | hitem
          · obtain ⟨hanswered, hrest⟩ := h.answers item hitem other hother
            exact ⟨List.mem_append_left _ hanswered, hrest⟩
          · obtain rfl := List.mem_singleton.1 hitem
            cases hother
            refine ⟨List.mem_append_right _ (List.mem_singleton.2 rfl), ?_⟩
            cases sender with
            | none =>
              rw [h.sender_none index command hposted] at hcommand
              cases hcommand
            | some sink => exact ⟨command, sink, hposted, rfl, rfl⟩
        remarks := by
          intro item hitem hremark
          rcases List.mem_append.1 hitem with hitem | hitem
          · exact h.remarks item hitem hremark
          · obtain rfl := List.mem_singleton.1 hitem
            cases hremark }
    · exact h
  · exact h

theorem Tidy.remark (h : Tidy x) {frame : Frame} (hframe : frame.kind.isResponse = false) :
    Tidy { x with inbound := x.inbound ++ [⟨frame, none⟩] } :=
  { h with
    answers_nodup := by
      simp only [answersInFlight, List.filterMap_append, List.filterMap_cons, List.filterMap_nil,
        List.append_nil]
      exact h.answers_nodup
    answers := by
      intro item hitem index hindex
      rcases List.mem_append.1 hitem with hitem | hitem
      · exact h.answers item hitem index hindex
      · obtain rfl := List.mem_singleton.1 hitem
        cases hindex
    remarks := by
      intro item hitem hremark
      rcases List.mem_append.1 hitem with hitem | hitem
      · exact h.remarks item hitem hremark
      · obtain rfl := List.mem_singleton.1 hitem
        exact hframe }

/-- The next frame is taken, and an acknowledgment may be added. -/
theorem Tidy.route (h : Tidy x) (slot : Slot) {next : Inbound} {inbound : List Inbound}
    (hinbound : x.inbound = next :: inbound) (arrives : Bool)
    {given : Option (Command × Except LinkError Unit)}
    (hgiven : ∀ ack result, given = some (ack, result) → ack.isAck = true) :
    Tidy { x with slot, inbound, posted := x.posted ++ reaching none arrives given } where
  sender_lt := by
    intro index command sink hposted
    rcases getElem?_reaching hposted with hposted | ⟨_, _, _, _, he⟩
    · exact h.sender_lt index command sink hposted
    · cases he
  sender_inj := by
    intro i j first second sink hi hj
    rcases getElem?_reaching hi with hi | ⟨_, _, _, _, he⟩
    · rcases getElem?_reaching hj with hj | ⟨_, _, _, _, he⟩
      · exact h.sender_inj i j first second sink hi hj
      · cases he
    · cases he
  sender_none := by
    intro index command hposted
    rcases getElem?_reaching hposted with hposted | ⟨_, ack, result, hack, he⟩
    · exact h.sender_none index command hposted
    · cases he
      exact hgiven _ result hack
  answered_lt := by
    intro index hmem
    rw [List.length_append]
    exact Nat.lt_add_right _ (h.answered_lt index hmem)
  arrived_le := by
    rw [List.length_append]
    exact Nat.le_add_right_of_le h.arrived_le
  answers_nodup := by
    have hnodup := h.answers_nodup
    rw [answersInFlight, hinbound] at hnodup
    exact hnodup.sublist ((List.sublist_cons_self next inbound).filterMap _)
  answers := by
    intro item hitem index hindex
    have hmem : item ∈ x.inbound := hinbound ▸ List.mem_cons_of_mem _ hitem
    obtain ⟨hanswered, command, sink, hposted, hsame⟩ := h.answers item hmem index hindex
    exact ⟨hanswered, command, sink, getElem?_posted_append _ hposted, hsame⟩
  remarks := by
    intro item hitem hremark
    exact h.remarks item (hinbound ▸ List.mem_cons_of_mem _ hitem) hremark

/-- A response that is in flight answers a command of a submission. -/
theorem Tidy.answer_of_response (h : Tidy x) {item : Inbound} (hmem : item ∈ x.inbound)
    (hkind : item.frame.kind.isResponse = true) :
    ∃ index, item.answers = some index ∧ index ∈ x.answered ∧
      ∃ command sink, x.posted[index]? = some ⟨command, some sink⟩ ∧
        item.frame.token = command.token ∧ item.frame.request = command.request := by
  cases hanswers : item.answers with
  | none =>
    rw [h.remarks item hmem hanswers] at hkind
    cases hkind
  | some index => exact ⟨index, rfl, h.answers item hmem index hanswers⟩

/-- What the next frame answers is in flight with that frame only. -/
theorem Tidy.next_answer (h : Tidy x) {next : Inbound} {inbound : List Inbound}
    (hinbound : x.inbound = next :: inbound) {index : Nat} (hnext : next.answers = some index) :
    index ∈ x.answersInFlight ∧ index ∉ inbound.filterMap (·.answers) := by
  have hflight : x.answersInFlight = index :: inbound.filterMap (·.answers) := by
    rw [answersInFlight, hinbound, List.filterMap_cons_some hnext]
  have hnodup := h.answers_nodup
  rw [hflight, List.nodup_cons] at hnodup
  exact ⟨hflight ▸ List.mem_cons_self, hnodup.1⟩

/-! ## Who owns the tokens of unsettled commands -/

/-- No owner that waits for the peer comes or goes. -/
def SamePeers (before after : Registry) : Prop :=
  ∀ token owner, owner.origin = .peer →
    (after.owner? token = some owner ↔ before.owner? token = some owner)

theorem samePeers_of_owners {before after : Registry}
    (h : ∀ token, after.owner? token = before.owner? token) : SamePeers before after := by
  intro token owner _
  rw [h]

theorem SamePeers.trans {before between after : Registry} (hfirst : SamePeers before between)
    (hsecond : SamePeers between after) : SamePeers before after :=
  fun token owner hpeer => (hsecond token owner hpeer).trans (hfirst token owner hpeer)

theorem samePeers_remove {registry : Registry} {token : Token}
    (h : ∀ owner, registry.owner? token = some owner → owner.origin ≠ .peer) :
    SamePeers registry (registry.remove token) := by
  intro other owner hpeer
  rw [Registry.owner?_remove]
  split
  · next he =>
    subst he
    constructor
    · intro howner
      cases howner
    · intro howner
      exact absurd hpeer (h owner howner)
  · rfl

theorem samePeers_complete (registry : Registry) (token : Token) :
    SamePeers registry (registry.complete token .vendor).1 := by
  rcases Registry.complete_cases registry token .vendor with
    ⟨entry, hfind, horigin, hcomplete⟩ | ⟨hcomplete, _⟩
  · rw [hcomplete]
    refine samePeers_remove ?_
    intro owner howner
    rw [Registry.owner?_of_find? hfind, Option.some.injEq] at howner
    rw [← howner, PendingRequest.owner, horigin]
    intro hpeer
    cases hpeer
  · rw [hcomplete]
    exact samePeers_of_owners fun _ => rfl

theorem samePeers_completions (registry : Registry) (token : Token)
    (completions : List (Status × Bytes)) :
    SamePeers registry
      (completions.foldl (fun registry _ => (registry.complete token .vendor).1) registry) := by
  induction completions generalizing registry with
  | nil => exact samePeers_of_owners fun _ => rfl
  | cons completion completions ih => exact (samePeers_complete registry token).trans (ih _)

theorem samePeers_register {registry : Registry} {token : Token}
    (hfree : registry.contains token = false) (nextToken : UInt32) (request : RequestId)
    (sink : Sink) :
    SamePeers registry
      ({ registry with nextToken }.add { token, request, sink, origin := .vendor }) := by
  intro other owner hpeer
  rw [Registry.owner?_add hfree]
  split
  · next he =>
    obtain rfl : token = other := he
    constructor
    · intro howner
      cases howner
      cases hpeer
    · intro howner
      have hnone : registry.owner? token = none := Registry.owner?_eq_none_iff.2 hfree
      rw [hnone] at howner
      cases howner
  · rfl

/-- A request served in process takes a token that nobody has, and only that can be taken back. -/
theorem samePeers_submitLocal (s : Slot) (request : RequestId) (data : Bytes) (sink : Sink) :
    SamePeers s.registry (s.submitLocal request data sink).1.registry := by
  rcases s.submitLocal_registry request data sink with
    hrefused | ⟨token, nextToken, hfree, completions, completed, hcompleted, hlast⟩
  · rw [hrefused]
    exact samePeers_of_owners fun _ => rfl
  · have hsame : SamePeers s.registry completed :=
      hcompleted ▸ (samePeers_register hfree nextToken request sink).trans
        (samePeers_completions _ token completions)
    rcases hlast with hlast | hlast
    · rw [hlast]
      exact hsame
    · rw [hlast]
      refine hsame.trans (samePeers_remove ?_)
      intro owner howner hpeer
      have hnone : s.registry.owner? token = none := Registry.owner?_eq_none_iff.2 hfree
      rw [(hsame token owner hpeer).1 howner] at hnone
      cases hnone

/-- Nothing is posted for a submission, nothing becomes unsettled, and the owners that wait for the
peer stay. -/
theorem Linked.mono (h : Linked x) {y : Exchange} (hidle : y.slot.outlet.IsIdle)
    (hopen : y.slot.outlet.isClosing = false → x.slot.outlet.isClosing = false)
    (hpeers : SamePeers x.slot.registry y.slot.registry)
    (hposted : ∀ (index : Nat) (command : Command) (sink : Sink),
      y.posted[index]? = some ⟨command, some sink⟩ → x.posted[index]? = some ⟨command, some sink⟩)
    (hunsettled : ∀ index, y.Unsettled index → x.Unsettled index) : Linked y where
  idle := hidle
  owned := by
    intro index command sink owner hp hu howner hpeer
    exact h.owned index command sink owner (hposted _ _ _ hp) (hunsettled _ hu)
      ((hpeers _ _ hpeer).1 howner) hpeer
  pending := by
    intro hclosing index command sink hp hu
    exact (hpeers _ _ rfl).2
      (h.pending (hopen hclosing) index command sink (hposted _ _ _ hp) (hunsettled _ hu))

/-- While the outlet is open, no unsettled command has a token that nobody owns. -/
theorem Linked.token_ne (h : Linked x) (hopen : x.slot.outlet.isClosing = false)
    {token : Token} (hfree : x.slot.registry.owner? token = none) {index : Nat} {command : Command}
    {sink : Sink} (hposted : x.posted[index]? = some ⟨command, some sink⟩)
    (hunsettled : x.Unsettled index) : token ≠ command.token := by
  rintro rfl
  rw [h.pending hopen index command sink hposted hunsettled] at hfree
  cases hfree

theorem Linked.submit (h : Linked x) (writing : Writing) (chosen : Option Token)
    (request : RequestId) (payload : Payload) (arrives : Bool) :
    Linked (x.act (.submit chosen request payload writing arrives)) := by
  rw [act]
  rcases Slot.submitNow_cases h.idle writing chosen request payload x.submissions with
    ⟨registry, hsubmit, howners⟩ |
    ⟨registry, written, sent, hopen, hsubmit, hfree, howners⟩ |
    ⟨registry, written, effects, e, hopen, _, hsubmit, hfree, howners⟩
  · rw [hsubmit]
    refine h.mono h.idle id (samePeers_of_owners howners) ?_ (fun _ => id)
    intro index command sink hposted
    simpa [reaching] using hposted
  · -- The token was free, so no unsettled command has it but the one that was just written.
    rw [hsubmit]
    refine ⟨h.idle, ?_, ?_⟩
    · intro index command sink owner hposted hunsettled howner hpeer
      rcases getElem?_reaching hposted with hposted | ⟨_, _, _, hgiven, he⟩
      · have hne := h.token_ne hopen hfree hposted hunsettled
        rw [howners, if_neg hne] at howner
        exact h.owned index command sink owner hposted hunsettled howner hpeer
      · cases hgiven
        cases he
        rw [howners, if_pos rfl] at howner
        exact (Option.some.inj howner).symm
    · intro _ index command sink hposted hunsettled
      rcases getElem?_reaching hposted with hposted | ⟨_, _, _, hgiven, he⟩
      · have hne := h.token_ne hopen hfree hposted hunsettled
        rw [howners, if_neg hne]
        exact h.pending hopen index command sink hposted hunsettled
      · cases hgiven
        cases he
        rw [howners, if_pos rfl]
  · -- The command may have arrived, but its token was taken back and stays without an owner.
    rw [hsubmit]
    refine ⟨h.idle.broken, ?_, fun hclosing => by cases hclosing⟩
    intro index command sink owner hposted hunsettled howner hpeer
    rw [howners] at howner
    rcases getElem?_reaching hposted with hposted | ⟨_, _, _, hgiven, he⟩
    · exact h.owned index command sink owner hposted hunsettled howner hpeer
    · cases hgiven
      cases he
      rw [hfree] at howner
      cases howner

/-- What is done on the side of the slot without the stream. -/
theorem Linked.keep (h : Linked x) {slot : Slot} (submissions : Nat)
    (houtlet : slot.outlet = x.slot.outlet) (hpeers : SamePeers x.slot.registry slot.registry) :
    Linked { x with slot, submissions } := by
  refine h.mono ?_ ?_ hpeers (fun _ _ _ => id) (fun _ => id)
  · exact houtlet ▸ h.idle
  · intro hopen
    rwa [houtlet] at hopen

/-- An answer that the peer sends leaves its command unsettled. -/
theorem Linked.answer (h : Linked x) (index : Nat) (kind : FrameKind) (status : Status)
    (payload : Bytes) : Linked (x.answer index kind status payload) := by
  rw [Exchange.answer]
  split
  · split
    · next hcan =>
      refine h.mono h.idle id (samePeers_of_owners fun _ => rfl) (fun _ _ _ => id) ?_
      intro other hunsettled
      rcases hunsettled with hnot | hflight
      · exact .inl fun hmem => hnot (List.mem_append_left _ hmem)
      · simp only [answersInFlight, List.filterMap_append, List.filterMap_cons, List.filterMap_nil,
          List.mem_append, List.mem_singleton] at hflight
        rcases hflight with hflight | rfl
        · exact .inr hflight
        · exact .inl hcan.2.1
    · exact h
  · exact h

theorem Linked.remark (h : Linked x) (frame : Frame) :
    Linked { x with inbound := x.inbound ++ [⟨frame, none⟩] } := by
  refine h.mono h.idle id (samePeers_of_owners fun _ => rfl) (fun _ _ _ => id) ?_
  intro index hunsettled
  simpa [Unsettled, answersInFlight] using hunsettled

/-- A response that is routed settles its command, and takes the token away from it. -/
theorem Linked.route (ht : Tidy x) (h : Linked x) (writing : Writing) (arrives : Bool) :
    Linked (x.route writing arrives) := by
  rw [Exchange.route]
  split
  · exact h
  · next next inbound hinbound =>
    obtain ⟨registry, outlet, effects, given, hroute, hroutes, houtlet, _⟩ :=
      Slot.routeNow_routes h.idle writing next.frame
    rw [hroute]
    have hidle : outlet.IsIdle := by
      rcases houtlet with rfl | rfl
      · exact h.idle
      · exact h.idle.broken
    have hopen : outlet.isClosing = false → x.slot.outlet.isClosing = false := by
      rcases houtlet with rfl | rfl
      · exact id
      · intro hclosing
        cases hclosing
    have hposted : ∀ (index : Nat) (command : Command) (sink : Sink),
        (x.posted ++ reaching none arrives given)[index]? = some ⟨command, some sink⟩ →
        x.posted[index]? = some ⟨command, some sink⟩ := by
      intro index command sink hp
      rcases getElem?_reaching hp with hp | ⟨_, _, _, _, he⟩
      · exact hp
      · cases he
    have hunsettled : ∀ index, index ∉ x.answered ∨ index ∈ inbound.filterMap (·.answers) →
        x.Unsettled index := by
      intro index hu
      rcases hu with hnot | hflight
      · exact .inl hnot
      · refine .inr ?_
        rw [answersInFlight, hinbound]
        exact ((List.sublist_cons_self next inbound).filterMap _).subset hflight
    cases hroutes with
    | silent _ howners _ =>
      exact h.mono hidle hopen (samePeers_of_owners howners) hposted hunsettled
    | response entry hkind htoken horigin howner howners _ =>
      refine ⟨hidle, ?_, ?_⟩
      · intro index command sink owner hp hu hown hpeer
        rw [howners] at hown
        split at hown
        · cases hown
        · exact h.owned index command sink owner (hposted _ _ _ hp) (hunsettled _ hu) hown hpeer
      · intro hclosing index command sink hp hu
        have hp := hposted _ _ _ hp
        have hpending := h.pending (hopen hclosing) index command sink hp (hunsettled _ hu)
        rw [howners, if_neg ?_, hpending]
        -- Another command with this token would have the same owner, so it is the one that the
        -- frame answers; but that is settled now.
        intro he
        obtain ⟨settled, hsettled, hanswered, other, sender, hother, hsame, _⟩ :=
          ht.answer_of_response (hinbound ▸ List.mem_cons_self) hkind
        obtain ⟨hflight, hgone⟩ := ht.next_answer hinbound hsettled
        have hotherPending := h.pending (hopen hclosing) settled other sender hother (.inr hflight)
        rw [← hsame, he, hpending] at hotherPending
        rw [Option.some.injEq, Owner.mk.injEq] at hotherPending
        obtain rfl : sink = sender := hotherPending.2.1
        obtain rfl := ht.sender_inj index settled command other sink hp hother
        rcases hu with hnot | hlater
        · exact hnot hanswered
        · exact hgone hlater

/-! ## Moves and runs -/

theorem tidy_act (h : Tidy x) (hl : Linked x) (move : Move) : Tidy (x.act move) := by
  cases move with
  | submit chosen request payload writing arrives => exact h.submit _ arrives _
  | submitLocal request data => exact h.submitLocal _
  | completeLocal token status payload => exact h.withSlot _
  | cancel token => exact h.withSlot _
  | registerCallbacks callbacks => exact h.withSlot _
  | receive =>
    rw [act]
    split
    · next hlt => exact { h with arrived_le := hlt }
    · exact h
  | answer index kind status payload => exact h.answer index kind status payload
  | remark frame =>
    rw [act]
    split
    · exact h
    · next hframe => exact h.remark (by simpa using hframe)
  | route writing arrives =>
    rw [act, route]
    split
    · exact h
    · next next inbound hinbound =>
      obtain ⟨_, _, _, _, hroute, _, _, hgiven⟩ := Slot.routeNow_routes hl.idle writing next.frame
      rw [hroute]
      exact h.route _ hinbound arrives hgiven

theorem linked_act (ht : Tidy x) (h : Linked x) (move : Move) : Linked (x.act move) := by
  cases move with
  | submit chosen request payload writing arrives =>
    exact h.submit writing chosen request payload arrives
  | submitLocal request data =>
    exact h.keep (x.submissions + 1) (x.slot.outlet_submitLocal request data x.submissions)
      (samePeers_submitLocal x.slot request data x.submissions)
  | completeLocal token status payload =>
    refine h.keep x.submissions (x.slot.outlet_completeLocal token status payload) ?_
    rw [Slot.registry_completeLocal]
    exact samePeers_complete x.slot.registry token
  | cancel token =>
    refine h.keep x.submissions (x.slot.outlet_cancel token) ?_
    rw [Slot.registry_cancel]
    exact samePeers_of_owners fun other => x.slot.registry.owner?_cancel token other
  | registerCallbacks callbacks =>
    exact h.keep x.submissions rfl (samePeers_of_owners fun _ => rfl)
  | receive =>
    rw [act]
    split
    · exact { h with }
    · exact h
  | answer index kind status payload => exact h.answer index kind status payload
  | remark frame =>
    rw [act]
    split
    · exact h
    · exact h.remark frame
  | route writing arrives => exact h.route ht writing arrives

theorem linked_takeLog (h : Linked x) : Linked { x with slot := x.slot.takeLog.1 } :=
  h.keep x.submissions rfl (samePeers_of_owners fun _ => rfl)

theorem start_linked (id : SlotId) (options : SlotOptions) :
    Tidy (start id options) ∧ Linked (start id options) := by
  refine ⟨?_, ?_⟩
  · constructor <;> simp [start, answersInFlight]
  · refine ⟨⟨rfl, rfl, fun _ => rfl⟩, ?_, ?_⟩ <;> simp [start]

theorem run_linked (ht : Tidy x) (h : Linked x) (moves : List Move) :
    Tidy (x.run moves) ∧ Linked (x.run moves) := by
  induction moves generalizing x with
  | nil => exact ⟨ht, h⟩
  | cons move moves ih =>
    have htaken : Tidy { x with slot := x.slot.takeLog.1 } := ht.withSlot _
    exact ih (tidy_act htaken (linked_takeLog h) move)
      (linked_act htaken (linked_takeLog h) move)

/-- **No cross-delivery.** Whenever a slot routes the next frame, after any run, a response that
goes to a sink was built from the peer's answer to the command that the submission with this sink
wrote: the frame carries the token and the request of this command, no other command is from this
submission, and no other frame in flight answers it. -/
theorem responses_reach_their_submission (id : SlotId) (options : SlotOptions) (moves : List Move)
    (writing : Writing) (arrives : Bool) (delivery : Delivery) :
    let x := (start id options).run moves
    .resolved delivery ∈ (x.step (.route writing arrives)).slot.log →
    ∃ (frame : Frame) (inbound : List Inbound) (index : Nat) (command : Command)
      (pending : PendingRequest),
      x.inbound = ⟨frame, some index⟩ :: inbound ∧
      x.posted[index]? = some ⟨command, some delivery.sink⟩ ∧
      frame.token = command.token ∧ frame.request = command.request ∧
      pending.token = command.token ∧ pending.request = command.request ∧
      delivery.response
        = x.slot.buildResponse pending command.request frame.status frame.payload ∧
      (∀ (other : Nat) (second : Command),
        x.posted[other]? = some ⟨second, some delivery.sink⟩ → other = index) ∧
      ∀ item ∈ inbound, item.answers ≠ some index := by
  intro x hmem
  obtain ⟨ht, hl⟩ : Tidy x ∧ Linked x :=
    run_linked (start_linked id options).1 (start_linked id options).2 moves
  have hidle : x.slot.takeLog.1.outlet.IsIdle := hl.idle
  simp only [step, act, route] at hmem
  split at hmem
  · cases hmem
  · next next inbound hinbound =>
    obtain ⟨registry, outlet, effects, given, hroute, hroutes, _, _⟩ :=
      Slot.routeNow_routes hidle writing next.frame
    rw [hroute] at hmem
    cases hroutes with
    | silent hsilent _ _ => exact absurd hmem (hsilent delivery)
    | response entry hkind htoken horigin howner _ hdelivered =>
      obtain rfl := hdelivered delivery hmem
      obtain ⟨frame, answers⟩ := next
      obtain ⟨index, rfl, hanswered, command, sender, hposted, hsame, hrequest⟩ :=
        ht.answer_of_response (hinbound ▸ List.mem_cons_self) hkind
      obtain ⟨hflight, hgone⟩ := ht.next_answer hinbound rfl
      rw [hsame] at howner
      have howned := hl.owned index command sender entry.owner hposted (.inr hflight) howner horigin
      rw [PendingRequest.owner, Owner.mk.injEq] at howned
      obtain ⟨hentryRequest, rfl, _⟩ := howned
      refine ⟨frame, inbound, index, command, entry, hinbound, hposted, hsame, hrequest,
        htoken.trans hsame, hentryRequest, ?_, ?_, ?_⟩
      · show _ = x.slot.buildResponse entry command.request frame.status frame.payload
        rw [← hrequest]
        rfl
      · intro other second hother
        exact ht.sender_inj other index second command _ hother hposted
      · intro item hitem he
        exact hgone (List.mem_filterMap.2 ⟨item, hitem, he⟩)

/-- The answer to a withdrawn request is discarded; its token is used again, and the next answer
reaches the second submission, with the payload of that answer. -/
theorem response_reaches_second_submission :
    let x := (start ⟨0⟩ {}).run [
      .registerCallbacks { table := .withShapes {} ⟨20⟩ .void .raw },
      .submit (some ⟨5⟩) ⟨20⟩ .void .succeeds false, .receive, .cancel ⟨5⟩,
      .answer 0 .solicited ⟨0⟩ [1], .route .succeeds false,
      .submit (some ⟨5⟩) ⟨20⟩ .void .succeeds false, .receive,
      .answer 1 .solicitedAckExpected ⟨0⟩ [2]]
    let response : Response := ⟨⟨0⟩, ⟨5⟩, ⟨20⟩, ⟨0⟩, .ok (.raw [2])⟩
    (x.step (.route .succeeds false)).slot.log = [
      .published (.frameReceived .solicitedAckExpected ⟨5⟩ 20 ⟨0⟩ 1),
      .wrote (Command.ack ⟨5⟩).encode, .published (.ackSent ⟨5⟩), .resolved ⟨1, response⟩] ∧
    ∃ (frame : Frame) (inbound : List Inbound) (index : Nat) (command : Command)
      (pending : PendingRequest),
      x.inbound = ⟨frame, some index⟩ :: inbound ∧ x.posted[index]? = some ⟨command, some 1⟩ ∧
      frame.token = command.token ∧ frame.request = command.request ∧
      response = x.slot.buildResponse pending command.request frame.status frame.payload := by
  intro x response
  have hlog : (x.step (.route .succeeds false)).slot.log = [
      .published (.frameReceived .solicitedAckExpected ⟨5⟩ 20 ⟨0⟩ 1),
      .wrote (Command.ack ⟨5⟩).encode, .published (.ackSent ⟨5⟩), .resolved ⟨1, response⟩] := rfl
  have hmem : .resolved ⟨1, response⟩ ∈ (x.step (.route .succeeds false)).slot.log := by
    rw [hlog]
    exact List.mem_of_mem_getLast? rfl
  obtain ⟨frame, inbound, index, command, pending, hinbound, hposted, htoken, hrequest, -, -,
    hresponse, -⟩ := responses_reach_their_submission ⟨0⟩ {} _ .succeeds false _ hmem
  exact ⟨hlog, frame, inbound, index, command, pending, hinbound, hposted, htoken, hrequest,
    hresponse⟩

end Exchange

end RadioLink
