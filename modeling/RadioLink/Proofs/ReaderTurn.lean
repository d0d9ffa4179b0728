import RadioLink.Proofs.Session

set_option autoImplicit false

/-! # The reader at the outlet

While an outlet is open every turn at it is for writing, so whoever is first has the stream to
itself until its frame is written in full. What others do there leaves the reader as it is: its
turn, what it is to be told, and its place at the front (`KeepsReader`). -/

namespace RadioLink

namespace Outlet

variable {o next : Outlet}

/-- Whatever is within the limit is accepted, and will be written. -/
structure IsOpen (o : Outlet) : Prop where
  isClosing : o.isClosing = false
  hasStream : o.hasStream = true
  isSend : ∀ turn ∈ o.turns, isSend turn = true

def readerTurns (o : Outlet) : List Turn :=
  o.turns.filter fun turn => turn.party == .reader

def readerOutcomes (o : Outlet) : List (Party × Outcome) :=
  o.outcomes.filter fun entry => entry.1 == .reader

/-- The reader keeps what it has, and its place if it is first. -/
structure KeepsReader (o next : Outlet) : Prop where
  isOpen : next.IsOpen
  limit : next.limit = o.limit
  turns : next.readerTurns = o.readerTurns
  outcomes : next.readerOutcomes = o.readerOutcomes
  head : ∀ turn, o.turns.head? = some turn → turn.party = .reader → next.turns.head? = some turn

theorem keepsReader_refl (h : o.IsOpen) : o.KeepsReader o where
  isOpen := h
  limit := rfl
  turns := rfl
  outcomes := rfl
  head := fun _ hhead _ => hhead

theorem offer_ok {party : Party} {body : Bytes} (h : o.offer party body = .ok next) :
    next = o.enqueue party (.send (lengthPrefixed body)) := by
  rw [offer, frameFor] at h
  split at h
  · cases h
  · split at h <;> cases h
    rfl

/-- What is offered with success is within the limit, and the outlet is not closing. -/
theorem accepts_of_offer {party : Party} {body : Bytes} (h : o.offer party body = .ok next) :
    o.isClosing = false ∧ body.length ≤ o.limit.toNat := by
  rw [offer, frameFor] at h
  split at h
  · cases h
  · next hopen =>
    split at h
    · cases h
    · next hlimit => exact ⟨by simpa using hopen, Nat.le_of_not_lt hlimit⟩

theorem offer_of_isOpen (h : o.IsOpen) {body : Bytes} (hlimit : body.length ≤ o.limit.toNat)
    (party : Party) :
    o.offer party body = .ok (o.enqueue party (.send (lengthPrefixed body))) := by
  rw [offer, frameFor, if_neg (by rw [h.isClosing]; exact Bool.false_ne_true),
    if_neg (Nat.not_lt.2 hlimit)]
  rfl

theorem isOpen_enqueue (h : o.IsOpen) (party : Party) (rest : Bytes) :
    (o.enqueue party (.send rest)).IsOpen where
  isClosing := h.isClosing
  hasStream := h.hasStream
  isSend := by
    intro turn hmem
    rcases List.mem_append.1 hmem with hmem | hmem
    · exact h.isSend turn hmem
    · rw [List.mem_singleton.1 hmem]
      rfl

/-- Whoever is first stays first when others come. -/
theorem head?_enqueue {turn : Turn} (hhead : o.turns.head? = some turn) (party : Party)
    (errand : Errand) : (o.enqueue party errand).turns.head? = some turn := by
  rw [enqueue, List.head?_append, hhead]
  rfl

theorem keepsReader_offer (h : o.IsOpen) {ticket : Nat} {body : Bytes}
    (hoffer : o.offer (.caller ticket) body = .ok next) : o.KeepsReader next := by
  rw [offer_ok hoffer]
  refine ⟨isOpen_enqueue h _ _, rfl, ?_, rfl, fun turn hhead _ => head?_enqueue hhead _ _⟩
  rw [readerTurns, enqueue, List.filter_append]
  exact List.append_nil _

theorem keepsReader_leave (h : o.IsOpen) (ticket : Nat) :
    o.KeepsReader (o.leave (.caller ticket)) where
  isOpen := ⟨h.isClosing, h.hasStream, fun turn hmem => h.isSend turn (List.mem_filter.1 hmem).1⟩
  limit := rfl
  turns := by
    rw [readerTurns, leave, List.filter_filter]
    refine List.filter_congr fun turn _ => ?_
    cases turn.party <;> simp
  outcomes := by
    rw [readerOutcomes, leave, List.filter_filter]
    refine List.filter_congr fun entry _ => ?_
    cases entry.1 <;> simp
  head := by
    intro turn hhead hparty
    obtain ⟨turns, hturns⟩ := List.head?_eq_some_iff.1 hhead
    rw [leave, hturns, List.filter_cons, if_pos (by rw [hparty]; rfl)]
    rfl

/-- What is told to a caller was not meant for the reader. -/
theorem keepsReader_tell? (h : o.IsOpen) {ticket : Nat} {outcome : Outcome}
    (htell : o.tell? (.caller ticket) = some (next, outcome)) : o.KeepsReader next := by
  rw [(of_tell? htell).2]
  refine ⟨⟨h.isClosing, h.hasStream, h.isSend⟩, rfl, rfl, ?_, fun _ hhead _ => hhead⟩
  simp only [readerOutcomes]
  induction o.outcomes with
  | nil => rfl
  | cons entry outcomes ih =>
    by_cases hentry : entry.1 = .caller ticket
    · rw [List.eraseP_cons_of_pos (by simpa using hentry), List.filter_cons,
        if_neg (by rw [hentry]; exact Bool.false_ne_true)]
    · rw [List.eraseP_cons_of_neg (by simpa using hentry), List.filter_cons, List.filter_cons, ih]

/-- What the reader is told is the first thing that was kept for it. -/
theorem readerOutcomes_tell? {outcome : Outcome} (htell : o.tell? .reader = some (next, outcome)) :
    o.readerOutcomes = (.reader, outcome) :: next.readerOutcomes := by
  obtain ⟨⟨party, what⟩, hfind, hentry⟩ := Option.map_eq_some_iff.1 htell
  cases hentry
  simp only [readerOutcomes]
  clear htell
  generalize o.outcomes = outcomes at hfind ⊢
  induction outcomes with
  | nil => cases hfind
  | cons entry outcomes ih =>
    rw [List.find?_cons] at hfind
    by_cases hentry : entry.1 = .reader
    · have hparty : (entry.1 == Party.reader) = true := beq_iff_eq.2 hentry
      rw [hparty] at hfind
      cases hfind
      obtain rfl : party = .reader := hentry
      rw [List.eraseP_cons_of_pos (by exact hparty), List.filter_cons, if_pos hparty]
    · have hparty : (entry.1 == Party.reader) = false := beq_eq_false_iff_ne.2 hentry
      rw [hparty] at hfind
      rw [List.eraseP_cons_of_neg (by simpa using hentry), List.filter_cons, List.filter_cons,
        hparty, ih hfind]
      rfl

/-- An open outlet has no turn that is attended to. -/
theorem attend_of_isOpen (h : o.IsOpen) : o.attend.1 = o := by
  rw [attend]
  split
  · next party turns hturns =>
    have hsend := h.isSend ⟨party, .inquire⟩ (hturns ▸ List.mem_cons_self)
    cases hsend
  · next party turns hturns =>
    have hsend := h.isSend ⟨party, .shut⟩ (hturns ▸ List.mem_cons_self)
    cases hsend
  · rfl

/-! ## Writing -/

/-- The stream accepts nothing when nobody has it. -/
theorem accept_of_nil (h : o.turns = []) (count : Nat) : o.accept count = (o, []) := by
  rw [accept, h]

theorem limit_accept (o : Outlet) (count : Nat) : (o.accept count).1.limit = o.limit := by
  rw [accept]
  split
  · split
    · dsimp only
      split <;> rfl
    · rfl
  · rfl

theorem isClosing_accept (o : Outlet) (count : Nat) :
    (o.accept count).1.isClosing = o.isClosing := by
  rw [accept]
  split
  · split
    · dsimp only
      split <;> rfl
    · rfl
  · rfl

/-- The first turn at an open outlet goes on, and ends when its frame is written in full. -/
theorem accept_of_cons (h : o.IsOpen) {party : Party} {rest : Bytes} {turns : List Turn}
    (hturns : o.turns = ⟨party, .send rest⟩ :: turns) (count : Nat) :
    (rest.drop count ≠ [] ∧ o.accept count
      = ({ o with turns := ⟨party, .send (rest.drop count)⟩ :: turns }, rest.take count)) ∨
    (rest.drop count = [] ∧ o.accept count
      = (o.finish party (.sent (.ok ())) turns, rest.take count)) := by
  rw [accept, hturns, h.hasStream]
  by_cases hleft : rest.drop count = []
  · exact .inr ⟨hleft, by simp only [hleft, List.isEmpty_nil, if_true]⟩
  · refine .inl ⟨hleft, ?_⟩
    simp only [List.isEmpty_eq_false_iff.2 hleft, Bool.false_eq_true, if_true, if_false]

/-- What is first at an open outlet is a frame. -/
theorem eq_send_of_isOpen (h : o.IsOpen) {turn : Turn} (hmem : turn ∈ o.turns) :
    ∃ rest, turn = ⟨turn.party, .send rest⟩ := by
  have hsend := h.isSend turn hmem
  obtain ⟨party, errand⟩ := turn
  cases errand with
  | send rest => exact ⟨rest, rfl⟩
  | inquire => cases hsend
  | shut => cases hsend

theorem isOpen_accept (h : o.IsOpen) (count : Nat) : (o.accept count).1.IsOpen := by
  cases hturns : o.turns with
  | nil =>
    rw [accept_of_nil hturns]
    exact h
  | cons turn turns =>
    have hall : ∀ other ∈ turns, isSend other = true := fun other hmem =>
      h.isSend other (hturns ▸ List.mem_cons_of_mem _ hmem)
    obtain ⟨rest, hturn⟩ := eq_send_of_isOpen h (hturns ▸ List.mem_cons_self)
    rw [hturn] at hturns
    rcases accept_of_cons h hturns count with ⟨-, haccept⟩ | ⟨-, haccept⟩ <;> rw [haccept]
    · exact ⟨h.isClosing, h.hasStream, List.forall_mem_cons.2 ⟨rfl, hall⟩⟩
    · exact ⟨h.isClosing, h.hasStream, hall⟩

/-- The reader is left alone while the stream is not its own. -/
theorem keepsReader_accept (h : o.IsOpen) (count : Nat)
    (hhead : ∀ turn, o.turns.head? = some turn → turn.party ≠ .reader) :
    o.KeepsReader (o.accept count).1 := by
  have hopen := isOpen_accept h count
  have hnotFirst : ∀ turn, o.turns.head? = some turn → turn.party = .reader →
      (o.accept count).1.turns.head? = some turn :=
    fun turn hfirst hparty => absurd hparty (hhead turn hfirst)
  cases hturns : o.turns with
  | nil =>
    rw [accept_of_nil hturns]
    exact keepsReader_refl h
  | cons turn turns =>
    have hparty : (turn.party == .reader) = false :=
      beq_eq_false_iff_ne.2 (hhead turn (by rw [hturns]; rfl))
    obtain ⟨rest, hturn⟩ := eq_send_of_isOpen h (hturns ▸ List.mem_cons_self)
    rw [hturn] at hturns
    rcases accept_of_cons h hturns count with ⟨-, haccept⟩ | ⟨-, haccept⟩ <;>
      rw [haccept] at hopen hnotFirst ⊢
    · refine ⟨hopen, rfl, ?_, rfl, hnotFirst⟩
      simp only [readerTurns, hturns, List.filter_cons, hparty, Bool.false_eq_true, if_false]
    · refine ⟨hopen, rfl, ?_, ?_, hnotFirst⟩
      · simp only [readerTurns, finish, hturns, List.filter_cons, hparty, Bool.false_eq_true,
          if_false]
      · simp only [readerOutcomes, finish, List.filter_append, List.filter_cons, hparty,
          Bool.false_eq_true, if_false, List.filter_nil, List.append_nil]

end Outlet

end RadioLink
