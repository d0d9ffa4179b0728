import RadioLink.Proofs.ReaderTurn
import RadioLink.Proofs.Tickets

set_option autoImplicit false

/-! # Submissions taken apart

In a session a submission registers its request and offers its command in one step. `Stride` takes
the two apart, so that anything may come in between, and tells a submission that was refused so in a
third stride. Nothing is lost by that: where nothing comes in between, the three strides are the
step (`step_submit`).

That needs a new ticket to be unknown in the session, which it is in every session that was started
(`Session.IsFresh`), as nobody waits at the outlet who has not been given a ticket
(`Outlet.parties`). -/

namespace RadioLink

/-! ## Who is known at an outlet -/

namespace Outlet

variable {o : Outlet} {party : Party}

/-- Who has a turn, waits for one, or is to be told what one came to. -/
def parties (o : Outlet) : List Party :=
  o.turns.map (·.party) ++ o.outcomes.map (·.1)

theorem mem_parties : party ∈ o.parties ↔
    (∃ turn ∈ o.turns, turn.party = party) ∨ ∃ entry ∈ o.outcomes, entry.1 = party := by
  simp only [parties, List.mem_append, List.mem_map]

theorem parties_enqueue (o : Outlet) (party : Party) (errand : Errand) :
    (o.enqueue party errand).parties ⊆ party :: o.parties := by
  intro other hmem
  simp only [mem_parties, enqueue, List.mem_append, List.mem_singleton] at hmem
  grind [mem_parties]

/-- Who had the first turn is to be told what it came to. -/
theorem parties_finish {errand : Errand} {turns : List Turn}
    (hturns : o.turns = ⟨party, errand⟩ :: turns) (outcome : Outcome) :
    (o.finish party outcome turns).parties ⊆ o.parties := by
  intro other hmem
  simp only [parties, finish, hturns, List.map_append, List.map_cons, List.map_nil,
    List.mem_append, List.mem_cons, List.not_mem_nil, or_false] at hmem ⊢
  tauto

theorem parties_giveUpSends (o : Outlet) : o.giveUpSends.parties ⊆ o.parties := by
  intro other hmem
  simp only [mem_parties, giveUpSends, List.mem_append, List.mem_filter, List.mem_map] at hmem
  grind [mem_parties]

theorem parties_abortNow (o : Outlet) : o.abortNow.parties ⊆ o.parties :=
  o.parties_giveUpSends

theorem parties_leave (o : Outlet) (party : Party) : (o.leave party).parties ⊆ o.parties := by
  intro other hmem
  simp only [mem_parties, leave, List.mem_filter] at hmem
  grind [mem_parties]

theorem parties_accept (o : Outlet) (count : Nat) : (o.accept count).1.parties ⊆ o.parties := by
  rw [accept]
  split
  · next party rest turns hturns =>
    split
    · dsimp only
      split
      · exact parties_finish hturns _
      · rw [parties, parties, hturns]
        exact List.Subset.refl _
    · exact parties_finish hturns _
  · exact List.Subset.refl _

theorem parties_fail (o : Outlet) (reason : String) : (o.fail reason).parties ⊆ o.parties := by
  rw [fail]
  split
  · next party rest turns hturns =>
    exact List.Subset.trans (parties_giveUpSends _) (parties_finish hturns _)
  · exact List.Subset.refl _

theorem parties_attend (o : Outlet) : o.attend.1.parties ⊆ o.parties := by
  fun_induction attend o with
  | case1 o party turns hturns ih => exact List.Subset.trans ih (parties_finish hturns _)
  | case2 o party turns hturns next _ hnext ih =>
    rw [hnext] at ih
    exact List.Subset.trans ih (parties_finish (o := { o with hasStream := false }) hturns _)
  | case3 o => exact List.Subset.refl _

theorem parties_tell? {next : Outlet} {outcome : Outcome}
    (htell : o.tell? party = some (next, outcome)) : next.parties ⊆ o.parties := by
  rw [(of_tell? htell).2]
  intro other hmem
  rcases mem_parties.1 hmem with hturn | ⟨entry, hentry, hother⟩
  · exact mem_parties.2 (.inl hturn)
  · exact mem_parties.2 (.inr ⟨entry, List.mem_of_mem_eraseP hentry, hother⟩)

end Outlet

namespace Slot

variable {s : Slot}

theorem parties_offer {party : Party} {command : Command} {offered : Slot}
    (h : s.offer party command = .ok offered) :
    offered.outlet.parties ⊆ party :: s.outlet.parties := by
  rw [Outlet.offer_ok (outlet_of_offer h)]
  exact s.outlet.parties_enqueue party _

theorem parties_closeNow (s : Slot) (reason : DrainReason) (why : String) :
    (s.closeNow reason why).1.outlet.parties ⊆ s.outlet.parties := by
  cases hclosed : s.isClosed with
  | true =>
    rw [closeNow_of_closed hclosed]
    exact List.Subset.refl _
  | false =>
    rw [closeNow_of_open hclosed]
    exact s.outlet.parties_abortNow

theorem parties_closeAndShutNow (s : Slot) (party : Party) (reason : DrainReason) (why : String) :
    (s.closeAndShutNow party reason why).1.outlet.parties ⊆ party :: s.outlet.parties := by
  have hclose := s.parties_closeNow reason why
  rw [closeAndShutNow]
  split
  · next closed heq =>
    rw [heq] at hclose
    refine List.Subset.trans (Outlet.parties_enqueue _ party .shut) ?_
    exact List.cons_subset_cons party (List.Subset.trans (Outlet.parties_abortNow _) hclose)
  · next heq =>
    rw [heq] at hclose
    exact List.Subset.trans hclose (List.subset_cons_self ..)

theorem parties_closeFromReaderNow (s : Slot) (why : String) :
    (s.closeFromReaderNow why).outlet.parties ⊆ .reader :: s.outlet.parties := by
  have hshut := s.parties_closeAndShutNow .reader .transportClosed why
  rw [closeFromReaderNow]
  split <;> next heq => rwa [heq] at hshut

theorem parties_beginRoute (s : Slot) (party : Party) (frame : Frame) :
    (s.beginRoute party frame).1.outlet.parties ⊆ party :: s.outlet.parties := by
  rcases s.beginRoute_cases party frame with
    ⟨-, hroute⟩ | ⟨_, _, -, -, hroute⟩ | ⟨_, offered, -, hoffer, hroute⟩ <;> rw [hroute]
  · rw [outlet_resolve, outlet_receive]
    exact List.subset_cons_self ..
  · rw [outlet_resolve, outlet_receive]
    exact List.subset_cons_self ..
  · rw [← s.outlet_receive frame]
    exact parties_offer hoffer

end Slot

namespace Session

variable {x : Session}

/-! ## New tickets -/

/-- Whoever is under way, or known at the outlet, was given a ticket. -/
structure IsFresh (x : Session) : Prop where
  submissions : ∀ entry ∈ x.submissions, entry.1 < x.tickets
  parties : ∀ ticket, .caller ticket ∈ x.slot.outlet.parties → ticket < x.tickets

/-- Who is under way after a step was so before, or has been given a new ticket and has registered a
request under a token that was free. -/
theorem mem_submissions_act {action : Action} {ticket : Nat} {submission : Submission}
    (hmem : (ticket, submission) ∈ (x.act action).submissions) :
    (ticket, submission) ∈ x.submissions ∨ ticket = x.tickets ∧
      (x.act action).tickets = x.tickets + 1 ∧
      x.slot.registry.contains submission.token = false := by
  cases action with
  | submit chosen request payload =>
    rw [act] at hmem
    rcases x.slot.beginSubmission_cases (.caller x.tickets) chosen request payload x.tickets with
      ⟨e, nextToken, hbegin⟩ | ⟨registered, nextToken, outlet, -, -, hfree, -, hbegin⟩ <;>
      rw [hbegin] at hmem
    · exact .inl hmem
    · rcases List.mem_append.1 hmem with hmem | hmem
      · exact .inl hmem
      · cases List.mem_singleton.1 hmem
        exact .inr ⟨rfl, rfl, hfree⟩
  | vanish gone => exact .inl (List.mem_filter.1 hmem).1
  | resume party =>
    rw [act] at hmem
    split at hmem
    · cases party with
      | reader => exact .inl hmem
      | caller other =>
        dsimp only [goOn] at hmem
        split at hmem
        · exact .inl (List.mem_filter.1 hmem).1
        · exact .inl hmem
    · exact .inl hmem
  | read | endOfStream | failRead =>
    rw [act] at hmem
    split at hmem <;> exact .inl hmem
  | _ => exact .inl hmem

/-- Who is known at the outlet after a step was known before, or is the reader, or has been given a
new ticket. -/
theorem parties_act (x : Session) (action : Action) :
    (x.act action).slot.outlet.parties ⊆ .reader :: x.slot.outlet.parties ∨
    (x.act action).slot.outlet.parties ⊆ .caller x.tickets :: x.slot.outlet.parties ∧
      (x.act action).tickets = x.tickets + 1 := by
  -- Most steps bring nobody new.
  have hold : ∀ {after : Outlet}, after.parties ⊆ x.slot.outlet.parties →
      after.parties ⊆ .reader :: x.slot.outlet.parties := fun h =>
    List.Subset.trans h (List.subset_cons_self ..)
  have hsame := hold (List.Subset.refl _)
  cases action with
  | submit chosen request payload =>
    refine .inr ⟨?_, rfl⟩
    show (x.slot.beginSubmission _ chosen request payload _).1.outlet.parties ⊆ _
    rcases x.slot.outlet_beginSubmission (.caller x.tickets) chosen request payload x.tickets with
      hkept | ⟨body, hoffer⟩
    · rw [hkept]
      exact List.subset_cons_self ..
    · rw [Outlet.offer_ok hoffer]
      exact Outlet.parties_enqueue ..
  | submitLocal request data =>
    rw [act, Slot.outlet_submitLocal]
    exact .inl hsame
  | completeLocal token status payload =>
    rw [act, Slot.outlet_completeLocal]
    exact .inl hsame
  | cancel token =>
    rw [act, Slot.outlet_cancel]
    exact .inl hsame
  | registerCallbacks | listen | arrive => exact .inl hsame
  | shutDown =>
    refine .inr ⟨List.Subset.trans (Slot.parties_closeAndShutNow ..) ?_, rfl⟩
    exact List.cons_subset_cons _ (x.slot.outlet.parties_leave .reader)
  | abandon =>
    refine .inl (hold (List.Subset.trans (Slot.parties_closeNow ..) ?_))
    exact x.slot.outlet.parties_leave .reader
  | vanish ticket => exact .inl (hold (x.slot.outlet.parties_leave _))
  | resume party =>
    rw [act]
    split
    · next outlet outcome htell =>
      rw [outlet_goOn]
      exact .inl (hold (Outlet.parties_tell? htell))
    · exact .inl hsame
  | accept count =>
    rw [act, Slot.outlet_accept]
    exact .inl (hold (x.slot.outlet.parties_accept count))
  | failWrite reason => exact .inl (hold (x.slot.outlet.parties_fail reason))
  | attend => exact .inl (hold x.slot.outlet.parties_attend)
  | read =>
    rw [act]
    by_cases hwaiting : x.slot.reading = .waiting
    · rcases Slot.readNext?_cases hwaiting with ⟨-, hread⟩ | ⟨e, -, hread⟩ | ⟨frame, -, hread⟩ <;>
        rw [hread]
      · exact .inl hsame
      · exact .inl (Slot.parties_closeFromReaderNow ..)
      · have hbegun := Slot.parties_beginRoute
          { x.slot with framer := x.slot.framer.nextFrame.1 } .reader frame
        dsimp only
        split <;> exact .inl hbegun
    · rw [Slot.readNext?_of_not_waiting hwaiting]
      exact .inl hsame
  | endOfStream | failRead =>
    rw [act]
    split
    · exact .inl (Slot.parties_closeFromReaderNow ..)
    · exact .inl hsame

theorem IsFresh.step (h : x.IsFresh) (action : Action) : (x.step action).IsFresh where
  submissions := by
    rintro ⟨ticket, submission⟩ hmem
    show ticket < (x.act action).tickets
    rcases mem_submissions_act hmem with hmem | ⟨rfl, hnew, -⟩
    · exact Nat.lt_of_lt_of_le (h.submissions _ hmem) (x.tickets_act action)
    · rw [hnew]
      exact Nat.lt_succ_self _
  parties := by
    intro ticket hmem
    show ticket < (x.act action).tickets
    rcases x.parties_act action with hparties | ⟨hparties, hnew⟩
    · have hold : .caller ticket ∈ x.slot.outlet.parties := by simpa using hparties hmem
      exact Nat.lt_of_lt_of_le (h.parties ticket hold) (x.tickets_act action)
    · rw [hnew]
      rcases List.mem_cons.1 (hparties hmem) with hcaller | hold
      · cases hcaller
        exact Nat.lt_succ_self _
      · exact Nat.lt_succ_of_lt (h.parties ticket hold)

theorem isFresh_run (id : SlotId) (options : SlotOptions) (actions : List Action) :
    ((start id options).run actions).IsFresh :=
  run_induction (fun _ action h => h.step action) ⟨by simp [start], by
    intro ticket hmem
    cases hmem⟩ actions

end Session

/-! ## Strides -/

/-- What can happen to a session whose submissions are taken apart. -/
inductive Stride
  /-- A submission registers its request. -/
  | register (chosen : Option Token) (request : RequestId) (payload : Payload)
  /-- A submission offers its command to the stream. -/
  | offer (ticket : Nat)
  /-- Anything else, the end of a submission among it. -/
  | act (action : Action)

namespace Session

variable {x : Session} {token : Token} {owner : Owner}

/-- A submission registers its request, and goes on if that is possible. -/
def register (x : Session) (chosen : Option Token) (request : RequestId) (payload : Payload) :
    Session :=
  match x.slot.register chosen request payload x.tickets with
  | .ok (slot, submission) =>
    { x with
      slot, tickets := x.tickets + 1, submissions := x.submissions ++ [(x.tickets, submission)] }
  | .error _ => { x with tickets := x.tickets + 1 }

/-- A submission offers its command. If it is refused, that is what the submission will be told. -/
def offer (x : Session) (ticket : Nat) : Session :=
  match x.submissions.lookup ticket with
  | none => x
  | some submission =>
    match x.slot.offer (.caller ticket) submission.command with
    | .ok slot => { x with slot }
    | .error e =>
      let outlet := x.slot.outlet.finish (.caller ticket) (.sent (.error e)) x.slot.outlet.turns
      { x with slot := { x.slot with outlet } }

/-- Lets something happen. -/
def stride (x : Session) : Stride → Session
  | .register chosen request payload => x.register chosen request payload
  | .offer ticket => x.offer ticket
  | .act action => x.step action

/-- What a stride closes the slot for, if it does. -/
def closedBy? (x : Session) : Stride → Option (DrainReason × String)
  | .act action => x.closing? action
  | .register .. | .offer _ => none

/-- Lets things happen one after the other. -/
def strides (x : Session) (all : List Stride) : Session :=
  all.foldl stride x

end Session

/-! ## A submission in one step -/

theorem Outlet.tell?_eq_none {o : Outlet} {party : Party}
    (h : ∀ entry ∈ o.outcomes, entry.1 ≠ party) : o.tell? party = none := by
  have hnone : o.outcomes.find? (fun entry => entry.1 == party) = none :=
    List.find?_eq_none.2 fun entry hmem => by simpa using h entry hmem
  rw [Outlet.tell?, hnone, Option.map_none]

/-- What a party is to be told last is what it is told, if it is to be told nothing else. -/
theorem Outlet.tell?_finish {o : Outlet} {party : Party}
    (h : ∀ entry ∈ o.outcomes, entry.1 ≠ party) (outcome : Outcome) :
    (o.finish party outcome o.turns).tell? party = some (o, outcome) := by
  have hnone : ∀ entry ∈ o.outcomes, ¬ (entry.1 == party) = true := fun entry hmem => by
    simpa using h entry hmem
  simp [Outlet.tell?, Outlet.finish, List.find?_append, List.find?_eq_none.2 hnone,
    List.eraseP_append_right _ hnone]

theorem lookup_append_new {submissions : List (Nat × Submission)} {ticket : Nat}
    (h : ∀ entry ∈ submissions, entry.1 ≠ ticket) (submission : Submission) :
    (submissions ++ [(ticket, submission)]).lookup ticket = some submission := by
  have hnone : submissions.lookup ticket = none :=
    List.lookup_eq_none_iff.2 fun entry hmem => by simpa using (h entry hmem).symm
  simp [List.lookup_append, hnone]

namespace Session

variable {x : Session}

/-- The three strides of a submission, if nothing comes in between, are the step in which it
registers its request and offers its command. -/
theorem step_submit (h : x.IsFresh) (hlog : x.slot.log = []) (chosen : Option Token)
    (request : RequestId) (payload : Payload) :
    x.step (.submit chosen request payload) = x.strides [.register chosen request payload,
      .offer x.tickets, .act (.resume (.caller x.tickets))] := by
  have hsubmissions : ∀ entry ∈ x.submissions, entry.1 ≠ x.tickets := fun entry hmem =>
    Nat.ne_of_lt (h.submissions entry hmem)
  have houtcomes : ∀ entry ∈ x.slot.outlet.outcomes, entry.1 ≠ .caller x.tickets :=
    fun entry hmem hparty =>
      Nat.lt_irrefl _ (h.parties x.tickets (Outlet.mem_parties.2 (.inr ⟨entry, hmem, hparty⟩)))
  clear h
  obtain ⟨slot, tickets, submissions, arrived, trace⟩ := x
  obtain ⟨options, registry, outlet, framer, reading, callbacks, isListening, isClosed, log⟩ := slot
  obtain rfl : log = [] := hlog
  dsimp only at hsubmissions houtcomes ⊢
  -- A submission that waits for its turn, or was not registered, is told nothing yet.
  have hidle : ∀ {y : Session}, y.slot.log = [] → y.slot.outlet.outcomes = outlet.outcomes →
      y.step (.resume (.caller tickets)) = y := by
    intro y hy hsame
    refine step_of_idle hy ?_
    rw [act, Outlet.tell?_eq_none (by rwa [hsame])]
  simp only [strides, List.foldl_cons, List.foldl_nil, stride, register]
  rw [step, act, Slot.beginSubmission]
  dsimp only
  cases hregister : Slot.register _ chosen request payload tickets with
  | error e =>
    have hlookup : submissions.lookup tickets = none :=
      List.lookup_eq_none_iff.2 fun entry hmem => by simpa using (hsubmissions entry hmem).symm
    simp only [offer, hlookup]
    rw [hidle rfl rfl]
    simp [Slot.takeLog]
  | ok result =>
    obtain ⟨registered, submission⟩ := result
    obtain ⟨-, -, nextToken, rfl⟩ := Slot.register_ok hregister
    simp only [offer, lookup_append_new hsubmissions]
    cases hoffer : Slot.offer _ (.caller tickets) submission.command with
    | ok offered =>
      have hlog : offered.log = [] := (Slot.does_offer hoffer).log
      have houtlet := Slot.outlet_of_offer hoffer
      have hsame : offered.outlet.outcomes = outlet.outcomes := by
        rw [Outlet.offer_ok houtlet]
        rfl
      rw [hidle hlog hsame]
      have htaken : offered.takeLog.1 = offered := by rw [Slot.takeLog, ← hlog]
      simp [htaken, hlog]
    | error e =>
      have hkept : submissions.filter (fun entry => entry.1 != tickets) = submissions :=
        List.filter_eq_self.2 fun entry hmem => by simpa using hsubmissions entry hmem
      rw [step, act]
      simp only [Outlet.tell?_finish houtcomes, goOn, lookup_append_new hsubmissions,
        List.filter_append, hkept]
      simp [Slot.conclude, Slot.takeLog]

/-- So a submission at any time after a slot was started is three strides. -/
theorem run_submit (id : SlotId) (options : SlotOptions) (actions : List Action)
    (chosen : Option Token) (request : RequestId) (payload : Payload) :
    let x := (start id options).run actions
    (start id options).run (actions ++ [.submit chosen request payload])
      = x.strides [.register chosen request payload, .offer x.tickets,
          .act (.resume (.caller x.tickets))] := by
  dsimp only
  rw [run_append]
  exact step_submit (isFresh_run id options actions) (closesOnce_run id options actions).log
    chosen request payload

end Session

end RadioLink
