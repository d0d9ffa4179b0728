import Mathlib
import RadioLink.Proofs.Aftermath
import RadioLink.Proofs.Heard

set_option autoImplicit false

/-! # Closing a slot one thing at a time

In a session a slot closes in one step. Here closing is taken apart: whoever comes first has a list
of chores, and anything may come in between two of them. Requests are registered and resolved,
frames are written and routed, others want to close the slot as well and find that somebody does.
The reader that was told to stop stops some time after that, and whoever waits at the outlet notices
that it is closing, or gets its turn before it does.

A session in which nothing comes in between is one of these runs (`exists_moves_of_run`). -/

namespace RadioLink

/-- What there is to do for whoever closes a slot. -/
inductive Chore
  /-- What is pending is resolved, and nothing can be registered any more. -/
  | drain
  /-- The outlet accepts nothing more. -/
  | abort
  /-- The observers are told. -/
  | announce
  /-- The slot counts as closed. -/
  | settle
  /-- A turn is asked for to shut the stream. -/
  | shut
  | nothing
deriving DecidableEq, Repr

namespace Chore

/-- What comes after a chore. -/
def next : Chore → Chore
  | drain => abort
  | abort => announce
  | announce => settle
  | settle => shut
  | shut | nothing => nothing

/-- How many chores come before one. -/
def rank : Chore → Nat
  | drain => 0
  | abort => 1
  | announce => 2
  | settle => 3
  | shut => 4
  | nothing => 5

end Chore

/-- Somebody who closes a slot. -/
structure Closer where
  reason : DrainReason
  /-- What the observers are told. -/
  why : String
  /-- Who shuts the stream in the end, if anybody does. -/
  party : Option Party
  /-- What it does next. -/
  chore : Chore := .drain
  /-- How many requests it has resolved. -/
  drained : Nat := 0

def Closer.isReader (closer : Closer) : Bool :=
  closer.party == some .reader

/-- A slot in use that takes its time to close. -/
structure Unwinding where
  session : Session
  /-- The first one who closes the slot. -/
  closer : Option Closer := none
  /-- The reader is told to stop. -/
  isStopping : Bool := false

/-- What can happen while a slot is used and closed. -/
inductive Unwinding.Move
  /-- The slot is used, or somebody begins to close it. -/
  | stride (next : Stride)
  /-- Whoever closes the slot goes on. -/
  | proceed
  /-- The reader stops as it was told to. -/
  | stop
  /-- Somebody who waits at the outlet, or writes, notices that it is closing. -/
  | giveUp (party : Party) (hasTheStream : Bool)

namespace Session

/-- Takes note of what the slot did. -/
def note (x : Session) (slot : Slot) (byReader : Bool) : Session :=
  { x with slot := slot.takeLog.1, trace := x.trace ++ slot.log.map (Noted.mk byReader) }

end Session

namespace Unwinding

/-- A slot that has just started to read. -/
def start (id : SlotId) (options : SlotOptions) : Unwinding where
  session := .start id options

/-- Whether whoever closes the slot has done a chore. -/
def hasDone (u : Unwinding) (chore : Chore) : Bool :=
  u.closer.any fun closer => decide (chore.rank < closer.chore.rank)

/-- Somebody begins to close the slot. Only the first one has something to do. A reader takes no
more frames, whether it is the first one or not. -/
def begin (u : Unwinding) (next : Stride) (reason : DrainReason) (why : String) : Unwinding :=
  let x := u.session
  let closer (party : Option Party) := u.closer.or (some { reason, why, party })
  let reading := if u.closer.isNone then .closing else .stopped
  match next with
  | .act .shutDown =>
    { session := { x with tickets := x.tickets + 1 }
      closer := closer (some (.caller x.tickets)), isStopping := true }
  | .act .abandon => { u with closer := closer none, isStopping := true }
  | .act .read =>
    { u with
      session := { x with slot := { x.slot with framer := x.slot.framer.nextFrame.1, reading } }
      closer := closer (some .reader) }
  | _ =>
    { u with
      session := { x with slot := { x.slot with reading } }, closer := closer (some .reader) }

/-- Does a chore. -/
def tackle (closer : Closer) (slot : Slot) : Slot × Closer :=
  let next := { closer with chore := closer.chore.next }
  match closer.chore with
  | .drain =>
    let (slot, drained) := slot.drain closer.reason
    (slot, { next with drained })
  | .abort => ({ slot with outlet := slot.outlet.abort }, next)
  | .announce => (slot.publish (.disconnected closer.why closer.drained), next)
  | .settle => ({ slot with isClosed := true }, next)
  | .shut =>
    match closer.party with
    | some party => ({ slot with outlet := slot.outlet.shut party }, next)
    | none => (slot, next)
  | .nothing => (slot, next)

/-- Whoever closes the slot does its next chore. -/
def proceed (u : Unwinding) : Unwinding :=
  match u.closer with
  | some closer =>
    let (slot, next) := tackle closer u.session.slot
    { u with session := u.session.note slot closer.isReader, closer := some next }
  | none => u

/-- Whether the reader may stop now. It was told to, and has not itself begun to close the slot
without having come to the end of that. -/
def mayStop (u : Unwinding) : Bool :=
  u.isStopping && !u.closer.any fun closer => closer.isReader && closer.chore != .nothing

/-- The slot with something done to its outlet. -/
def withSlot (u : Unwinding) (slot : Slot) : Unwinding :=
  { u with session := { u.session with slot } }

/-- Lets something happen. -/
def step (u : Unwinding) : Move → Unwinding
  | .stride next =>
    match u.session.closedBy? next with
    | some (reason, why) => u.begin next reason why
    | none => { u with session := u.session.stride next }
  | .proceed => u.proceed
  | .stop => if u.mayStop then u.withSlot u.session.slot.stopReader else u
  | .giveUp party hasTheStream =>
    let slot := u.session.slot
    u.withSlot { slot with outlet := slot.outlet.giveUp party hasTheStream }

/-- Lets things happen one after the other. -/
def run (u : Unwinding) (moves : List Move) : Unwinding :=
  moves.foldl step u

theorem run_append (u : Unwinding) (moves more : List Move) :
    u.run (moves ++ more) = (u.run moves).run more :=
  List.foldl_append

theorem run_cons (u : Unwinding) (move : Move) (moves : List Move) :
    u.run (move :: moves) = (u.step move).run moves :=
  rfl

/-- What every step keeps, every run keeps. -/
theorem run_induction {P : Unwinding → Prop} (hstep : ∀ u move, P u → P (u.step move))
    {u : Unwinding} (h : P u) (moves : List Move) : P (u.run moves) := by
  induction moves generalizing u with
  | nil => exact h
  | cons move moves ih => exact ih (hstep u move h)

variable {u : Unwinding}

theorem step_stride_of_none {next : Stride} (h : u.session.closedBy? next = none) :
    u.step (.stride next) = { u with session := u.session.stride next } := by
  rw [step, h]

theorem step_stride_of_some {next : Stride} {reason : DrainReason} {why : String}
    (h : u.session.closedBy? next = some (reason, why)) :
    u.step (.stride next) = u.begin next reason why := by
  rw [step, h]

/-- Who begins to close the slot: somebody who shuts it down or lets go of it, or a reader that
waits for the next frame. -/
theorem begin_cases {next : Stride} {reason : DrainReason} {why : String}
    (h : u.session.closedBy? next = some (reason, why)) :
    (next = .act .shutDown ∧ reason = .shutDown ∧ why = "shut down locally") ∨
    (next = .act .abandon ∧ reason = .shutDown ∧ why = "manager dropped") ∨
    ∃ action framer, next = .act action ∧ reason = .transportClosed ∧
      u.session.slot.reading = .waiting ∧ u.session.isReaders action = true ∧
      u.session.act action = { u.session with
        slot := { u.session.slot with framer }.closeFromReaderNow why } ∧
      u.begin next reason why = { u with
        session := { u.session with slot := { u.session.slot with
          framer, reading := if u.closer.isNone then .closing else .stopped } }
        closer := u.closer.or (some { reason, why, party := some .reader }) } := by
  cases next with
  | register | offer => cases h
  | act action =>
    cases action with
    | shutDown =>
      cases h
      exact .inl ⟨rfl, rfl, rfl⟩
    | abandon =>
      cases h
      exact .inr (.inl ⟨rfl, rfl, rfl⟩)
    | endOfStream =>
      rw [Session.closedBy?, Session.closing?] at h
      split at h
      · next hwaiting =>
        cases h
        refine .inr (.inr ⟨_, u.session.slot.framer, rfl, rfl, hwaiting, rfl, ?_, rfl⟩)
        rw [Session.act, hwaiting]
        rfl
      · cases h
    | failRead =>
      rw [Session.closedBy?, Session.closing?] at h
      split at h
      · next hwaiting =>
        cases h
        refine .inr (.inr ⟨_, u.session.slot.framer, rfl, rfl, hwaiting, rfl, ?_, rfl⟩)
        rw [Session.act, hwaiting]
      · cases h
    | read =>
      rw [Session.closedBy?, Session.closing?] at h
      split at h
      · next e hwaiting hnext =>
        cases h
        refine .inr (.inr ⟨_, u.session.slot.framer.nextFrame.1, rfl, rfl, hwaiting, rfl, ?_, rfl⟩)
        rcases Slot.readNext?_cases hwaiting with
          ⟨hnone, -⟩ | ⟨_, herror, hread⟩ | ⟨frame, hframe, -⟩
        · cases hnone.symm.trans hnext
        · cases herror.symm.trans hnext
          rw [Session.act, hread]
        · cases hframe.symm.trans hnext
      · cases h
    | _ => cases h

end Unwinding

/-! ## Closing at once -/

namespace Outlet

variable {o : Outlet}

/-- Those who wait to write a frame or write one, in the order of their turns. -/
def senders (o : Outlet) : List Party :=
  (o.turns.filter isSend).map (·.party)

/-- Where nobody waits to write, everyone who waits goes on waiting. -/
theorem filter_isSend_of_forall {turns : List Turn} (h : ∀ turn ∈ turns, isSend turn = false) :
    turns.filter isSend = [] ∧ (turns.filter fun turn => !isSend turn) = turns ∧
      turns.head?.any isSend = false := by
  refine ⟨List.filter_eq_nil_iff.2 fun turn hmem => by simp [h turn hmem],
    List.filter_eq_self.2 fun turn hmem => by simp [h turn hmem], ?_⟩
  rw [Option.any_eq_false]
  exact fun turn hmem => by simp [h turn (List.mem_of_head? hmem)]

/-- The first one who waits to write notices that the outlet is closing. -/
theorem giveUp_first (hclosing : o.isClosing = true) {kept others : List Turn} {turn : Turn}
    (hturns : o.turns = kept ++ turn :: others) (hkept : ∀ other ∈ kept, isSend other = false)
    (hsend : isSend turn = true) :
    o.giveUp turn.party true = { o with
      turns := kept ++ others
      outcomes := o.outcomes ++ [(turn.party, .sent (.error .transportClosed))]
      hasStream := o.hasStream && !kept.isEmpty } := by
  have hne : ∀ other ∈ kept, other ≠ turn := by
    rintro other hmem rfl
    rw [hkept other hmem] at hsend
    cases hsend
  have hfind : o.turns.find? (fun other => other.party == turn.party && isSend other)
      = some turn := by
    rw [hturns, List.find?_append,
      List.find?_eq_none.2 fun other hmem => by simp [hkept other hmem],
      List.find?_cons_of_pos (by simp [hsend]), Option.none_or]
  have hrest : o.turns.erase turn = kept ++ others := by
    rw [hturns, List.erase_append_right _ fun hmem => hne turn hmem rfl, List.erase_cons_head]
  have hhead : (o.turns.head? == some turn) = kept.isEmpty := by
    rw [hturns]
    cases kept with
    | nil => simp
    | cons other kept => simpa using hne other List.mem_cons_self
  simp only [giveUp, hclosing, hfind, hrest, hhead, Bool.true_and]

/-- Everyone who waits to write notices, one after the other. -/
theorem giveUp_senders (hclosing : o.isClosing = true) :
    o.senders.foldl (fun o party => o.giveUp party true) o
      = { o.giveUpSends with hasStream := o.hasStream && !o.turns.head?.any isSend } := by
  -- The turns that were passed over already are not for writing.
  suffices h : ∀ (others kept : List Turn) (o : Outlet), o.isClosing = true →
      o.turns = kept ++ others → (∀ other ∈ kept, isSend other = false) →
      o.senders.foldl (fun o party => o.giveUp party true) o
        = { o.giveUpSends with hasStream := o.hasStream && !o.turns.head?.any isSend } from
    h o.turns [] o hclosing rfl (List.forall_mem_nil _)
  intro others
  induction others with
  | nil =>
    intro kept o _ hturns hkept
    rw [List.append_nil] at hturns
    obtain ⟨hnone, hall, hhead⟩ := filter_isSend_of_forall (hturns ▸ hkept)
    simp [senders, giveUpSends, hnone, hall, hhead]
  | cons turn others ih =>
    intro kept o hclosing hturns hkept
    cases hsend : isSend turn with
    | false =>
      rw [List.append_cons] at hturns
      refine ih (kept ++ [turn]) o hclosing hturns ?_
      exact List.forall_mem_append.2 ⟨hkept, List.forall_mem_singleton.2 hsend⟩
    | true =>
      obtain ⟨hnone, -⟩ := filter_isSend_of_forall hkept
      have hsenders : o.senders = turn.party :: (others.filter isSend).map (·.party) := by
        simp [senders, hturns, List.filter_append, hnone, hsend]
      rw [hsenders, List.foldl_cons, giveUp_first hclosing hturns hkept hsend]
      have hlast := ih kept { o with
        turns := kept ++ others
        outcomes := o.outcomes ++ [(turn.party, .sent (.error .transportClosed))]
        hasStream := o.hasStream && !kept.isEmpty } hclosing rfl hkept
      simp only [senders, List.filter_append, hnone, List.nil_append] at hlast
      rw [hlast]
      cases kept with
      | nil => simp [giveUpSends, hturns, hsend]
      | cons first kept =>
        have hfirst := hkept first List.mem_cons_self
        simp only [List.filter_cons, hfirst, Bool.false_eq_true, if_false] at hnone
        simp [giveUpSends, hturns, hsend, hfirst, hnone]

theorem giveUp_senders_abort (o : Outlet) :
    o.senders.foldl (fun o party => o.giveUp party true) o.abort = o.abortNow :=
  giveUp_senders (o := o.abort) rfl

/-- At an outlet that everybody has noticed to be closing there is nothing to be noticed. -/
theorem abortNow_abortNow (o : Outlet) : o.abortNow.abortNow = o.abortNow := by
  obtain ⟨hnone, hall, hhead⟩ := filter_isSend_of_forall (Slot.turns_abortNow o)
  have hclosing : o.abortNow.isClosing = true := rfl
  generalize o.abortNow = closing at *
  obtain ⟨limit, isClosing, hasStream, turns, outcomes⟩ := closing
  simp_all [abortNow, abort, giveUpSends]

end Outlet

namespace Unwinding

variable {u : Unwinding}

/-- Whoever closes the slot does all there is to do, and nothing comes in between but that everyone
who waits to write notices. -/
def chores (o : Outlet) : List Move :=
  [.proceed, .proceed] ++ o.senders.map (Move.giveUp · true) ++ [.proceed, .proceed, .proceed]

theorem run_giveUp (u : Unwinding) (parties : List Party) :
    u.run (parties.map (Move.giveUp · true)) = u.withSlot { u.session.slot with
      outlet := parties.foldl (fun o party => o.giveUp party true) u.session.slot.outlet } := by
  induction parties generalizing u with
  | nil => rfl
  | cons party parties ih =>
    rw [List.map_cons, run_cons, ih]
    rfl

/-- Then the slot is closed at once. -/
theorem run_chores {closer : Closer} (hlog : u.session.slot.log = [])
    (hcloser : u.closer = some closer) (hchore : closer.chore = .drain) :
    let slot := u.session.slot
    u.run (chores slot.outlet) = { u with
      session := u.session.note { slot with
        registry := { slot.registry with entries := [], isClosed := true }
        outlet := match closer.party with
          | some party => slot.outlet.abortNow.shut party
          | none => slot.outlet.abortNow
        isClosed := true
        log := slot.farewell closer.reason closer.why } closer.isReader
      closer := some { closer with chore := .nothing, drained := slot.awaited.length } } := by
  obtain ⟨⟨slot, tickets, submissions, arrived, trace⟩, _, isStopping⟩ := u
  obtain ⟨options, registry, outlet, framer, reading, callbacks, isListening, isClosed, log⟩ := slot
  obtain ⟨reason, why, party, chore, drained⟩ := closer
  obtain rfl : log = [] := hlog
  obtain rfl : _ = some _ := hcloser
  obtain rfl : chore = .drain := hchore
  dsimp only
  rw [chores, run_append, run_append, run_giveUp]
  cases party with
  | none =>
    simp [run, step, proceed, tackle, Chore.next, Slot.drain_eq, Session.note, Slot.takeLog,
      Slot.publish, Slot.emit, withSlot, Outlet.giveUp_senders_abort, Slot.farewell,
      Closer.isReader, Slot.lastWords, Slot.awaited, Slot.id]
  | some party =>
    simp [run, step, proceed, tackle, Chore.next, Slot.drain_eq, Session.note, Slot.takeLog,
      Slot.publish, Slot.emit, withSlot, Outlet.giveUp_senders_abort, Slot.farewell,
      Closer.isReader, Slot.lastWords, Slot.awaited, Slot.id]

/-- Nobody has begun to close the slot, or that is done with. -/
def IsAtRest (u : Unwinding) : Prop :=
  match u.closer with
  | none => u.session.slot.isClosed = false
  | some closer => u.session.slot.isClosed = true ∧ closer.chore = .nothing

section Chores

variable {x : Session}

theorem run_chores_reader (hlog : x.slot.log = []) (hopen : x.slot.isClosed = false)
    (framer : Framer) (why : String) (isStopping : Bool) :
    let closing : Unwinding := {
      session := { x with slot := { x.slot with framer, reading := .closing } }
      closer := some { reason := .transportClosed, why, party := some .reader }
      isStopping }
    let closed := closing.run (chores x.slot.outlet)
    closed.session = x.note ({ x.slot with framer }.closeFromReaderNow why) true ∧
      closed.IsAtRest := by
  intro closing closed
  have hclosed := run_chores (u := closing) hlog rfl rfl
  dsimp only at hclosed
  rw [show closed = _ from hclosed, Slot.closeFromReaderNow,
    Slot.closeAndShutNow_of_open (s := { x.slot with framer }) hopen, Outlet.shutNow,
    Outlet.abortNow_abortNow, hlog]
  exact ⟨rfl, rfl, rfl⟩

theorem run_chores_caller (hlog : x.slot.log = []) (hopen : x.slot.isClosed = false)
    (ticket : Nat) :
    let closing : Unwinding := {
      session := { x with slot := x.slot.stopReader }
      closer := some {
        reason := .shutDown, why := "shut down locally", party := some (.caller ticket) }
      isStopping := true }
    let closed := closing.run (chores x.slot.stopReader.outlet)
    closed.session = x.note (x.slot.shutDownNow (.caller ticket)).1 false ∧ closed.IsAtRest := by
  intro closing closed
  have hclosed := run_chores (u := closing) hlog rfl rfl
  dsimp only at hclosed
  have hstopped : x.slot.stopReader.log = [] := hlog
  rw [show closed = _ from hclosed, Slot.shutDownNow,
    Slot.closeAndShutNow_of_open (s := x.slot.stopReader) hopen, Outlet.shutNow,
    Outlet.abortNow_abortNow, hstopped]
  exact ⟨rfl, rfl, rfl⟩

theorem run_chores_nobody (hlog : x.slot.log = []) (hopen : x.slot.isClosed = false) :
    let closing : Unwinding := {
      session := { x with slot := x.slot.stopReader }
      closer := some { reason := .shutDown, why := "manager dropped", party := none }
      isStopping := true }
    let closed := closing.run (chores x.slot.stopReader.outlet)
    closed.session = x.note x.slot.abandonNow false ∧ closed.IsAtRest := by
  intro closing closed
  have hclosed := run_chores (u := closing) hlog rfl rfl
  dsimp only at hclosed
  have hstopped : x.slot.stopReader.log = [] := hlog
  rw [show closed = _ from hclosed, Slot.abandonNow,
    Slot.closeNow_of_open (s := x.slot.stopReader) hopen, hstopped]
  exact ⟨rfl, rfl, rfl⟩

end Chores

/-- Nothing comes in between two steps of a session that closes in one. -/
theorem exists_moves_of_step (hcloses : u.session.ClosesOnce) (hrest : u.IsAtRest)
    (action : Action) :
    ∃ moves, (u.run moves).session = u.session.step action ∧ (u.run moves).IsAtRest := by
  cases hclosing : u.session.closedBy? (.act action) with
  | none =>
    refine ⟨[.stride (.act action)], ?_⟩
    rw [run_cons, step_stride_of_none hclosing]
    refine ⟨rfl, ?_⟩
    have hsame : (u.session.step action).slot.isClosed = u.session.slot.isClosed :=
      (Session.act_leavesOpen hclosing).1
    obtain ⟨x, closer, isStopping⟩ := u
    cases closer with
    | none => exact hsame.trans hrest
    | some closer => exact ⟨hsame.trans hrest.1, hrest.2⟩
  | some closing =>
    obtain ⟨reason, why⟩ := closing
    have hstep := step_stride_of_some hclosing
    have hbegin := begin_cases hclosing
    obtain ⟨x, closer, isStopping⟩ := u
    have hlog : x.slot.log = [] := hcloses.log
    cases closer with
    | none =>
      have hopen : x.slot.isClosed = false := hrest
      rcases hbegin with ⟨hnext, rfl, rfl⟩ | ⟨hnext, rfl, rfl⟩ |
        ⟨_, framer, hnext, rfl, -, hreader, hact, hbegin⟩ <;> cases hnext
      · refine ⟨.stride (.act .shutDown) :: .stop :: chores x.slot.stopReader.outlet, ?_⟩
        rw [run_cons, hstep]
        exact run_chores_caller (x := { x with tickets := x.tickets + 1 }) hlog hopen x.tickets
      · refine ⟨.stride (.act .abandon) :: .stop :: chores x.slot.stopReader.outlet, ?_⟩
        rw [run_cons, hstep]
        exact run_chores_nobody hlog hopen
      · refine ⟨.stride (.act action) :: chores x.slot.outlet, ?_⟩
        rw [run_cons, hstep, hbegin, Session.step, hact, hreader]
        exact run_chores_reader hlog hopen framer why isStopping
    | some closer =>
      obtain ⟨hclosed, hdone⟩ := hrest
      rcases hbegin with ⟨hnext, rfl, rfl⟩ | ⟨hnext, rfl, rfl⟩ |
        ⟨_, framer, hnext, rfl, hwaiting, -⟩ <;> cases hnext
      · have hmoves : (Unwinding.mk x (some closer) isStopping).run
              [.stride (.act .shutDown), .stop] = {
            session := { x with slot := x.slot.stopReader, tickets := x.tickets + 1 }
            closer := some closer, isStopping := true } := by
          rw [run_cons, hstep]
          simp [run, begin, step, mayStop, hdone, withSlot]
        refine ⟨[.stride (.act .shutDown), .stop], ?_⟩
        rw [hmoves, Session.step, Session.act, Slot.shutDownNow,
          Slot.closeAndShutNow_of_closed (s := x.slot.stopReader) hclosed]
        exact ⟨by simp [Slot.stopReader, Slot.takeLog, hlog], hclosed, hdone⟩
      · have hmoves : (Unwinding.mk x (some closer) isStopping).run
              [.stride (.act .abandon), .stop] = {
            session := { x with slot := x.slot.stopReader }
            closer := some closer, isStopping := true } := by
          rw [run_cons, hstep]
          simp [run, begin, step, mayStop, hdone, withSlot]
        refine ⟨[.stride (.act .abandon), .stop], ?_⟩
        rw [hmoves, Session.step, Session.act, Slot.abandonNow,
          Slot.closeNow_of_closed (s := x.slot.stopReader) hclosed]
        exact ⟨by simp [Slot.stopReader, Slot.takeLog, hlog], hclosed, hdone⟩
      · have hshut := (hcloses.isShut hclosed).reading
        rw [hwaiting] at hshut
        rcases hshut with hshut | hshut <;> cases hshut

/-- **Closing in one step is closing one thing at a time** with nothing in between. -/
theorem exists_moves_of_run (id : SlotId) (options : SlotOptions) (actions : List Action) :
    ∃ moves, ((start id options).run moves).session = (Session.start id options).run actions := by
  suffices h : ∀ (actions : List Action) (u : Unwinding), u.session.ClosesOnce → u.IsAtRest →
      ∃ moves, (u.run moves).session = u.session.run actions from
    h actions (start id options) (Session.closesOnce_run id options []) rfl
  intro actions
  induction actions with
  | nil => exact fun u _ _ => ⟨[], rfl⟩
  | cons action actions ih =>
    intro u hcloses hrest
    obtain ⟨moves, hsession, hstill⟩ := exists_moves_of_step hcloses hrest action
    obtain ⟨more, hmore⟩ := ih (u.run moves) (hsession ▸ hcloses.step action) hstill
    refine ⟨moves ++ more, ?_⟩
    rw [run_append, hmore, hsession]
    rfl

end Unwinding

end RadioLink
