import Mathlib
import RadioLink.Proofs.Unwinding

set_option autoImplicit false

/-! # How far a slot is closed

The end of the stream, bytes that are no frame, a failed read, a shutdown and the loss of the slot
all close it. Whichever comes first says why (`closing_run`), and that decides with what the pending
requests are resolved; every other one finds that somebody closes the slot already.

`Unwinding.IsTidy` says how far the slot is at each point of its closing: what is drained, what is
announced, what counts as closed. Every move keeps it, and for the chores of whoever closes the slot
there is one lemma for each thing that a chore may touch (`registry_tackle`, `goodbyes_tackle`). -/

namespace RadioLink

/-- What the observers are told when the slot closes: why, and how many requests were resolved. -/
def Effect.goodbye? : Effect → Option (String × Nat)
  | .published (.disconnected why drained) => some (why, drained)
  | _ => none

/-- What the observers were told of the closing of the slot, oldest first. -/
def goodbyes (trace : List Noted) : List (String × Nat) :=
  trace.filterMap fun noted => noted.effect.goodbye?

theorem goodbyes_append {trace later : List Noted}
    (h : ∀ noted ∈ later, noted.effect.isDisconnected = false) :
    goodbyes (trace ++ later) = goodbyes trace := by
  have hnone : later.filterMap (fun noted => noted.effect.goodbye?) = [] := by
    refine List.filterMap_eq_nil_iff.2 fun noted hmem => ?_
    have hquiet := h noted hmem
    unfold Effect.isDisconnected at hquiet
    split at hquiet
    · cases hquiet
    · next hnot =>
      unfold Effect.goodbye?
      split
      · next why drained heffect => exact absurd heffect (hnot why drained)
      · rfl
  rw [goodbyes, List.filterMap_append, hnone, List.append_nil, goodbyes]

namespace Registry

/-- As sinks are distinct, each of them is that of one pending request. -/
theorem IsSound.filter_sink {r : Registry} {tickets : Nat} {settled : List Sink}
    (h : r.IsSound tickets settled) {entry : PendingRequest} (hmem : entry ∈ r.entries) :
    (r.entries.filter fun other => other.sink == entry.sink) = [entry] := by
  have hnodup : (r.entries.filter fun other => other.sink == entry.sink).Nodup :=
    (List.Nodup.of_map _ h.sinks).filter _
  refine List.perm_singleton.1 ((List.perm_ext_iff_of_nodup hnodup (List.nodup_singleton _)).2 ?_)
  intro other
  rw [List.mem_filter, beq_iff_eq, List.mem_singleton]
  refine ⟨fun hother => h.eq_of_sink hmem hother.1 hother.2, ?_⟩
  rintro rfl
  exact ⟨hmem, rfl⟩

end Registry

namespace Slot

variable {s : Slot} {tickets : Nat} {settled : List Sink}

theorem responses_lastWords_of_lacks (reason : DrainReason) {sink : Sink}
    (h : s.registry.Lacks sink) :
    (s.lastWords reason).filterMap (Effect.responseTo? sink) = [] := by
  rw [lastWords, List.filterMap_map, List.filterMap_eq_nil_iff]
  exact fun entry hmem => if_neg (h entry (List.mem_filter.1 hmem).1)

end Slot

namespace Session

variable {x y : Session} {id : SlotId}

/-- Whoever is pending can be told apart and has heard nothing, and no ticket is given out twice. -/
structure IsOrderly (id : SlotId) (x : Session) : Prop where
  keeps : x.KeepsTickets
  sound : x.slot.registry.IsSound x.tickets []
  unanswered : x.AreUnanswered
  slot : x.slot.registry.slot = id

theorem IsOrderly.of_same (h : x.IsOrderly id) (hregistry : y.slot.registry = x.slot.registry)
    (hlog : y.slot.log = []) (htickets : x.tickets ≤ y.tickets)
    (hresponses : ∀ sink, responsesTo y.trace sink = responsesTo x.trace sink) :
    y.IsOrderly id where
  keeps := by
    refine ⟨hlog, fun sink hsink => ?_, fun sink hsink => ?_⟩
    · rw [hregistry]
      exact h.keeps.lacks sink (Nat.le_trans htickets hsink)
    · rw [hresponses]
      exact h.keeps.responses sink (Nat.le_trans htickets hsink)
  sound := by
    rw [hregistry]
    exact h.sound.mono htickets
  unanswered := fun entry hmem =>
    (hresponses entry.sink).trans (h.unanswered entry (hregistry ▸ hmem))
  slot := hregistry ▸ h.slot

theorem IsOrderly.stride (h : x.IsOrderly id) {next : Stride} (hcloses : x.closedBy? next = none) :
    (x.stride next).IsOrderly id where
  keeps := h.keeps.stride next
  sound := isSound_stride h.sound hcloses
  unanswered := h.unanswered.stride h.keeps h.sound hcloses
  slot := (keepsDoor_stride hcloses).1.trans h.slot

theorem responsesTo_note (x : Session) (slot : Slot) (byReader : Bool) (sink : Sink) :
    responsesTo (x.note slot byReader).trace sink
      = responsesTo x.trace sink ++ slot.log.filterMap (Effect.responseTo? sink) := by
  rw [note, responsesTo, List.filterMap_append, List.filterMap_map]
  rfl

/-- Draining what is pending. -/
theorem IsOrderly.drain (h : x.IsOrderly id) (reason : DrainReason) (byReader : Bool) :
    (x.note (x.slot.drain reason).1 byReader).IsOrderly id := by
  have hlog : (x.slot.drain reason).1.log = x.slot.lastWords reason := by
    rw [Slot.drain_eq, h.keeps.log]
    rfl
  have hregistry : (x.slot.drain reason).1.registry
      = { x.slot.registry with entries := [], isClosed := true } := by rw [Slot.drain_eq]
  have hnobody : (x.note (x.slot.drain reason).1 byReader).slot.registry.entries = [] :=
    congrArg Registry.entries hregistry
  refine ⟨⟨rfl, fun sink _ => ?_, fun sink hsink => ?_⟩, ?_, ?_, ?_⟩
  · rw [Registry.Lacks, hnobody]
    exact List.forall_mem_nil _
  · rw [responsesTo_note, hlog, h.keeps.responses sink hsink,
      Slot.responses_lastWords_of_lacks reason (h.keeps.lacks sink hsink)]
    rfl
  · exact Registry.isSound_of_nil hnobody (List.forall_mem_nil _)
  · rw [AreUnanswered, hnobody]
    exact List.forall_mem_nil _
  · exact (congrArg Registry.slot hregistry).trans h.slot

end Session

namespace Unwinding

variable {u v : Unwinding} {id : SlotId}

/-! ## What is kept -/

/-- What whoever closes the slot has told the observers. -/
def said (u : Unwinding) : List (String × Nat) :=
  match u.closer with
  | some closer => if u.hasDone .announce then [(closer.why, closer.drained)] else []
  | none => []

/-- A slot in use that is as far closed as whoever closes it has come. -/
structure IsTidy (id : SlotId) (u : Unwinding) : Prop where
  session : u.session.IsOrderly id
  undrained : u.hasDone .drain = false → u.session.slot.registry.isClosed = false
  drained : u.hasDone .drain = true → u.session.slot.IsDrained
  isClosing : u.hasDone .abort = true → u.session.slot.outlet.isClosing = true
  goodbyes : goodbyes u.session.trace = u.said
  isClosed : u.session.slot.isClosed = u.hasDone .settle
  reader : u.closer.isSome = true → u.isStopping = true ∨ u.session.slot.reading.isLive = false

theorem isTidy_start (id : SlotId) (options : SlotOptions) : (start id options).IsTidy id where
  session := {
    keeps := Session.keepsTickets_strides id options []
    sound := Registry.isSound_of_nil rfl (List.forall_mem_nil _)
    unanswered := List.forall_mem_nil _
    slot := rfl }
  undrained := fun _ => rfl
  drained := fun h => by cases h
  isClosing := fun h => by cases h
  goodbyes := rfl
  isClosed := rfl
  reader := fun h => by cases h

/-- A stride that does not close the slot. -/
theorem IsTidy.stride (h : u.IsTidy id) {next : Stride}
    (hcloses : u.session.closedBy? next = none) :
    IsTidy id { u with session := u.session.stride next } := by
  have hlog := h.session.keeps.log
  obtain ⟨hsame, later, htrace, hquiet⟩ := Session.leavesOpen_stride hlog hcloses
  exact {
    session := h.session.stride hcloses
    undrained := fun hnot => (Session.keepsDoor_stride hcloses).2.trans (h.undrained hnot)
    drained := fun hdone => (Session.lingers_stride hlog (h.drained hdone) hcloses).1
    isClosing := fun hdone => by
      obtain ⟨_, -, htrickles⟩ := Session.trickles_stride hlog (h.isClosing hdone) hcloses
      exact htrickles.isClosing
    goodbyes := by
      rw [htrace, goodbyes_append hquiet]
      exact h.goodbyes
    isClosed := hsame.trans h.isClosed
    reader := fun hcloser =>
      (h.reader hcloser).imp_right fun hgone => Session.isLive_stride hgone hcloses }

/-- What changes neither the registry nor the trace, and does not open what is closing. -/
theorem IsTidy.of_same (h : u.IsTidy id) (hdone : ∀ chore, v.hasDone chore = u.hasDone chore)
    (hsaid : v.said = u.said) (hregistry : v.session.slot.registry = u.session.slot.registry)
    (hclosing : v.session.slot.outlet.isClosing = u.session.slot.outlet.isClosing)
    (hclosed : v.session.slot.isClosed = u.session.slot.isClosed)
    (hlog : v.session.slot.log = u.session.slot.log)
    (htickets : u.session.tickets ≤ v.session.tickets) (htrace : v.session.trace = u.session.trace)
    (hreader : v.closer.isSome = true →
      v.isStopping = true ∨ v.session.slot.reading.isLive = false) :
    v.IsTidy id where
  session := h.session.of_same hregistry (hlog.trans h.session.keeps.log) htickets
    fun _ => by rw [htrace]
  undrained := fun hnot => hregistry ▸ h.undrained (hdone .drain ▸ hnot)
  drained := fun hdrained =>
    ⟨hregistry ▸ (h.drained (hdone .drain ▸ hdrained)).registry,
      hregistry ▸ (h.drained (hdone .drain ▸ hdrained)).entries⟩
  isClosing := fun haborted => hclosing.trans (h.isClosing (hdone .abort ▸ haborted))
  goodbyes := by rw [htrace, hsaid, h.goodbyes]
  isClosed := by rw [hclosed, hdone, h.isClosed]
  reader := hreader

theorem closer_begin (u : Unwinding) (next : Stride) (reason : DrainReason) (why : String) :
    ∃ party, (u.begin next reason why).closer = u.closer.or (some { reason, why, party }) := by
  unfold begin
  cases next with
  | register | offer => exact ⟨_, rfl⟩
  | act action => cases action <;> exact ⟨_, rfl⟩

/-- Whoever begins to close the slot has done nothing, and changes nothing if somebody does. -/
theorem hasDone_begin {next : Stride} {reason : DrainReason} {why : String} (chore : Chore) :
    (u.begin next reason why).hasDone chore = u.hasDone chore := by
  obtain ⟨party, hcloser⟩ := u.closer_begin next reason why
  rw [hasDone, hcloser, hasDone]
  cases u.closer with
  | none => simp [Chore.rank]
  | some closer => rfl

theorem said_begin {next : Stride} {reason : DrainReason} {why : String} :
    (u.begin next reason why).said = u.said := by
  obtain ⟨party, hcloser⟩ := u.closer_begin next reason why
  rw [said, hcloser, hasDone_begin, said]
  cases hclosing : u.closer with
  | none => simp [hasDone, hclosing]
  | some closer => rfl

theorem IsTidy.begin (h : u.IsTidy id) {next : Stride} {reason : DrainReason} {why : String}
    (hcloses : u.session.closedBy? next = some (reason, why)) :
    (u.begin next reason why).IsTidy id := by
  rcases begin_cases hcloses with ⟨rfl, rfl, rfl⟩ | ⟨rfl, rfl, rfl⟩ |
    ⟨action, framer, rfl, rfl, -, -, -, hbegin⟩
  · exact h.of_same hasDone_begin said_begin rfl rfl rfl rfl (Nat.le_succ _) rfl fun _ => .inl rfl
  · exact h.of_same hasDone_begin said_begin rfl rfl rfl rfl (Nat.le_refl _) rfl fun _ => .inl rfl
  · have hgone : (u.begin (.act action) .transportClosed why).session.slot.reading.isLive
        = false := by
      rw [hbegin]
      dsimp only
      split <;> rfl
    refine h.of_same hasDone_begin said_begin ?_ ?_ ?_ ?_ ?_ ?_ fun _ => .inr hgone <;> rw [hbegin]

theorem IsTidy.stop (h : u.IsTidy id) : (u.withSlot u.session.slot.stopReader).IsTidy id :=
  h.of_same (fun _ => rfl) rfl rfl rfl rfl rfl (Nat.le_refl _) rfl fun _ => .inr rfl

theorem isClosing_giveUp (o : Outlet) (party : Party) (hasTheStream : Bool) :
    (o.giveUp party hasTheStream).isClosing = o.isClosing := by
  unfold Outlet.giveUp
  dsimp only
  split <;> rfl

theorem IsTidy.giveUp (h : u.IsTidy id) (party : Party) (hasTheStream : Bool) :
    (u.withSlot { u.session.slot with
      outlet := u.session.slot.outlet.giveUp party hasTheStream }).IsTidy id :=
  h.of_same (fun _ => rfl) rfl rfl (isClosing_giveUp ..) rfl rfl (Nat.le_refl _) rfl h.reader

/-! ## Chores -/

section Chores

variable {closer : Closer} {s : Slot} {x : Session}

theorem tackle_keeps (closer : Closer) (slot : Slot) :
    (tackle closer slot).2.reason = closer.reason ∧ (tackle closer slot).2.why = closer.why ∧
      (tackle closer slot).2.chore = closer.chore.next ∧
      (closer.chore ≠ .drain → (tackle closer slot).2.drained = closer.drained) := by
  obtain ⟨reason, why, party, chore, drained⟩ := closer
  cases chore <;> cases party <;> simp [tackle]

theorem tackle_of_drain (h : closer.chore = .drain) (s : Slot) :
    (tackle closer s).1 = (s.drain closer.reason).1 := by
  rw [tackle, h]

/-- A chore after the first one leaves the registry alone. -/
theorem registry_tackle (h : closer.chore ≠ .drain) (s : Slot) :
    (tackle closer s).1.registry = s.registry := by
  obtain ⟨reason, why, party, chore, drained⟩ := closer
  cases chore with
  | drain => exact absurd rfl h
  | shut => cases party <;> rfl
  | abort | announce | settle | nothing => rfl

/-- And it answers nobody. -/
theorem responses_tackle (h : closer.chore ≠ .drain) (hlog : s.log = []) (sink : Sink) :
    (tackle closer s).1.log.filterMap (Effect.responseTo? sink) = [] := by
  obtain ⟨reason, why, party, chore, drained⟩ := closer
  cases chore with
  | drain => exact absurd rfl h
  | announce =>
    rw [tackle, Slot.publish, Slot.emit, hlog]
    rfl
  | shut => cases party <;> exact congrArg _ hlog
  | abort | settle | nothing => exact congrArg _ hlog

theorem isOrderly_tackle (h : x.IsOrderly id) (closer : Closer) (byReader : Bool) :
    (x.note (tackle closer x.slot).1 byReader).IsOrderly id := by
  by_cases hdrain : closer.chore = .drain
  · rw [tackle_of_drain hdrain]
    exact h.drain closer.reason byReader
  · refine h.of_same (registry_tackle hdrain x.slot) rfl (Nat.le_refl _) fun sink => ?_
    rw [Session.responsesTo_note, responses_tackle hdrain h.keeps.log, List.append_nil]

theorem isDrained_tackle (h : closer.chore ≠ .drain → s.IsDrained) :
    (tackle closer s).1.IsDrained := by
  by_cases hdrain : closer.chore = .drain
  · rw [tackle_of_drain hdrain, Slot.drain_eq]
    exact ⟨rfl, rfl⟩
  · have hregistry := registry_tackle hdrain s
    exact ⟨hregistry ▸ (h hdrain).registry, hregistry ▸ (h hdrain).entries⟩

/-- The outlet closes with its own chore, and stays closing. -/
theorem isClosing_tackle (h : Chore.abort.rank < closer.chore.rank → s.outlet.isClosing = true)
    (hdone : Chore.abort.rank < closer.chore.next.rank) :
    (tackle closer s).1.outlet.isClosing = true := by
  obtain ⟨reason, why, party, chore, drained⟩ := closer
  dsimp only at h hdone
  cases chore with
  | drain => exact absurd hdone (by decide)
  | abort => rfl
  | announce | settle | nothing => exact h (by decide)
  | shut =>
    cases party with
    | none => exact h (by decide)
    | some party => rfl

theorem isClosed_tackle (closer : Closer) (s : Slot) :
    (tackle closer s).1.isClosed = (s.isClosed || closer.chore == .settle) := by
  obtain ⟨reason, why, party, chore, drained⟩ := closer
  cases chore with
  | drain => rw [tackle, Slot.drain_eq]; exact (Bool.or_false _).symm
  | settle => exact (Bool.or_true _).symm
  | shut => cases party <;> exact (Bool.or_false _).symm
  | abort | announce | nothing => exact (Bool.or_false _).symm

theorem reading_tackle (closer : Closer) (s : Slot) :
    (tackle closer s).1.reading = s.reading := by
  obtain ⟨reason, why, party, chore, drained⟩ := closer
  cases chore with
  | drain => rw [tackle, Slot.drain_eq]
  | shut => cases party <;> rfl
  | abort | announce | settle | nothing => rfl

/-- The observers are told of the closing by one chore only. -/
theorem goodbyes_tackle (hlog : x.slot.log = []) (closer : Closer) (byReader : Bool) :
    RadioLink.goodbyes (x.note (tackle closer x.slot).1 byReader).trace
      = RadioLink.goodbyes x.trace
        ++ if closer.chore = .announce then [(closer.why, closer.drained)] else [] := by
  obtain ⟨reason, why, party, chore, drained⟩ := closer
  rw [Session.note, RadioLink.goodbyes, List.filterMap_append, List.filterMap_map]
  refine congrArg (RadioLink.goodbyes x.trace ++ ·) ?_
  cases chore with
  | drain =>
    rw [tackle_of_drain rfl, Slot.drain_eq, hlog, Slot.lastWords]
    simp [Function.comp_def, Effect.goodbye?]
  | announce =>
    rw [tackle, Slot.publish, Slot.emit, hlog]
    rfl
  | shut => cases party <;> exact congrArg _ hlog
  | abort | settle | nothing => exact congrArg _ hlog

end Chores

/-- Whoever closes the slot gets one chore further. -/
theorem IsTidy.proceed (h : u.IsTidy id) : u.proceed.IsTidy id := by
  obtain ⟨x, closer?, isStopping⟩ := u
  cases closer? with
  | none => exact h
  | some closer =>
    obtain ⟨hsession, -, hdrained, hclosing, hgoodbyes, hclosed, hreader⟩ := h
    obtain ⟨-, hwhy, hnext, hcount⟩ := tackle_keeps closer x.slot
    -- What is done before the chore and after it, said of the chore itself.
    have hbefore (chore : Chore) : (Unwinding.mk x (some closer) isStopping).hasDone chore
        = decide (chore.rank < closer.chore.rank) := rfl
    have hafter (chore : Chore) : (Unwinding.mk x (some closer) isStopping).proceed.hasDone chore
        = decide (chore.rank < closer.chore.next.rank) := by rw [← hnext]; rfl
    simp only [hbefore, decide_eq_true_iff] at hdrained hclosing hclosed
    have hstill : (tackle closer x.slot).1.IsDrained := isDrained_tackle fun hchore => hdrained (by
      cases hcase : closer.chore with
      | drain => exact absurd hcase hchore
      | abort | announce | settle | shut | nothing => decide)
    exact {
      session := isOrderly_tackle hsession closer closer.isReader
      undrained := fun hnot => by
        rw [hafter] at hnot
        cases hchore : closer.chore <;> rw [hchore] at hnot <;> cases hnot
      drained := fun _ => ⟨hstill.registry, hstill.entries⟩
      isClosing := fun hdone => by
        rw [hafter, decide_eq_true_iff] at hdone
        exact isClosing_tackle hclosing hdone
      goodbyes := by
        refine (goodbyes_tackle hsession.keeps.log closer closer.isReader).trans ?_
        rw [hgoodbyes, said, said, hafter, hbefore]
        show _ = if _ then
          [((tackle closer x.slot).2.why, (tackle closer x.slot).2.drained)] else []
        rw [hwhy]
        cases hchore : closer.chore with
        | drain => rfl
        | abort | announce | settle | shut | nothing =>
          rw [hcount (by rw [hchore]; exact Chore.noConfusion)]
          rfl
      isClosed := by
        rw [hafter]
        refine (isClosed_tackle closer x.slot).trans ?_
        rw [hclosed]
        cases closer.chore <;> rfl
      reader := fun _ => by
        show isStopping = true ∨ (tackle closer x.slot).1.reading.isLive = false
        rw [reading_tackle]
        exact hreader rfl }

/-- Whatever happens, the slot is as far closed as whoever closes it has come. -/
theorem IsTidy.step (h : u.IsTidy id) (move : Move) : (u.step move).IsTidy id := by
  cases move with
  | stride next =>
    cases hcloses : u.session.closedBy? next with
    | none =>
      rw [step_stride_of_none hcloses]
      exact h.stride hcloses
    | some closing =>
      rw [step_stride_of_some hcloses]
      exact h.begin hcloses
  | proceed => exact h.proceed
  | stop =>
    rw [Unwinding.step]
    split
    · exact h.stop
    · exact h
  | giveUp party hasTheStream => exact h.giveUp party hasTheStream

theorem isTidy_run (id : SlotId) (options : SlotOptions) (moves : List Move) :
    ((start id options).run moves).IsTidy id :=
  run_induction (fun _ move h => h.step move) (isTidy_start id options) moves

/-- Why a move begins to close the slot, if it does. -/
def closing? (u : Unwinding) : Move → Option (DrainReason × String)
  | .stride next => u.session.closedBy? next
  | .proceed | .stop | .giveUp .. => none

/-- Why the slot was to be closed in a run, by everyone who began to, in the order in which they
did. -/
def closings (u : Unwinding) : List Move → List (DrainReason × String)
  | [] => []
  | move :: moves => (u.closing? move).toList ++ (u.step move).closings moves

/-- Why whoever closes the slot does it. -/
def closing (u : Unwinding) : Option (DrainReason × String) :=
  u.closer.map fun closer => (closer.reason, closer.why)

/-- Whoever closes the slot stays the one who does, and gets further only when it goes on. -/
theorem closer_step (u : Unwinding) (move : Move) :
    ((u.step move).closer = u.closer ∧ (u.closer = none → u.closing? move = none)) ∨
    (u.closer = none ∧ ∃ reason why party, u.closing? move = some (reason, why) ∧
      (u.step move).closer = some { reason, why, party }) ∨
    ∃ closer, u.closer = some closer ∧ move = .proceed ∧
      (u.step move).closer = some (tackle closer u.session.slot).2 := by
  cases move with
  | stride next =>
    cases hcloses : u.session.closedBy? next with
    | none =>
      rw [step_stride_of_none hcloses]
      exact .inl ⟨rfl, fun _ => hcloses⟩
    | some closing =>
      obtain ⟨reason, why⟩ := closing
      obtain ⟨party, hcloser⟩ := u.closer_begin next reason why
      rw [step_stride_of_some hcloses, hcloser]
      cases hclosing : u.closer with
      | none => exact .inr (.inl ⟨rfl, reason, why, party, hcloses, rfl⟩)
      | some closer => exact .inl ⟨rfl, fun hnone => by cases hnone⟩
  | proceed =>
    cases hcloser : u.closer with
    | none =>
      rw [step, proceed, hcloser]
      exact .inl ⟨hcloser, fun _ => rfl⟩
    | some closer =>
      rw [step, proceed, hcloser]
      exact .inr (.inr ⟨closer, rfl, rfl, rfl⟩)
  | stop =>
    rw [step]
    split <;> exact .inl ⟨rfl, fun _ => rfl⟩
  | giveUp party hasTheStream => exact .inl ⟨rfl, fun _ => rfl⟩

theorem closing_step (u : Unwinding) (move : Move) :
    (u.step move).closing = u.closing.or (u.closing? move) := by
  rcases u.closer_step move with
    ⟨hsame, hnone⟩ | ⟨hnone, reason, why, party, hwhy, hcloser⟩ | ⟨closer, hcloser, rfl, hnext⟩
  · rw [closing, hsame, closing]
    cases hcloser : u.closer with
    | none => rw [hnone hcloser]; rfl
    | some closer => rfl
  · rw [closing, hcloser, closing, hnone, hwhy]
    rfl
  · obtain ⟨hreason, hwhy, -⟩ := tackle_keeps closer u.session.slot
    rw [closing, hnext, closing, hcloser, Option.map_some, hreason, hwhy]
    rfl

/-- The first one who begins to close the slot is the one who closes it. -/
theorem closing_run (u : Unwinding) (moves : List Move) :
    (u.run moves).closing = u.closing.or (u.closings moves).head? := by
  induction moves generalizing u with
  | nil => exact (Option.or_none).symm
  | cons move moves ih =>
    rw [run_cons, ih, closing_step, Option.or_assoc, closings]
    cases u.closing? move <;> rfl

end Unwinding

end RadioLink
