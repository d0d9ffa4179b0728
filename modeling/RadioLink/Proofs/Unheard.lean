import RadioLink.Proofs.Arrivals
import RadioLink.Proofs.Strides

set_option autoImplicit false

/-! # Sinks that hear nothing

A response goes to a sink only while a request is pending for it, or as the request is submitted. So
a step that hands out no ticket for a sink that nothing is pending for `PassesOver` that sink, and
leaves nothing pending for it. No ticket is handed out twice: once nothing is pending for a ticket
that was handed out its sink hears nothing more, and before a ticket is handed out its sink has
heard nothing. -/

namespace RadioLink

/-! ## Registries -/

namespace Registry

variable {r after : Registry} {sink : Sink} {token : Token}

/-- Nothing is pending for a sink. -/
def Lacks (r : Registry) (sink : Sink) : Prop :=
  ∀ entry ∈ r.entries, entry.sink ≠ sink

theorem Lacks.of_subset (h : r.Lacks sink) (hsubset : after.entries ⊆ r.entries) :
    after.Lacks sink :=
  fun entry hmem => h entry (hsubset hmem)

theorem Lacks.add (h : r.Lacks sink) (entry : PendingRequest) (hsink : entry.sink ≠ sink) :
    (r.add entry).Lacks sink :=
  List.forall_mem_append.2 ⟨h, List.forall_mem_singleton.2 hsink⟩

theorem Lacks.modify (h : r.Lacks sink) {change : PendingRequest → PendingRequest}
    (howner : ∀ entry, (change entry).owner = entry.owner) :
    (r.modify token change).Lacks sink := by
  intro changed hmem
  obtain ⟨entry, hentry, hsink⟩ := exists_of_mem_modify howner hmem
  exact hsink ▸ h entry hentry

theorem Lacks.cancel (h : r.Lacks sink) (token : Token) : (r.cancel token).1.Lacks sink := by
  rcases cancel_cases r token with ⟨_, -, -, hcancel⟩ | hcancel <;> rw [hcancel]
  · exact h.modify fun _ => rfl
  · exact h

theorem Lacks.rollback (h : r.Lacks sink) (token : Token) : (r.rollback token).Lacks sink :=
  h.of_subset List.filter_sublist.subset

/-- Marks do not count. -/
theorem lacks_iff_standing : r.Lacks sink ↔ ∀ entry ∈ r.standing, entry.sink ≠ sink := by
  rw [standing, List.forall_mem_map]
  rfl

end Registry

/-! ## Steps of a slot -/

namespace Slot

variable {s t u : Slot} {sink : Sink}

/-- Nothing was delivered to a sink, and nothing is pending for it. -/
structure PassesOver (s t : Slot) (sink : Sink) : Prop where
  lacks : t.registry.Lacks sink
  responses : t.responsesTo sink = s.responsesTo sink

theorem PassesOver.trans (hfirst : s.PassesOver t sink) (hsecond : t.PassesOver u sink) :
    s.PassesOver u sink :=
  ⟨hsecond.lacks, hsecond.responses.trans hfirst.responses⟩

theorem passesOver_of_same (hlacks : t.registry.Lacks sink) (hlog : t.log = s.log) :
    s.PassesOver t sink :=
  ⟨hlacks, by rw [responsesTo, hlog, responsesTo]⟩

theorem passesOver_of_does (hlacks : t.registry.Lacks sink) {effects : List Effect}
    (hdoes : s.Does t effects) (hsilent : AreSilent effects) : s.PassesOver t sink where
  lacks := hlacks
  responses := by
    rw [responsesTo_append sink hdoes.log, hsilent.responses, List.append_nil, responsesTo]

/-- A response goes to the sink of a request that was pending. -/
theorem passesOver_deliver {registry : Registry} (hlacks : registry.Lacks sink)
    {pending : PendingRequest} (hsink : pending.sink ≠ sink) (response : Response) :
    s.PassesOver ({ s with registry }.deliver pending response) sink where
  lacks := hlacks
  responses := by
    rw [responsesTo_append sink rfl]
    simp [Effect.responseTo?, hsink, responsesTo]

theorem Undisturbed.passesOver (h : s.Undisturbed t) (hlacks : s.registry.Lacks sink) :
    s.PassesOver t sink where
  lacks := Registry.lacks_iff_standing.2 (h.standing ▸ Registry.lacks_iff_standing.1 hlacks)
  responses := h.responses sink

theorem Answers.passesOver {frame : Frame} (h : s.Answers frame t)
    (hlacks : s.registry.Lacks sink) : s.PassesOver t sink where
  lacks := Registry.lacks_iff_standing.2 fun entry hmem =>
    Registry.lacks_iff_standing.1 hlacks entry (h.standing_subset hmem)
  responses := by
    rw [h.responses]
    split
    · next entry hanswered =>
      obtain ⟨-, hmem, -⟩ := of_answered? hanswered
      rw [if_neg (Registry.lacks_iff_standing.1 hlacks entry hmem), List.append_nil]
    · exact List.append_nil _

section Calls

variable (hlacks : s.registry.Lacks sink)
include hlacks

theorem passesOver_cancel (token : Token) : s.PassesOver (s.cancel token).1 sink := by
  have hafter := hlacks.cancel token
  rw [cancel]
  split
  · next registry heq =>
    rw [heq] at hafter
    refine passesOver_of_does hafter (does_emit s registry _) fun delivery hmem => ?_
    cases List.mem_singleton.1 hmem
  · exact passesOver_of_same hlacks rfl

theorem passesOver_beginSubmission (party : Party) (chosen : Option Token) (request : RequestId)
    (payload : Payload) {other : Sink} (hother : other ≠ sink) :
    s.PassesOver (s.beginSubmission party chosen request payload other).1 sink := by
  rcases s.beginSubmission_cases party chosen request payload other with
    ⟨e, nextToken, hbegin⟩ | ⟨submission, nextToken, outlet, -, -, -, -, hbegin⟩ <;> rw [hbegin]
  · exact passesOver_of_same hlacks rfl
  · exact passesOver_of_same (Registry.Lacks.add (r := { s.registry with nextToken }) hlacks _ hother)
      rfl

theorem passesOver_completeLocal (token : Token) (status : Status) (payload : Bytes) :
    s.PassesOver (s.completeLocal token status payload).1 sink := by
  rw [completeLocal]
  rcases Registry.complete_cases s.registry token .vendor with
    ⟨entry, hfind, -, hcomplete⟩ | ⟨hcomplete, -⟩
  · have hsink := hlacks entry (Registry.mem_of_find? hfind)
    have hafter : (s.registry.complete token .vendor).1.Lacks sink := by
      rw [hcomplete]
      exact hlacks.rollback token
    rw [hcomplete] at hafter ⊢
    cases entry.isCancelled with
    | false => exact passesOver_deliver hafter hsink _
    | true => exact passesOver_of_same hafter rfl
  · rw [hcomplete]
    exact passesOver_of_same hlacks rfl

theorem passesOver_completeLocalAll (token : Token) (completions : List (Status × Bytes)) :
    s.PassesOver (s.completeLocalAll token completions).1 sink := by
  induction completions generalizing s with
  | nil => exact passesOver_of_same hlacks rfl
  | cons completion completions ih =>
    have hfirst := passesOver_completeLocal hlacks token completion.1 completion.2
    exact hfirst.trans (ih hfirst.lacks)

theorem passesOver_submitLocal (request : RequestId) (data : Bytes) {other : Sink}
    (hother : other ≠ sink) : s.PassesOver (s.submitLocal request data other).1 sink := by
  rw [submitLocal]
  split
  · exact passesOver_of_same hlacks rfl
  · cases hsubmit : s.registry.submit request other .vendor with
    | error e => exact passesOver_of_same hlacks rfl
    | ok result =>
      obtain ⟨registry, token⟩ := result
      obtain ⟨-, -, rfl⟩ := Registry.submit_ok hsubmit
      have hregistered := Registry.Lacks.add
        (r := { s.registry with nextToken := token.raw + 1 }) hlacks
        { token, request, sink := other, origin := .vendor } hother
      generalize Registry.add _ _ = registry at hregistered ⊢
      have hcompleted := passesOver_completeLocalAll (s := { s with registry }) hregistered token
        (s.callbacks.vendor.serve request token data).completions
      dsimp only
      generalize completeLocalAll { s with registry } token _ = result at hcompleted ⊢
      obtain ⟨completed, taken⟩ := result
      have hserved : s.PassesOver (completed.emit (.served request token data taken)) sink := by
        have hasked : completed.PassesOver (completed.emit (.served request token data taken))
            sink := passesOver_of_does hcompleted.lacks (does_emit completed completed.registry _)
              fun delivery hmem => by cases List.mem_singleton.1 hmem
        exact ⟨hasked.lacks, hasked.responses.trans hcompleted.responses⟩
      split
      · exact hserved
      · exact ⟨hserved.lacks.rollback token, hserved.responses⟩

theorem passesOver_conclude (submission : Submission) (result : Except LinkError Unit) :
    s.PassesOver (s.conclude submission result).1 sink := by
  cases result with
  | ok _ => exact passesOver_of_does hlacks (does_emit s s.registry _) (areSilent_published _)
  | error e => exact passesOver_of_same (hlacks.rollback submission.token) rfl

theorem passesOver_beginRoute (party : Party) (frame : Frame) :
    s.PassesOver (s.beginRoute party frame).1 sink := by
  have hreceive := s.undisturbed_receive frame
  rcases s.beginRoute_cases party frame with
    ⟨-, hroute⟩ | ⟨_, _, -, -, hroute⟩ | ⟨_, offered, -, hoffer, hroute⟩ <;> rw [hroute]
  · exact (hreceive.answers (answers_resolve _ frame)).passesOver hlacks
  · exact (hreceive.answers (answers_resolve _ frame)).passesOver hlacks
  · exact (hreceive.trans (undisturbed_offer hoffer)).passesOver hlacks

theorem passesOver_resumeReader (outcome : Outcome) :
    s.PassesOver (s.resumeReader outcome) sink := by
  unfold resumeReader
  split
  · next frame ack result _ =>
    have hresolved := ((undisturbed_acknowledged { s with reading := .waiting } ack result).answers
      (answers_resolve _ frame)).passesOver hlacks
    exact ⟨hresolved.lacks, hresolved.responses⟩
  · exact passesOver_of_same hlacks rfl
  · exact passesOver_of_same hlacks rfl

/-- A slot that closes says so to the sinks of what was pending. -/
theorem passesOver_closeNow (reason : DrainReason) (why : String) :
    s.PassesOver (s.closeNow reason why).1 sink := by
  cases hclosed : s.isClosed with
  | true =>
    rw [closeNow_of_closed hclosed]
    exact passesOver_of_same hlacks rfl
  | false =>
    rw [closeNow_of_open hclosed]
    refine ⟨List.forall_mem_nil _, ?_⟩
    have hfarewell : (s.farewell reason why).filterMap (Effect.responseTo? sink) = [] := by
      rw [farewell, lastWords, List.filterMap_append, List.filterMap_map, List.append_eq_nil_iff]
      refine ⟨List.filterMap_eq_nil_iff.2 fun entry hmem => ?_, rfl⟩
      exact if_neg (hlacks entry (List.mem_filter.1 hmem).1)
    rw [responsesTo_append sink rfl, hfarewell, List.append_nil, responsesTo]

theorem passesOver_closeAndShutNow (party : Party) (reason : DrainReason) (why : String) :
    s.PassesOver (s.closeAndShutNow party reason why).1 sink := by
  have hclose := passesOver_closeNow hlacks reason why
  rw [closeAndShutNow]
  split <;> next heq => rw [heq] at hclose; exact ⟨hclose.lacks, hclose.responses⟩

theorem passesOver_closeFromReaderNow (why : String) :
    s.PassesOver (s.closeFromReaderNow why) sink := by
  have hclose := passesOver_closeAndShutNow hlacks .reader .transportClosed why
  rw [closeFromReaderNow]
  split <;> next heq => rw [heq] at hclose; exact ⟨hclose.lacks, hclose.responses⟩

end Calls

end Slot

/-! ## Steps of a session -/

namespace Session

variable {x : Session} {sink : Sink}

theorem passesOver_goOn (hlacks : x.slot.registry.Lacks sink) (outcome : Outcome) (party : Party) :
    x.slot.PassesOver (x.goOn outcome party).slot sink := by
  unfold goOn
  cases party with
  | reader => exact Slot.passesOver_resumeReader hlacks outcome
  | caller ticket =>
    dsimp only
    split
    · exact Slot.passesOver_conclude hlacks _ _
    · exact Slot.passesOver_of_same hlacks rfl

/-- A step passes over every sink that nothing is pending for, unless its ticket is handed out
now. -/
theorem passesOver_act (hlacks : x.slot.registry.Lacks sink) {action : Action}
    (hsink : sink < x.tickets ∨ (x.act action).tickets ≤ sink) :
    x.slot.PassesOver (x.act action).slot sink := by
  have hsame : ∀ {after : Slot}, after.registry = x.slot.registry → after.log = x.slot.log →
      x.slot.PassesOver after sink :=
    fun hregistry hlog => Slot.passesOver_of_same (hregistry ▸ hlacks) hlog
  cases action with
  | submit chosen request payload =>
    refine Slot.passesOver_beginSubmission hlacks _ chosen request payload ?_
    rintro rfl
    exact hsink.elim (Nat.lt_irrefl _) (Nat.not_succ_le_self _)
  | submitLocal request data =>
    refine Slot.passesOver_submitLocal hlacks request data ?_
    rintro rfl
    exact hsink.elim (Nat.lt_irrefl _) (Nat.not_succ_le_self _)
  | completeLocal token status payload =>
    exact Slot.passesOver_completeLocal hlacks token status payload
  | cancel token => exact Slot.passesOver_cancel hlacks token
  | registerCallbacks callbacks =>
    refine ⟨hlacks, ?_⟩
    rw [Slot.responsesTo_append sink rfl]
    exact List.append_nil _
  | listen | vanish | failWrite | attend | arrive => exact hsame rfl rfl
  | shutDown =>
    have hclose := Slot.passesOver_closeAndShutNow (s := x.slot.stopReader) hlacks
      (.caller x.tickets) .shutDown "shut down locally"
    exact ⟨hclose.lacks, hclose.responses⟩
  | abandon =>
    have hclose := Slot.passesOver_closeNow (s := x.slot.stopReader) hlacks .shutDown "manager dropped"
    exact ⟨hclose.lacks, hclose.responses⟩
  | resume party =>
    rw [act]
    split
    · next outlet outcome _ =>
      have hgoOn := passesOver_goOn (x := { x with slot := { x.slot with outlet } }) hlacks outcome
        party
      exact ⟨hgoOn.lacks, hgoOn.responses⟩
    · exact hsame rfl rfl
  | accept count => exact (x.slot.undisturbed_accept count).passesOver hlacks
  | read =>
    rw [act]
    by_cases hwaiting : x.slot.reading = .waiting
    · rcases Slot.readNext?_cases hwaiting with ⟨-, hread⟩ | ⟨e, -, hread⟩ | ⟨frame, -, hread⟩ <;>
        rw [hread]
      · exact hsame rfl rfl
      · have hclose := Slot.passesOver_closeFromReaderNow
          (s := { x.slot with framer := x.slot.framer.nextFrame.1 }) hlacks
          (LinkError.framing e).message
        exact ⟨hclose.lacks, hclose.responses⟩
      · have hroute := Slot.passesOver_beginRoute
          (s := { x.slot with framer := x.slot.framer.nextFrame.1 }) hlacks .reader frame
        dsimp only
        split <;> exact ⟨hroute.lacks, hroute.responses⟩
    · rw [Slot.readNext?_of_not_waiting hwaiting]
      exact hsame rfl rfl
  | endOfStream | failRead =>
    rw [act]
    split
    · exact Slot.passesOver_closeFromReaderNow hlacks _
    · exact hsame rfl rfl

/-! ## Strides -/

/-- What every stride keeps, every list of strides keeps. -/
theorem strides_induction {P : Session → Prop} (hstride : ∀ x next, P x → P (x.stride next))
    (h : P x) (all : List Stride) : P (x.strides all) := by
  induction all generalizing x with
  | nil => exact h
  | cons next all ih => exact ih (hstride x next h)

theorem log_stride (hlog : x.slot.log = []) (next : Stride) : (x.stride next).slot.log = [] := by
  cases next with
  | register chosen request payload =>
    rw [stride, register]
    split
    · next registered submission hregister =>
      obtain ⟨-, -, nextToken, rfl⟩ := Slot.register_ok hregister
      exact hlog
    · exact hlog
  | offer ticket =>
    rw [stride, offer]
    split
    · exact hlog
    · split
      · next offered hoffer =>
        rw [(Slot.does_offer hoffer).log, hlog]
        rfl
      · exact hlog
  | act action => rfl

theorem tickets_stride (x : Session) (next : Stride) : x.tickets ≤ (x.stride next).tickets := by
  cases next with
  | register chosen request payload =>
    rw [stride, register]
    split <;> exact Nat.le_succ _
  | offer ticket =>
    rw [stride, offer]
    split
    · exact Nat.le_refl _
    · split <;> exact Nat.le_refl _
  | act action => exact x.tickets_act action

/-- Nothing is pending for a sink after a stride, and it heard nothing. -/
theorem unheard_stride (hlog : x.slot.log = []) (hlacks : x.slot.registry.Lacks sink)
    (next : Stride) (hsink : sink < x.tickets ∨ (x.stride next).tickets ≤ sink) :
    (x.stride next).slot.registry.Lacks sink ∧
      responsesTo (x.stride next).trace sink = responsesTo x.trace sink := by
  cases next with
  | register chosen request payload =>
    rw [stride, register] at hsink ⊢
    split at hsink
    · next registered submission hregister =>
      obtain ⟨-, -, nextToken, rfl⟩ := Slot.register_ok hregister
      refine ⟨Registry.Lacks.add (r := { x.slot.registry with nextToken }) hlacks _ ?_, rfl⟩
      rintro rfl
      exact hsink.elim (Nat.lt_irrefl _) (Nat.not_succ_le_self _)
    · exact ⟨hlacks, rfl⟩
  | offer ticket =>
    rw [stride, offer]
    split
    · exact ⟨hlacks, rfl⟩
    · split
      · next offered hoffer =>
        refine ⟨?_, rfl⟩
        rw [Slot.registry_of_offer hoffer]
        exact hlacks
      · exact ⟨hlacks, rfl⟩
  | act action =>
    have hpasses := passesOver_act hlacks hsink
    refine ⟨hpasses.lacks, ?_⟩
    have hnothing : (x.act action).slot.responsesTo sink = [] := by
      rw [hpasses.responses, Slot.responsesTo, hlog]
      rfl
    rw [stride, step, responsesTo, List.filterMap_append, List.filterMap_map]
    exact (congrArg (responsesTo x.trace sink ++ ·) hnothing).trans (List.append_nil _)

/-- Once nothing is pending for a ticket that was handed out, its sink hears nothing more. -/
theorem unheard_strides (hlog : x.slot.log = []) (hlacks : x.slot.registry.Lacks sink)
    (hsink : sink < x.tickets) (all : List Stride) :
    responsesTo (x.strides all).trace sink = responsesTo x.trace sink := by
  induction all generalizing x with
  | nil => rfl
  | cons next all ih =>
    obtain ⟨hstill, hsame⟩ := unheard_stride hlog hlacks next (.inl hsink)
    exact (ih (log_stride hlog next) hstill
      (Nat.lt_of_lt_of_le hsink (x.tickets_stride next))).trans hsame

/-- Nothing is pending for tickets that were not handed out, and their sinks have heard nothing. -/
structure KeepsTickets (x : Session) : Prop where
  log : x.slot.log = []
  lacks : ∀ sink, x.tickets ≤ sink → x.slot.registry.Lacks sink
  responses : ∀ sink, x.tickets ≤ sink → responsesTo x.trace sink = []

theorem KeepsTickets.stride (h : x.KeepsTickets) (next : Stride) :
    (x.stride next).KeepsTickets := by
  have hunheard : ∀ sink, (x.stride next).tickets ≤ sink →
      (x.stride next).slot.registry.Lacks sink ∧
        responsesTo (x.stride next).trace sink = responsesTo x.trace sink := fun sink hsink =>
    unheard_stride h.log (h.lacks sink (Nat.le_trans (x.tickets_stride next) hsink)) next
      (.inr hsink)
  refine ⟨log_stride h.log next, fun sink hsink => (hunheard sink hsink).1, fun sink hsink => ?_⟩
  rw [(hunheard sink hsink).2]
  exact h.responses sink (Nat.le_trans (x.tickets_stride next) hsink)

theorem keepsTickets_strides (id : SlotId) (options : SlotOptions) (all : List Stride) :
    ((start id options).strides all).KeepsTickets :=
  strides_induction (fun _ next h => h.stride next)
    ⟨rfl, fun _ _ => List.forall_mem_nil _, fun _ _ => rfl⟩ all

end Session

end RadioLink
