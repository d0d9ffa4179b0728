import Mathlib
import RadioLink.Proofs.Unheard

set_option autoImplicit false

/-! # Who is answered is not pending any more

A step that resolves a request takes it away, and as sinks are distinct nothing is left that is
pending for its sink. So a step `Settles` what it touches: each sink hears nothing of it, or nothing
is pending for that sink afterwards. It follows that whoever is pending has heard nothing. -/

namespace RadioLink

namespace Registry

variable {r : Registry} {tickets : Nat} {settled : List Sink} {token : Token}

/-- As sinks are distinct, a request that is taken away was the only one with its sink. -/
theorem IsSound.lacks_remove (h : r.IsSound tickets settled) {entry : PendingRequest}
    (hfind : r.find? token = some entry) : (r.remove token).Lacks entry.sink := by
  intro other hmem hsink
  obtain ⟨hmem, htoken⟩ := List.mem_filter.1 hmem
  have hsame := h.eq_of_sink (mem_of_find? hfind) hmem hsink
  rw [hsame, token_of_find? hfind, beq_self_eq_true] at htoken
  cases htoken

/-- The number of the slot is the same, and whether requests can be registered. -/
def KeepsDoor (r after : Registry) : Prop :=
  after.slot = r.slot ∧ after.isClosed = r.isClosed

theorem keepsDoor_refl (r : Registry) : r.KeepsDoor r :=
  ⟨rfl, rfl⟩

theorem KeepsDoor.trans {between after : Registry} (hfirst : r.KeepsDoor between)
    (hsecond : between.KeepsDoor after) : r.KeepsDoor after :=
  ⟨hsecond.1.trans hfirst.1, hsecond.2.trans hfirst.2⟩

theorem keepsDoor_complete (r : Registry) (token : Token) (origin : Origin) :
    r.KeepsDoor (r.complete token origin).1 :=
  ⟨slot_complete r token origin, isClosed_complete r token origin⟩

theorem Routed.keepsDoor {after : Registry} (h : Routed r after) : r.KeepsDoor after := by
  induction h with
  | refl => exact keepsDoor_refl r
  | beginAck _ token ih => exact ih.trans ⟨slot_beginAck _ token, isClosed_beginAck _ token⟩
  | markReceived _ token ih =>
    exact ih.trans ⟨slot_markReceived _ token, isClosed_markReceived _ token⟩
  | complete _ token ih => exact ih.trans (keepsDoor_complete _ token .peer)

theorem keepsDoor_completions (r : Registry) (token : Token) (completions : List (Status × Bytes)) :
    r.KeepsDoor (completions.foldl (fun registry _ => (registry.complete token .vendor).1) r) := by
  induction completions generalizing r with
  | nil => exact keepsDoor_refl r
  | cons completion completions ih =>
    exact (keepsDoor_complete r token .vendor).trans (ih (r.complete token .vendor).1)

end Registry

namespace Slot

variable {s t u : Slot} {tickets : Nat} {settled : List Sink}

/-- Whoever heard something of a step is not pending after it. -/
def Settles (s t : Slot) : Prop :=
  ∀ sink, t.responsesTo sink = s.responsesTo sink ∨ t.registry.Lacks sink

theorem Settles.trans (hfirst : s.Settles t) (hsecond : t.Settles u)
    (hpasses : ∀ sink, t.registry.Lacks sink → t.PassesOver u sink) : s.Settles u := by
  intro sink
  rcases hfirst sink with hsame | hlacks
  · exact (hsecond sink).imp_left fun hsecond => hsecond.trans hsame
  · exact .inr (hpasses sink hlacks).lacks

theorem settles_of_log (hlog : t.log = s.log) : s.Settles t :=
  fun _ => .inl (by rw [responsesTo, hlog, responsesTo])

theorem settles_of_does {effects : List Effect} (hdoes : s.Does t effects)
    (hsilent : AreSilent effects) : s.Settles t := by
  intro sink
  rw [responsesTo_append sink hdoes.log, hsilent.responses, List.append_nil, responsesTo]
  exact .inl rfl

theorem Undisturbed.settles (h : s.Undisturbed t) : s.Settles t :=
  fun sink => .inl (h.responses sink)

/-- The request that a frame answers is gone after that. -/
theorem Answers.settles {frame : Frame} (h : s.Answers frame t)
    (hsound : s.registry.IsSound tickets settled) : s.Settles t := by
  intro sink
  rw [h.responses]
  cases hanswered : s.answered? frame with
  | none => exact .inl (List.append_nil _)
  | some entry =>
    by_cases hsink : entry.sink = sink
    · refine .inr (Registry.lacks_iff_standing.2 ?_)
      have hsinks : (s.registry.standing.map (·.sink)).Nodup := by
        have hmarks : s.registry.standing.map (·.sink) = s.registry.entries.map (·.sink) :=
          List.map_map
        rw [hmarks]
        exact hsound.sinks
      obtain ⟨-, hentry, htoken⟩ := of_answered? hanswered
      rw [h.standing, hanswered]
      intro other hmem hother
      obtain ⟨hmem, hne⟩ := List.mem_filter.1 hmem
      have hsame := List.inj_on_of_nodup_map hsinks hmem hentry (hother.trans hsink.symm)
      rw [hsame, htoken, beq_self_eq_true] at hne
      cases hne
    · left
      simp only [if_neg hsink, List.append_nil]

theorem settles_cancel (s : Slot) (token : Token) : s.Settles (s.cancel token).1 := by
  rw [cancel]
  split
  · next registry _ =>
    refine settles_of_does (does_emit s registry _) fun delivery hmem => ?_
    cases List.mem_singleton.1 hmem
  · exact settles_of_log rfl

theorem settles_completeLocal (h : s.registry.IsSound tickets settled) (token : Token)
    (status : Status) (payload : Bytes) :
    s.Settles (s.completeLocal token status payload).1 := by
  rw [completeLocal]
  rcases Registry.complete_cases s.registry token .vendor with
    ⟨entry, hfind, -, hcomplete⟩ | ⟨hcomplete, -⟩ <;> rw [hcomplete]
  · cases entry.isCancelled with
    | true => exact settles_of_log rfl
    | false =>
      intro sink
      by_cases hsink : entry.sink = sink
      · exact .inr (hsink ▸ h.lacks_remove hfind)
      · left
        simp only [Bool.false_eq_true, if_false]
        rw [responsesTo_append sink rfl]
        simp [Effect.responseTo?, hsink, responsesTo]
  · exact settles_of_log rfl

theorem settles_completeLocalAll (h : s.registry.IsSound tickets settled) (token : Token)
    (completions : List (Status × Bytes)) :
    s.Settles (s.completeLocalAll token completions).1 := by
  induction completions generalizing s with
  | nil => exact settles_of_log rfl
  | cons completion completions ih =>
    have hfirst := settles_completeLocal h token completion.1 completion.2
    have hsound : (s.completeLocal token completion.1 completion.2).1.registry.IsSound tickets
        settled := by
      rw [registry_completeLocal]
      exact h.complete token .vendor
    exact hfirst.trans (ih hsound) fun _ hlacks =>
      passesOver_completeLocalAll hlacks token completions

theorem settles_submitLocal (h : s.registry.IsSound tickets settled) (request : RequestId)
    (data : Bytes) : s.Settles (s.submitLocal request data tickets).1 := by
  rw [submitLocal]
  split
  · exact settles_of_log rfl
  · cases hsubmit : s.registry.submit request tickets .vendor with
    | error e => exact settles_of_log rfl
    | ok result =>
      obtain ⟨registry, token⟩ := result
      obtain ⟨-, hfree, rfl⟩ := Registry.submit_ok hsubmit
      have hregistered : ({ s.registry with nextToken := token.raw + 1 }.add
          { token, request, sink := tickets, origin := .vendor }).IsSound (tickets + 1) settled :=
        Registry.IsSound.add (r := { s.registry with nextToken := token.raw + 1 })
          (h.of_entries rfl) hfree rfl rfl
      generalize Registry.add _ _ = registry at hregistered ⊢
      have hcompleted : s.Settles ({ s with registry }.completeLocalAll token
          (s.callbacks.vendor.serve request token data).completions).1 :=
        settles_completeLocalAll (s := { s with registry }) hregistered token _
      dsimp only
      generalize completeLocalAll { s with registry } token _ = result at hcompleted ⊢
      obtain ⟨completed, taken⟩ := result
      have hserved : s.Settles (completed.emit (.served request token data taken)) := by
        intro sink
        have hasked : (completed.emit (.served request token data taken)).responsesTo sink
            = completed.responsesTo sink := by
          rw [responsesTo_append sink rfl]
          simp [Effect.responseTo?, responsesTo]
        exact (hcompleted sink).imp_left hasked.trans
      split
      · exact hserved
      · exact fun sink => (hserved sink).imp_right fun hlacks => hlacks.rollback token

theorem settles_conclude (s : Slot) (submission : Submission) (result : Except LinkError Unit) :
    s.Settles (s.conclude submission result).1 := by
  cases result with
  | ok _ => exact settles_of_does (does_emit s s.registry _) (areSilent_published _)
  | error e => exact settles_of_log rfl

theorem settles_beginRoute (h : s.registry.IsSound tickets settled) (party : Party)
    (frame : Frame) : s.Settles (s.beginRoute party frame).1 := by
  have hreceive := s.undisturbed_receive frame
  rcases s.beginRoute_cases party frame with
    ⟨-, hroute⟩ | ⟨_, _, -, -, hroute⟩ | ⟨_, offered, -, hoffer, hroute⟩ <;> rw [hroute]
  · exact (hreceive.answers (answers_resolve _ frame)).settles h
  · exact (hreceive.answers (answers_resolve _ frame)).settles h
  · exact (hreceive.trans (undisturbed_offer hoffer)).settles

theorem settles_resumeReader (h : s.registry.IsSound tickets settled) (outcome : Outcome) :
    s.Settles (s.resumeReader outcome) := by
  unfold resumeReader
  split
  · next frame ack result _ =>
    exact ((undisturbed_acknowledged { s with reading := .waiting } ack result).answers
      (answers_resolve _ frame)).settles h
  · exact settles_of_log rfl
  · exact settles_of_log rfl

end Slot

namespace Session

variable {x : Session} {settled : List Sink}

theorem settles_act (h : x.slot.registry.IsSound x.tickets settled) {action : Action}
    (hcloses : x.closing? action = none) : x.slot.Settles (x.act action).slot := by
  have hsame : x.slot.Settles x.slot := Slot.settles_of_log rfl
  cases action with
  | submit chosen request payload =>
    have hdoes := x.slot.does_beginSubmission (.caller x.tickets) chosen request payload x.tickets
    exact Slot.settles_of_log (hdoes.log.trans (List.append_nil _))
  | submitLocal request data => exact Slot.settles_submitLocal h request data
  | completeLocal token status payload => exact Slot.settles_completeLocal h token status payload
  | cancel token => exact x.slot.settles_cancel token
  | registerCallbacks callbacks =>
    intro sink
    left
    rw [Slot.responsesTo_append sink rfl]
    exact List.append_nil _
  | listen | vanish | failWrite | attend | arrive => exact Slot.settles_of_log rfl
  | shutDown | abandon => cases hcloses
  | resume party =>
    rw [act]
    split
    · next outlet outcome _ =>
      unfold goOn
      cases party with
      | reader => exact Slot.settles_resumeReader (s := { x.slot with outlet }) h outcome
      | caller ticket =>
        dsimp only
        split
        · exact Slot.settles_conclude { x.slot with outlet } _ _
        · exact Slot.settles_of_log rfl
    · exact hsame
  | accept count => exact (x.slot.undisturbed_accept count).settles
  | read =>
    rcases act_read_cases hcloses with hidle | ⟨framer, frame, reading, -, -, hread⟩
    · rw [hidle]
      exact hsame
    · rw [hread]
      exact Slot.settles_beginRoute (s := { x.slot with framer }) h .reader frame
  | endOfStream =>
    rw [act_endOfStream hcloses]
    exact hsame
  | failRead =>
    rw [act_failRead hcloses]
    exact hsame

/-- Only closing a slot closes its registry. -/
theorem keepsDoor_act {action : Action} (hcloses : x.closing? action = none) :
    x.slot.registry.KeepsDoor (x.act action).slot.registry := by
  have hsame : x.slot.registry.KeepsDoor x.slot.registry := Registry.keepsDoor_refl _
  cases action with
  | submit chosen request payload =>
    rw [act]
    rcases x.slot.beginSubmission_cases (.caller x.tickets) chosen request payload x.tickets with
      ⟨e, nextToken, hbegin⟩ | ⟨submission, nextToken, outlet, -, -, -, -, hbegin⟩ <;>
      rw [hbegin] <;> exact ⟨rfl, rfl⟩
  | submitLocal request data =>
    rw [act]
    rcases x.slot.submitLocal_registry request data x.tickets with
      hrefused | ⟨token, nextToken, -, completions, completed, rfl, hlast | hlast⟩
    · rw [hrefused]
      exact hsame
    · rw [hlast]
      exact Registry.keepsDoor_completions _ token completions
    · rw [hlast]
      exact Registry.keepsDoor_completions _ token completions
  | completeLocal token status payload =>
    rw [act, Slot.registry_completeLocal]
    exact Registry.keepsDoor_complete _ token .vendor
  | cancel token =>
    rw [act, Slot.registry_cancel]
    exact ⟨Registry.slot_cancel _ token, Registry.isClosed_cancel _ token⟩
  | registerCallbacks | listen | vanish | failWrite | attend | arrive => exact hsame
  | shutDown | abandon => cases hcloses
  | resume party =>
    rw [act]
    split
    · next outlet outcome _ =>
      unfold goOn
      cases party with
      | reader => exact (Slot.routed_resumeReader { x.slot with outlet } outcome).keepsDoor
      | caller ticket =>
        dsimp only
        split
        · next result submission _ _ => cases result <;> exact ⟨rfl, rfl⟩
        · exact hsame
    · exact hsame
  | accept count =>
    rw [act, Slot.registry_accept]
    exact hsame
  | read =>
    rcases act_read_cases hcloses with hidle | ⟨framer, frame, reading, -, -, hread⟩
    · rw [hidle]
      exact hsame
    · rw [hread]
      exact ({ x.slot with framer }.routed_beginRoute .reader frame).keepsDoor
  | endOfStream =>
    rw [act_endOfStream hcloses]
    exact hsame
  | failRead =>
    rw [act_failRead hcloses]
    exact hsame

theorem keepsDoor_stride {next : Stride} (hcloses : x.closedBy? next = none) :
    x.slot.registry.KeepsDoor (x.stride next).slot.registry := by
  cases next with
  | register chosen request payload =>
    rw [stride, register]
    split
    · next registered submission hregister =>
      obtain ⟨-, -, nextToken, rfl⟩ := Slot.register_ok hregister
      exact ⟨rfl, rfl⟩
    · exact ⟨rfl, rfl⟩
  | offer ticket =>
    rw [stride, offer]
    split
    · exact ⟨rfl, rfl⟩
    · split
      · next offered hoffer =>
        rw [Slot.registry_of_offer hoffer]
        exact ⟨rfl, rfl⟩
      · exact ⟨rfl, rfl⟩
  | act action => exact keepsDoor_act hcloses

theorem isSound_stride (h : x.slot.registry.IsSound x.tickets settled) {next : Stride}
    (hcloses : x.closedBy? next = none) :
    (x.stride next).slot.registry.IsSound (x.stride next).tickets settled := by
  cases next with
  | register chosen request payload =>
    rw [stride, register]
    split
    · next registered submission hregister =>
      obtain ⟨-, hfree, nextToken, rfl⟩ := Slot.register_ok hregister
      exact Registry.IsSound.add (r := { x.slot.registry with nextToken }) (h.of_entries rfl) hfree
        rfl rfl
    · exact h.mono (Nat.le_succ _)
  | offer ticket =>
    rw [stride, offer]
    split
    · exact h
    · split
      · next offered hoffer =>
        rw [Slot.registry_of_offer hoffer]
        exact h
      · exact h
  | act action => exact isSound_act hcloses h

/-- Whoever is pending has heard nothing. -/
def AreUnanswered (x : Session) : Prop :=
  ∀ entry ∈ x.slot.registry.entries, responsesTo x.trace entry.sink = []

theorem AreUnanswered.stride (h : x.AreUnanswered) (hkeeps : x.KeepsTickets)
    (hsound : x.slot.registry.IsSound x.tickets settled) {next : Stride}
    (hcloses : x.closedBy? next = none) : (x.stride next).AreUnanswered := by
  intro entry hmem
  -- A stride tells nobody anything who is pending after it.
  have hnothing :
      responsesTo (x.stride next).trace entry.sink = responsesTo x.trace entry.sink := by
    cases next with
    | register chosen request payload =>
      rw [Session.stride, register]
      split <;> rfl
    | offer ticket =>
      rw [Session.stride, offer]
      split
      · rfl
      · split <;> rfl
    | act action =>
      have hsame : (x.act action).slot.responsesTo entry.sink = x.slot.responsesTo entry.sink :=
        (settles_act hsound hcloses entry.sink).resolve_right fun hlacks => hlacks entry hmem rfl
      rw [Slot.responsesTo, Slot.responsesTo, hkeeps.log, List.filterMap_nil] at hsame
      rw [Session.stride, step, responsesTo, List.filterMap_append, List.filterMap_map]
      exact (congrArg (responsesTo x.trace entry.sink ++ ·) hsame).trans (List.append_nil _)
  rw [hnothing]
  by_cases hlacks : x.slot.registry.Lacks entry.sink
  · -- It is pending since this stride, so its ticket is a new one.
    refine hkeeps.responses entry.sink (Nat.le_of_not_lt fun hgiven => ?_)
    exact (unheard_stride hkeeps.log hlacks next (.inl hgiven)).1 entry hmem rfl
  · simp only [Registry.Lacks, not_forall, Classical.not_not] at hlacks
    obtain ⟨other, hother, hsink⟩ := hlacks
    exact hsink ▸ h other hother

end Session

end RadioLink
