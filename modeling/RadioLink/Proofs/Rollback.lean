import RadioLink.Proofs.Strides

set_option autoImplicit false

/-! # What a submission that fails takes back

A submission registers its request, offers its command to the stream, and takes its request back if
the command is not written. Other things may happen in between, which is why submissions are taken
apart here into strides.

A request is taken back by its token alone. While a submission is under way its request may be
resolved and its token be registered again by another submission, whose request is then the one that
is taken back. What holds is that this is the only way: a request that was registered while no other
submission was under way with its token stays pending until it is resolved, the slot closes, or its
own submission fails. -/

namespace RadioLink

/-! ## What becomes of an owner -/

namespace Registry

variable {r : Registry} {token : Token} {owner : Owner}

/-- Completing takes at most the request of that side with that token. -/
theorem owner?_complete (howner : r.owner? token = some owner) (other : Token) (origin : Origin) :
    (r.complete other origin).1.owner? token = some owner ∨
    (r.complete other origin).1.owner? token = none ∧ other = token ∧ owner.origin = origin := by
  rcases complete_cases r other origin with ⟨entry, hfind, horigin, hcomplete⟩ | ⟨hcomplete, -⟩ <;>
    rw [hcomplete]
  · have hremoved := owner?_remove r other token
    by_cases htoken : other = token
    · subst htoken
      rw [owner?_of_find? hfind, Option.some.injEq] at howner
      refine .inr ⟨hremoved.trans (if_pos rfl), rfl, ?_⟩
      rw [← howner]
      exact horigin
    · exact .inl (hremoved.trans ((if_neg htoken).trans howner))
  · exact .inl howner

/-- A token that is pending is not free. -/
theorem ne_of_owner? (howner : r.owner? token = some owner) {other : Token}
    (hfree : r.contains other = false) : other ≠ token := by
  rintro rfl
  rw [owner?_eq_none_iff.2 hfree] at howner
  cases howner

/-- Whatever is registered leaves every owner as it is. -/
theorem owner?_register (howner : r.owner? token = some owner) (nextToken : UInt32)
    {entry : PendingRequest} (hfree : r.contains entry.token = false) :
    ({ r with nextToken }.add entry).owner? token = some owner := by
  rw [owner?_add (r := { r with nextToken }) hfree, if_neg (ne_of_owner? howner hfree)]
  exact howner

theorem owner?_completions (howner : r.owner? token = some owner) {other : Token}
    (hne : other ≠ token) (completions : List (Status × Bytes)) :
    (completions.foldl (fun registry _ => (registry.complete other .vendor).1) r).owner? token
      = some owner := by
  induction completions generalizing r with
  | nil => exact howner
  | cons completion completions ih =>
    rcases owner?_complete howner other .vendor with hkept | ⟨-, htoken, -⟩
    · exact ih hkept
    · exact absurd htoken hne

end Registry

namespace Slot

variable {s : Slot} {token : Token} {owner : Owner}

theorem owner?_submitLocal (howner : s.registry.owner? token = some owner) (request : RequestId)
    (data : Bytes) (sink : Sink) :
    (s.submitLocal request data sink).1.registry.owner? token = some owner := by
  rcases s.submitLocal_registry request data sink with
    hrefused | ⟨other, nextToken, hfree, completions, completed, rfl, hlast⟩
  · rw [hrefused]
    exact howner
  · have hne := Registry.ne_of_owner? howner hfree
    have hadded : ({ s.registry with nextToken }.add
        { token := other, request, sink, origin := .vendor }).owner? token = some owner :=
      Registry.owner?_register howner nextToken hfree
    have hcompleted := Registry.owner?_completions hadded hne completions
    rcases hlast with hlast | hlast <;> rw [hlast]
    · exact hcompleted
    · rw [Registry.rollback, Registry.owner?_remove, if_neg hne]
      exact hcompleted

/-- Registering and offering a request leaves every owner as it is, also if it is refused. -/
theorem owner?_beginSubmission (howner : s.registry.owner? token = some owner) (party : Party)
    (chosen : Option Token) (request : RequestId) (payload : Payload) (sink : Sink) :
    (s.beginSubmission party chosen request payload sink).1.registry.owner? token
      = some owner := by
  rcases s.beginSubmission_cases party chosen request payload sink with
    ⟨e, nextToken, hbegin⟩ | ⟨submission, nextToken, outlet, -, -, hfree, -, hbegin⟩ <;>
    rw [hbegin]
  · exact howner
  · exact Registry.owner?_register howner nextToken hfree

theorem owner?_receive (s : Slot) (frame : Frame) (token : Token) :
    (s.receive frame).1.registry.owner? token = s.registry.owner? token := by
  rcases s.registry_receive frame with hreceive | hreceive <;> rw [hreceive]
  exact Registry.owner?_beginAck s.registry frame.token token

/-- A frame ends at most the request with its token, if it is a response. -/
theorem owner?_resolve (howner : s.registry.owner? token = some owner) (frame : Frame) :
    (s.resolve frame).registry.owner? token = some owner ∨
    (s.resolve frame).registry.owner? token = none ∧ frame.kind.isResponse = true ∧
      frame.token = token := by
  unfold resolve
  cases hkind : frame.kind with
  | solicited | solicitedAckExpected =>
    dsimp only
    rw [registry_resolveResponse]
    rcases Registry.owner?_complete howner frame.token .peer with hkept | ⟨hgone, htoken, -⟩
    · exact .inl hkept
    · exact .inr ⟨hgone, rfl, htoken⟩
  | solicitedAck =>
    dsimp only
    rw [registry_resolveReceipt, Registry.owner?_markReceived]
    exact .inl howner
  | unsolicited | unsolicitedAckExpected =>
    dsimp only
    rw [registry_resolveIndication]
    exact .inl howner

theorem owner?_beginRoute (howner : s.registry.owner? token = some owner) (party : Party)
    (frame : Frame) :
    (s.beginRoute party frame).1.registry.owner? token = some owner ∨
    (s.beginRoute party frame).1.registry.owner? token = none ∧ frame.kind.isResponse = true ∧
      frame.token = token ∧ (s.beginRoute party frame).2 = none := by
  have hreceived := (s.owner?_receive frame token).trans howner
  rcases s.beginRoute_cases party frame with
    ⟨-, hroute⟩ | ⟨_, _, -, -, hroute⟩ | ⟨_, offered, -, hoffer, hroute⟩ <;> rw [hroute]
  · simpa using owner?_resolve hreceived frame
  · simpa using owner?_resolve hreceived frame
  · rw [registry_of_offer hoffer]
    exact .inl hreceived

theorem owner?_endRoute (howner : s.registry.owner? token = some owner) (frame : Frame)
    (ack : Command) (result : Except LinkError Unit) :
    (s.endRoute frame ack result).registry.owner? token = some owner ∨
    (s.endRoute frame ack result).registry.owner? token = none ∧
      frame.kind.isResponse = true ∧ frame.token = token := by
  cases result with
  | ok _ => exact owner?_resolve (s := s.publish (.ackSent ack.token)) howner frame
  | error e => exact owner?_resolve howner frame

/-- Closing a slot makes it forget all that is pending, unless it is closed already. -/
theorem owner?_closeNow (howner : s.registry.owner? token = some owner) (reason : DrainReason)
    (why : String) :
    (s.closeNow reason why).1.registry.owner? token = some owner ∨
    (s.closeNow reason why).1.registry.owner? token = none := by
  cases hclosed : s.isClosed with
  | true =>
    rw [closeNow_of_closed hclosed]
    exact .inl howner
  | false =>
    rw [closeNow_of_open hclosed]
    exact .inr rfl

theorem registry_closeAndShutNow (s : Slot) (party : Party) (reason : DrainReason) (why : String) :
    (s.closeAndShutNow party reason why).1.registry = (s.closeNow reason why).1.registry := by
  rw [closeAndShutNow]
  split <;> next heq => rw [heq]

theorem registry_closeFromReaderNow (s : Slot) (why : String) :
    (s.closeFromReaderNow why).registry = (s.closeNow .transportClosed why).1.registry := by
  rw [← s.registry_closeAndShutNow .reader, closeFromReaderNow]
  split <;> next heq => rw [heq]

end Slot

namespace Session

variable {x : Session} {token : Token} {owner : Owner}

/-! ## How a request comes to an end -/

/-- The token of the response that a step resolves, if it resolves one. -/
def resolved? (x : Session) : Action → Option Token
  | .read =>
    match x.slot.reading, x.slot.framer.nextFrame.2 with
    | .waiting, some (.ok frame) =>
      let begun := { x.slot with framer := x.slot.framer.nextFrame.1 }.beginRoute .reader frame
      if frame.kind.isResponse && begun.2.isNone then some frame.token else none
    | _, _ => none
  | .resume .reader =>
    match x.slot.reading, x.slot.outlet.tell? .reader with
    | .acknowledging frame _, some (_, .sent _) =>
      if frame.kind.isResponse then some frame.token else none
    | _, _ => none
  | _ => none

/-- The submission that is told in a step that its command was not written, if there is one. -/
def unsent? (x : Session) : Action → Option (Nat × Submission)
  | .resume (.caller ticket) =>
    match x.slot.outlet.tell? (.caller ticket), x.submissions.lookup ticket with
    | some (_, .sent (.error _)), some submission => some (ticket, submission)
    | _, _ => none
  | _ => none

/-- A step can end the request of an owner: the vendor serves it, or the step closes the slot,
resolves a response with that token, or tells a submission with that token that it failed. -/
def MayEnd (x : Session) (token : Token) (owner : Owner) (action : Action) : Prop :=
  owner.origin = .vendor ∨ (x.closing? action).isSome = true ∨ x.resolved? action = some token ∨
    ∃ ticket submission, x.unsent? action = some (ticket, submission) ∧ submission.token = token

/-- After a step an owner is what it was, or the step has ended its request. -/
def KeepsOrEnds (x : Session) (token : Token) (owner : Owner) (action : Action)
    (after : Registry) : Prop :=
  after.owner? token = some owner ∨ after.owner? token = none ∧ x.MayEnd token owner action

theorem keepsOrEnds_closeNow {action : Action} (hcloses : (x.closing? action).isSome = true)
    {s : Slot} (howner : s.registry.owner? token = some owner) (reason : DrainReason)
    (why : String) : x.KeepsOrEnds token owner action (s.closeNow reason why).1.registry :=
  (Slot.owner?_closeNow howner reason why).imp_right fun hgone => ⟨hgone, .inr (.inl hcloses)⟩

/-- A submission that is told that its command was not written takes its token back. -/
theorem keepsOrEnds_resume_caller (howner : x.slot.registry.owner? token = some owner)
    (ticket : Nat) :
    x.KeepsOrEnds token owner (.resume (.caller ticket))
      (x.act (.resume (.caller ticket))).slot.registry := by
  rw [act]
  cases htell : x.slot.outlet.tell? (.caller ticket) with
  | none => exact .inl howner
  | some told =>
    obtain ⟨outlet, outcome⟩ := told
    dsimp only [goOn]
    cases hlookup : x.submissions.lookup ticket with
    | none =>
      split
      · next heq => cases heq
      · exact .inl howner
    | some submission =>
      cases outcome with
      | answered _ => exact .inl howner
      | shut => exact .inl howner
      | sent result =>
        cases result with
        | ok _ => exact .inl howner
        | error e =>
          have hremoved := Registry.owner?_remove x.slot.registry submission.token token
          by_cases htoken : submission.token = token
          · have hunsent : x.unsent? (.resume (.caller ticket)) = some (ticket, submission) := by
              rw [unsent?, htell, hlookup]
            refine .inr ⟨hremoved.trans (if_pos htoken), .inr (.inr (.inr ?_))⟩
            exact ⟨ticket, submission, hunsent, htoken⟩
          · exact .inl (hremoved.trans ((if_neg htoken).trans howner))

theorem keepsOrEnds_resume_reader (howner : x.slot.registry.owner? token = some owner) :
    x.KeepsOrEnds token owner (.resume .reader) (x.act (.resume .reader)).slot.registry := by
  rw [act]
  cases htell : x.slot.outlet.tell? .reader with
  | none => exact .inl howner
  | some told =>
    obtain ⟨outlet, outcome⟩ := told
    dsimp only [goOn]
    unfold Slot.resumeReader
    split
    · next frame ack result hreading =>
      rcases Slot.owner?_endRoute (s := { x.slot with outlet, reading := .waiting }) howner frame
        ack result with hkept | ⟨hgone, hkind, htoken⟩
      · exact .inl hkept
      · refine .inr ⟨hgone, .inr (.inr (.inl ?_))⟩
        have hreading : x.slot.reading = .acknowledging frame ack := hreading
        rw [resolved?, hreading, htell]
        simp only [hkind, if_true, htoken]
    · exact .inl howner
    · exact .inl howner

theorem keepsOrEnds_read (howner : x.slot.registry.owner? token = some owner) :
    x.KeepsOrEnds token owner .read (x.act .read).slot.registry := by
  rw [act]
  by_cases hwaiting : x.slot.reading = .waiting
  · rcases Slot.readNext?_cases hwaiting with ⟨-, hread⟩ | ⟨e, hnext, hread⟩ | ⟨frame, hnext, hread⟩
    · rw [hread]
      exact .inl howner
    · rw [hread]
      have hcloses : (x.closing? .read).isSome = true := by
        rw [closing?, hwaiting, hnext]
        rfl
      dsimp only
      rw [Slot.registry_closeFromReaderNow]
      exact keepsOrEnds_closeNow hcloses
        (s := { x.slot with framer := x.slot.framer.nextFrame.1 }) howner _ _
    · rw [hread]
      have hbegun := Slot.owner?_beginRoute
        (s := { x.slot with framer := x.slot.framer.nextFrame.1 }) howner .reader frame
      rcases hbegun with hkept | ⟨hgone, hkind, htoken, hnone⟩
      · refine .inl ?_
        dsimp only
        split <;> exact hkept
      · refine .inr ⟨?_, .inr (.inr (.inl ?_))⟩
        · dsimp only
          rw [hnone]
          exact hgone
        · rw [resolved?, hwaiting, hnext]
          simp [hkind, hnone, htoken]
  · rw [Slot.readNext?_of_not_waiting hwaiting]
    exact .inl howner

theorem owner?_act (howner : x.slot.registry.owner? token = some owner) (action : Action) :
    x.KeepsOrEnds token owner action (x.act action).slot.registry := by
  cases action with
  | submit chosen request payload =>
    exact .inl (Slot.owner?_beginSubmission howner (.caller x.tickets) chosen request payload _)
  | submitLocal request data => exact .inl (Slot.owner?_submitLocal howner request data x.tickets)
  | completeLocal other status payload =>
    rw [act, Slot.registry_completeLocal]
    rcases Registry.owner?_complete howner other .vendor with hkept | ⟨hgone, -, hvendor⟩
    · exact .inl hkept
    · exact .inr ⟨hgone, .inl hvendor⟩
  | cancel other =>
    rw [act, Slot.registry_cancel]
    exact .inl ((Registry.owner?_cancel ..).trans howner)
  | registerCallbacks | listen | vanish | failWrite | attend | arrive => exact .inl howner
  | accept count =>
    rw [act, Slot.registry_accept]
    exact .inl howner
  | shutDown =>
    rw [act, Slot.shutDownNow, Slot.registry_closeAndShutNow]
    exact keepsOrEnds_closeNow rfl (s := x.slot.stopReader) howner _ _
  | abandon => exact keepsOrEnds_closeNow rfl (s := x.slot.stopReader) howner _ _
  | resume party =>
    cases party with
    | reader => exact keepsOrEnds_resume_reader howner
    | caller ticket => exact keepsOrEnds_resume_caller howner ticket
  | read => exact keepsOrEnds_read howner
  | endOfStream =>
    rw [act]
    split
    · next hwaiting =>
      have hcloses : (x.closing? .endOfStream).isSome = true := by rw [closing?, hwaiting]; rfl
      dsimp only [Slot.endOfStream]
      rw [Slot.registry_closeFromReaderNow]
      exact keepsOrEnds_closeNow hcloses howner _ _
    · exact .inl howner
  | failRead reason =>
    rw [act]
    split
    · next hwaiting =>
      have hcloses : (x.closing? (.failRead reason)).isSome = true := by
        rw [closing?, hwaiting]
        rfl
      dsimp only
      rw [Slot.registry_closeFromReaderNow]
      exact keepsOrEnds_closeNow hcloses howner _ _
    · exact .inl howner

/-! ## Runs -/

/-- A step ends the request that a submission has registered: it closes the slot, resolves a
response with its token, or tells that submission that its command was not written. -/
def EndsRequest (x : Session) (ticket : Nat) (token : Token) : Stride → Prop
  | .act action => (x.closing? action).isSome = true ∨ x.resolved? action = some token ∨
    (x.unsent? action).map Prod.fst = some ticket
  | .register .. | .offer _ => False

instance (x : Session) (ticket : Nat) (token : Token) :
    (next : Stride) → Decidable (x.EndsRequest ticket token next)
  | .act _ => inferInstanceAs (Decidable (_ ∨ _ ∨ _))
  | .register .. | .offer _ => inferInstanceAs (Decidable False)

/-- No step of a run ends it. -/
def NeverEndsRequest (x : Session) (ticket : Nat) (token : Token) : List Stride → Prop
  | [] => True
  | next :: later =>
    ¬ x.EndsRequest ticket token next ∧ (x.stride next).NeverEndsRequest ticket token later

instance decidableNeverEndsRequest (ticket : Nat) (token : Token) :
    (x : Session) → (later : List Stride) → Decidable (x.NeverEndsRequest ticket token later)
  | _, [] => inferInstanceAs (Decidable True)
  | x, next :: later =>
    have := decidableNeverEndsRequest ticket token (x.stride next) later
    inferInstanceAs (Decidable (_ ∧ _))

/-- A submission is the only one under way with its token. -/
def IsAlone (x : Session) (ticket : Nat) (token : Token) : Prop :=
  ∀ other submission, (other, submission) ∈ x.submissions → submission.token = token →
    other = ticket

theorem mem_of_unsent? {action : Action} {ticket : Nat} {submission : Submission}
    (h : x.unsent? action = some (ticket, submission)) : (ticket, submission) ∈ x.submissions := by
  unfold unsent? at h
  split at h
  · split at h
    · next hlookup =>
      cases h
      exact mem_of_lookup hlookup
    · cases h
  · cases h

/-- A request that was registered stays pending unless the step ends it, and its submission stays
the only one with its token, as nobody can register under a token that is pending. -/
theorem stride_keeps (howner : x.slot.registry.owner? token = some owner)
    (hpeer : owner.origin = .peer) (halone : x.IsAlone owner.sink token) {next : Stride}
    (hnext : ¬ x.EndsRequest owner.sink token next) :
    (x.stride next).slot.registry.owner? token = some owner ∧
      (x.stride next).IsAlone owner.sink token := by
  cases next with
  | register chosen request payload =>
    rw [stride, register]
    cases hregister : x.slot.register chosen request payload x.tickets with
    | error e => exact ⟨howner, halone⟩
    | ok result =>
      obtain ⟨registered, submission⟩ := result
      obtain ⟨-, hfree, nextToken, rfl⟩ := Slot.register_ok hregister
      refine ⟨Registry.owner?_register howner nextToken hfree, ?_⟩
      intro other underway hmem htoken
      rcases List.mem_append.1 hmem with hmem | hmem
      · exact halone other underway hmem htoken
      · cases List.mem_singleton.1 hmem
        exact absurd htoken (Registry.ne_of_owner? howner hfree)
  | offer ticket =>
    rw [stride, offer]
    split
    · exact ⟨howner, halone⟩
    · split
      · next submission _ offered hoffer =>
        refine ⟨?_, halone⟩
        rw [Slot.registry_of_offer hoffer]
        exact howner
      · exact ⟨howner, halone⟩
  | act action =>
    constructor
    · rcases owner?_act howner action with hkept | ⟨-, hvendor | hcloses | hresolved | hunsent⟩
      · exact hkept
      · rw [hpeer] at hvendor
        cases hvendor
      · exact absurd (.inl hcloses) hnext
      · exact absurd (.inr (.inl hresolved)) hnext
      · -- Who takes this token back is the submission that registered it, as it is alone.
        obtain ⟨ticket, submission, hunsent, htoken⟩ := hunsent
        obtain rfl := halone ticket submission (mem_of_unsent? hunsent) htoken
        exact absurd (.inr (.inr (congrArg (Option.map Prod.fst) hunsent))) hnext
    · intro other submission hmem htoken
      rcases mem_submissions_act hmem with hmem | ⟨-, -, hfree⟩
      · exact halone other submission hmem htoken
      · exact absurd htoken (Registry.ne_of_owner? howner hfree)

theorem strides_keep (howner : x.slot.registry.owner? token = some owner)
    (hpeer : owner.origin = .peer) (halone : x.IsAlone owner.sink token) {later : List Stride}
    (hlater : x.NeverEndsRequest owner.sink token later) :
    (x.strides later).slot.registry.owner? token = some owner := by
  induction later generalizing x with
  | nil => exact howner
  | cons next later ih =>
    obtain ⟨hkept, hstill⟩ := stride_keeps howner hpeer halone hlater.1
    exact ih hkept hstill hlater.2

/-- **A submission that fails takes back its own request**, as long as tokens are not registered
again too early. A request that is registered at any time, while no other submission is under way
with its token, stays pending from then on, whatever else is registered, offered, written, refused,
taken back, withdrawn or resolved, until a response with its token is resolved, the slot closes, or
its own submission is told that its command was not written. -/
theorem keeps_registration (x : Session) (chosen : Option Token) (request : RequestId)
    (payload : Payload) {registered : Slot} {submission : Submission}
    (hregister : x.slot.register chosen request payload x.tickets = .ok (registered, submission))
    (hfirst : ∀ other underway, (other, underway) ∈ x.submissions →
      underway.token ≠ submission.token)
    {later : List Stride}
    (hlater : (x.register chosen request payload).NeverEndsRequest x.tickets submission.token
      later) :
    ((x.register chosen request payload).strides later).slot.registry.owner? submission.token
      = some ⟨request, x.tickets, .peer⟩ := by
  have hafter : x.register chosen request payload = { x with
      slot := registered, tickets := x.tickets + 1
      submissions := x.submissions ++ [(x.tickets, submission)] } := by rw [register, hregister]
  rw [hafter] at hlater ⊢
  obtain ⟨-, hfree, nextToken, rfl⟩ := Slot.register_ok hregister
  refine strides_keep ?_ rfl ?_ hlater
  · exact (Registry.owner?_add hfree submission.token).trans (if_pos rfl)
  · intro other underway hmem htoken
    rcases List.mem_append.1 hmem with hmem | hmem
    · exact absurd htoken (hfirst other underway hmem)
    · cases List.mem_singleton.1 hmem
      rfl

/-- Another submission registers another token, is refused as its command is too long, and takes its
own request back, while the first one is still being written. -/
theorem keeps_registration_beside_refused :
    let callbacks : Callbacks := { table := .withShapes {} ⟨20⟩ .raw .raw }
    let x := (start ⟨0⟩ { maxFrameLen := 16 }).strides [.act (.registerCallbacks callbacks)]
    let submission : Submission := ⟨⟨1⟩, ⟨20⟩, []⟩
    let later : List Stride := [.register (some ⟨2⟩) ⟨20⟩ (.raw (List.replicate 9 0)), .offer 0,
      .act (.accept 5), .offer 1, .act (.resume (.caller 1)), .act (.accept 7),
      .act (.resume (.caller 0))]
    (∃ registered, x.slot.register (some ⟨1⟩) ⟨20⟩ (.raw []) x.tickets
      = .ok (registered, submission)) ∧
    x.submissions = [] ∧
    (x.register (some ⟨1⟩) ⟨20⟩ (.raw [])).NeverEndsRequest x.tickets submission.token later ∧
    ((x.register (some ⟨1⟩) ⟨20⟩ (.raw [])).strides later).slot.registry.owner? ⟨1⟩
      = some ⟨⟨20⟩, x.tickets, .peer⟩ ∧
    ((x.register (some ⟨1⟩) ⟨20⟩ (.raw [])).strides later).slot.registry.owner? ⟨2⟩ = none := by
  intro callbacks x submission later
  have hnone : x.submissions = [] := rfl
  have hfirst : ∀ other underway, (other, underway) ∈ x.submissions →
      underway.token ≠ submission.token := by
    rw [hnone]
    exact fun _ _ hmem => by cases hmem
  have hlater : (x.register (some ⟨1⟩) ⟨20⟩ (.raw [])).NeverEndsRequest x.tickets submission.token
      later := by decide +kernel
  have hsecond : ((x.register (some ⟨1⟩) ⟨20⟩ (.raw [])).strides later).slot.registry.owner? ⟨2⟩
      = none := by decide +kernel
  have hregister : x.slot.register (some ⟨1⟩) ⟨20⟩ (.raw []) x.tickets = .ok
      ({ x.slot with registry := x.slot.registry.add ⟨⟨1⟩, ⟨20⟩, 0, .peer, false, false, false⟩ },
        submission) := rfl
  exact ⟨⟨_, hregister⟩, hnone, hlater,
    keeps_registration x (some ⟨1⟩) ⟨20⟩ (.raw []) hregister hfirst hlater, hsecond⟩

/-- While one submission is under way its request is resolved, and another one registers the token
again and has its command written. When the first one is told that its command is too long, the
request of the second one is gone: no response for it was resolved, the slot is open, and its own
submission has succeeded. -/
theorem registration_lost_to_other :
    let callbacks : Callbacks := { table := .withShapes {} ⟨20⟩ .raw .raw }
    let response : Frame := ⟨.solicited, ⟨1⟩, 20, .success, []⟩
    let second := (start ⟨0⟩ { maxFrameLen := 16 }).strides [.act (.registerCallbacks callbacks),
      .register (some ⟨1⟩) ⟨20⟩ (.raw (List.replicate 9 0)), .act (.arrive response.encode),
      .act .read, .register (some ⟨1⟩) ⟨20⟩ (.raw [])]
    let later : List Stride := [.offer 1, .act (.accept 12), .act (.resume (.caller 1)), .offer 0,
      .act (.resume (.caller 0))]
    second.slot.registry.owner? ⟨1⟩ = some ⟨⟨20⟩, 1, .peer⟩ ∧
    second.NeverEndsRequest 1 ⟨1⟩ later ∧
    (second.strides later).trace = second.trace ++ [
      ⟨false, .wrote (Command.mk ⟨20⟩ ⟨1⟩ []).encode⟩,
      ⟨false, .published (.commandSent ⟨1⟩ ⟨20⟩ 0)⟩] ∧
    (second.strides later).slot.isClosed = false ∧
    (second.strides later).slot.registry.owner? ⟨1⟩ = none := by
  dsimp only
  exact ⟨by cbv, by decide +kernel, by cbv, by cbv, by cbv⟩

end Session

end RadioLink
