import RadioLink.Proofs.Closing

set_option autoImplicit false

/-! # What is pending can be told apart

In every slot in use the pending requests have distinct tokens, and distinct sinks, as the ticket of
a submission is its sink and no ticket is given out twice. So what is settled once and for all, a
list of tickets, is not pending again. A request that is served in process is never marked as
acknowledged. A registry with these properties `IsSound`.

A frame takes at most three operations to be routed (`Registry.Routed`), and none of them touches a
request that is served in process. -/

namespace RadioLink

namespace Registry

variable {r after : Registry} {tickets : Nat} {settled : List Sink} {token : Token}

/-! ## Sound registries -/

/-- What is pending has distinct tokens and distinct sinks. These are of tickets that were given out
and are not settled. No request that is served in process is marked as acknowledged. -/
structure IsSound (r : Registry) (tickets : Nat) (settled : List Sink) : Prop where
  tokens : (r.entries.map (·.token)).Nodup
  sinks : (r.entries.map (·.sink)).Nodup
  given : ∀ entry ∈ r.entries, entry.sink < tickets
  unsettled : ∀ entry ∈ r.entries, entry.sink ∉ settled
  unmarked : ∀ entry ∈ r.entries, entry.origin = .vendor → entry.isAcked = false
  past : ∀ sink ∈ settled, sink < tickets

theorem isSound_of_nil (h : r.entries = []) (hpast : ∀ sink ∈ settled, sink < tickets) :
    r.IsSound tickets settled := by
  constructor <;> simp_all

/-- Only what is pending counts. -/
theorem IsSound.of_entries (h : r.IsSound tickets settled) (hentries : after.entries = r.entries) :
    after.IsSound tickets settled := by
  obtain ⟨htokens, hsinks, hgiven, hunsettled, hunmarked, hpast⟩ := h
  constructor <;> first | assumption | rwa [hentries]

theorem IsSound.mono (h : r.IsSound tickets settled) {more : Nat} (hle : tickets ≤ more) :
    r.IsSound more settled :=
  { h with
    given := fun entry hmem => Nat.lt_of_lt_of_le (h.given entry hmem) hle
    past := fun sink hmem => Nat.lt_of_lt_of_le (h.past sink hmem) hle }

/-- What is not pending any more may be settled. -/
theorem IsSound.settle (h : r.IsSound tickets settled) {sink : Sink} (hpast : sink < tickets)
    (hgone : ∀ entry ∈ r.entries, entry.sink ≠ sink) : r.IsSound tickets (sink :: settled) :=
  { h with
    unsettled := fun entry hmem => by simpa using ⟨hgone entry hmem, h.unsettled entry hmem⟩
    past := List.forall_mem_cons.2 ⟨hpast, h.past⟩ }

/-- A token names one request. -/
theorem IsSound.eq_of_token (h : r.IsSound tickets settled) {entry other : PendingRequest}
    (hfind : r.find? token = some entry) (hmem : other ∈ r.entries) (htoken : other.token = token) :
    other = entry := by
  have hother := find?_of_mem h.tokens hmem
  rw [htoken, hfind] at hother
  exact (Option.some.inj hother).symm

/-- A sink names one request. -/
theorem IsSound.eq_of_sink (h : r.IsSound tickets settled) {entry other : PendingRequest}
    (hmem : entry ∈ r.entries) (hother : other ∈ r.entries) (hsink : other.sink = entry.sink) :
    other = entry :=
  List.inj_on_of_nodup_map h.sinks hother hmem hsink

theorem IsSound.add (h : r.IsSound tickets settled) {entry : PendingRequest}
    (hfree : r.contains entry.token = false) (hsink : entry.sink = tickets)
    (hacked : entry.isAcked = false) : (r.add entry).IsSound (tickets + 1) settled where
  tokens := by
    have hnew : ∀ other ∈ r.entries, other.token ≠ entry.token := by
      simpa [contains] using hfree
    simp only [Registry.add, List.map_append, List.map_cons, List.map_nil]
    refine h.tokens.append (List.nodup_singleton _) ?_
    simpa using hnew
  sinks := by
    have hnew : ∀ other ∈ r.entries, other.sink ≠ entry.sink := fun other hmem =>
      Nat.ne_of_lt (hsink ▸ h.given other hmem)
    simp only [Registry.add, List.map_append, List.map_cons, List.map_nil]
    refine h.sinks.append (List.nodup_singleton _) ?_
    simpa using hnew
  given := by
    refine List.forall_mem_append.2 ⟨fun other hmem => Nat.lt_succ_of_lt (h.given other hmem), ?_⟩
    simp [hsink]
  unsettled := by
    refine List.forall_mem_append.2 ⟨h.unsettled, List.forall_mem_singleton.2 fun hmem => ?_⟩
    exact Nat.lt_irrefl _ (hsink ▸ h.past _ hmem)
  unmarked := List.forall_mem_append.2 ⟨h.unmarked, List.forall_mem_singleton.2 fun _ => hacked⟩
  past := fun sink hmem => Nat.lt_succ_of_lt (h.past sink hmem)

theorem IsSound.remove (h : r.IsSound tickets settled) (token : Token) :
    (r.remove token).IsSound tickets settled := by
  have hsublist : (r.remove token).entries.Sublist r.entries := List.filter_sublist
  exact ⟨h.tokens.sublist (hsublist.map _), h.sinks.sublist (hsublist.map _),
    fun entry hmem => h.given entry (hsublist.subset hmem),
    fun entry hmem => h.unsettled entry (hsublist.subset hmem),
    fun entry hmem => h.unmarked entry (hsublist.subset hmem), h.past⟩

/-- A change of marks leaves every sink where it was. -/
theorem exists_of_mem_modify {change : PendingRequest → PendingRequest}
    (howner : ∀ entry, (change entry).owner = entry.owner) {changed : PendingRequest}
    (hmem : changed ∈ (r.modify token change).entries) :
    ∃ entry ∈ r.entries, changed.sink = entry.sink := by
  obtain ⟨entry, hentry, rfl⟩ := List.mem_map.1 hmem
  refine ⟨entry, hentry, ?_⟩
  split
  · exact congrArg Owner.sink (howner entry)
  · rfl

/-- A request may be marked, as acknowledged only if it is not served in process. -/
theorem IsSound.modify (h : r.IsSound tickets settled) {change : PendingRequest → PendingRequest}
    (htoken : ∀ entry, (change entry).token = entry.token)
    (howner : ∀ entry, (change entry).owner = entry.owner)
    (hunmarked : ∀ entry ∈ r.entries, entry.token = token → entry.origin = .vendor →
      (change entry).isAcked = false) : (r.modify token change).IsSound tickets settled where
  tokens := by
    rw [map_modify htoken]
    exact h.tokens
  sinks := by
    rw [map_modify (fun entry => congrArg Owner.sink (howner entry))]
    exact h.sinks
  given := by
    intro changed hmem
    obtain ⟨entry, hentry, hsink⟩ := exists_of_mem_modify howner hmem
    exact hsink ▸ h.given entry hentry
  unsettled := by
    intro changed hmem
    obtain ⟨entry, hentry, hsink⟩ := exists_of_mem_modify howner hmem
    exact hsink ▸ h.unsettled entry hentry
  past := h.past
  unmarked := by
    intro changed hmem hvendor
    obtain ⟨entry, hentry, rfl⟩ := List.mem_map.1 hmem
    have horigin : (change entry).origin = entry.origin := congrArg Owner.origin (howner entry)
    by_cases htoken : entry.token = token
    · rw [if_pos (beq_iff_eq.2 htoken)] at hvendor ⊢
      exact hunmarked entry hentry htoken (horigin ▸ hvendor)
    · rw [if_neg (by simpa using htoken)] at hvendor ⊢
      exact h.unmarked entry hentry hvendor

theorem IsSound.complete (h : r.IsSound tickets settled) (token : Token) (origin : Origin) :
    (r.complete token origin).1.IsSound tickets settled := by
  rcases complete_cases r token origin with ⟨entry, -, -, hcomplete⟩ | ⟨hcomplete, -⟩ <;>
    rw [hcomplete]
  · exact (h.remove token).of_entries rfl
  · exact h

theorem IsSound.cancel (h : r.IsSound tickets settled) (token : Token) :
    (r.cancel token).1.IsSound tickets settled := by
  rcases cancel_cases r token with ⟨_, -, -, hcancel⟩ | hcancel <;> rw [hcancel]
  · exact h.modify (fun _ => rfl) (fun _ => rfl) fun entry hmem _ => h.unmarked entry hmem
  · exact h

theorem IsSound.markReceived (h : r.IsSound tickets settled) (token : Token) :
    (r.markReceived token).1.IsSound tickets settled := by
  rcases markReceived_cases r token with ⟨_, -, -, hmarked⟩ | hmarked <;> rw [hmarked]
  · exact h.modify (fun _ => rfl) (fun _ => rfl) fun entry hmem _ => h.unmarked entry hmem
  · exact h

theorem IsSound.beginAck (h : r.IsSound tickets settled) (token : Token) :
    (r.beginAck token).1.IsSound tickets settled := by
  rcases beginAck_cases r token with
    ⟨entry, hfind, hpeer, -, hack⟩ | ⟨_, -, -, -, hack⟩ | ⟨_, -, -, hack⟩ | ⟨-, hack⟩ <;> rw [hack]
  · -- The one request that is marked is not served in process.
    refine h.modify (fun _ => rfl) (fun _ => rfl) fun other hmem htoken hvendor => ?_
    rw [h.eq_of_token hfind hmem htoken, hpeer] at hvendor
    cases hvendor
  all_goals exact h

theorem IsSound.completions (h : r.IsSound tickets settled) (token : Token)
    (completions : List (Status × Bytes)) :
    (completions.foldl (fun registry _ => (registry.complete token .vendor).1) r).IsSound tickets
      settled := by
  induction completions generalizing r with
  | nil => exact h
  | cons completion completions ih => exact ih (h.complete token .vendor)

/-! ## Frames -/

/-- What a frame can do to a registry. -/
inductive Routed (r : Registry) : Registry → Prop
  | refl : Routed r r
  | beginAck {between : Registry} (h : Routed r between) (token : Token) :
    Routed r (between.beginAck token).1
  | markReceived {between : Registry} (h : Routed r between) (token : Token) :
    Routed r (between.markReceived token).1
  | complete {between : Registry} (h : Routed r between) (token : Token) :
    Routed r (between.complete token .peer).1

theorem Routed.trans {last : Registry} (hfirst : Routed r after) (hsecond : Routed after last) :
    Routed r last := by
  induction hsecond with
  | refl => exact hfirst
  | beginAck _ token ih => exact ih.beginAck token
  | markReceived _ token ih => exact ih.markReceived token
  | complete _ token ih => exact ih.complete token

theorem IsSound.routed (h : r.IsSound tickets settled) (hrouted : Routed r after) :
    after.IsSound tickets settled := by
  induction hrouted with
  | refl => exact h
  | beginAck _ token ih => exact ih.beginAck token
  | markReceived _ token ih => exact ih.markReceived token
  | complete _ token ih => exact ih.complete token .peer

end Registry

namespace Slot

variable {s : Slot} {tickets : Nat} {settled : List Sink}

open Registry (Routed)

theorem routed_receive (s : Slot) (frame : Frame) :
    Routed s.registry (s.receive frame).1.registry := by
  rcases s.registry_receive frame with hreceive | hreceive <;> rw [hreceive]
  · exact .refl
  · exact .beginAck .refl frame.token

theorem routed_resolve (s : Slot) (frame : Frame) :
    Routed s.registry (s.resolve frame).registry := by
  unfold resolve
  cases frame.kind with
  | solicited | solicitedAckExpected =>
    dsimp only
    rw [registry_resolveResponse]
    exact .complete .refl frame.token
  | solicitedAck =>
    dsimp only
    rw [registry_resolveReceipt]
    exact .markReceived .refl frame.token
  | unsolicited | unsolicitedAckExpected =>
    dsimp only
    rw [registry_resolveIndication]
    exact .refl

theorem routed_beginRoute (s : Slot) (party : Party) (frame : Frame) :
    Routed s.registry (s.beginRoute party frame).1.registry := by
  rcases s.beginRoute_cases party frame with
    ⟨-, hroute⟩ | ⟨_, _, -, -, hroute⟩ | ⟨_, offered, -, hoffer, hroute⟩ <;> rw [hroute]
  · exact (s.routed_receive frame).trans (routed_resolve _ frame)
  · exact (s.routed_receive frame).trans (routed_resolve _ frame)
  · rw [registry_of_offer hoffer]
    exact s.routed_receive frame

theorem routed_endRoute (s : Slot) (frame : Frame) (ack : Command)
    (result : Except LinkError Unit) :
    Routed s.registry (s.endRoute frame ack result).registry := by
  cases result with
  | ok _ => exact (s.publish (.ackSent ack.token)).routed_resolve frame
  | error e => exact s.routed_resolve frame

theorem routed_resumeReader (s : Slot) (outcome : Outcome) :
    Routed s.registry (s.resumeReader outcome).registry := by
  unfold resumeReader
  split
  · exact routed_endRoute { s with reading := .waiting } _ _ _
  · exact .refl
  · exact .refl

theorem isSound_submitLocal (h : s.registry.IsSound tickets settled) (request : RequestId)
    (data : Bytes) :
    (s.submitLocal request data tickets).1.registry.IsSound (tickets + 1) settled := by
  rcases s.submitLocal_registry request data tickets with
    hrefused | ⟨token, nextToken, hfree, completions, completed, rfl, hlast⟩
  · rw [hrefused]
    exact h.mono (Nat.le_succ tickets)
  · have hadded : ({ s.registry with nextToken }.add
        { token, request, sink := tickets, origin := .vendor }).IsSound (tickets + 1) settled :=
      Registry.IsSound.add (r := { s.registry with nextToken }) (h.of_entries rfl) hfree rfl rfl
    rcases hlast with hlast | hlast <;> rw [hlast]
    · exact hadded.completions token completions
    · exact (hadded.completions token completions).remove token

end Slot

namespace Session

variable {x : Session} {settled : List Sink}

/-! ## Runs -/

/-- Whoever goes on takes at most its own submission back, or routes a frame. -/
theorem isSound_goOn {tickets : Nat} (h : x.slot.registry.IsSound tickets settled)
    (outcome : Outcome) (party : Party) :
    (x.goOn outcome party).slot.registry.IsSound tickets settled := by
  cases party with
  | reader => exact h.routed (x.slot.routed_resumeReader outcome)
  | caller ticket =>
    unfold goOn
    dsimp only
    split
    · next result submission hlookup =>
      cases result with
      | ok _ => exact h
      | error e => exact h.remove submission.token
    · exact h

theorem tickets_goOn (x : Session) (outcome : Outcome) (party : Party) :
    (x.goOn outcome party).tickets = x.tickets := by
  unfold goOn
  cases party with
  | reader => rfl
  | caller ticket =>
    dsimp only
    split <;> rfl

theorem isSound_act {action : Action} (hopen : x.closing? action = none)
    (h : x.slot.registry.IsSound x.tickets settled) :
    (x.act action).slot.registry.IsSound (x.act action).tickets settled := by
  cases action with
  | submit chosen request payload =>
    show Registry.IsSound _ (x.tickets + 1) _
    rw [act]
    rcases x.slot.beginSubmission_cases (.caller x.tickets) chosen request payload x.tickets with
      ⟨e, nextToken, hbegin⟩ | ⟨submission, nextToken, outlet, -, -, hfree, -, hbegin⟩ <;>
      rw [hbegin]
    · exact (h.mono (Nat.le_succ x.tickets)).of_entries rfl
    · exact Registry.IsSound.add (r := { x.slot.registry with nextToken }) (h.of_entries rfl) hfree
        rfl rfl
  | submitLocal request data => exact Slot.isSound_submitLocal h request data
  | completeLocal token status payload =>
    rw [act, Slot.registry_completeLocal]
    exact h.complete token .vendor
  | cancel token =>
    rw [act, Slot.registry_cancel]
    exact h.cancel token
  | registerCallbacks | listen | vanish | failWrite | attend | arrive => exact h
  | shutDown | abandon => cases hopen
  | resume party =>
    rw [act]
    split
    · next outlet outcome _ =>
      rw [tickets_goOn]
      exact isSound_goOn (x := { x with slot := { x.slot with outlet } }) h outcome party
    · exact h
  | accept count =>
    rw [act, Slot.registry_accept]
    exact h
  | read =>
    rcases act_read_cases hopen with hidle | ⟨framer, frame, reading, -, -, hread⟩
    · rw [hidle]
      exact h
    · rw [hread]
      exact h.routed ({ x.slot with framer }.routed_beginRoute .reader frame)
  | endOfStream =>
    rw [act_endOfStream hopen]
    exact h
  | failRead =>
    rw [act_failRead hopen]
    exact h

theorem tickets_act (x : Session) (action : Action) : x.tickets ≤ (x.act action).tickets := by
  cases action with
  | submit | submitLocal | shutDown => exact Nat.le_succ _
  | resume party =>
    rw [act]
    split
    · next outlet outcome _ =>
      exact Nat.le_of_eq (tickets_goOn { x with slot := { x.slot with outlet } } outcome party).symm
    · exact Nat.le_refl _
  | read | endOfStream | failRead =>
    rw [act]
    split <;> exact Nat.le_refl _
  | _ => exact Nat.le_refl _

/-- A slot that closes, or is closed, has nothing pending. -/
theorem ClosesOnce.isSound_step (h : x.ClosesOnce)
    (hsound : x.slot.registry.IsSound x.tickets settled) (action : Action) :
    (x.step action).slot.registry.IsSound (x.step action).tickets settled := by
  have hpast : ∀ sink ∈ settled, sink < (x.act action).tickets := fun sink hmem =>
    Nat.lt_of_lt_of_le (hsound.past sink hmem) (x.tickets_act action)
  cases hclosed : x.slot.isClosed with
  | true =>
    exact Registry.isSound_of_nil (act_staysShut (h.isShut hclosed) action).1.entries hpast
  | false =>
    cases hcloses : x.closing? action with
    | none => exact isSound_act hcloses hsound
    | some closing => exact Registry.isSound_of_nil (act_closes hclosed hcloses).1.entries hpast

theorem isSound_run (id : SlotId) (options : SlotOptions) (actions : List Action) :
    ((start id options).run actions).slot.registry.IsSound
      ((start id options).run actions).tickets [] := by
  have hstart : (start id options).ClosesOnce := closesOnce_run id options []
  refine (run_induction (P := fun x => x.ClosesOnce ∧ x.slot.registry.IsSound x.tickets [])
    (fun x action h => ⟨h.1.step action, h.1.isSound_step h.2 action⟩) ⟨hstart, ?_⟩ actions).2
  exact Registry.isSound_of_nil rfl (List.forall_mem_nil _)

end Session

end RadioLink
