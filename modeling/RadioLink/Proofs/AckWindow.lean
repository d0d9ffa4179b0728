import RadioLink.Proofs.Slot

set_option autoImplicit false

/-! # A response is acknowledged once

The peer may repeat a response that asks for an acknowledgment. While the request is pending its
entry is marked, and when it is resolved its token goes into the history, where it stays until as
many others have followed as the history holds.

All steps but two are `Quiet`: they leave the history, and the mark of whatever is pending for the
peer. The two are the resolution of a response and the end of a submission. A request that is served
in process is never marked, so only a resolution adds to the history.

A request served in process may take the token of a resolved request. For as long as it is pending
the token counts as unknown, whatever the history says, and a repeated response is acknowledged
again; the theorem says that this is the only exception. -/

namespace RadioLink

namespace Slot

/-- Whether a step resolves a request to the peer of which a response was acknowledged. -/
def settles (s : Slot) : SlotStep → Bool
  | .resolve frame => frame.kind.isResponse &&
    (s.registry.find? frame.token).any fun entry => entry.origin == .peer && entry.isAcked
  | _ => false

/-- How many steps of a run resolve such a request. -/
def settled (s : Slot) : List SlotStep → Nat
  | [] => 0
  | step :: steps => (if s.settles step then 1 else 0) + (s.step step).settled steps

end Slot

/-! ## What a registry keeps -/

namespace Registry

variable {r before after : Registry} {token : Token} {owner : Owner}

/-- No request served in process is marked as acknowledged. -/
def NoLocalAcks (r : Registry) : Prop :=
  ∀ token entry, r.find? token = some entry → entry.origin = .vendor → entry.isAcked = false

/-- Whatever is pending for the peer stays pending, and stays marked. -/
def KeepsPeers (before after : Registry) : Prop :=
  ∀ token entry, before.find? token = some entry → entry.origin = .peer →
    ∃ kept, after.find? token = some kept ∧ kept.owner = entry.owner ∧
      (entry.isAcked = true → kept.isAcked = true)

/-- The history is left as it is, and no mark is lost or set where it may not be. -/
structure Quiet (before after : Registry) : Prop where
  limit : after.historyLimit = before.historyLimit
  history : after.history = before.history
  noLocalAcks : NoLocalAcks after
  keepsPeers : KeepsPeers before after

theorem quiet_refl (h : r.NoLocalAcks) : Quiet r r where
  limit := rfl
  history := rfl
  noLocalAcks := h
  keepsPeers := fun _ entry hfind _ => ⟨entry, hfind, rfl, id⟩

theorem Quiet.trans {between : Registry} (hfirst : Quiet before between)
    (hsecond : Quiet between after) : Quiet before after where
  limit := hsecond.limit.trans hfirst.limit
  history := hsecond.history.trans hfirst.history
  noLocalAcks := hsecond.noLocalAcks
  keepsPeers := by
    intro token entry hfind hpeer
    obtain ⟨kept, hkept, howner, hacked⟩ := hfirst.keepsPeers token entry hfind hpeer
    have hkeptPeer : kept.origin = .peer := (congrArg Owner.origin howner).trans hpeer
    obtain ⟨last, hlast, hlastOwner, hlastAcked⟩ := hsecond.keepsPeers token kept hkept hkeptPeer
    exact ⟨last, hlast, hlastOwner.trans howner, fun h => hlastAcked (hacked h)⟩

/-- A request that is registered has no mark. -/
theorem quiet_register (h : r.NoLocalAcks) (nextToken : UInt32) {entry : PendingRequest}
    (hfree : r.contains entry.token = false) (hacked : entry.isAcked = false) :
    Quiet r ({ r with nextToken }.add entry) where
  limit := rfl
  history := rfl
  noLocalAcks := by
    intro token found hfound hvendor
    rw [find?_add (r := { r with nextToken }) hfree] at hfound
    split at hfound
    · cases hfound
      exact hacked
    · exact h token found hfound hvendor
  keepsPeers := by
    intro token found hfound _
    refine ⟨found, ?_, rfl, id⟩
    have hne := ne_of_find? hfree hfound
    rw [find?_add (r := { r with nextToken }) hfree, if_neg hne]
    exact hfound

theorem noLocalAcks_remove (h : r.NoLocalAcks) (token : Token) : (r.remove token).NoLocalAcks := by
  intro other entry hfind hvendor
  rw [find?_remove] at hfind
  split at hfind
  · cases hfind
  · exact h other entry hfind hvendor

theorem find?_of_owner?_remove {removed : Token} {entry : PendingRequest}
    (hfind : r.find? token = some entry)
    (howner : (r.remove removed).owner? token = some owner) :
    (r.remove removed).find? token = some entry := by
  rw [owner?_remove] at howner
  split at howner
  · cases howner
  · next hne => rw [find?_remove, if_neg hne, hfind]

/-- What was registered since is taken back. -/
theorem Quiet.rollback (h : Quiet before after) (hfree : before.contains token = false) :
    Quiet before (after.rollback token) where
  limit := h.limit
  history := h.history
  noLocalAcks := noLocalAcks_remove h.noLocalAcks token
  keepsPeers := by
    intro other entry hfind hpeer
    obtain ⟨kept, hkept, hrest⟩ := h.keepsPeers other entry hfind hpeer
    refine ⟨kept, ?_, hrest⟩
    have hne := ne_of_find? hfree hfind
    rw [Registry.rollback, find?_remove, if_neg hne]
    exact hkept

/-- Marks may be set, but none that says acknowledged for a request served in process. -/
theorem quiet_modify (h : r.NoLocalAcks) {change : PendingRequest → PendingRequest}
    (htoken : ∀ entry, (change entry).token = entry.token)
    (howner : ∀ entry, (change entry).owner = entry.owner)
    (hacked : ∀ entry, entry.isAcked = true → (change entry).isAcked = true)
    (hlocal : ∀ entry, r.find? token = some entry → entry.origin = .vendor →
      (change entry).isAcked = false) :
    Quiet r (r.modify token change) where
  limit := rfl
  history := rfl
  noLocalAcks := by
    intro other entry hfind hvendor
    rw [find?_modify htoken] at hfind
    split at hfind
    · next he =>
      subst he
      obtain ⟨found, hfound, rfl⟩ := Option.map_eq_some_iff.1 hfind
      exact hlocal found hfound ((congrArg Owner.origin (howner found)).symm.trans hvendor)
    · exact h other entry hfind hvendor
  keepsPeers := by
    intro other entry hfind _
    rw [find?_modify htoken, hfind]
    split
    · exact ⟨change entry, rfl, howner entry, hacked entry⟩
    · exact ⟨entry, rfl, rfl, id⟩

theorem quiet_cancel (h : r.NoLocalAcks) (token : Token) : Quiet r (r.cancel token).1 := by
  rcases cancel_cases r token with ⟨_, _, _, hcancel⟩ | hcancel <;> rw [hcancel]
  · refine quiet_modify h ?_ ?_ ?_ (h token)
    · exact fun _ => rfl
    · exact fun _ => rfl
    · exact fun _ => id
  · exact quiet_refl h

theorem quiet_markReceived (h : r.NoLocalAcks) (token : Token) :
    Quiet r (r.markReceived token).1 := by
  rcases markReceived_cases r token with ⟨_, _, _, hmarked⟩ | hmarked <;> rw [hmarked]
  · refine quiet_modify h ?_ ?_ ?_ (h token)
    · exact fun _ => rfl
    · exact fun _ => rfl
    · exact fun _ => id
  · exact quiet_refl h

theorem quiet_beginAck (h : r.NoLocalAcks) (token : Token) : Quiet r (r.beginAck token).1 := by
  rcases beginAck_cases r token with
    ⟨entry, hfind, hpeer, _, hack⟩ | ⟨_, _, _, _, hack⟩ | ⟨_, _, _, hack⟩ | ⟨_, hack⟩
    <;> rw [hack]
  · refine quiet_modify h ?_ ?_ ?_ ?_
    · exact fun _ => rfl
    · exact fun _ => rfl
    · exact fun _ _ => rfl
    · intro other hother hvendor
      rw [hfind, Option.some.injEq] at hother
      rw [← hother, hpeer] at hvendor
      cases hvendor
  all_goals exact quiet_refl h

/-- The completion of a request served in process adds nothing to the history. -/
theorem quiet_complete (h : r.NoLocalAcks) (token : Token) :
    Quiet r (r.complete token .vendor).1 := by
  rcases complete_cases r token .vendor with ⟨entry, hfind, hvendor, hcomplete⟩ | ⟨hcomplete, _⟩
    <;> rw [hcomplete]
  · -- Only what is marked goes into the history.
    refine ⟨rfl, ?_, noLocalAcks_remove h token, ?_⟩
    · show (if entry.isAcked then _ else r.history) = r.history
      rw [h token entry hfind hvendor]
      rfl
    · intro other found hfound hpeer
      refine ⟨found, ?_, rfl, id⟩
      have hne : token ≠ other := by
        rintro rfl
        rw [hfind, Option.some.injEq] at hfound
        rw [← hfound, hvendor] at hpeer
        cases hpeer
      exact (find?_remove r token other).trans ((if_neg hne).trans hfound)
  · exact quiet_refl h

end Registry

/-! ## What a step does -/

namespace Slot

variable {s : Slot} {token : Token} {owner : Owner}

open Registry (Quiet quiet_refl)

theorem quiet_completions {r : Registry} (h : r.NoLocalAcks) (token : Token)
    (completions : List (Status × Bytes)) :
    Quiet r (completions.foldl (fun registry _ => (registry.complete token .vendor).1) r) := by
  induction completions generalizing r with
  | nil => exact quiet_refl h
  | cons completion completions ih =>
    have hfirst := Registry.quiet_complete h token
    exact hfirst.trans (ih hfirst.noLocalAcks)

theorem quiet_submitLocal (h : s.registry.NoLocalAcks) (request : RequestId) (data : Bytes)
    (sink : Sink) : Quiet s.registry (s.submitLocal request data sink).1.registry := by
  rcases s.submitLocal_registry request data sink with
    hrefused | ⟨token, nextToken, hfree, completions, completed, hcompleted, hlast⟩
  · rw [hrefused]
    exact quiet_refl h
  · have hregistered : Quiet s.registry ({ s.registry with nextToken }.add
        { token, request, sink, origin := .vendor }) :=
      Registry.quiet_register h nextToken hfree rfl
    have hquiet : Quiet s.registry completed :=
      hcompleted ▸ hregistered.trans
        (quiet_completions hregistered.noLocalAcks token completions)
    rcases hlast with hlast | hlast
    · rw [hlast]
      exact hquiet
    · rw [hlast]
      exact hquiet.rollback hfree

/-- A submission takes no registration back but its own. -/
theorem quiet_beginSubmission (h : s.registry.NoLocalAcks) (party : Party) (chosen : Option Token)
    (request : RequestId) (payload : Payload) (sink : Sink) :
    Quiet s.registry (s.beginSubmission party chosen request payload sink).1.registry := by
  rcases s.beginSubmission_cases party chosen request payload sink with
    ⟨e, nextToken, hbegin⟩ | ⟨submission, nextToken, outlet, -, -, hfree, -, hbegin⟩ <;>
    rw [hbegin]
  · exact ⟨rfl, rfl, h, (quiet_refl h).keepsPeers⟩
  · exact Registry.quiet_register h nextToken hfree rfl

theorem quiet_receive (h : s.registry.NoLocalAcks) (frame : Frame) :
    Quiet s.registry (s.receive frame).1.registry := by
  rcases s.registry_receive frame with hreceive | hreceive <;> rw [hreceive]
  · exact quiet_refl h
  · exact Registry.quiet_beginAck h frame.token

/-- Only the end of a submission and the resolution of a response are not quiet. -/
theorem quiet_step (h : s.registry.NoLocalAcks) (step : SlotStep) :
    (Quiet s.registry (s.step step).registry ∧ s.settles step = false) ∨
    (∃ token, (s.step step).registry = s.registry.remove token ∧ s.settles step = false) ∨
    ∃ frame, step = .resolve frame ∧ frame.kind.isResponse = true ∧
      (s.step step).registry = (s.registry.complete frame.token .peer).1 := by
  cases step with
  | beginSubmission party chosen request payload sink =>
    exact .inl ⟨quiet_beginSubmission h party chosen request payload sink, rfl⟩
  | conclude submission result =>
    cases result with
    | ok _ => exact .inl ⟨quiet_refl h, rfl⟩
    | error e => exact .inr (.inl ⟨submission.token, rfl, rfl⟩)
  | cancel token =>
    refine .inl ⟨?_, rfl⟩
    rw [Slot.step, registry_cancel]
    exact Registry.quiet_cancel h token
  | submitLocal request data sink => exact .inl ⟨quiet_submitLocal h request data sink, rfl⟩
  | completeLocal token status payload =>
    refine .inl ⟨?_, rfl⟩
    rw [Slot.step, registry_completeLocal]
    exact Registry.quiet_complete h token
  | registerCallbacks callbacks => exact .inl ⟨quiet_refl h, rfl⟩
  | receive frame => exact .inl ⟨quiet_receive h frame, rfl⟩
  | offer party command =>
    refine .inl ⟨?_, rfl⟩
    rw [Slot.step]
    split
    · next offered hoffer =>
      rw [registry_of_offer hoffer]
      exact quiet_refl h
    · exact quiet_refl h
  | accept count =>
    refine .inl ⟨?_, rfl⟩
    rw [Slot.step, Slot.accept]
    dsimp only
    split <;> exact quiet_refl h
  | acknowledged ack result =>
    cases result with
    | ok _ => exact .inl ⟨quiet_refl h, rfl⟩
    | error e => exact .inl ⟨quiet_refl h, rfl⟩
  | resolve frame =>
    rw [Slot.step, Slot.resolve, settles]
    cases hkind : frame.kind with
    | solicited | solicitedAckExpected =>
      refine .inr (.inr ⟨frame, rfl, ?_, registry_resolveResponse s frame⟩)
      rw [hkind]
      rfl
    | solicitedAck =>
      refine .inl ⟨?_, rfl⟩
      show Quiet _ (s.resolveReceipt frame).registry
      rw [registry_resolveReceipt]
      exact Registry.quiet_markReceived h frame.token
    | unsolicited | unsolicitedAckExpected =>
      refine .inl ⟨?_, rfl⟩
      show Quiet _ (s.resolveIndication frame).registry
      rw [registry_resolveIndication]
      exact quiet_refl h

/-- The history gets one token more exactly if the step resolves a request of which a response was
acknowledged. -/
theorem history_step (h : s.registry.NoLocalAcks) (step : SlotStep) :
    (s.step step).registry.historyLimit = s.registry.historyLimit ∧
    (s.step step).registry.NoLocalAcks ∧
    (s.settles step = false ∧ (s.step step).registry.history = s.registry.history ∨
      s.settles step = true ∧ ∃ settledToken, (s.step step).registry.history
        = Registry.remember s.registry.historyLimit settledToken s.registry.history) := by
  rcases quiet_step h step with
    ⟨hquiet, hsettles⟩ | ⟨token, hremoved, hsettles⟩ | ⟨frame, rfl, hkind, hcompleted⟩
  · exact ⟨hquiet.limit, hquiet.noLocalAcks, .inl ⟨hsettles, hquiet.history⟩⟩
  · rw [hremoved]
    exact ⟨rfl, Registry.noLocalAcks_remove h token, .inl ⟨hsettles, rfl⟩⟩
  · rw [hcompleted, settles, hkind]
    rcases Registry.complete_cases s.registry frame.token .peer with
      ⟨entry, hfind, hpeer, hcomplete⟩ | ⟨hcomplete, hother⟩
    · rw [hcomplete, hfind, Option.any_some, hpeer]
      refine ⟨rfl, Registry.noLocalAcks_remove h frame.token, ?_⟩
      cases hacked : entry.isAcked with
      | false => exact .inl ⟨rfl, rfl⟩
      | true => exact .inr ⟨rfl, frame.token, rfl⟩
    · rw [hcomplete]
      refine ⟨rfl, h, .inl ⟨?_, rfl⟩⟩
      cases hfind : s.registry.find? frame.token with
      | none => rfl
      | some entry =>
        have hvendor := beq_eq_false_iff_ne.2 (hother entry hfind)
        rw [Option.any_some, hvendor]
        rfl

/-- The pending request of an owner is marked as acknowledged. -/
def Marked (r : Registry) (token : Token) (owner : Owner) : Prop :=
  ∃ entry, r.find? token = some entry ∧ entry.owner = owner ∧ entry.isAcked = true

/-- A mark stays for as long as its request does. -/
theorem marked_step (h : s.registry.NoLocalAcks) (step : SlotStep) (hpeer : owner.origin = .peer)
    (hmarked : Marked s.registry token owner)
    (howner : (s.step step).registry.owner? token = some owner) :
    Marked (s.step step).registry token owner := by
  obtain ⟨entry, hfind, rfl, hacked⟩ := hmarked
  rcases quiet_step h step with
    ⟨hquiet, _⟩ | ⟨removed, hremoved, _⟩ | ⟨frame, rfl, hkind, hcompleted⟩
  · obtain ⟨kept, hkept, hsame, hmark⟩ := hquiet.keepsPeers token entry hfind hpeer
    exact ⟨kept, hkept, hsame, hmark hacked⟩
  · rw [hremoved] at howner ⊢
    exact ⟨entry, Registry.find?_of_owner?_remove hfind howner, rfl, hacked⟩
  · rw [hcompleted] at howner ⊢
    rcases Registry.complete_cases s.registry frame.token .peer with
      ⟨_, _, _, hcomplete⟩ | ⟨hcomplete, _⟩
    · rw [hcomplete] at howner ⊢
      exact ⟨entry, Registry.find?_of_owner?_remove hfind howner, rfl, hacked⟩
    · rw [hcomplete]
      exact ⟨entry, hfind, rfl, hacked⟩

/-! ## What a run does -/

theorem noLocalAcks_start (id : SlotId) (options : SlotOptions) :
    (start id options).registry.NoLocalAcks := by
  intro token entry hfind
  cases hfind

theorem noLocalAcks_run (h : s.registry.NoLocalAcks) (steps : List SlotStep) :
    (s.run steps).registry.NoLocalAcks ∧
      (s.run steps).registry.historyLimit = s.registry.historyLimit := by
  induction steps generalizing s with
  | nil => exact ⟨h, rfl⟩
  | cons step steps ih =>
    obtain ⟨hlimit, hnext, _⟩ := history_step h step
    obtain ⟨hlast, hlastLimit⟩ := ih hnext
    exact ⟨hlast, hlastLimit.trans hlimit⟩

theorem marked_run (h : s.registry.NoLocalAcks) (hpeer : owner.origin = .peer)
    {steps : List SlotStep} (hmarked : Marked s.registry token owner)
    (hpending : Throughout (fun s => s.registry.owner? token = some owner) s steps) :
    Marked (s.run steps).registry token owner := by
  induction steps generalizing s with
  | nil => exact hmarked
  | cons step steps ih =>
    obtain ⟨_, hnext, _⟩ := history_step h step
    have howner : (s.step step).registry.owner? token = some owner := by
      cases steps with
      | nil => exact hpending.2
      | cons _ _ => exact hpending.2.1
    exact ih hnext (marked_step h step hpeer hmarked howner) hpending.2

/-- A token is in a history, and at most so many others follow it. -/
def Remembered (history : List Token) (token : Token) (count : Nat) : Prop :=
  ∃ earlier later, history = earlier ++ token :: later ∧ later.length ≤ count

theorem remembered_remember {limit : Nat} (hlimit : 0 < limit) (history : List Token)
    (token : Token) : Remembered (Registry.remember limit token history) token 0 := by
  rw [Registry.remember, if_neg (Nat.ne_of_gt hlimit)]
  exact ⟨_, [], rfl, Nat.le_refl _⟩

/-- A token that has room behind it is not pushed out. -/
theorem Remembered.remember {limit count : Nat} {history : List Token}
    (h : Remembered history token count) (hroom : count + 1 < limit) (other : Token) :
    Remembered (Registry.remember limit other history) token (count + 1) := by
  obtain ⟨earlier, later, rfl, hlater⟩ := h
  rw [Registry.remember, if_neg (by omega)]
  split
  · refine ⟨earlier, later ++ [other], ?_, ?_⟩
    · rw [List.append_assoc, List.cons_append]
    · rw [List.length_append, List.length_singleton]
      omega
  · next hfull =>
    cases earlier with
    | nil =>
      -- The token itself would be dropped, but then the history was not full.
      rw [List.nil_append, List.length_cons] at hfull
      omega
    | cons first earlier =>
      refine ⟨earlier, later ++ [other], ?_, ?_⟩
      · rw [List.cons_append, List.drop_succ_cons, List.drop_zero, List.append_assoc,
          List.cons_append]
      · rw [List.length_append, List.length_singleton]
        omega

/-- A token stays in the history while fewer requests are settled than the history holds. -/
theorem remembered_run (h : s.registry.NoLocalAcks) {count : Nat} {steps : List SlotStep}
    (hremembered : Remembered s.registry.history token count)
    (hroom : count + s.settled steps < s.registry.historyLimit) :
    Remembered (s.run steps).registry.history token (count + s.settled steps) := by
  -- Each settled request pushes the token on by one, and uses up one of the places left behind it.
  induction steps generalizing s count with
  | nil => exact hremembered
  | cons step steps ih =>
    obtain ⟨hlimit, hnext, hhistory⟩ := history_step h step
    rw [settled] at hroom ⊢
    rcases hhistory with ⟨hsettles, hsame⟩ | ⟨hsettles, other, hpushed⟩
    · rw [hsettles, if_neg Bool.false_ne_true, Nat.zero_add] at hroom ⊢
      exact ih hnext (hsame ▸ hremembered) (hlimit ▸ hroom)
    · rw [hsettles, if_pos rfl, ← Nat.add_assoc] at hroom ⊢
      refine ih hnext ?_ (hlimit ▸ hroom)
      rw [hpushed]
      exact hremembered.remember (by omega) other

/-! ## Acknowledgments -/

/-- A frame that asks for the acknowledgment of a pending request leaves it marked. -/
theorem marked_receive {frame : Frame} (hkind : frame.kind = .solicitedAckExpected)
    (hpeer : owner.origin = .peer) (howner : s.registry.owner? frame.token = some owner) :
    Marked (s.receive frame).1.registry frame.token owner := by
  obtain ⟨entry, hfind, rfl⟩ := Option.map_eq_some_iff.1 howner
  rw [(receive_ackExpected hkind).1]
  rcases Registry.beginAck_cases s.registry frame.token with
    ⟨_, _, _, _, hack⟩ | ⟨found, hfound, _, hacked, hack⟩ | ⟨found, hfound, hvendor, _⟩ |
    ⟨hnone, _⟩
  · rw [hack]
    refine ⟨{ entry with isAcked := true },
      (Registry.find?_modify ?_ s.registry frame.token frame.token).trans ?_, rfl, rfl⟩
    · exact fun _ => rfl
    · rw [if_pos rfl, hfind]
      rfl
  · rw [hack]
    rw [hfind, Option.some.injEq] at hfound
    exact ⟨entry, hfind, rfl, hfound ▸ hacked⟩
  · rw [hfind, Option.some.injEq] at hfound
    rw [← hfound] at hvendor
    exact absurd (hvendor.symm.trans hpeer) (by decide)
  · rw [hfind] at hnone
    cases hnone

/-- A response to a marked request puts its token into the history. -/
theorem remembered_resolve {frame : Frame} (hkind : frame.kind.isResponse = true)
    (hpeer : owner.origin = .peer) (hmarked : Marked s.registry frame.token owner)
    (hlimit : 0 < s.registry.historyLimit) :
    Remembered (s.resolve frame).registry.history frame.token 0 := by
  obtain ⟨entry, hfind, rfl, hacked⟩ := hmarked
  rw [resolve_of_isResponse hkind, registry_resolveResponse]
  rcases Registry.complete_cases s.registry frame.token .peer with
    ⟨found, hfound, _, hcomplete⟩ | ⟨_, hother⟩
  · rw [hfind, Option.some.injEq] at hfound
    rw [hcomplete, ← hfound]
    show Remembered (if entry.isAcked then _ else _) _ _
    rw [hacked, if_pos rfl]
    exact remembered_remember hlimit _ _
  · exact absurd hpeer (hother entry hfind)

/-- A token that is remembered and not pending for the peer is acknowledged only if a request served
in process has it. -/
theorem receive_of_remembered {frame : Frame} (hkind : frame.kind = .solicitedAckExpected)
    {count : Nat} (hremembered : Remembered s.registry.history frame.token count)
    (hlocal : ∀ owner, s.registry.owner? frame.token = some owner → owner.origin ≠ .peer) :
    (s.receive frame).2 = if s.registry.contains frame.token then some (.ack frame.token)
      else none := by
  have hmem : frame.token ∈ s.registry.history := by
    obtain ⟨earlier, later, hhistory, _⟩ := hremembered
    rw [hhistory]
    exact List.mem_append_right _ List.mem_cons_self
  have hpeer : ∀ entry, s.registry.find? frame.token = some entry → entry.origin ≠ .peer :=
    fun entry hfind => hlocal entry.owner (Registry.owner?_of_find? hfind)
  rw [(receive_ackExpected hkind).2, Registry.contains_eq_isSome]
  rcases Registry.beginAck_cases s.registry frame.token with
    ⟨entry, hfind, horigin, _⟩ | ⟨entry, hfind, horigin, _⟩ | ⟨entry, hfind, _, hack⟩ |
    ⟨hnone, hack⟩
  · exact absurd horigin (hpeer entry hfind)
  · exact absurd horigin (hpeer entry hfind)
  · rw [hack, hfind]
    rfl
  · rw [hack, if_pos hmem, hnone]
    rfl

/-- **A response is acknowledged once.** A request to the peer is pending when a frame asks for the
acknowledgment of its response, stays pending, and is resolved by a response. While no request to
the peer has its token again, and fewer acknowledged requests are resolved than the history holds, a
frame that asks for the acknowledgment once more gets none, unless a request served in process is
pending under the token at that time, which counts as unknown. -/
theorem acknowledged_once (id : SlotId) (options : SlotOptions)
    (earlier between later : List SlotStep) (asking response repeated : Frame) (owner : Owner) :
    let pending := (start id options).run earlier
    let acknowledged := pending.step (.receive asking)
    let resolved := (acknowledged.run between).step (.resolve response)
    let last := resolved.run later
    owner.origin = .peer → pending.registry.owner? asking.token = some owner →
    asking.kind = .solicitedAckExpected →
    Throughout (fun s => s.registry.owner? asking.token = some owner) acknowledged between →
    response.kind.isResponse = true → response.token = asking.token →
    Throughout (fun s => ∀ other, s.registry.owner? asking.token = some other →
      other.origin ≠ .peer) resolved later →
    resolved.settled later < options.ackHistory.toNat →
    repeated.kind = .solicitedAckExpected → repeated.token = asking.token →
    (last.receive repeated).2
      = if last.registry.contains asking.token then some (.ack asking.token) else none := by
  intro pending acknowledged resolved last hpeer howner hasking hpending hresponse hresponseToken
    hnotAgain hroom hrepeated hrepeatedToken
  obtain ⟨hstart, hstartLimit⟩ := noLocalAcks_run (noLocalAcks_start id options) earlier
  obtain ⟨hreceiveLimit, hreceive, _⟩ := history_step hstart (.receive asking)
  obtain ⟨hbetween, hbetweenLimit⟩ := noLocalAcks_run hreceive between
  obtain ⟨hresolveLimit, hresolve, _⟩ := history_step hbetween (.resolve response)
  have hlimit : resolved.registry.historyLimit = options.ackHistory.toNat :=
    hresolveLimit.trans (hbetweenLimit.trans (hreceiveLimit.trans hstartLimit))
  have hmarked : Marked (acknowledged.run between).registry asking.token owner :=
    marked_run hreceive hpeer (marked_receive hasking hpeer howner) hpending
  have hremembered : Remembered resolved.registry.history asking.token 0 := by
    rw [← hresponseToken] at hmarked ⊢
    refine remembered_resolve hresponse hpeer hmarked ?_
    rw [← hresolveLimit, hlimit]
    exact Nat.zero_lt_of_lt hroom
  have hlast : Remembered last.registry.history asking.token (0 + resolved.settled later) := by
    refine remembered_run hresolve hremembered ?_
    rw [Nat.zero_add, hlimit]
    exact hroom
  rw [← hrepeatedToken] at hlast ⊢
  refine receive_of_remembered hrepeated hlast ?_
  rw [hrepeatedToken]
  exact throughout_last hnotAgain

/-- Once the request served in process is gone, its token is remembered as before. -/
theorem acknowledged_once_after_local_request :
    let asking : Frame := ⟨.solicitedAckExpected, ⟨1⟩, 20, .success, []⟩
    let callbacks : Callbacks := {
      table := .withShapes {} ⟨20⟩ .void .void
      vendor := { Vendor.unavailable with serve := fun _ _ _ => { verdict := .ok () } } }
    let acknowledged := ((start ⟨0⟩ {}).run [.registerCallbacks callbacks,
      .beginSubmission (.caller 0) (some ⟨1⟩) ⟨20⟩ .void 0]).step (.receive asking)
    let resolved := (acknowledged.run [.offer .reader (.ack ⟨1⟩), .accept 12]).step
      (.resolve asking)
    let last := resolved.run [.submitLocal ⟨20⟩ [] 1, .completeLocal ⟨1⟩ .success []]
    (last.receive asking).2 = none := by
  intro asking callbacks acknowledged resolved last
  have hpending : Throughout (fun s => s.registry.owner? ⟨1⟩ = some ⟨⟨20⟩, 0, .peer⟩) acknowledged
      [.offer .reader (.ack ⟨1⟩), .accept 12] := ⟨rfl, rfl, rfl⟩
  have hbefore : resolved.registry.owner? ⟨1⟩ = none := by decide
  have hwhile : (resolved.step (.submitLocal ⟨20⟩ [] 1)).registry.owner? ⟨1⟩
      = some ⟨⟨20⟩, 1, .vendor⟩ := by decide
  have hafter : ((resolved.step (.submitLocal ⟨20⟩ [] 1)).step
      (.completeLocal ⟨1⟩ .success [])).registry.owner? ⟨1⟩ = none := by decide
  have hgone : ¬ last.registry.contains ⟨1⟩ = true := by decide
  have hnotAgain : Throughout (fun s => ∀ other, s.registry.owner? ⟨1⟩ = some other →
      other.origin ≠ .peer) resolved [.submitLocal ⟨20⟩ [] 1, .completeLocal ⟨1⟩ .success []] := by
    refine ⟨?_, ?_, ?_⟩ <;> intro other howner
    · rw [hbefore] at howner
      cases howner
    · rw [hwhile, Option.some.injEq] at howner
      rw [← howner]
      decide
    · rw [hafter] at howner
      cases howner
  have hroom : resolved.settled [.submitLocal ⟨20⟩ [] 1, .completeLocal ⟨1⟩ .success []]
      < ({} : SlotOptions).ackHistory.toNat := by decide
  have honce := acknowledged_once ⟨0⟩ {}
    [.registerCallbacks callbacks, .beginSubmission (.caller 0) (some ⟨1⟩) ⟨20⟩ .void 0]
    [.offer .reader (.ack ⟨1⟩), .accept 12]
    [.submitLocal ⟨20⟩ [] 1, .completeLocal ⟨1⟩ .success []]
    asking asking asking ⟨⟨20⟩, 0, .peer⟩ rfl rfl rfl hpending rfl rfl hnotAgain hroom rfl rfl
  exact honce.trans (if_neg hgone)

/-- While a request served in process has the token of a resolved request, a repeated response is
acknowledged again. -/
theorem acknowledged_again_for_local_request :
    let ack : Command := .ack ⟨1⟩
    let asking : Frame := ⟨.solicitedAckExpected, ⟨1⟩, 20, .success, []⟩
    let callbacks : Callbacks := {
      table := .withShapes {} ⟨20⟩ .void .void
      vendor := { Vendor.unavailable with serve := fun _ _ _ => { verdict := .ok () } } }
    let pending := (start ⟨0⟩ {}).run [.registerCallbacks callbacks,
      .beginSubmission (.caller 0) (some ⟨1⟩) ⟨20⟩ .void 0, .accept 12]
    let written := pending.run [.receive asking, .offer .reader ack, .accept 12]
    let resolved := written.run [.acknowledged ack (.ok ()), .resolve asking]
    let last := resolved.step (.submitLocal ⟨20⟩ [] 1)
    let again := last.run [.receive asking, .offer .reader ack, .accept 12]
    pending.registry.owner? ⟨1⟩ = some ⟨⟨20⟩, 0, .peer⟩ ∧
    (pending.receive asking).2 = some ack ∧
    written.log.getLast? = some (.wrote ack.encode) ∧
    resolved.registry.owner? ⟨1⟩ = none ∧
    last.registry.owner? ⟨1⟩ = some ⟨⟨20⟩, 1, .vendor⟩ ∧
    resolved.settled [.submitLocal ⟨20⟩ [] 1] = 0 ∧
    (last.receive asking).2 = some ack ∧
    again.log.getLast? = some (.wrote ack.encode) :=
  ⟨rfl, rfl, rfl, rfl, rfl, rfl, rfl, rfl⟩

end Slot

end RadioLink
