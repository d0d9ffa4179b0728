import RadioLink.Proofs.Slot

set_option autoImplicit false

/-! # The tokens that count as acknowledged

A registry takes a repeated response for a duplicate because of a mark on the pending request, or
because of the history. No step adds to what it knows in this way but the decision to acknowledge a
response, and that adds one token. What is known may be forgotten at any time, so everything here is
an inclusion. -/

namespace RadioLink

namespace Registry

variable {r : Registry} {token : Token}

/-- The tokens for which an acknowledgment was decided on, as far as this is still known. -/
def acked (r : Registry) : List Token :=
  r.history ++ (r.entries.filter (·.isAcked)).map (·.token)

theorem mem_acked {other : Token} : other ∈ r.acked ↔
    other ∈ r.history ∨ ∃ entry ∈ r.entries, entry.isAcked = true ∧ entry.token = other := by
  simp only [acked, List.mem_append, List.mem_map, List.mem_filter, and_assoc]

/-- A request that is registered has no mark. -/
theorem acked_register {entry : PendingRequest} (h : entry.isAcked = false) (nextToken : UInt32) :
    ({ r with nextToken }.add entry).acked ⊆ r.acked := by
  intro other hmem
  rw [mem_acked] at hmem ⊢
  refine hmem.imp_right ?_
  rintro ⟨found, hfound, hacked, htoken⟩
  rcases List.mem_append.1 hfound with hfound | hfound
  · exact ⟨found, hfound, hacked, htoken⟩
  · rw [List.mem_singleton.1 hfound, h] at hacked
    cases hacked

theorem acked_remove (r : Registry) (token : Token) : (r.remove token).acked ⊆ r.acked := by
  intro other hmem
  rw [mem_acked] at hmem ⊢
  refine hmem.imp_right ?_
  rintro ⟨found, hfound, hmarked⟩
  exact ⟨found, (List.mem_filter.1 hfound).1, hmarked⟩

/-- A change of one entry marks no other. -/
theorem acked_modify {change : PendingRequest → PendingRequest}
    (htoken : ∀ entry, (change entry).token = entry.token) :
    (r.modify token change).acked ⊆ token :: r.acked := by
  intro other hmem
  rw [List.mem_cons]
  by_cases hother : other = token
  · exact .inl hother
  · right
    rw [mem_acked] at hmem ⊢
    refine hmem.imp_right ?_
    rintro ⟨found, hfound, hacked, rfl⟩
    obtain ⟨entry, hentry, rfl⟩ := List.mem_map.1 hfound
    split at hother
    · next he =>
      rw [htoken] at hother
      exact absurd (by simpa using he) hother
    · next hne =>
      rw [if_neg hne] at hacked ⊢
      exact ⟨entry, hentry, hacked, rfl⟩

/-- A change that sets no mark adds nothing. -/
theorem acked_modify_of_same {change : PendingRequest → PendingRequest}
    (htoken : ∀ entry, (change entry).token = entry.token)
    (hacked : ∀ entry, (change entry).isAcked = entry.isAcked) :
    (r.modify token change).acked ⊆ r.acked := by
  intro other hmem
  rw [mem_acked] at hmem ⊢
  refine hmem.imp_right ?_
  rintro ⟨found, hfound, hmarked, rfl⟩
  obtain ⟨entry, hentry, rfl⟩ := List.mem_map.1 hfound
  refine ⟨entry, hentry, ?_⟩
  split at hmarked
  · next he =>
    rw [if_pos he]
    exact ⟨(hacked entry).symm.trans hmarked, (htoken entry).symm⟩
  · next hne =>
    rw [if_neg hne]
    exact ⟨hmarked, rfl⟩

theorem acked_cancel (r : Registry) (token : Token) : (r.cancel token).1.acked ⊆ r.acked := by
  rcases cancel_cases r token with ⟨_, _, _, h⟩ | h <;> rw [h]
  · exact acked_modify_of_same (fun _ => rfl) (fun _ => rfl)
  · exact List.Subset.refl _

theorem acked_markReceived (r : Registry) (token : Token) :
    (r.markReceived token).1.acked ⊆ r.acked := by
  rcases markReceived_cases r token with ⟨_, _, _, h⟩ | h <;> rw [h]
  · exact acked_modify_of_same (fun _ => rfl) (fun _ => rfl)
  · exact List.Subset.refl _

theorem mem_of_mem_remember {limit : Nat} {history : List Token} {other : Token}
    (h : other ∈ remember limit token history) : other = token ∨ other ∈ history := by
  rw [remember] at h
  split at h
  · exact .inr h
  · rcases List.mem_append.1 h with h | h
    · split at h
      · exact .inr h
      · exact .inr (List.mem_of_mem_drop h)
    · exact .inl (List.mem_singleton.1 h)

/-- What goes into the history was marked before. -/
theorem acked_complete (r : Registry) (token : Token) (origin : Origin) :
    (r.complete token origin).1.acked ⊆ r.acked := by
  rcases complete_cases r token origin with ⟨entry, hfind, _, h⟩ | ⟨h, _⟩ <;> rw [h]
  · intro other hmem
    rw [mem_acked] at hmem
    rcases hmem with hhistory | hentries
    · change other ∈ (if entry.isAcked then _ else _) at hhistory
      split at hhistory
      · next hacked =>
        rcases mem_of_mem_remember hhistory with rfl | hhistory
        · exact mem_acked.2 (.inr ⟨entry, mem_of_find? hfind, hacked, token_of_find? hfind⟩)
        · exact mem_acked.2 (.inl hhistory)
      · exact mem_acked.2 (.inl hhistory)
    · exact acked_remove r token (mem_acked.2 (.inr hentries))
  · exact List.Subset.refl _

/-- The decision to acknowledge a response adds its token. -/
theorem acked_beginAck (r : Registry) (token : Token) :
    (r.beginAck token).1.acked ⊆ token :: r.acked := by
  rcases beginAck_cases r token with ⟨_, _, _, _, h⟩ | ⟨_, _, _, _, h⟩ | ⟨_, _, _, h⟩ | ⟨_, h⟩
    <;> rw [h]
  · exact acked_modify fun _ => rfl
  all_goals exact List.subset_cons_self _ _

theorem mem_acked_of_duplicate (h : (r.beginAck token).2 = .duplicate) : token ∈ r.acked := by
  rcases beginAck_cases r token with
    ⟨_, _, _, _, hack⟩ | ⟨entry, hfind, _, hacked, _⟩ | ⟨_, _, _, hack⟩ | ⟨_, hack⟩
  · rw [hack] at h
    cases h
  · exact mem_acked.2 (.inr ⟨entry, mem_of_find? hfind, hacked, token_of_find? hfind⟩)
  · rw [hack] at h
    cases h
  · rw [hack] at h
    by_cases hmem : token ∈ r.history
    · exact mem_acked.2 (.inl hmem)
    · rw [if_neg hmem] at h
      cases h

end Registry

namespace Slot

theorem acked_beginSubmission (s : Slot) (party : Party) (chosen : Option Token)
    (request : RequestId) (payload : Payload) (sink : Sink) :
    (s.beginSubmission party chosen request payload sink).1.registry.acked
      ⊆ s.registry.acked := by
  rcases s.beginSubmission_cases party chosen request payload sink with
    ⟨e, nextToken, hbegin⟩ | ⟨submission, nextToken, outlet, -, -, -, -, hbegin⟩ <;> rw [hbegin]
  · exact List.Subset.refl _
  · exact Registry.acked_register rfl nextToken

theorem acked_conclude (s : Slot) (submission : Submission) (result : Except LinkError Unit) :
    (s.conclude submission result).1.registry.acked ⊆ s.registry.acked := by
  cases result with
  | ok _ => exact List.Subset.refl _
  | error e => exact Registry.acked_remove _ _

theorem acked_submitLocal (s : Slot) (request : RequestId) (data : Bytes) (sink : Sink) :
    (s.submitLocal request data sink).1.registry.acked ⊆ s.registry.acked := by
  have hcompletions : ∀ (token : Token) (completions : List (Status × Bytes)) (r : Registry),
      (completions.foldl (fun registry _ => (registry.complete token .vendor).1) r).acked
        ⊆ r.acked := by
    intro token completions
    induction completions with
    | nil => exact fun r => List.Subset.refl _
    | cons completion completions ih =>
      intro r
      exact List.Subset.trans (ih _) (Registry.acked_complete r token .vendor)
  rcases s.submitLocal_registry request data sink with
    hrefused | ⟨token, nextToken, -, completions, completed, rfl, hlast | hlast⟩
  · rw [hrefused]
    exact List.Subset.refl _
  · rw [hlast]
    exact List.Subset.trans (hcompletions token completions _)
      (Registry.acked_register rfl nextToken)
  · rw [hlast]
    exact List.Subset.trans (Registry.acked_remove _ token)
      (List.Subset.trans (hcompletions token completions _)
        (Registry.acked_register rfl nextToken))

/-- Taking in a frame adds its token at most, and only if it asks for the acknowledgment of a
response. -/
theorem acked_receive (s : Slot) (frame : Frame) : ∀ token ∈ (s.receive frame).1.registry.acked,
    token ∈ s.registry.acked ∨ (frame.kind = .solicitedAckExpected ∧ frame.token = token) := by
  intro token hmem
  by_cases hkind : frame.kind = .solicitedAckExpected
  · rw [(receive_ackExpected hkind).1] at hmem
    rcases List.mem_cons.1 (Registry.acked_beginAck _ _ hmem) with rfl | hmem
    · exact .inr ⟨hkind, rfl⟩
    · exact .inl hmem
  · left
    unfold receive at hmem
    cases hframe : frame.kind with
    | solicitedAckExpected => exact absurd hframe hkind
    | solicited | unsolicited | solicitedAck | unsolicitedAckExpected =>
      rw [hframe] at hmem
      exact hmem

theorem acked_resolve (s : Slot) (frame : Frame) :
    (s.resolve frame).registry.acked ⊆ s.registry.acked := by
  unfold resolve
  cases frame.kind with
  | solicited | solicitedAckExpected =>
    show (s.resolveResponse frame).registry.acked ⊆ _
    rw [registry_resolveResponse]
    exact Registry.acked_complete _ _ _
  | solicitedAck =>
    show (s.resolveReceipt frame).registry.acked ⊆ _
    rw [registry_resolveReceipt]
    exact Registry.acked_markReceived _ _
  | unsolicited | unsolicitedAckExpected =>
    show (s.resolveIndication frame).registry.acked ⊆ _
    rw [registry_resolveIndication]
    exact List.Subset.refl _

end Slot

end RadioLink
