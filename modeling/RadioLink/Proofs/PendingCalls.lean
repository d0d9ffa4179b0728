import RadioLink.Proofs.ModemLink

set_option autoImplicit false

/-! # Pending calls

A call is found under its token as long as it is pending, and nothing else is pending under it. So
each frame of a reply finds the call that it is a reply to: the receipt is noted, the first response
is acknowledged if it asks for that, and the response that is resolved goes to the caller. -/

namespace RadioLink

/-! ## In the registry -/

namespace Registry.Holds

variable {r : Registry} {calls : List Call} {acked : List Reply} {call : Call}

/-- A call that is pending is found under its token. -/
theorem find? (h : r.Holds calls acked) (hmem : call ∈ calls) :
    ∃ entry, r.find? call.submission.token = some entry ∧
      entry.owner = call.entry.owner ∧
      entry.isCancelled = false ∧
      (entry.isAcked = true →
        call.submission.token ∈ acked.map fun a => a.call.submission.token) := by
  have hclaim := (h.claims.mem_iff (a := call.claim)).2 (List.mem_map_of_mem hmem)
  obtain ⟨entry, hentry, he⟩ := List.mem_map.1 hclaim
  obtain ⟨htoken, howner⟩ := Prod.mk.inj he
  have htoken : entry.token = call.submission.token := htoken
  obtain ⟨hcancelled, hacked⟩ := h.marks entry hentry
  rw [← htoken]
  exact ⟨entry, find?_of_mem h.distinct hentry, howner, hcancelled, hacked⟩

/-- A call is registered under a free token. -/
theorem add (h : r.Holds calls acked) (hfree : r.contains call.submission.token = false)
    (nextToken : UInt32) :
    ({ r with nextToken }.add call.entry).Holds (calls ++ [call]) acked := by
  have hnone := find?_eq_none_of_contains hfree
  rw [Registry.find?, List.find?_eq_none] at hnone
  refine ⟨?_, ?_, ?_⟩
  · simp only [Registry.add, List.map_append]
    exact h.claims.append_right _
  · simp only [Registry.add, List.map_append, List.map_cons, List.map_nil]
    rw [List.nodup_append]
    refine ⟨h.distinct, List.pairwise_singleton _ _, ?_⟩
    rintro _ hmem _ hnew rfl
    obtain ⟨entry, hentry, htoken⟩ := List.mem_map.1 hmem
    rw [List.mem_singleton] at hnew
    exact hnone entry hentry (beq_iff_eq.2 (htoken.trans hnew))
  · intro entry hmem
    rcases List.mem_append.1 hmem with hmem | hmem
    · exact h.marks entry hmem
    · rw [List.mem_singleton.1 hmem]
      exact ⟨rfl, Bool.noConfusion⟩

/-- A mark on a pending request leaves it pending. -/
theorem modify {token : Token} {change : PendingRequest → PendingRequest} {others : List Reply}
    (h : r.Holds calls acked)
    (hchange : ∀ entry, (change entry).token = entry.token ∧ (change entry).owner = entry.owner ∧
      (change entry).isCancelled = entry.isCancelled)
    (hacked : ∀ entry, entry.token = token → (change entry).isAcked = true →
      entry.isAcked = true ∨ token ∈ others.map fun a => a.call.submission.token)
    (hmore : ∀ a ∈ acked, a ∈ others) : (r.modify token change).Holds calls others := by
  have hmarks : ∀ entry ∈ r.entries, entry.isAcked = true →
      entry.token ∈ others.map fun a => a.call.submission.token := by
    intro entry hmem hmark
    obtain ⟨a, ha, htoken⟩ := List.mem_map.1 ((h.marks entry hmem).2 hmark)
    exact List.mem_map.2 ⟨a, hmore a ha, htoken⟩
  refine ⟨?_, ?_, ?_⟩
  · rw [map_modify fun entry => by rw [(hchange entry).1, (hchange entry).2.1]]
    exact h.claims
  · rw [map_modify fun entry => (hchange entry).1]
    exact h.distinct
  · intro changed hmem
    obtain ⟨entry, hentry, rfl⟩ := List.mem_map.1 hmem
    have hcancelled := (h.marks entry hentry).1
    by_cases htoken : entry.token = token
    · rw [if_pos (beq_iff_eq.2 htoken)]
      refine ⟨(hchange entry).2.2.trans hcancelled, fun hmark => ?_⟩
      rw [(hchange entry).1]
      rcases hacked entry htoken hmark with hmark | hmark
      · exact hmarks entry hentry hmark
      · exact htoken ▸ hmark
    · rw [if_neg (by simpa using htoken)]
      exact ⟨hcancelled, hmarks entry hentry⟩

/-- The response to a pending call is taken, and the other calls stay pending. -/
theorem complete (h : r.Holds (call :: calls) acked)
    (hacked : ∀ a ∈ acked, a.call.submission.token = call.submission.token) :
    ∃ entry history, entry.token = call.submission.token ∧
      entry.owner = call.entry.owner ∧
      r.complete call.submission.token .peer
        = ({ r.remove call.submission.token with history }, .pending entry) ∧
      Holds { r.remove call.submission.token with history } calls [] := by
  obtain ⟨entry, hfind, howner, hcancelled, -⟩ := h.find? List.mem_cons_self
  have htoken := token_of_find? hfind
  rcases complete_cases r call.submission.token .peer with ⟨other, hother, -, hcomplete⟩ | ⟨-, hnot⟩
  · rw [hfind] at hother
    cases hother
    rw [hcancelled, if_neg Bool.false_ne_true] at hcomplete
    refine ⟨entry, _, htoken, howner, hcomplete, ?_, ?_, ?_⟩
    · have hperm := (entries_perm_remove h.distinct hfind).map
        fun entry => (entry.token, entry.owner)
      have hclaim : (entry.token, entry.owner) = call.claim := by rw [htoken, howner]; rfl
      rw [List.map_cons, hclaim] at hperm
      exact List.Perm.cons_inv (hperm.symm.trans h.claims)
    · exact (List.filter_sublist.map _).nodup h.distinct
    · intro left hmem
      obtain ⟨hleft, hne⟩ := List.mem_filter.1 hmem
      obtain ⟨huncancelled, hmarked⟩ := h.marks left hleft
      -- Only the request that was taken away can have been acknowledged.
      refine ⟨huncancelled, fun hmark => ?_⟩
      obtain ⟨a, ha, hsame⟩ := List.mem_map.1 (hmarked hmark)
      rw [hacked a ha] at hsame
      simp [hsame] at hne
  · -- A call is to the peer, so the peer may complete it.
    exact absurd (congrArg Owner.origin howner) (hnot entry hfind)

theorem markReceived (h : r.Holds calls acked) (hmem : call ∈ calls) :
    ∃ registry, r.markReceived call.submission.token = (registry, true) ∧
      registry.slot = r.slot ∧ registry.Holds calls acked := by
  obtain ⟨entry, hfind, howner, -, -⟩ := h.find? hmem
  have horigin : entry.origin = .peer := congrArg Owner.origin howner
  refine ⟨r.modify call.submission.token fun entry => { entry with isReceived := true }, ?_, rfl,
    h.modify (fun _ => ⟨rfl, rfl, rfl⟩) (fun _ _ hmark => .inl hmark) fun _ hother => hother⟩
  simp [Registry.markReceived, hfind, horigin]

/-- The first response to a pending call is acknowledged. -/
theorem beginAck {a : Reply} (h : r.Holds calls []) (hmem : a.call ∈ calls) :
    ∃ registry, r.beginAck a.call.submission.token = (registry, .send) ∧
      registry.slot = r.slot ∧ registry.Holds calls [a] := by
  obtain ⟨entry, hfind, howner, -, hacked⟩ := h.find? hmem
  have horigin : entry.origin = .peer := congrArg Owner.origin howner
  have hunacked : ¬ entry.isAcked = true := fun hmark => List.not_mem_nil (hacked hmark)
  refine ⟨r.modify a.call.submission.token fun entry => { entry with isAcked := true }, ?_, rfl,
    h.modify (fun _ => ⟨rfl, rfl, rfl⟩) (fun _ _ _ => .inr (List.mem_singleton.2 rfl))
      fun _ => nofun⟩
  simp [Registry.beginAck, hfind, horigin, hunacked]

end Registry.Holds

/-! ## Frames -/

namespace Slot

variable {s : Slot} {setup : Setup} {a : Reply} {calls : List Call}

/-- A frame that asks for no acknowledgment is noted when it is taken in, and that is all. -/
theorem receive_of_not_expectsAck {frame : Frame} (h : frame.kind.expectsAck = false) :
    s.receive frame = (s.emit frame.received, none) := by
  unfold receive Frame.received
  cases hkind : frame.kind with
  | solicited | unsolicited | solicitedAck => rfl
  | solicitedAckExpected | unsolicitedAckExpected =>
    rw [hkind] at h
    cases h

/-- If the table has a codec for a request, the result of its response is what is read of it. -/
theorem buildResponse_of_codec {request : RequestId}
    (hcodec : (s.callbacks.table.request? request).isSome = true) (pending : PendingRequest)
    (status : Status) (payload : Bytes) :
    s.buildResponse pending request status payload = pending.respond s.id status
      (s.callbacks.table.readResult request status payload) := by
  obtain ⟨codec, hcodec⟩ := Option.isSome_iff_exists.1 hcodec
  simp only [buildResponse, DispatchTable.readResult, hcodec]
  by_cases hvoid : (!status.isSuccess && payload.isEmpty) = true
  · rw [if_pos hvoid, if_pos hvoid]
  · rw [if_neg hvoid, if_neg hvoid]
    cases codec.decode request.raw payload <;> rfl

/-- The caller of a pending call gets the response that the modem gave. -/
theorem resolve_response (hslot : s.IsOf setup) {acked : List Reply}
    (h : s.registry.Holds (a.call :: calls) acked)
    (hacked : ∀ other ∈ acked, other.call.submission.token = a.call.submission.token)
    (hcodec : (setup.callbacks.table.request? a.call.submission.request).isSome = true) :
    ∃ registry, s.resolve a.response = { s with registry }.emit
        (.resolved (a.outcome setup.id setup.callbacks.table)) ∧
      registry.slot = s.registry.slot ∧ registry.Holds calls [] := by
  obtain ⟨entry, history, htoken, howner, hcomplete, hholds⟩ := h.complete hacked
  have hkind : a.response.kind.isResponse = true := by
    show a.rule.style.responseKind.isResponse = true
    cases a.rule.style <;> rfl
  have hrequest : entry.request = a.call.submission.request := congrArg Owner.request howner
  have hsink : entry.sink = a.call.ticket := congrArg Owner.sink howner
  rw [← hslot.callbacks] at hcodec
  have hbuild : s.buildResponse entry a.response.request a.response.status a.response.payload
      = (a.outcome setup.id setup.callbacks.table).response := by
    have hresult := buildResponse_of_codec hcodec entry a.rule.status a.rule.payload
    rw [PendingRequest.respond, htoken, hrequest, hslot.id, hslot.callbacks] at hresult
    exact hresult
  have htaken : a.response.token = a.call.submission.token := rfl
  refine ⟨{ s.registry.remove a.call.submission.token with history }, ?_, rfl, hholds⟩
  rw [resolve_of_isResponse hkind, resolveResponse, htaken, hcomplete]
  simp only [hbuild, deliver, hsink]
  rfl

/-- The receipt for a pending call is noted. -/
theorem resolve_receipt {acked : List Reply} (h : s.registry.Holds calls acked)
    (hmem : a.call ∈ calls) :
    ∃ registry, s.resolve a.receipt
        = { s with registry }.publish (.requestAcknowledged a.call.submission.token) ∧
      registry.slot = s.registry.slot ∧ registry.Holds calls acked := by
  obtain ⟨registry, hmark, hslot, hholds⟩ := h.markReceived hmem
  refine ⟨registry, ?_, hslot, hholds⟩
  have htaken : a.receipt.token = a.call.submission.token := rfl
  show s.resolveReceipt a.receipt = _
  rw [resolveReceipt, htaken, hmark]

/-- The first response to a pending call is to be acknowledged if it asks for that. -/
theorem receive_response (hstyle : a.rule.style = .ackExpected) (h : s.registry.Holds calls [])
    (hmem : a.call ∈ calls) :
    ∃ registry, s.receive a.response
        = ({ s with registry }.emit a.response.received, some (.ack a.call.submission.token)) ∧
      registry.slot = s.registry.slot ∧ registry.Holds calls [a] := by
  obtain ⟨registry, hack, hslot, hholds⟩ := h.beginAck hmem
  refine ⟨registry, ?_, hslot, hholds⟩
  have hkind : a.response.kind = .solicitedAckExpected := by
    show a.rule.style.responseKind = _
    rw [hstyle]
    rfl
  have htaken : a.response.token = a.call.submission.token := rfl
  unfold receive Frame.received
  rw [hkind]
  simp only [publish, emit, htaken, hack]

/-- A reader that has no frame to take goes on waiting. -/
theorem readNext?_of_no_frame (hframe : s.framer.nextFrame.2 = none) : s.readNext? = none := by
  by_cases hwaiting : s.reading = .waiting
  · rcases readNext?_cases hwaiting with ⟨-, hread⟩ | ⟨e, herror, -⟩ | ⟨frame, hother, -⟩
    · exact hread
    · rw [hframe] at herror
      cases herror
    · rw [hframe] at hother
      cases hother
  · exact readNext?_of_not_waiting hwaiting

/-- A frame that asks for no acknowledgment is resolved as soon as the reader takes it. -/
theorem readNext?_of_not_expectsAck {frame : Frame} (hwaiting : s.reading = .waiting)
    (hframe : s.framer.nextFrame.2 = some (.ok frame)) (hkind : frame.kind.expectsAck = false) :
    s.readNext? = some (Slot.resolve { s with
      framer := s.framer.nextFrame.1, log := s.log ++ [frame.received] } frame) := by
  have hbegin : { s with framer := s.framer.nextFrame.1 }.beginRoute .reader frame
      = (Slot.resolve { s with
          framer := s.framer.nextFrame.1, log := s.log ++ [frame.received] } frame, none) := by
    rw [beginRoute, receive_of_not_expectsAck hkind]
    rfl
  rw [readNext?_of_frame hwaiting hframe, hbegin]

/-- The reader waits for the acknowledgment of a frame if that was accepted. -/
theorem readNext?_of_offer {frame : Frame} {received : Slot} {ack : Command} {outlet : Outlet}
    (hwaiting : s.reading = .waiting) (hframe : s.framer.nextFrame.2 = some (.ok frame))
    (hreceive : { s with framer := s.framer.nextFrame.1 }.receive frame = (received, some ack))
    (hoffer : received.outlet.offer .reader ack.encodeBody = .ok outlet) :
    s.readNext? = some { received with outlet, reading := .acknowledging frame ack } := by
  have hbegin : { s with framer := s.framer.nextFrame.1 }.beginRoute .reader frame
      = ({ received with outlet }, some ack) := by
    simp only [beginRoute, hreceive, offer, hoffer, Except.map]
  rw [readNext?_of_frame hwaiting hframe, hbegin]

end Slot

end RadioLink
