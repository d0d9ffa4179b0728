import RadioLink.Registry

set_option autoImplicit false

/-! # What the operations of a registry do

A registry is read through `find?`: what the three ways of changing its entries, `add`, `remove` and
`modify`, do to a lookup is said once, and each operation then has one lemma that lists everything
it can do. Most properties of a run need less than the whole entry: who a token stands for, its
`Owner`, is decided at the registration and is not touched by any mark. -/

namespace RadioLink

namespace Registry

variable {r : Registry} {token : Token}

/-! ## Lookups -/

theorem token_of_find? {entry : PendingRequest} (h : r.find? token = some entry) :
    entry.token = token := by
  simpa using List.find?_some h

theorem mem_of_find? {entry : PendingRequest} (h : r.find? token = some entry) :
    entry ∈ r.entries :=
  List.mem_of_find?_eq_some h

theorem contains_eq_isSome (r : Registry) (token : Token) :
    r.contains token = (r.find? token).isSome := by
  rw [contains, find?, Bool.eq_iff_iff, List.find?_isSome, List.any_eq_true]

theorem find?_eq_none_of_contains (h : r.contains token = false) : r.find? token = none := by
  rw [contains_eq_isSome] at h
  simpa using h

theorem ne_of_find? (hfree : r.contains token = false) {other : Token} {entry : PendingRequest}
    (hfind : r.find? other = some entry) : token ≠ other := by
  rintro rfl
  rw [find?_eq_none_of_contains hfree] at hfind
  cases hfind

theorem find?_add {entry : PendingRequest} (h : r.contains entry.token = false) (other : Token) :
    (r.add entry).find? other = if entry.token = other then some entry else r.find? other := by
  simp only [add, find?, List.find?_append, List.find?_singleton, beq_iff_eq]
  split
  · next he =>
    rw [he] at h
    have hnone := find?_eq_none_of_contains h
    rw [find?] at hnone
    rw [hnone, Option.none_or]
  · exact Option.or_none

theorem find?_remove (r : Registry) (token other : Token) :
    (r.remove token).find? other = if token = other then none else r.find? other := by
  simp only [remove, find?, List.find?_filter]
  split
  · next he =>
    subst he
    rw [List.find?_eq_none]
    intro entry _
    simp
  · next hne =>
    congr 1
    funext entry
    by_cases hentry : entry.token = other
    · simp [hentry, Ne.symm hne]
    · simp [hentry]

theorem find?_modify {change : PendingRequest → PendingRequest}
    (hchange : ∀ entry, (change entry).token = entry.token) (r : Registry) (token other : Token) :
    (r.modify token change).find? other
      = if token = other then (r.find? other).map change else r.find? other := by
  simp only [modify, find?]
  induction r.entries with
  | nil => simp
  | cons entry entries ih =>
    rw [List.map_cons, List.find?_cons, List.find?_cons, ih]
    by_cases htoken : entry.token = token
    · subst htoken
      rw [if_pos (beq_self_eq_true _), hchange]
      by_cases hother : entry.token = other
      · subst hother
        simp
      · simp only [beq_eq_false_iff_ne.2 hother, if_neg hother]
    · rw [if_neg (by simpa using htoken)]
      by_cases hentry : entry.token = other
      · have hother : token ≠ other := fun he => htoken (hentry.trans he.symm)
        simp only [hentry, beq_self_eq_true, if_neg hother]
      · simp only [beq_eq_false_iff_ne.2 hentry]

/-- As tokens are distinct, taking away the request that has one takes away exactly that request. -/
theorem entries_perm_remove {entry : PendingRequest}
    (hdistinct : (r.entries.map (·.token)).Nodup) (h : r.find? token = some entry) :
    r.entries.Perm (entry :: (r.remove token).entries) := by
  simp only [find?, remove] at *
  generalize r.entries = entries at *
  induction entries with
  | nil => cases h
  | cons first entries ih =>
    rw [List.map_cons, List.nodup_cons] at hdistinct
    rw [List.find?_cons] at h
    by_cases htoken : first.token = token
    · rw [beq_iff_eq.2 htoken] at h
      cases h
      have hrest : entries.filter (fun other => !(other.token == token)) = entries := by
        rw [List.filter_eq_self]
        intro other hmem
        have hne : other.token ≠ token := fun he =>
          hdistinct.1 (List.mem_map.2 ⟨other, hmem, he.trans htoken.symm⟩)
        simpa using hne
      rw [List.filter_cons, if_neg (by simpa using htoken), hrest]
    · rw [beq_eq_false_iff_ne.2 htoken] at h
      rw [List.filter_cons, if_pos (by simpa using htoken)]
      exact ((ih hdistinct.2 h).cons first).trans (List.Perm.swap entry first _)

/-- As tokens are distinct, every request is found under its own. -/
theorem find?_of_mem {entry : PendingRequest} (hdistinct : (r.entries.map (·.token)).Nodup)
    (hmem : entry ∈ r.entries) : r.find? entry.token = some entry := by
  simp only [find?]
  generalize r.entries = entries at *
  induction entries with
  | nil => cases hmem
  | cons first entries ih =>
    rw [List.map_cons, List.nodup_cons] at hdistinct
    rw [List.find?_cons]
    rcases List.mem_cons.1 hmem with rfl | hmem
    · rw [beq_self_eq_true]
    · have hne : first.token ≠ entry.token := fun he =>
        hdistinct.1 (List.mem_map.2 ⟨entry, hmem, he.symm⟩)
      rw [beq_eq_false_iff_ne.2 hne]
      exact ih hdistinct.2 hmem

/-- What a change leaves as it is. -/
theorem map_modify {β : Type} {change : PendingRequest → PendingRequest}
    {f : PendingRequest → β} (hchange : ∀ entry, f (change entry) = f entry) (r : Registry)
    (token : Token) : (r.modify token change).entries.map f = r.entries.map f := by
  rw [modify, List.map_map]
  refine List.map_congr_left fun entry _ => ?_
  rw [Function.comp]
  split
  · exact hchange entry
  · rfl

theorem remove_of_find?_eq_none (h : r.find? token = none) : r.remove token = r := by
  rw [find?, List.find?_eq_none] at h
  have hall : r.entries.filter (fun entry => !(entry.token == token)) = r.entries := by
    rw [List.filter_eq_self]
    intro entry hmem
    simpa using h entry hmem
  rw [remove, hall]

/-- A request that was registered under a free token can be taken back. -/
theorem rollback_add (entry : PendingRequest) (h : r.contains entry.token = false) :
    (r.add entry).rollback entry.token = r := by
  have hrest := remove_of_find?_eq_none (find?_eq_none_of_contains h)
  simp only [remove] at hrest
  simp only [rollback, remove, add, List.filter_append, List.filter_cons, List.filter_nil,
    beq_self_eq_true, Bool.not_true, Bool.false_eq_true, if_false, List.append_nil]
  exact hrest

end Registry

/-! ## Owners -/

/-- Who a pending token stands for. -/
structure Owner where
  request : RequestId
  sink : Sink
  origin : Origin
deriving DecidableEq, Repr

/-- Whose request it is. -/
def PendingRequest.owner (entry : PendingRequest) : Owner :=
  ⟨entry.request, entry.sink, entry.origin⟩

namespace Registry

variable {r : Registry} {token : Token}

/-- Who a token stands for, if it is pending. -/
def owner? (r : Registry) (token : Token) : Option Owner :=
  (r.find? token).map PendingRequest.owner

theorem owner?_of_find? {entry : PendingRequest} (h : r.find? token = some entry) :
    r.owner? token = some entry.owner := by
  rw [owner?, h, Option.map_some]

theorem owner?_eq_none_iff : r.owner? token = none ↔ r.contains token = false := by
  rw [owner?, Option.map_eq_none_iff, contains_eq_isSome, Option.isSome_eq_false_iff,
    Option.isNone_iff_eq_none]

theorem owner?_add {entry : PendingRequest} (h : r.contains entry.token = false) (other : Token) :
    (r.add entry).owner? other
      = if entry.token = other then some entry.owner else r.owner? other := by
  rw [owner?, find?_add h, owner?]
  split <;> rfl

theorem owner?_remove (r : Registry) (token other : Token) :
    (r.remove token).owner? other = if token = other then none else r.owner? other := by
  rw [owner?, find?_remove, owner?]
  split <;> rfl

theorem owner?_modify {change : PendingRequest → PendingRequest}
    (htoken : ∀ entry, (change entry).token = entry.token)
    (howner : ∀ entry, (change entry).owner = entry.owner) (r : Registry) (token other : Token) :
    (r.modify token change).owner? other = r.owner? other := by
  rw [owner?, find?_modify htoken, owner?]
  split
  · rw [Option.map_map]
    exact congrArg (Option.map · (r.find? other)) (funext howner)
  · rfl

/-! ## What each operation can do -/

theorem submitWithToken_ok {request : RequestId} {sink : Sink} {origin : Origin} {r' : Registry}
    (h : r.submitWithToken token request sink origin = .ok r') :
    r.isClosed = false ∧ r.contains token = false ∧
      r' = r.add { token, request, sink, origin } := by
  unfold submitWithToken at h
  split at h
  · cases h
  · next hopen =>
    split at h
    · cases h
    · next hfree =>
      cases h
      exact ⟨by simpa using hopen, by simpa using hfree, rfl⟩

/-- An allocated token was among the candidates and may be allocated. -/
theorem isFree_of_freeTokenFrom? {count : Nat} {candidate : UInt32}
    (h : r.freeTokenFrom? count candidate = some token) : r.isFree token = true := by
  induction count generalizing candidate with
  | zero => cases h
  | succ count ih =>
    rw [freeTokenFrom?] at h
    split at h
    · next hfree =>
      cases h
      exact hfree
    · exact ih h

theorem submit_ok {request : RequestId} {sink : Sink} {origin : Origin} {r' : Registry}
    (h : r.submit request sink origin = .ok (r', token)) :
    r.isClosed = false ∧ r.contains token = false ∧
      r' = { r with nextToken := token.raw + 1 }.add { token, request, sink, origin } := by
  unfold submit at h
  split at h
  · cases h
  · next hopen =>
    split at h
    · cases h
    · next chosen hchosen =>
      cases h
      have hfree := isFree_of_freeTokenFrom? hchosen
      simp only [isFree, Bool.and_eq_true, Bool.not_eq_true'] at hfree
      exact ⟨by simpa using hopen, hfree.2, rfl⟩

/-- Completing takes away the request that has the token, if it is of that side, and remembers the
token if the response was acknowledged; otherwise it does nothing. -/
theorem complete_cases (r : Registry) (token : Token) (origin : Origin) :
    (∃ entry, r.find? token = some entry ∧ entry.origin = origin ∧
      r.complete token origin =
        ({ r.remove token with
            history := if entry.isAcked then remember r.historyLimit token r.history
              else r.history },
          if entry.isCancelled then .cancelled entry.request else .pending entry)) ∨
    (r.complete token origin = (r, .unmatched) ∧
      ∀ entry, r.find? token = some entry → entry.origin ≠ origin) := by
  unfold complete
  cases hfind : r.find? token with
  | none => exact .inr ⟨rfl, fun entry h => by cases h⟩
  | some entry =>
    by_cases horigin : entry.origin = origin
    · refine .inl ⟨entry, rfl, horigin, ?_⟩
      simp only [horigin, ne_eq, not_true_eq_false, if_false]
      cases entry.isAcked <;> rfl
    · refine .inr ⟨by simp only [horigin, ne_eq, not_false_eq_true, if_true], ?_⟩
      intro other h
      cases h
      exact horigin

theorem cancel_cases (r : Registry) (token : Token) :
    (∃ entry, r.find? token = some entry ∧ entry.isCancelled = false ∧
      r.cancel token
        = (r.modify token fun entry => { entry with isCancelled := true }, true)) ∨
    r.cancel token = (r, false) := by
  unfold cancel
  cases hfind : r.find? token with
  | none => exact .inr rfl
  | some entry =>
    cases hcancelled : entry.isCancelled with
    | true => exact .inr (by simp [hcancelled])
    | false => exact .inl ⟨entry, rfl, hcancelled, by simp [hcancelled]⟩

theorem markReceived_cases (r : Registry) (token : Token) :
    (∃ entry, r.find? token = some entry ∧ entry.origin = .peer ∧
      r.markReceived token
        = (r.modify token fun entry => { entry with isReceived := true }, true)) ∨
    r.markReceived token = (r, false) := by
  unfold markReceived
  cases hfind : r.find? token with
  | none => exact .inr rfl
  | some entry =>
    cases horigin : entry.origin with
    | vendor => exact .inr (by simp [horigin])
    | peer => exact .inl ⟨entry, rfl, horigin, by simp [horigin]⟩

/-- An acknowledgment is decided on for the first response to a pending request to the peer, and
for a token of which nothing is known; a request served in process counts as unknown. -/
theorem beginAck_cases (r : Registry) (token : Token) :
    (∃ entry, r.find? token = some entry ∧ entry.origin = .peer ∧ entry.isAcked = false ∧
      r.beginAck token
        = (r.modify token fun entry => { entry with isAcked := true }, .send)) ∨
    (∃ entry, r.find? token = some entry ∧ entry.origin = .peer ∧ entry.isAcked = true ∧
      r.beginAck token = (r, .duplicate)) ∨
    (∃ entry, r.find? token = some entry ∧ entry.origin = .vendor ∧
      r.beginAck token = (r, .unknown)) ∨
    (r.find? token = none ∧
      r.beginAck token = (r, if token ∈ r.history then .duplicate else .unknown)) := by
  unfold beginAck
  cases hfind : r.find? token with
  | none => exact .inr (.inr (.inr ⟨rfl, rfl⟩))
  | some entry =>
    cases horigin : entry.origin with
    | vendor => exact .inr (.inr (.inl ⟨entry, rfl, horigin, by simp [horigin]⟩))
    | peer =>
      cases hacked : entry.isAcked with
      | true => exact .inr (.inl ⟨entry, rfl, horigin, hacked, by simp [horigin, hacked]⟩)
      | false => exact .inl ⟨entry, rfl, horigin, hacked, by simp [horigin, hacked]⟩

/-! ## Marks change no owner -/

theorem owner?_cancel (r : Registry) (token other : Token) :
    (r.cancel token).1.owner? other = r.owner? other := by
  rcases cancel_cases r token with ⟨_, _, _, h⟩ | h <;> rw [h]
  refine owner?_modify ?_ ?_ r token other <;> exact fun _ => rfl

theorem owner?_markReceived (r : Registry) (token other : Token) :
    (r.markReceived token).1.owner? other = r.owner? other := by
  rcases markReceived_cases r token with ⟨_, _, _, h⟩ | h <;> rw [h]
  refine owner?_modify ?_ ?_ r token other <;> exact fun _ => rfl

theorem owner?_beginAck (r : Registry) (token other : Token) :
    (r.beginAck token).1.owner? other = r.owner? other := by
  rcases beginAck_cases r token with ⟨_, _, _, _, h⟩ | ⟨_, _, _, _, h⟩ | ⟨_, _, _, h⟩ | ⟨_, h⟩
    <;> rw [h]
  refine owner?_modify ?_ ?_ r token other <;> exact fun _ => rfl

theorem slot_beginAck (r : Registry) (token : Token) : (r.beginAck token).1.slot = r.slot := by
  rcases beginAck_cases r token with ⟨_, _, _, _, h⟩ | ⟨_, _, _, _, h⟩ | ⟨_, _, _, h⟩ | ⟨_, h⟩
  · rw [h]
    rfl
  all_goals rw [h]

theorem slot_complete (r : Registry) (token : Token) (origin : Origin) :
    (r.complete token origin).1.slot = r.slot := by
  rcases complete_cases r token origin with ⟨_, _, _, h⟩ | ⟨h, _⟩
  · rw [h]
    rfl
  · rw [h]

theorem slot_cancel (r : Registry) (token : Token) : (r.cancel token).1.slot = r.slot := by
  rcases cancel_cases r token with ⟨_, _, _, h⟩ | h
  · rw [h]
    rfl
  · rw [h]

theorem slot_markReceived (r : Registry) (token : Token) :
    (r.markReceived token).1.slot = r.slot := by
  rcases markReceived_cases r token with ⟨_, _, _, h⟩ | h
  · rw [h]
    rfl
  · rw [h]

/-! ## Closed registries -/

theorem submit_of_isClosed (h : r.isClosed = true) (request : RequestId) (sink : Sink)
    (origin : Origin) : r.submit request sink origin = .error .transportClosed := by
  rw [submit, if_pos h]

theorem submitWithToken_of_isClosed (h : r.isClosed = true) (token : Token) (request : RequestId)
    (sink : Sink) (origin : Origin) :
    r.submitWithToken token request sink origin = .error .transportClosed := by
  rw [submitWithToken, if_pos h]

theorem isClosed_complete (r : Registry) (token : Token) (origin : Origin) :
    (r.complete token origin).1.isClosed = r.isClosed := by
  rcases complete_cases r token origin with ⟨_, _, _, h⟩ | ⟨h, _⟩
  · rw [h]
    rfl
  · rw [h]

theorem isClosed_cancel (r : Registry) (token : Token) :
    (r.cancel token).1.isClosed = r.isClosed := by
  rcases cancel_cases r token with ⟨_, _, _, h⟩ | h
  · rw [h]
    rfl
  · rw [h]

theorem isClosed_markReceived (r : Registry) (token : Token) :
    (r.markReceived token).1.isClosed = r.isClosed := by
  rcases markReceived_cases r token with ⟨_, _, _, h⟩ | h
  · rw [h]
    rfl
  · rw [h]

theorem isClosed_beginAck (r : Registry) (token : Token) :
    (r.beginAck token).1.isClosed = r.isClosed := by
  rcases beginAck_cases r token with ⟨_, _, _, _, h⟩ | ⟨_, _, _, _, h⟩ | ⟨_, _, _, h⟩ | ⟨_, h⟩
  · rw [h]
    rfl
  all_goals rw [h]

end Registry

end RadioLink
