import Mathlib.Data.List.DropRight
import RadioLink.Proofs.Ledger

set_option autoImplicit false

/-! # Which responses are acknowledged

Beside a ledger an `AckBook` keeps everything that was answered to the question whether a response
is acknowledged, by registration, and the tokens of all requests to the peer that were resolved
after a response of theirs was to be acknowledged. Neither list is ever cut. The registry itself
has a mark on each pending request and a history of limited length; `AckBook.Agrees` says that
these are what the books say, the history being their last tokens.

A mark belongs to a registration and not to its token, so a token that is used again starts without
one, whatever the history says of it. -/

namespace RadioLink

/-! ## The last tokens of a list -/

namespace Registry

/-- Remembering a token keeps the last tokens of a list that gets it at its end. -/
theorem remember_rtake (limit : Nat) (token : Token) (tokens : List Token) :
    remember limit token (tokens.rtake limit) = (tokens ++ [token]).rtake limit := by
  cases limit with
  | zero => rw [remember, if_pos rfl, List.rtake_zero, List.rtake_zero]
  | succ limit =>
    rw [remember, if_neg (Nat.succ_ne_zero limit), List.rtake_concat_succ]
    congr 1
    simp only [List.rtake, List.length_drop]
    split
    · rw [show tokens.length - (limit + 1) = 0 by omega, show tokens.length - limit = 0 by omega]
    · rw [List.drop_drop, show tokens.length - (limit + 1) + 1 = tokens.length - limit by omega]

/-- As tokens are distinct, there is only one request that has a token. -/
theorem eq_of_find? {r : Registry} {token : Token} {entry other : PendingRequest}
    (hdistinct : (r.entries.map (·.token)).Nodup) (hfind : r.find? token = some entry)
    (hother : other ∈ r.entries) (htoken : other.token = token) : other = entry := by
  have hfound := find?_of_mem hdistinct hother
  rw [htoken, hfind, Option.some.injEq] at hfound
  exact hfound.symm

end Registry

/-! ## Books -/

/-- A ledger, and what was answered about acknowledgments. -/
structure AckBook where
  ledger : Ledger
  /-- The answers about pending requests, by sink. -/
  answers : List (Sink × AckDecision) := []
  /-- The tokens of the requests to the peer that were resolved after the answer was to
  acknowledge a response of theirs, oldest first. -/
  passed : List Token := []

namespace AckBook

/-- What is answered about a pending request in an operation. -/
def asked (b : AckBook) : Operation → List (Sink × AckDecision)
  | .beginAck token =>
    (b.ledger.sinkOf token).map (·, (b.ledger.registry.beginAck token).2)
  | _ => []

/-- The token of the request that is resolved in an operation, if it is one to the peer and a
response of it was to be acknowledged. -/
def passes (b : AckBook) : Operation → List Token
  | .complete token origin =>
    if (b.ledger.registry.complete token origin).2 = .unmatched then []
    else ((b.ledger.registry.find? token).toList.filter fun entry =>
      entry.origin = .peer ∧ (entry.sink, .send) ∈ b.answers).map (·.token)
  | _ => []

/-- Does one operation, and enters what was answered. -/
def step (b : AckBook) (operation : Operation) : AckBook where
  ledger := b.ledger.step operation
  answers := b.answers ++ b.asked operation
  passed := b.passed ++ b.passes operation

/-- Does operations one after the other. -/
def run (b : AckBook) (operations : List Operation) : AckBook :=
  operations.foldl step b

/-- The books about a new registry. -/
def new (slot : SlotId) (historyLimit : Nat) : AckBook where
  ledger := .new slot historyLimit

/-- What was answered about a registration, oldest first. -/
def answersTo (b : AckBook) (sink : Sink) : List AckDecision :=
  (b.answers.filter fun answer => answer.1 == sink).map (·.2)

/-! ## What the books say about the registry -/

/-- What can have been answered about a pending request, given its mark. -/
def Explains (answers : List AckDecision) (entry : PendingRequest) : Prop :=
  match entry.origin, entry.isAcked with
  | .peer, false => answers = []
  | .peer, true => ∃ count, answers = .send :: List.replicate count .duplicate
  | .vendor, false => ∃ count, answers = List.replicate count .unknown
  | .vendor, true => False

/-- What can have been answered about a registration. -/
def IsConsistent (answers : List AckDecision) : Prop :=
  ∃ count, answers = .send :: List.replicate count .duplicate ∨
    answers = List.replicate count .unknown

section Explains

variable {answers : List AckDecision} {entry : PendingRequest}

theorem Explains.isConsistent (h : Explains answers entry) : IsConsistent answers := by
  unfold Explains at h
  split at h
  · exact ⟨0, .inr h⟩
  · obtain ⟨count, hanswers⟩ := h
    exact ⟨count, .inl hanswers⟩
  · obtain ⟨count, hanswers⟩ := h
    exact ⟨count, .inr hanswers⟩
  · exact h.elim

theorem Explains.send (h : Explains answers entry) (hpeer : entry.origin = .peer)
    (hacked : entry.isAcked = false) :
    Explains (answers ++ [.send]) { entry with isAcked := true } := by
  rw [Explains, hpeer, hacked] at h
  rw [Explains, hpeer, h]
  exact ⟨0, rfl⟩

theorem Explains.duplicate (h : Explains answers entry) (hpeer : entry.origin = .peer)
    (hacked : entry.isAcked = true) : Explains (answers ++ [.duplicate]) entry := by
  rw [Explains, hpeer, hacked] at h ⊢
  obtain ⟨count, hanswers⟩ := h
  exact ⟨count + 1, by rw [hanswers, List.replicate_succ', List.cons_append]⟩

theorem Explains.unknown (h : Explains answers entry) (hvendor : entry.origin = .vendor) :
    Explains (answers ++ [.unknown]) entry := by
  rw [Explains, hvendor] at h ⊢
  cases hacked : entry.isAcked with
  | true =>
    rw [hacked] at h
    exact h.elim
  | false =>
    rw [hacked] at h
    obtain ⟨count, hanswers⟩ := h
    exact ⟨count + 1, by rw [hanswers, List.replicate_succ']⟩

end Explains

/-- The marks and the history are what the books say. -/
structure Agrees (b : AckBook) (limit : Nat) : Prop where
  balanced : b.ledger.Balanced
  sameLimit : b.ledger.registry.historyLimit = limit
  history : b.ledger.registry.history = b.passed.rtake limit
  known : ∀ answer ∈ b.answers, answer.1 < b.ledger.tokens.length
  explained : ∀ entry ∈ b.ledger.registry.entries, Explains (b.answersTo entry.sink) entry
  consistent : ∀ sink, IsConsistent (b.answersTo sink)

theorem agrees_new (slot : SlotId) (limit : Nat) : (new slot limit).Agrees limit where
  balanced := Ledger.balanced_new slot limit
  sameLimit := rfl
  history := (List.rtake_nil limit).symm
  known := by simp [new]
  explained := by simp [new, Ledger.new]
  consistent := fun sink => ⟨0, .inr rfl⟩

variable {b : AckBook} {limit : Nat}

theorem mem_answersTo {sink : Sink} {answer : AckDecision} :
    answer ∈ b.answersTo sink ↔ (sink, answer) ∈ b.answers := by
  simp only [answersTo, List.mem_map, List.mem_filter, beq_iff_eq, Prod.exists]
  constructor
  · rintro ⟨_, _, ⟨hmem, rfl⟩, rfl⟩
    exact hmem
  · intro hmem
    exact ⟨sink, answer, ⟨hmem, rfl⟩, rfl⟩

/-- Nothing was answered yet about what is still to be registered. -/
theorem Agrees.answersTo_eq_nil (h : b.Agrees limit) {sink : Sink}
    (hsink : b.ledger.tokens.length ≤ sink) : b.answersTo sink = [] := by
  rw [List.eq_nil_iff_forall_not_mem]
  intro answer hmem
  have hlt : sink < b.ledger.tokens.length := h.known _ (mem_answersTo.1 hmem)
  exact absurd hsink (Nat.not_le.2 hlt)

/-- A request to the peer is marked if the answer was to acknowledge a response of it. -/
theorem Agrees.isAcked_iff (h : b.Agrees limit) {entry : PendingRequest}
    (hmem : entry ∈ b.ledger.registry.entries) :
    entry.isAcked = true ↔ entry.origin = .peer ∧ (entry.sink, .send) ∈ b.answers := by
  have hexplained := h.explained entry hmem
  rw [← mem_answersTo]
  unfold Explains at hexplained
  split at hexplained
  · next hpeer hacked => simp [hacked, hexplained]
  · next hpeer hacked =>
    obtain ⟨count, hanswers⟩ := hexplained
    simp [hacked, hpeer, hanswers]
  · next hvendor hacked => simp [hacked, hvendor]
  · exact hexplained.elim

/-! ## What an operation does to the books -/

/-- Every entry is one that was there with the same mark, or it is registered now and has none. -/
def KeepsMarks (before after : List PendingRequest) (fresh : Sink) : Prop :=
  ∀ entry ∈ after,
    (∃ earlier ∈ before, earlier.sink = entry.sink ∧ earlier.origin = entry.origin ∧
      earlier.isAcked = entry.isAcked) ∨ (entry.sink = fresh ∧ entry.isAcked = false)

theorem keepsMarks_of_subset {before after : List PendingRequest} (h : after ⊆ before)
    (fresh : Sink) : KeepsMarks before after fresh :=
  fun entry hmem => .inl ⟨entry, h hmem, rfl, rfl, rfl⟩

theorem keepsMarks_append {entry : PendingRequest} (entries : List PendingRequest)
    (h : entry.isAcked = false) : KeepsMarks entries (entries ++ [entry]) entry.sink := by
  intro other hmem
  rcases List.mem_append.1 hmem with hmem | hmem
  · exact .inl ⟨other, hmem, rfl, rfl, rfl⟩
  · rw [List.mem_singleton.1 hmem]
    exact .inr ⟨rfl, h⟩

theorem keepsMarks_modify (r : Registry) (token : Token) (fresh : Sink)
    {change : PendingRequest → PendingRequest} (hsink : ∀ entry, (change entry).sink = entry.sink)
    (horigin : ∀ entry, (change entry).origin = entry.origin)
    (hacked : ∀ entry, (change entry).isAcked = entry.isAcked) :
    KeepsMarks r.entries (r.modify token change).entries fresh := by
  intro entry hmem
  obtain ⟨earlier, hearlier, rfl⟩ := List.mem_map.1 hmem
  refine .inl ⟨earlier, hearlier, ?_⟩
  split
  · exact ⟨(hsink earlier).symm, (horigin earlier).symm, (hacked earlier).symm⟩
  · exact ⟨rfl, rfl, rfl⟩

theorem registry_complete (l : Ledger) (token : Token) (origin : Origin) :
    (l.step (.complete token origin)).registry = (l.registry.complete token origin).1 := by
  rw [Ledger.step]
  split <;> next heq => rw [heq]

/-- The decision to acknowledge apart, no operation sets or takes back a mark. -/
theorem keepsMarks_step (l : Ledger) {operation : Operation}
    (h : ∀ token, operation ≠ .beginAck token) :
    KeepsMarks l.registry.entries (l.step operation).registry.entries l.tokens.length := by
  have hsame : KeepsMarks l.registry.entries l.registry.entries l.tokens.length :=
    keepsMarks_of_subset (List.Subset.refl _) _
  have hremoved : ∀ token, KeepsMarks l.registry.entries (l.registry.remove token).entries
      l.tokens.length := fun token => keepsMarks_of_subset List.filter_sublist.subset _
  cases operation with
  | submit request origin =>
    rw [Ledger.step]
    split
    · next registry token hok =>
      obtain ⟨-, -, rfl⟩ := Registry.submit_ok hok
      exact keepsMarks_append _ rfl
    · exact hsame
  | submitWithToken token request origin =>
    rw [Ledger.step]
    split
    · next registry hok =>
      obtain ⟨-, -, rfl⟩ := Registry.submitWithToken_ok hok
      exact keepsMarks_append _ rfl
    · exact hsame
  | rollback token => exact hremoved token
  | complete token origin =>
    rw [registry_complete]
    rcases Registry.complete_cases l.registry token origin with
      ⟨_, -, -, hcomplete⟩ | ⟨hcomplete, -⟩
    · rw [hcomplete]
      exact hremoved token
    · rw [hcomplete]
      exact hsame
  | deliver index response =>
    rw [Ledger.step]
    split <;> exact hsame
  | cancel token =>
    rw [Ledger.step]
    rcases Registry.cancel_cases l.registry token with ⟨_, -, -, hcancel⟩ | hcancel
    · rw [hcancel]
      exact keepsMarks_modify _ _ _ (fun _ => rfl) (fun _ => rfl) fun _ => rfl
    · rw [hcancel]
      exact hsame
  | markReceived token =>
    rw [Ledger.step]
    rcases Registry.markReceived_cases l.registry token with ⟨_, -, -, hmarked⟩ | hmarked
    · rw [hmarked]
      exact keepsMarks_modify _ _ _ (fun _ => rfl) (fun _ => rfl) fun _ => rfl
    · rw [hmarked]
      exact hsame
  | beginAck token => exact absurd rfl (h token)
  | drain reason => exact keepsMarks_of_subset (List.nil_subset _) _

/-- Resolutions apart, no operation touches the history. -/
theorem history_step (l : Ledger) (operation : Operation) :
    (l.step operation).registry.historyLimit = l.registry.historyLimit ∧
    l.tokens.length ≤ (l.step operation).tokens.length ∧
    ((∀ token origin, operation ≠ .complete token origin) →
      (l.step operation).registry.history = l.registry.history) := by
  cases operation with
  | submit request origin =>
    rw [Ledger.step]
    split
    · next registry token hok =>
      obtain ⟨-, -, rfl⟩ := Registry.submit_ok hok
      exact ⟨rfl, by simp, fun _ => rfl⟩
    · exact ⟨rfl, le_refl _, fun _ => rfl⟩
  | submitWithToken token request origin =>
    rw [Ledger.step]
    split
    · next registry hok =>
      obtain ⟨-, -, rfl⟩ := Registry.submitWithToken_ok hok
      exact ⟨rfl, by simp, fun _ => rfl⟩
    · exact ⟨rfl, le_refl _, fun _ => rfl⟩
  | complete token origin =>
    refine ⟨?_, ?_, fun h => absurd rfl (h token origin)⟩
    · rw [registry_complete]
      rcases Registry.complete_cases l.registry token origin with
        ⟨_, -, -, hcomplete⟩ | ⟨hcomplete, -⟩ <;> rw [hcomplete]
      rfl
    · rw [Ledger.step]
      split <;> exact le_refl _
  | deliver index response =>
    rw [Ledger.step]
    split <;> exact ⟨rfl, le_refl _, fun _ => rfl⟩
  | cancel token =>
    rw [Ledger.step]
    rcases Registry.cancel_cases l.registry token with ⟨_, -, -, hcancel⟩ | hcancel <;>
      rw [hcancel] <;> exact ⟨rfl, le_refl _, fun _ => rfl⟩
  | markReceived token =>
    rw [Ledger.step]
    rcases Registry.markReceived_cases l.registry token with ⟨_, -, -, hmarked⟩ | hmarked <;>
      rw [hmarked] <;> exact ⟨rfl, le_refl _, fun _ => rfl⟩
  | beginAck token =>
    rw [Ledger.step]
    rcases Registry.beginAck_cases l.registry token with
      ⟨_, -, -, -, hack⟩ | ⟨_, -, -, -, hack⟩ | ⟨_, -, -, hack⟩ | ⟨-, hack⟩ <;>
      rw [hack] <;> exact ⟨rfl, le_refl _, fun _ => rfl⟩
  | rollback token => exact ⟨rfl, le_refl _, fun _ => rfl⟩
  | drain reason => exact ⟨rfl, le_refl _, fun _ => rfl⟩

/-- Books to which no answer is added agree with what marks and history are then. -/
theorem Agrees.keep (h : b.Agrees limit) {operation : Operation} {passed : List Token}
    (hmarks : ∀ token, operation ≠ .beginAck token)
    (hhistory : (b.ledger.step operation).registry.history = passed.rtake limit) :
    Agrees { ledger := b.ledger.step operation, answers := b.answers, passed } limit where
  balanced := Ledger.balanced_step h.balanced operation
  sameLimit := (history_step b.ledger operation).1.trans h.sameLimit
  history := hhistory
  known := fun answer hmem =>
    Nat.lt_of_lt_of_le (h.known answer hmem) (history_step b.ledger operation).2.1
  explained := by
    intro entry hmem
    rcases keepsMarks_step b.ledger hmarks entry hmem with
      ⟨earlier, hearlier, hsink, horigin, hacked⟩ | ⟨hsink, hacked⟩
    · have hexplained := h.explained earlier hearlier
      rw [Explains, hsink, horigin, hacked] at hexplained
      exact hexplained
    · have hnone : b.answersTo entry.sink = [] := h.answersTo_eq_nil (Nat.le_of_eq hsink.symm)
      show Explains (b.answersTo entry.sink) entry
      rw [Explains, hnone, hacked]
      cases entry.origin with
      | peer => rfl
      | vendor => exact ⟨0, rfl⟩
  consistent := h.consistent

/-- A resolution adds to the history what it adds to the books. -/
theorem Agrees.complete (h : b.Agrees limit) (token : Token) (origin : Origin) :
    (b.ledger.step (.complete token origin)).registry.history
      = (b.passed ++ b.passes (.complete token origin)).rtake limit := by
  rw [registry_complete, passes]
  rcases Registry.complete_cases b.ledger.registry token origin with
    ⟨entry, hfind, -, hcomplete⟩ | ⟨hcomplete, -⟩
  · have hacked := h.isAcked_iff (Registry.mem_of_find? hfind)
    have htaken : (b.ledger.registry.complete token origin).2 ≠ .unmatched := by
      rw [hcomplete]
      dsimp only
      split <;> exact Completion.noConfusion
    rw [if_neg htaken, hfind, Option.toList_some, List.filter_cons, List.filter_nil, hcomplete]
    simp only [decide_eq_true_eq, ← hacked]
    split
    · rw [List.map_singleton, Registry.token_of_find? hfind, h.history, h.sameLimit,
        Registry.remember_rtake]
    · rw [List.map_nil, List.append_nil, h.history]
  · rw [hcomplete, if_pos rfl, List.append_nil, h.history]

/-! ## What an answer does to the books -/

theorem answersTo_append {sink : Sink} {answer : AckDecision} (ledger : Ledger)
    (passed : List Token) (other : Sink) :
    answersTo { ledger, answers := b.answers ++ [(sink, answer)], passed } other
      = if sink = other then b.answersTo other ++ [answer] else b.answersTo other := by
  simp only [answersTo, List.filter_append, List.map_append, List.filter_cons, List.filter_nil,
    beq_iff_eq]
  split
  · rfl
  · rw [List.map_nil, List.append_nil]

/-- Books to which the answer about one pending request is added. That request may be marked. -/
theorem Agrees.answer (h : b.Agrees limit) {ledger : Ledger} {entry : PendingRequest}
    (marked : PendingRequest) {answer : AckDecision} (hbalanced : ledger.Balanced)
    (hlimit : ledger.registry.historyLimit = b.ledger.registry.historyLimit)
    (hhistory : ledger.registry.history = b.ledger.registry.history)
    (htokens : ledger.tokens = b.ledger.tokens) (hmem : entry ∈ b.ledger.registry.entries)
    (hsink : marked.sink = entry.sink)
    (hentries : ∀ other ∈ ledger.registry.entries, other = marked ∨
      (other ∈ b.ledger.registry.entries ∧ other.token ≠ entry.token))
    (hexplained : Explains (b.answersTo entry.sink ++ [answer]) marked) :
    Agrees { ledger, answers := b.answers ++ [(entry.sink, answer)], passed := b.passed }
      limit where
  balanced := hbalanced
  sameLimit := hlimit.trans h.sameLimit
  history := hhistory.trans h.history
  known := by
    intro other hother
    show other.1 < ledger.tokens.length
    rw [htokens]
    rcases List.mem_append.1 hother with hother | hother
    · exact h.known other hother
    · rw [List.mem_singleton.1 hother]
      exact h.balanced.sink_lt hmem
  explained := by
    intro other hother
    rw [answersTo_append]
    rcases hentries other hother with rfl | ⟨hbefore, htoken⟩
    · rw [if_pos hsink.symm, hsink]
      exact hexplained
    · -- Requests with different tokens have different sinks.
      have hne : entry.sink ≠ other.sink := by
        intro he
        have hnamed := h.balanced.named other hbefore
        rw [← he, h.balanced.named entry hmem, Option.some.injEq] at hnamed
        exact htoken hnamed.symm
      rw [if_neg hne]
      exact h.explained other hbefore
  consistent := by
    intro sink
    rw [answersTo_append]
    split
    · next he =>
      rw [← he]
      exact hexplained.isConsistent
    · exact h.consistent sink

theorem step_beginAck {token : Token} {entry : PendingRequest} {registry : Registry}
    {answer : AckDecision} (hfind : b.ledger.registry.find? token = some entry)
    (hack : b.ledger.registry.beginAck token = (registry, answer)) :
    b.step (.beginAck token) =
      { ledger := { b.ledger with registry }
        answers := b.answers ++ [(entry.sink, answer)]
        passed := b.passed } := by
  simp only [step, asked, passes, Ledger.step, Ledger.sinkOf, hfind, hack, Option.toList_some,
    List.map_cons, List.map_nil, List.append_nil]

theorem Agrees.beginAck (h : b.Agrees limit) (token : Token) :
    (b.step (.beginAck token)).Agrees limit := by
  have hbalanced := Ledger.balanced_step h.balanced (.beginAck token)
  rw [Ledger.step] at hbalanced
  -- Of what is pending only the request with this token can be marked or answered about.
  have hothers : ∀ entry, b.ledger.registry.find? token = some entry →
      ∀ other ∈ b.ledger.registry.entries, other = entry ∨
        (other ∈ b.ledger.registry.entries ∧ other.token ≠ entry.token) := by
    intro entry hfind other hother
    by_cases htoken : other.token = token
    · exact .inl (Registry.eq_of_find? h.balanced.distinct hfind hother htoken)
    · exact .inr ⟨hother, Registry.token_of_find? hfind ▸ htoken⟩
  rcases Registry.beginAck_cases b.ledger.registry token with
    ⟨entry, hfind, hpeer, hacked, hack⟩ | ⟨entry, hfind, hpeer, hacked, hack⟩ |
    ⟨entry, hfind, hvendor, hack⟩ | ⟨hfind, hack⟩
  · have hmem := Registry.mem_of_find? hfind
    have hexplained := (h.explained entry hmem).send hpeer hacked
    rw [hack] at hbalanced
    rw [step_beginAck hfind hack]
    refine h.answer { entry with isAcked := true } hbalanced rfl rfl rfl hmem rfl ?_ hexplained
    intro other hother
    obtain ⟨before, hbefore, rfl⟩ := List.mem_map.1 hother
    rcases hothers entry hfind before hbefore with rfl | ⟨-, hne⟩
    · exact .inl (if_pos (beq_iff_eq.2 (Registry.token_of_find? hfind)))
    · rw [Registry.token_of_find? hfind] at hne ⊢
      rw [if_neg (by simpa using hne)]
      exact .inr ⟨hbefore, hne⟩
  · have hmem := Registry.mem_of_find? hfind
    have hexplained := (h.explained entry hmem).duplicate hpeer hacked
    rw [hack] at hbalanced
    rw [step_beginAck hfind hack]
    exact h.answer entry hbalanced rfl rfl rfl hmem rfl (hothers entry hfind) hexplained
  · have hmem := Registry.mem_of_find? hfind
    have hexplained := (h.explained entry hmem).unknown hvendor
    rw [hack] at hbalanced
    rw [step_beginAck hfind hack]
    exact h.answer entry hbalanced rfl rfl rfl hmem rfl (hothers entry hfind) hexplained
  · have hsame : b.step (.beginAck token) = b := by
      simp only [step, asked, passes, Ledger.step, Ledger.sinkOf, hfind, hack, Option.toList_none,
        List.map_nil, List.append_nil]
    rw [hsame]
    exact h

/-! ## Runs -/

theorem agrees_step (h : b.Agrees limit) (operation : Operation) :
    (b.step operation).Agrees limit := by
  have hhistory := (history_step b.ledger operation).2.2
  cases operation with
  | beginAck token => exact h.beginAck token
  | complete token origin =>
    simp only [step, asked, List.append_nil]
    exact h.keep (fun _ => Operation.noConfusion) (h.complete token origin)
  | submit | submitWithToken | rollback | deliver | cancel | markReceived | drain =>
    simp only [step, asked, passes, List.append_nil]
    refine h.keep (fun _ => Operation.noConfusion) ?_
    rw [hhistory fun _ _ => Operation.noConfusion, h.history]

theorem agrees_run (h : b.Agrees limit) (operations : List Operation) :
    (b.run operations).Agrees limit := by
  induction operations generalizing b with
  | nil => exact h
  | cons operation operations ih => exact ih (agrees_step h operation)

/-- **A response is acknowledged once for each registration, and the history is a window.** When no
request is pending under a token, a response is a duplicate if and only if the token is among the
last `limit` of those that `passed` has, and otherwise unknown. For a pending request to the peer
the first answer is to acknowledge, and every later one that it is a duplicate, whatever was
answered about earlier registrations of the token. A token that is served in process is unknown. No
answer but the one to acknowledge changes anything. -/
theorem acknowledged_by_registration (slot : SlotId) (limit : Nat) (operations : List Operation) :
    let b := (new slot limit).run operations
    let r := b.ledger.registry
    (∀ token, (r.beginAck token).2 =
      match r.find? token with
      | none => if token ∈ b.passed.rtake limit then .duplicate else .unknown
      | some entry =>
        match entry.origin with
        | .peer => if b.answersTo entry.sink = [] then .send else .duplicate
        | .vendor => .unknown) ∧
    (∀ sink, ∃ count, b.answersTo sink = .send :: List.replicate count .duplicate ∨
      b.answersTo sink = List.replicate count .unknown) ∧
    ∀ token, (r.beginAck token).2 ≠ .send → (r.beginAck token).1 = r := by
  intro b r
  have h : b.Agrees limit := agrees_run (agrees_new slot limit) operations
  refine ⟨fun token => ?_, h.consistent, fun token hanswer => ?_⟩
  · rcases Registry.beginAck_cases r token with
      ⟨entry, hfind, hpeer, hacked, hack⟩ | ⟨entry, hfind, hpeer, hacked, hack⟩ |
      ⟨entry, hfind, hvendor, hack⟩ | ⟨hfind, hack⟩
    · have hexplained := h.explained entry (Registry.mem_of_find? hfind)
      rw [Explains, hpeer, hacked] at hexplained
      simp only [hack, hfind, hpeer, hexplained, if_true]
    · have hexplained := h.explained entry (Registry.mem_of_find? hfind)
      rw [Explains, hpeer, hacked] at hexplained
      obtain ⟨count, hanswers⟩ := hexplained
      simp only [hack, hfind, hpeer, hanswers, reduceCtorEq, if_false]
    · simp only [hack, hfind, hvendor]
    · simp only [hack, hfind]
      rw [h.history]
  · rcases Registry.beginAck_cases r token with
      ⟨_, -, -, -, hack⟩ | ⟨_, -, -, -, hack⟩ | ⟨_, -, -, hack⟩ | ⟨-, hack⟩
    · rw [hack] at hanswer
      exact absurd rfl hanswer
    all_goals rw [hack]

/-- A token that is used again is acknowledged again, though the history still has it; then another
token takes its place in the history, and after a last resolution nothing is known of it. -/
theorem acknowledged_again_after_registration :
    let used : List Operation := [.submitWithToken ⟨7⟩ ⟨20⟩ .peer, .beginAck ⟨7⟩,
      .complete ⟨7⟩ .peer, .submitWithToken ⟨7⟩ ⟨20⟩ .peer]
    let left : List Operation := [.submitWithToken ⟨8⟩ ⟨20⟩ .peer, .beginAck ⟨8⟩,
      .complete ⟨8⟩ .peer, .complete ⟨7⟩ .peer]
    let again := (new ⟨0⟩ 1).run used
    let last := (new ⟨0⟩ 1).run (used ++ left)
    ⟨7⟩ ∈ again.ledger.registry.history ∧ (again.ledger.registry.beginAck ⟨7⟩).2 = .send ∧
    last.passed = [⟨7⟩, ⟨8⟩] ∧ (last.ledger.registry.beginAck ⟨8⟩).2 = .duplicate ∧
    (last.ledger.registry.beginAck ⟨7⟩).2 = .unknown ∧
    (last.ledger.registry.beginAck ⟨7⟩).1 = last.ledger.registry := by
  intro used left again last
  obtain ⟨hagain, -, -⟩ := acknowledged_by_registration ⟨0⟩ 1 used
  obtain ⟨hlast, -, hsame⟩ := acknowledged_by_registration ⟨0⟩ 1 (used ++ left)
  have hunknown : (last.ledger.registry.beginAck ⟨7⟩).2 = .unknown := hlast ⟨7⟩
  refine ⟨by decide, hagain ⟨7⟩, by decide, hlast ⟨8⟩, hunknown, hsame ⟨7⟩ ?_⟩
  exact fun hsend => AckDecision.noConfusion (hunknown.symm.trans hsend)

end AckBook

end RadioLink
