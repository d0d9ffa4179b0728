import Mathlib.Data.List.Perm.Basic
import RadioLink.Proofs.Registry

set_option autoImplicit false

/-! # Every registration is resolved once

A ledger is kept beside a registry while operations are done with it in any order. A token may stand
for many registrations one after the other, so the ledger tells registrations apart by their sinks,
which it numbers: the sink of a registration is its place in the list of all of them. It records how
a registration leaves the registry, the responses that go to sinks, and the sinks whose caller has
withdrawn.

`Balanced` is the invariant. Its core is a balance for each sink: the entries that are pending for it
and the exits that are recorded for it are one in number from its registration on. The responses that
were sent or may still be sent are bounded by those exits that come with one, and a sink that was
withdrawn has neither, as its entry is marked for as long as it is pending. -/

namespace RadioLink

/-! ## Ledgers -/

/-- How a registration leaves the registry. -/
inductive Exit
  /-- Its completion is handed out, to be delivered. -/
  | handedOut
  /-- Its completion is discarded, as it was cancelled. -/
  | discarded
  | rolledBack
  | drained
deriving DecidableEq, Repr

/-- Whether a response may come with it. -/
def Exit.responds : Exit → Bool
  | handedOut | drained => true
  | discarded | rolledBack => false

/-- What is done with a registry. -/
inductive Operation
  | submit (request : RequestId) (origin : Origin)
  | submitWithToken (token : Token) (request : RequestId) (origin : Origin)
  | rollback (token : Token)
  | complete (token : Token) (origin : Origin)
  /-- A response is delivered to one of the requests that were handed out, which is used up by
  that. -/
  | deliver (index : Nat) (response : Response)
  | cancel (token : Token)
  | markReceived (token : Token)
  | beginAck (token : Token)
  | drain (reason : DrainReason)

/-- A registry and the books about it. -/
structure Ledger where
  registry : Registry
  /-- The tokens of all registrations, by sink. -/
  tokens : List Token := []
  /-- Which registrations have left the registry, and how. -/
  exits : List (Sink × Exit) := []
  /-- The requests that were handed out and have had no response delivered yet. -/
  kept : List PendingRequest := []
  /-- The responses that were sent. -/
  sent : List Delivery := []
  /-- The sinks of the requests for which a cancellation succeeded. -/
  withdrawn : List Sink := []

namespace Ledger

/-- The sink of the request that has a token, if there is one. -/
def sinkOf (l : Ledger) (token : Token) : List Sink :=
  (l.registry.find? token).toList.map (·.sink)

/-- Does one operation, and enters what it returned. -/
def step (l : Ledger) : Operation → Ledger
  | .submit request origin =>
    match l.registry.submit request l.tokens.length origin with
    | .ok (registry, token) => { l with registry, tokens := l.tokens ++ [token] }
    | .error _ => l
  | .submitWithToken token request origin =>
    match l.registry.submitWithToken token request l.tokens.length origin with
    | .ok registry => { l with registry, tokens := l.tokens ++ [token] }
    | .error _ => l
  | .rollback token =>
    { l with
      registry := l.registry.rollback token
      exits := l.exits ++ (l.sinkOf token).map (·, .rolledBack) }
  | .complete token origin =>
    match l.registry.complete token origin with
    | (registry, .pending entry) =>
      { l with registry, exits := l.exits ++ [(entry.sink, .handedOut)], kept := l.kept ++ [entry] }
    | (registry, .cancelled _) =>
      { l with registry, exits := l.exits ++ (l.sinkOf token).map (·, .discarded) }
    | (registry, .unmatched) => { l with registry }
  | .deliver index response =>
    match l.kept[index]? with
    | some entry =>
      { l with kept := l.kept.eraseIdx index, sent := l.sent ++ [⟨entry.sink, response⟩] }
    | none => l
  | .cancel token =>
    match l.registry.cancel token with
    | (registry, true) => { l with registry, withdrawn := l.withdrawn ++ l.sinkOf token }
    | (registry, false) => { l with registry }
  | .markReceived token => { l with registry := (l.registry.markReceived token).1 }
  | .beginAck token => { l with registry := (l.registry.beginAck token).1 }
  | .drain reason =>
    { l with
      registry := (l.registry.drain reason).1
      exits := l.exits ++ l.registry.entries.map fun entry => (entry.sink, .drained)
      sent := l.sent ++ (l.registry.drain reason).2 }

/-- Does operations one after the other. -/
def run (l : Ledger) (operations : List Operation) : Ledger :=
  operations.foldl step l

/-- The books about a new registry. -/
def new (slot : SlotId) (historyLimit : Nat) : Ledger :=
  { registry := { slot, historyLimit } }

/-- What has become of a registration. -/
inductive Fate
  | pending (token : Token)
  | left (exit : Exit)
deriving DecidableEq, Repr

/-- Everything that has become of a registration, by its sink. -/
def fates (l : Ledger) (sink : Sink) : List Fate :=
  ((l.registry.entries.filter fun entry => entry.sink == sink).map fun entry =>
      Fate.pending entry.token)
    ++ (l.exits.filter fun exit => exit.1 == sink).map fun exit => .left exit.2

/-! ## The balance -/

/-- How many entries are pending for a sink. -/
def pendingFor (l : Ledger) (sink : Sink) : Nat :=
  l.registry.entries.countP fun entry => entry.sink == sink

/-- How many exits are recorded for a sink. -/
def exitsOf (l : Ledger) (sink : Sink) : Nat :=
  l.exits.countP fun exit => exit.1 == sink

/-- How many exits with a response are recorded for a sink. -/
def respondingExitsOf (l : Ledger) (sink : Sink) : Nat :=
  l.exits.countP fun exit => exit.1 == sink && exit.2.responds

/-- How many responses were sent to a sink or may still be delivered to it. -/
def responsesFor (l : Ledger) (sink : Sink) : Nat :=
  (l.kept.countP fun entry => entry.sink == sink)
    + l.sent.countP fun delivery => delivery.sink == sink

/-- The books are in order. -/
structure Balanced (l : Ledger) : Prop where
  distinct : (l.registry.entries.map (·.token)).Nodup
  named : ∀ entry ∈ l.registry.entries, l.tokens[entry.sink]? = some entry.token
  once : ∀ sink, l.pendingFor sink + l.exitsOf sink = if sink < l.tokens.length then 1 else 0
  answered : ∀ sink, l.responsesFor sink ≤ l.respondingExitsOf sink
  silent : ∀ sink ∈ l.withdrawn, sink < l.tokens.length ∧ l.responsesFor sink = 0 ∧
    ∀ entry ∈ l.registry.entries, entry.sink = sink → entry.isCancelled = true
  closed : l.registry.isClosed = true → l.registry.entries = []

theorem balanced_new (slot : SlotId) (historyLimit : Nat) : Balanced (new slot historyLimit) where
  distinct := List.nodup_nil
  named := by simp [new]
  once := by simp [new, pendingFor, exitsOf]
  answered := by simp [new, responsesFor]
  silent := by simp [new]
  closed := fun _ => rfl

/-! ## What an operation does to the balance -/

variable {l : Ledger}

/-- A sink that is pending has been handed nothing. -/
theorem Balanced.responsesFor_of_mem (h : Balanced l) {entry : PendingRequest}
    (hmem : entry ∈ l.registry.entries) : l.responsesFor entry.sink = 0 := by
  have hpending : 0 < l.pendingFor entry.sink :=
    List.countP_pos_iff.2 ⟨entry, hmem, beq_self_eq_true _⟩
  have honce := h.once entry.sink
  have hanswered := h.answered entry.sink
  have hexits : l.respondingExitsOf entry.sink ≤ l.exitsOf entry.sink :=
    List.countP_mono_left fun exit _ hexit => (Bool.and_eq_true_iff.1 hexit).1
  split at honce <;> omega

theorem Balanced.sink_lt (h : Balanced l) {entry : PendingRequest}
    (hmem : entry ∈ l.registry.entries) : entry.sink < l.tokens.length := by
  obtain ⟨hlt, _⟩ := List.getElem?_eq_some_iff.1 (h.named entry hmem)
  exact hlt

theorem Balanced.register (h : Balanced l) {token : Token} {request : RequestId} {origin : Origin}
    {registry : Registry} (hopen : l.registry.isClosed = false)
    (hfree : l.registry.contains token = false)
    (hentries : registry.entries
      = l.registry.entries ++ [{ token, request, sink := l.tokens.length, origin }])
    (hclosed : registry.isClosed = l.registry.isClosed) :
    Balanced { l with registry, tokens := l.tokens ++ [token] } where
  distinct := by
    show (registry.entries.map (·.token)).Nodup
    rw [hentries, List.map_append, List.nodup_append]
    refine ⟨h.distinct, by simp, ?_⟩
    intro first hfirst second hsecond he
    obtain ⟨entry, hmem, rfl⟩ := List.mem_map.1 hfirst
    have htoken : entry.token = token := he.trans (List.mem_singleton.1 hsecond)
    have hpresent : l.registry.contains token = true :=
      List.any_eq_true.2 ⟨entry, hmem, beq_iff_eq.2 htoken⟩
    rw [hfree] at hpresent
    cases hpresent
  named := by
    intro entry hmem
    rw [hentries, List.mem_append, List.mem_singleton] at hmem
    rcases hmem with hmem | rfl
    · exact (List.getElem?_append_left (h.sink_lt hmem)).trans (h.named entry hmem)
    · exact List.getElem?_concat_length
  once := by
    intro sink
    have honce := h.once sink
    simp only [pendingFor, exitsOf, hentries, List.countP_append, List.countP_singleton,
      List.length_append, List.length_singleton, beq_iff_eq] at honce ⊢
    -- The new entry counts for the next sink, which had none.
    rcases Nat.lt_trichotomy sink l.tokens.length with hlt | rfl | hgt
    · rw [if_pos hlt] at honce
      rw [if_neg (Nat.ne_of_gt hlt), if_pos (Nat.lt_succ_of_lt hlt)]
      exact honce
    · rw [if_neg (Nat.lt_irrefl _)] at honce
      rw [if_pos rfl, if_pos (Nat.lt_succ_self _)]
      omega
    · rw [if_neg (Nat.lt_asymm hgt)] at honce
      rw [if_neg (Nat.ne_of_lt hgt), if_neg (Nat.not_lt.2 hgt)]
      exact honce
  answered := h.answered
  silent := by
    intro sink hsink
    obtain ⟨hlt, hnone, hcancelled⟩ := h.silent sink hsink
    refine ⟨?_, hnone, ?_⟩
    · rw [List.length_append]
      exact Nat.lt_add_right _ hlt
    · intro entry hmem he
      rw [hentries, List.mem_append, List.mem_singleton] at hmem
      rcases hmem with hmem | rfl
      · exact hcancelled entry hmem he
      · exact absurd he (Nat.ne_of_gt hlt)
  closed := by
    intro hc
    rw [hclosed, hopen] at hc
    cases hc

/-- A request leaves the registry; if it was not cancelled, it may be handed out. -/
theorem Balanced.leave (h : Balanced l) {token : Token} {entry : PendingRequest}
    (hfind : l.registry.find? token = some entry) {registry : Registry}
    (hentries : registry.entries = (l.registry.remove token).entries)
    (hclosed : registry.isClosed = l.registry.isClosed) {exit : Exit}
    {kept : List PendingRequest}
    (hkept : kept = l.kept ∨
      kept = l.kept ++ [entry] ∧ exit.responds = true ∧ entry.isCancelled = false) :
    Balanced { l with registry, exits := l.exits ++ [(entry.sink, exit)], kept } where
  distinct := by
    show (registry.entries.map (·.token)).Nodup
    rw [hentries]
    exact h.distinct.sublist (List.filter_sublist.map _)
  named := by
    intro other hmem
    rw [hentries] at hmem
    exact h.named other (List.mem_filter.1 hmem).1
  once := by
    intro sink
    have honce := h.once sink
    simp only [pendingFor, exitsOf, hentries,
      (Registry.entries_perm_remove h.distinct hfind).countP_eq, List.countP_cons,
      List.countP_append, List.countP_nil] at honce ⊢
    omega
  answered := by
    intro sink
    have hanswered := h.answered sink
    simp only [responsesFor, respondingExitsOf, List.countP_append, List.countP_singleton]
      at hanswered ⊢
    rcases hkept with rfl | ⟨rfl, hresponds, _⟩
    · omega
    · rw [List.countP_append, List.countP_singleton, hresponds, Bool.and_true]
      omega
  silent := by
    intro sink hsink
    obtain ⟨hlt, hnone, hcancelled⟩ := h.silent sink hsink
    refine ⟨hlt, ?_, ?_⟩
    · rcases hkept with rfl | ⟨rfl, _, hlive⟩
      · exact hnone
      · -- What is handed out was not cancelled, so nobody has withdrawn from it.
        have hne : entry.sink ≠ sink := by
          intro he
          rw [hcancelled entry (Registry.mem_of_find? hfind) he] at hlive
          cases hlive
        simp only [responsesFor, List.countP_append, List.countP_singleton,
          beq_eq_false_iff_ne.2 hne] at hnone ⊢
        exact hnone
    · intro other hmem he
      rw [hentries] at hmem
      exact hcancelled other (List.mem_filter.1 hmem).1 he
  closed := by
    intro hc
    rw [hclosed] at hc
    show registry.entries = []
    rw [hentries, Registry.remove, h.closed hc, List.filter_nil]

theorem Balanced.mark (h : Balanced l) {token : Token} {change : PendingRequest → PendingRequest}
    (htoken : ∀ entry, (change entry).token = entry.token)
    (hsink : ∀ entry, (change entry).sink = entry.sink)
    (hcancelled : ∀ entry, entry.isCancelled = true → (change entry).isCancelled = true) :
    Balanced { l with registry := l.registry.modify token change } := by
  have hkeep : ∀ entry : PendingRequest,
      (if entry.token == token then change entry else entry).token = entry.token ∧
      (if entry.token == token then change entry else entry).sink = entry.sink ∧
      (entry.isCancelled = true →
        (if entry.token == token then change entry else entry).isCancelled = true) := by
    intro entry
    split
    · exact ⟨htoken entry, hsink entry, hcancelled entry⟩
    · exact ⟨rfl, rfl, id⟩
  exact {
    distinct := by
      simp only [Registry.modify, List.map_map, Function.comp_def, hkeep]
      exact h.distinct
    named := by
      intro entry hmem
      obtain ⟨before, hbefore, rfl⟩ := List.mem_map.1 hmem
      rw [(hkeep before).1, (hkeep before).2.1]
      exact h.named before hbefore
    once := by
      intro sink
      simp only [pendingFor, Registry.modify, List.countP_map, Function.comp_def, hkeep]
      exact h.once sink
    answered := h.answered
    silent := by
      intro sink hwithdrawn
      obtain ⟨hlt, hnone, hmarked⟩ := h.silent sink hwithdrawn
      refine ⟨hlt, hnone, ?_⟩
      intro entry hmem he
      obtain ⟨before, hbefore, rfl⟩ := List.mem_map.1 hmem
      rw [(hkeep before).2.1] at he
      exact (hkeep before).2.2 (hmarked before hbefore he)
    closed := by
      intro hc
      simp only [Registry.modify, h.closed hc, List.map_nil] }

theorem Balanced.deliver (h : Balanced l) {index : Nat} {entry : PendingRequest}
    (hkept : l.kept[index]? = some entry) (response : Response) :
    Balanced { l with
      kept := l.kept.eraseIdx index
      sent := l.sent ++ [⟨entry.sink, response⟩] } := by
  have hsame : ∀ sink, responsesFor { l with
      kept := l.kept.eraseIdx index
      sent := l.sent ++ [⟨entry.sink, response⟩] } sink = l.responsesFor sink := by
    intro sink
    obtain ⟨hlt, rfl⟩ := List.getElem?_eq_some_iff.1 hkept
    have hcount := (List.getElem_cons_eraseIdx_perm hlt).countP_eq fun entry => entry.sink == sink
    rw [List.countP_cons] at hcount
    simp only [responsesFor, List.countP_append, List.countP_singleton]
    omega
  exact {
    distinct := h.distinct
    named := h.named
    once := h.once
    answered := fun sink => by
      rw [hsame]
      exact h.answered sink
    silent := fun sink hsink => by
      rw [hsame]
      exact h.silent sink hsink
    closed := h.closed }

/-- The caller of a request that is marked as cancelled is entered. -/
theorem Balanced.withdraw (h : Balanced l) {entry : PendingRequest}
    (hmem : entry ∈ l.registry.entries)
    (hmarked : ∀ other ∈ l.registry.entries, other.token = entry.token → other.isCancelled = true) :
    Balanced { l with withdrawn := l.withdrawn ++ [entry.sink] } where
  distinct := h.distinct
  named := h.named
  once := h.once
  answered := h.answered
  silent := by
    intro sink hsink
    rcases List.mem_append.1 hsink with hsink | hsink
    · exact h.silent sink hsink
    · obtain rfl := List.mem_singleton.1 hsink
      refine ⟨h.sink_lt hmem, h.responsesFor_of_mem hmem, ?_⟩
      intro other hother he
      -- Both entries have the token that is in the books for their sink.
      have hnamed := h.named other hother
      rw [he, h.named entry hmem, Option.some.injEq] at hnamed
      exact hmarked other hother hnamed.symm
  closed := h.closed

theorem Balanced.drain (h : Balanced l) (reason : DrainReason) :
    Balanced (l.step (.drain reason)) where
  distinct := List.nodup_nil
  named := fun entry hmem => absurd hmem List.not_mem_nil
  once := by
    intro sink
    show _ = if sink < l.tokens.length then 1 else 0
    rw [← h.once sink]
    simp only [pendingFor, exitsOf, step, Registry.drain, List.countP_append, List.countP_map,
      List.countP_nil, Function.comp_def]
    omega
  answered := by
    intro sink
    have hanswered := h.answered sink
    have hlive : (l.registry.entries.filter fun entry => !entry.isCancelled).countP
        (fun entry => entry.sink == sink) ≤ l.registry.entries.countP (·.sink == sink) :=
      List.filter_sublist.countP_le
    simp only [responsesFor, respondingExitsOf, step, Registry.drain, List.countP_append,
      List.countP_map, Function.comp_def, Exit.responds, Bool.and_true] at hanswered hlive ⊢
    omega
  silent := by
    intro sink hsink
    obtain ⟨hlt, hnone, hcancelled⟩ := h.silent sink hsink
    have hlive : (l.registry.entries.filter fun entry => !entry.isCancelled).countP
        (fun entry => entry.sink == sink) = 0 := by
      rw [List.countP_eq_zero]
      intro entry hmem he
      obtain ⟨hentry, hkeep⟩ := List.mem_filter.1 hmem
      rw [hcancelled entry hentry (beq_iff_eq.1 he)] at hkeep
      cases hkeep
    refine ⟨hlt, ?_, fun entry hmem => absurd hmem List.not_mem_nil⟩
    simp only [responsesFor, step, Registry.drain, List.countP_append, List.countP_map,
      Function.comp_def] at hnone hlive ⊢
    omega
  closed := fun _ => rfl

/-! ## Steps and runs -/

/-- No operation puts the books out of order. -/
theorem balanced_step (h : Balanced l) (operation : Operation) : Balanced (l.step operation) := by
  cases operation with
  | submit request origin =>
    rw [step]
    split
    · next registry token hok =>
      obtain ⟨hopen, hfree, rfl⟩ := Registry.submit_ok hok
      exact h.register hopen hfree rfl rfl
    · exact h
  | submitWithToken token request origin =>
    rw [step]
    split
    · next registry hok =>
      obtain ⟨hopen, hfree, rfl⟩ := Registry.submitWithToken_ok hok
      exact h.register hopen hfree rfl rfl
    · exact h
  | rollback token =>
    rw [step, Registry.rollback, sinkOf]
    cases hfind : l.registry.find? token with
    | none =>
      rw [Registry.remove_of_find?_eq_none hfind]
      simpa using h
    | some entry => exact h.leave hfind rfl rfl (.inl rfl)
  | complete token origin =>
    rw [step]
    rcases Registry.complete_cases l.registry token origin with
      ⟨entry, hfind, _, hcomplete⟩ | ⟨hcomplete, _⟩
    · cases hcancelled : entry.isCancelled with
      | false =>
        simp only [hcomplete, hcancelled, Bool.false_eq_true, if_false]
        refine h.leave hfind ?_ ?_ (.inr ⟨rfl, ?_, hcancelled⟩) <;> rfl
      | true =>
        simp only [hcomplete, hcancelled, if_true, sinkOf, hfind]
        refine h.leave hfind ?_ ?_ (.inl rfl) <;> rfl
    · rw [hcomplete]
      exact h
  | deliver index response =>
    rw [step]
    split
    · next entry hkept => exact h.deliver hkept response
    · exact h
  | cancel token =>
    rw [step]
    rcases Registry.cancel_cases l.registry token with ⟨entry, hfind, _, hcancel⟩ | hcancel
    · have htoken := Registry.token_of_find? hfind
      have hentry : { entry with isCancelled := true } ∈ (l.registry.modify token
          fun entry => { entry with isCancelled := true }).entries :=
        List.mem_map.2 ⟨entry, Registry.mem_of_find? hfind, if_pos (beq_iff_eq.2 htoken)⟩
      have hmarked : ∀ other ∈ (l.registry.modify token
          fun entry => { entry with isCancelled := true }).entries,
          other.token = entry.token → other.isCancelled = true := by
        intro other hother he
        obtain ⟨before, _, rfl⟩ := List.mem_map.1 hother
        split at he
        · next hbefore => rw [if_pos hbefore]
        · next hbefore => exact absurd (beq_iff_eq.2 (he.trans htoken)) hbefore
      have hmark : Balanced { l with
          registry := l.registry.modify token fun entry => { entry with isCancelled := true } } :=
        h.mark (fun _ => rfl) (fun _ => rfl) fun _ _ => rfl
      have hwithdrawn := hmark.withdraw hentry hmarked
      simp only [hcancel, sinkOf, hfind]
      exact hwithdrawn
    · rw [hcancel]
      exact h
  | markReceived token =>
    rw [step]
    rcases Registry.markReceived_cases l.registry token with ⟨_, _, _, hmarked⟩ | hmarked
    · rw [hmarked]
      exact h.mark (fun _ => rfl) (fun _ => rfl) (fun _ => id)
    · rw [hmarked]
      exact h
  | beginAck token =>
    rw [step]
    rcases Registry.beginAck_cases l.registry token with
      ⟨_, _, _, _, hack⟩ | ⟨_, _, _, _, hack⟩ | ⟨_, _, _, hack⟩ | ⟨_, hack⟩
    · rw [hack]
      exact h.mark (fun _ => rfl) (fun _ => rfl) (fun _ => id)
    all_goals
      rw [hack]
      exact h
  | drain reason => exact h.drain reason

theorem balanced_run (h : Balanced l) (operations : List Operation) :
    Balanced (l.run operations) := by
  induction operations generalizing l with
  | nil => exact h
  | cons operation operations ih => exact ih (balanced_step h operation)

/-! ## What the balance says -/

theorem length_fates (l : Ledger) (sink : Sink) :
    (l.fates sink).length = l.pendingFor sink + l.exitsOf sink := by
  simp only [fates, pendingFor, exitsOf, List.length_append, List.length_map,
    List.countP_eq_length_filter]

/-- A sink that is pending is so under the token that it was registered with. -/
theorem Balanced.token_of_fate (h : Balanced l) {sink : Sink} {token : Token}
    (hfate : .pending token ∈ l.fates sink) : l.tokens[sink]? = some token := by
  rcases List.mem_append.1 hfate with hfate | hfate
  · obtain ⟨entry, hmem, he⟩ := List.mem_map.1 hfate
    cases he
    obtain ⟨hentry, hsink⟩ := List.mem_filter.1 hmem
    rw [← h.named entry hentry, beq_iff_eq.1 hsink]
  · obtain ⟨exit, _, he⟩ := List.mem_map.1 hfate
    cases he

theorem Balanced.fates_eq (h : Balanced l) {sink : Sink} {token : Token}
    (hregistered : l.tokens[sink]? = some token) :
    l.fates sink = [.pending token] ∨ ∃ exit, l.fates sink = [.left exit] := by
  obtain ⟨hlt, _⟩ := List.getElem?_eq_some_iff.1 hregistered
  have hlength := l.length_fates sink
  rw [h.once, if_pos hlt] at hlength
  obtain ⟨fate, hfate⟩ := List.length_eq_one_iff.1 hlength
  cases fate with
  | left exit => exact .inr ⟨exit, hfate⟩
  | pending named =>
    have hmem : .pending named ∈ l.fates sink := by rw [hfate]; exact List.mem_singleton.2 rfl
    have htoken := h.token_of_fate hmem
    rw [hregistered, Option.some.injEq] at htoken
    exact .inl (by rw [hfate, htoken])

/-- No two pending requests have the same sink. -/
theorem Balanced.filter_sink (h : Balanced l) {entry : PendingRequest}
    (hmem : entry ∈ l.registry.entries) :
    (l.registry.entries.filter fun other => other.sink == entry.sink) = [entry] := by
  have honce := h.once entry.sink
  have hself : entry ∈ l.registry.entries.filter fun other => other.sink == entry.sink :=
    List.mem_filter.2 ⟨hmem, beq_self_eq_true _⟩
  have hpos := List.length_pos_of_mem hself
  rw [if_pos (h.sink_lt hmem), pendingFor, List.countP_eq_length_filter] at honce
  obtain ⟨only, honly⟩ := List.length_eq_one_iff.1 (by omega :
    (l.registry.entries.filter fun other => other.sink == entry.sink).length = 1)
  rw [honly, List.mem_singleton] at hself
  rw [honly, hself]

theorem Balanced.sent_le_one (h : Balanced l) (sink : Sink) :
    l.sent.countP (fun delivery => delivery.sink == sink) ≤ 1 := by
  have honce := h.once sink
  have hanswered := h.answered sink
  have hexits : l.respondingExitsOf sink ≤ l.exitsOf sink :=
    List.countP_mono_left fun exit _ hexit => (Bool.and_eq_true_iff.1 hexit).1
  rw [responsesFor] at hanswered
  split at honce <;> omega

theorem Balanced.not_sent (h : Balanced l) {sink : Sink} (hsink : sink ∈ l.withdrawn)
    {delivery : Delivery} (hmem : delivery ∈ l.sent) : delivery.sink ≠ sink := by
  intro he
  obtain ⟨_, hnone, _⟩ := h.silent sink hsink
  have hcount : 0 < l.sent.countP fun delivery => delivery.sink == sink :=
    List.countP_pos_iff.2 ⟨delivery, hmem, beq_iff_eq.2 he⟩
  rw [responsesFor] at hnone
  omega

/-- The drain resolves each request that was not cancelled, with one response to its sink. -/
theorem Balanced.drain_filter_sink (h : Balanced l) (reason : DrainReason) {entry : PendingRequest}
    (hmem : entry ∈ l.registry.entries) (hlive : entry.isCancelled = false) :
    ((l.registry.drain reason).2.filter fun delivery => delivery.sink == entry.sink)
      = [⟨entry.sink, entry.respond l.registry.slot reason.status (.error reason.error)⟩] := by
  rw [Registry.drain, List.filter_map]
  simp only [Function.comp_def]
  rw [List.filter_comm, h.filter_sink hmem, List.filter_cons, if_pos (by simp [hlive])]
  rfl

/-! ## After a drain -/

theorem withdrawn_subset_step (l : Ledger) (operation : Operation) :
    l.withdrawn ⊆ (l.step operation).withdrawn := by
  cases operation <;> rw [step]
  case cancel token =>
    split
    · exact List.subset_append_left _ _
    · exact List.Subset.refl _
  all_goals first
    | exact List.Subset.refl _
    | split <;> exact List.Subset.refl _

theorem withdrawn_subset_run (l : Ledger) (operations : List Operation) :
    l.withdrawn ⊆ (l.run operations).withdrawn := by
  induction operations generalizing l with
  | nil => exact List.Subset.refl _
  | cons operation operations ih =>
    exact List.Subset.trans (l.withdrawn_subset_step operation) (ih _)

theorem isClosed_step (h : l.registry.isClosed = true) (operation : Operation) :
    (l.step operation).registry.isClosed = true := by
  cases operation with
  | submit request origin =>
    rw [step, Registry.submit_of_isClosed h]
    exact h
  | submitWithToken token request origin =>
    rw [step, Registry.submitWithToken_of_isClosed h]
    exact h
  | rollback token => exact h
  | complete token origin =>
    have hsame := l.registry.isClosed_complete token origin
    rw [step]
    split <;> next heq =>
      rw [heq] at hsame
      exact hsame.trans h
  | deliver index response =>
    rw [step]
    split <;> exact h
  | cancel token =>
    have hsame := l.registry.isClosed_cancel token
    rw [step]
    split <;> next heq =>
      rw [heq] at hsame
      exact hsame.trans h
  | markReceived token => exact (l.registry.isClosed_markReceived token).trans h
  | beginAck token => exact (l.registry.isClosed_beginAck token).trans h
  | drain reason => rfl

theorem isClosed_run (h : l.registry.isClosed = true) (operations : List Operation) :
    (l.run operations).registry.isClosed = true := by
  induction operations generalizing l with
  | nil => exact h
  | cons operation operations ih => exact ih (isClosed_step h operation)

/-- A successful cancellation enters the sink of its request. -/
theorem sink_mem_withdrawn {token : Token} {entry : PendingRequest}
    (hfind : l.registry.find? token = some entry) (hcancel : (l.registry.cancel token).2 = true) :
    entry.sink ∈ (l.step (.cancel token)).withdrawn := by
  rcases Registry.cancel_cases l.registry token with ⟨_, _, _, hmarked⟩ | hrefused
  · simp only [step, hmarked, sinkOf, hfind, Option.toList_some, List.map_cons, List.map_nil]
    exact List.mem_append_right _ (List.mem_singleton.2 rfl)
  · rw [hrefused] at hcancel
    cases hcancel

/-! ## Exactly once -/

/-- **Every registration of any run is resolved once.** It is pending under its own token or has
left the registry by one completion, one rollback or one drain. Its sink gets one response at most,
and none once a cancellation of it has succeeded. A drain sends one error to each request that is
pending and not cancelled, and to nobody else, and leaves the registry empty and closed for good. -/
theorem registrations_resolved_once (slot : SlotId) (historyLimit : Nat)
    (operations : List Operation) :
    let l := (new slot historyLimit).run operations
    (∀ sink token, l.tokens[sink]? = some token →
      l.fates sink = [.pending token] ∨ ∃ exit, l.fates sink = [.left exit]) ∧
    (∀ sink, l.sent.countP (fun delivery => delivery.sink == sink) ≤ 1) ∧
    (∀ token entry, l.registry.find? token = some entry → (l.registry.cancel token).2 = true →
      ∀ later, ∀ delivery ∈ ((l.step (.cancel token)).run later).sent,
        delivery.sink ≠ entry.sink) ∧
    (∀ reason,
      (l.registry.drain reason).2.length = l.registry.entries.countP (fun entry =>
        !entry.isCancelled) ∧
      (∀ entry ∈ l.registry.entries, entry.isCancelled = false →
        ((l.registry.drain reason).2.filter fun delivery => delivery.sink == entry.sink)
          = [⟨entry.sink, entry.respond l.registry.slot reason.status (.error reason.error)⟩]) ∧
      ∀ later, let drained := (l.step (.drain reason)).run later
        drained.registry.entries = [] ∧ drained.registry.isClosed = true ∧
        (∀ request sink origin,
          drained.registry.submit request sink origin = .error .transportClosed) ∧
        ∀ token request sink origin,
          drained.registry.submitWithToken token request sink origin = .error .transportClosed) := by
  intro l
  have h : Balanced l := balanced_run (balanced_new slot historyLimit) operations
  refine ⟨fun sink token => h.fates_eq, h.sent_le_one, ?_, ?_⟩
  · intro token entry hfind hcancel later delivery hmem
    have hlater := balanced_run (balanced_step h (.cancel token)) later
    have hsink := withdrawn_subset_run _ later (sink_mem_withdrawn hfind hcancel)
    exact hlater.not_sent hsink hmem
  · intro reason
    refine ⟨?_, ?_, ?_⟩
    · rw [Registry.drain, List.length_map, List.countP_eq_length_filter]
    · intro entry hmem hlive
      exact h.drain_filter_sink reason hmem hlive
    · intro later drained
      have hdrained : Balanced drained := balanced_run (h.drain reason) later
      have hclosed : drained.registry.isClosed = true := isClosed_run rfl later
      refine ⟨hdrained.closed hclosed, hclosed, ?_, ?_⟩
      · intro request sink origin
        exact Registry.submit_of_isClosed hclosed request sink origin
      · intro token request sink origin
        exact Registry.submitWithToken_of_isClosed hclosed token request sink origin

/-- A token that is used again names another registration: the first was withdrawn and discarded,
the second is resolved by the drain. -/
theorem reused_token_resolved_once :
    let l := (new ⟨0⟩ 4).run [.submitWithToken ⟨7⟩ ⟨20⟩ .peer, .cancel ⟨7⟩, .complete ⟨7⟩ .peer,
      .submitWithToken ⟨7⟩ ⟨21⟩ .peer]
    (l.fates 0 = [.pending ⟨7⟩] ∨ ∃ exit, l.fates 0 = [.left exit]) ∧
    (l.fates 1 = [.pending ⟨7⟩] ∨ ∃ exit, l.fates 1 = [.left exit]) ∧
    (∀ later, ∀ delivery ∈ ((l.step (.cancel ⟨7⟩)).run later).sent, delivery.sink ≠ 1) ∧
    ((l.registry.drain .shutDown).2.filter fun delivery => delivery.sink == 1)
      = [⟨1, ⟨⟨0⟩, ⟨7⟩, ⟨21⟩, .cancelled, .error .shutDown⟩⟩] := by
  intro l
  obtain ⟨honce, _, hsilent, hdrain⟩ := registrations_resolved_once ⟨0⟩ 4
    [.submitWithToken ⟨7⟩ ⟨20⟩ .peer, .cancel ⟨7⟩, .complete ⟨7⟩ .peer,
      .submitWithToken ⟨7⟩ ⟨21⟩ .peer]
  have hsecond : l.registry.find? ⟨7⟩ = some
      { token := ⟨7⟩, request := ⟨21⟩, sink := 1, origin := .peer } := by decide
  exact ⟨honce 0 ⟨7⟩ (by decide), honce 1 ⟨7⟩ (by decide), hsilent ⟨7⟩ _ hsecond (by decide),
    (hdrain .shutDown).2.1 _ (Registry.mem_of_find? hsecond) rfl⟩

end Ledger

end RadioLink
