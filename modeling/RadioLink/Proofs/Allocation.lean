import Mathlib
import RadioLink.Proofs.Registry

set_option autoImplicit false

/-! # Allocating a token

A token is looked for by counting up. Nothing in the search itself says that it ends. It does so
because candidates are distinct until the counter comes round, and those that are passed over are
among the pending tokens and the two that are never allocated.

`Registry.Searches` is the search as it stands, without a bound. The search that runs looks at three
candidates more than there are entries, and that hides nothing: whatever is pending, it finds a
token exactly if the other does, and the same one (`freeToken?_eq_some_iff`). -/

namespace RadioLink

/-- The token that is reached from a number by counting up this far, with wrap-around. -/
def Token.onward (start : UInt32) (distance : Nat) : Token :=
  ⟨start + UInt32.ofNat distance⟩

namespace Token

variable {start : UInt32}

@[simp] theorem onward_zero (start : UInt32) : onward start 0 = ⟨start⟩ := by
  simp [onward]

@[simp] theorem onward_succ (start : UInt32) (distance : Nat) :
    onward (start + 1) distance = onward start (distance + 1) := by
  simp [onward, UInt32.ofNat_add, UInt32.add_assoc, UInt32.add_comm]

theorem toNat_onward (start : UInt32) (distance : Nat) :
    (onward start distance).raw.toNat = (start.toNat + distance) % 2 ^ 32 := by
  simp [onward]

/-- Counting all the way round leads back. -/
theorem onward_round (start : UInt32) (distance : Nat) :
    onward start (distance + 2 ^ 32) = onward start distance := by
  rw [onward, onward, mk.injEq, ← UInt32.toNat_inj]
  simp only [UInt32.toNat_add, UInt32.toNat_ofNat', Nat.add_mod_right]

/-- Until then all tokens are distinct. -/
theorem eq_of_onward {first second : Nat} (hfirst : first < 2 ^ 32) (hsecond : second < 2 ^ 32)
    (h : onward start first = onward start second) : first = second := by
  have hraw : UInt32.ofNat first = UInt32.ofNat second :=
    (UInt32.add_right_inj start).1 (congrArg Token.raw h)
  have hnat := congrArg UInt32.toNat hraw
  rwa [UInt32.toNat_ofNat', UInt32.toNat_ofNat', Nat.mod_eq_of_lt hfirst,
    Nat.mod_eq_of_lt hsecond] at hnat

end Token

namespace Registry

variable {r : Registry} {start : UInt32} {count : Nat} {token : Token}

/-! ## The search without a bound -/

/-- Counting up from a number, a token is found after this many candidates: it may be allocated,
and those before it may not. -/
inductive Searches (r : Registry) : UInt32 → Nat → Token → Prop
  | found (candidate : UInt32) (hfree : r.isFree ⟨candidate⟩ = true) :
    Searches r candidate 1 ⟨candidate⟩
  | passed (candidate : UInt32) (count : Nat) (token : Token)
    (htaken : r.isFree ⟨candidate⟩ = false) (hlater : Searches r (candidate + 1) count token) :
    Searches r candidate (count + 1) token

/-- What is found is the first token that may be allocated. -/
theorem searches_iff : r.Searches start count token ↔ ∃ distance, count = distance + 1 ∧
    token = .onward start distance ∧ r.isFree token = true ∧
      ∀ earlier < distance, r.isFree (.onward start earlier) = false := by
  constructor
  · intro h
    induction h with
    | found candidate hfree =>
      exact ⟨0, rfl, (Token.onward_zero candidate).symm, hfree, fun _ hlt => absurd hlt (by omega)⟩
    | passed candidate count token htaken _ ih =>
      obtain ⟨distance, rfl, rfl, hfree, hearlier⟩ := ih
      refine ⟨distance + 1, rfl, Token.onward_succ candidate distance, hfree, ?_⟩
      intro earlier hlt
      cases earlier with
      | zero => exact (Token.onward_zero candidate).symm ▸ htaken
      | succ earlier =>
        rw [← Token.onward_succ]
        exact hearlier earlier (Nat.lt_of_succ_lt_succ hlt)
  · rintro ⟨distance, rfl, rfl, hfree, hearlier⟩
    induction distance generalizing start with
    | zero =>
      rw [Token.onward_zero] at hfree ⊢
      exact .found start hfree
    | succ distance ih =>
      have htaken := hearlier 0 (Nat.succ_pos distance)
      rw [Token.onward_zero] at htaken
      rw [← Token.onward_succ] at hfree ⊢
      refine .passed start (distance + 1) _ htaken (ih hfree fun earlier hlt => ?_)
      rw [Token.onward_succ]
      exact hearlier (earlier + 1) (Nat.succ_lt_succ hlt)

/-- The search with a bound finds what is found without one, if that is within the bound. -/
theorem freeTokenFrom?_eq_some_iff {limit : Nat} :
    r.freeTokenFrom? limit start = some token ↔ ∃ count ≤ limit, r.Searches start count token := by
  induction limit generalizing start with
  | zero =>
    refine iff_of_false (fun h => by cases h) ?_
    rintro ⟨count, hle, hfound⟩
    obtain ⟨_, rfl, -⟩ := searches_iff.1 hfound
    cases hle
  | succ limit ih =>
    rw [freeTokenFrom?]
    cases hfree : r.isFree ⟨start⟩ with
    | true =>
      rw [if_pos rfl]
      constructor
      · rintro ⟨⟩
        exact ⟨1, Nat.succ_le_succ (Nat.zero_le limit), .found start hfree⟩
      · rintro ⟨count, -, hfound⟩
        cases hfound with
        | found => rfl
        | passed _ count _ htaken => exact absurd (hfree.symm.trans htaken) (by decide)
    | false =>
      rw [if_neg Bool.false_ne_true, ih]
      constructor
      · rintro ⟨count, hle, hfound⟩
        exact ⟨count + 1, Nat.succ_le_succ hle, .passed start count token hfree hfound⟩
      · rintro ⟨count, hle, hfound⟩
        cases hfound with
        | found _ htaken => exact absurd (hfree.symm.trans htaken) (by decide)
        | passed _ count _ _ hlater => exact ⟨count, Nat.le_of_succ_le_succ hle, hlater⟩

/-! ## Why it ends -/

theorem isFree_iff :
    r.isFree token = true ↔ token.raw ≠ 0 ∧ token ≠ .reserved ∧ r.find? token = none := by
  rw [isFree, contains_eq_isSome]
  simp [and_assoc]

theorem isFree_eq_false_iff : r.isFree token = false ↔
    token.raw = 0 ∨ token = .reserved ∨ ∃ entry, r.find? token = some entry := by
  rw [← Bool.not_eq_true, isFree_iff, ← Option.isSome_iff_exists, ← Option.ne_none_iff_isSome]
  tauto

/-- Candidates that are passed over one after the other are distinct, and each is pending or one of
two others, so there are at most two more of them than there are entries. -/
theorem length_passed_le {distance : Nat} (hround : distance ≤ 2 ^ 32)
    (hpassed : ∀ earlier < distance, r.isFree (.onward start earlier) = false) :
    distance ≤ r.size + 2 := by
  let passed := (List.range distance).map (Token.onward start)
  have hdistinct : passed.Nodup := by
    refine List.nodup_range.map_on fun first hfirst second hsecond heq => ?_
    rw [List.mem_range] at hfirst hsecond
    exact Token.eq_of_onward (by omega) (by omega) heq
  have htaken : passed ⊆ ⟨0⟩ :: .reserved :: r.entries.map (·.token) := by
    intro token hmem
    obtain ⟨earlier, hlt, rfl⟩ := List.mem_map.1 hmem
    rcases isFree_eq_false_iff.1 (hpassed earlier (List.mem_range.1 hlt)) with
      hzero | hreserved | ⟨entry, hfind⟩
    · exact List.mem_cons.2 (.inl (congrArg Token.mk hzero))
    · exact List.mem_cons_of_mem _ (List.mem_cons.2 (.inl hreserved))
    · refine List.mem_cons_of_mem _ (List.mem_cons_of_mem _ (List.mem_map.2 ⟨entry, ?_⟩))
      exact ⟨mem_of_find? hfind, token_of_find? hfind⟩
  simpa [passed, size] using (List.subperm_of_subset hdistinct htaken).length_le

/-- Once the counter has come round, every candidate has been passed over before. -/
theorem Searches.count_le (h : r.Searches start count token) : count ≤ r.size + 3 := by
  obtain ⟨distance, rfl, rfl, hfree, hearlier⟩ := searches_iff.1 h
  have hround : distance ≤ 2 ^ 32 := by
    by_contra hover
    have hagain := hearlier (distance - 2 ^ 32) (by omega)
    rw [← Token.onward_round, Nat.sub_add_cancel (by omega), hfree] at hagain
    cases hagain
  have := length_passed_le hround hearlier
  omega

/-- While not every token is taken, one is found. -/
theorem exists_searches (hroom : r.size + 2 < 2 ^ 32) (start : UInt32) :
    ∃ count token, r.Searches start count token := by
  have hfree : ∃ distance, r.isFree (.onward start distance) = true := by
    by_contra hnone
    have hpassed : ∀ earlier < r.size + 3, r.isFree (.onward start earlier) = false :=
      fun earlier _ => Bool.eq_false_iff.2 fun hfree => hnone ⟨earlier, hfree⟩
    have := length_passed_le hroom hpassed
    omega
  have hearlier : ∀ earlier < Nat.find hfree, r.isFree (.onward start earlier) = false :=
    fun earlier hlt => Bool.eq_false_iff.2 (Nat.find_min hfree hlt)
  exact ⟨_, _, searches_iff.2 ⟨Nat.find hfree, rfl, rfl, Nat.find_spec hfree, hearlier⟩⟩

/-- The bound on the search that runs hides nothing. -/
theorem freeToken?_eq_some_iff :
    r.freeToken? = some token ↔ ∃ count, r.Searches r.nextToken count token := by
  rw [freeToken?, freeTokenFrom?_eq_some_iff]
  exact exists_congr fun count => and_iff_right_of_imp Searches.count_le

/-! ## Registration under a new token -/

/-- **A submission takes the first free token.** An open registry, whatever its counter and whatever
tokens are pending, counts up from the counter and stops after at most three candidates more than
there are requests pending. It stops at the first token that is neither zero nor reserved nor
pending: every one before it is. The request is added under this token, and all that was pending
is as before. -/
theorem submit_takes_first_free (r : Registry) (request : RequestId) (sink : Sink)
    (origin : Origin) (hopen : r.isClosed = false) (hroom : r.size + 2 < 2 ^ 32) :
    ∃ distance token after,
      r.Searches r.nextToken (distance + 1) token ∧ distance + 1 ≤ r.size + 3 ∧
      token.raw.toNat = (r.nextToken.toNat + distance) % 2 ^ 32 ∧
      (token.raw ≠ 0 ∧ token ≠ .reserved ∧ r.find? token = none) ∧
      (∀ earlier < distance, let passed := Token.onward r.nextToken earlier
        passed.raw = 0 ∨ passed = .reserved ∨ ∃ entry, r.find? passed = some entry) ∧
      r.submit request sink origin = .ok (after, token) ∧
      after = { r with
        nextToken := token.raw + 1
        entries := r.entries ++ [{ token, request, sink, origin }] } ∧
      (∀ other entry, r.find? other = some entry → after.find? other = some entry) ∧
      after.size = r.size + 1 := by
  obtain ⟨count, token, hfound⟩ := exists_searches hroom r.nextToken
  have hbound := hfound.count_le
  obtain ⟨distance, rfl, htoken, hfree, hearlier⟩ := searches_iff.1 hfound
  have hunused := isFree_iff.1 hfree
  have hsubmit : r.submit request sink origin = .ok
      ({ r with nextToken := token.raw + 1 }.add { token, request, sink, origin }, token) := by
    rw [submit, hopen, if_neg Bool.false_ne_true, freeToken?_eq_some_iff.2 ⟨_, hfound⟩]
  refine ⟨distance, token, _, hfound, hbound, ?_, hunused, ?_, hsubmit, rfl, ?_, ?_⟩
  · rw [htoken, Token.toNat_onward]
  · exact fun earlier hlt => isFree_eq_false_iff.1 (hearlier earlier hlt)
  · intro other entry hfind
    have hcontains : r.contains token = false := by
      rw [contains_eq_isSome, hunused.2.2]
      rfl
    refine (find?_add (by exact hcontains) other).trans ?_
    rw [if_neg (ne_of_find? hcontains hfind)]
    exact hfind
  · exact List.length_append

/-- The counter stands two before its end, and what it comes to first was chosen by callers: the
token there, the reserved one, zero and one. Five candidates are looked at. -/
theorem submit_passes_chosen :
    let chosen (raw : UInt32) : PendingRequest :=
      { token := ⟨raw⟩, request := ⟨20⟩, sink := 0, origin := .peer }
    let r : Registry := {
      slot := ⟨0⟩, historyLimit := 64, nextToken := 0xfffffffe
      entries := [chosen 0xffffffff, chosen 1, chosen 0xfffffffe, chosen 0] }
    r.isClosed = false ∧ r.size + 2 < 2 ^ 32 ∧ r.Searches 0xfffffffe 5 ⟨2⟩ ∧ 5 ≤ r.size + 3 ∧
      ∃ after, r.submit ⟨21⟩ 4 .vendor = .ok (after, ⟨2⟩) ∧
        (∀ other entry, r.find? other = some entry → after.find? other = some entry) ∧
        after.size = 5 := by
  intro chosen r
  have hopen : r.isClosed = false := rfl
  have hroom : r.size + 2 < 2 ^ 32 := by decide
  obtain ⟨distance, token, after, hfound, hbound, hdistance, -, -, hsubmit, -, hkept, hsize⟩ :=
    submit_takes_first_free r ⟨21⟩ 4 .vendor hopen hroom
  have hchosen : r.submit ⟨21⟩ 4 .vendor
      = .ok ({ r with nextToken := 3 }.add ⟨⟨2⟩, ⟨21⟩, 4, .vendor, false, false, false⟩, ⟨2⟩) := by
    cbv
  obtain rfl : token = ⟨2⟩ := by
    rw [hchosen] at hsubmit
    cases hsubmit
    rfl
  obtain rfl : distance = 4 := by
    have hle : distance + 1 ≤ 7 := hbound
    have heq : 2 = (0xfffffffe + distance) % 2 ^ 32 := hdistance
    omega
  exact ⟨hopen, hroom, hfound, hbound, after, hsubmit, hkept, hsize⟩

end Registry

end RadioLink
