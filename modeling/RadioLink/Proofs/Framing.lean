import RadioLink.Framing

set_option autoImplicit false

/-! # Framing does not depend on how a stream is cut

`parseWhole` reads a byte stream that is there as a whole, by plain arithmetic on its first four
bytes. A `Framer` sees the same bytes in pieces and is asked for bodies in between, and yet whatever
it returns is determined by the whole: the calls return the bodies of `parseWhole` one after the
other, the bytes that are kept are what a parse has still to go through, and a length above the limit
is met where the parse meets it.

The invariant is `use_parseWhole`: what was returned so far, put in front of the parse of what is
kept and what is still to come, is the parse of everything. A call either takes the first body off
that parse or changes nothing, so it needs no more than what `Front.of` says about a longer
stream. -/

namespace RadioLink

/-! ## Reading a whole stream -/

/-- What a byte stream holds, read from the front. -/
structure Parse where
  /-- The complete bodies. -/
  bodies : List Bytes
  /-- The length above the limit at which the reading ended, if it did not end for want of
  bytes. -/
  oversize : Option Nat
  /-- The bytes from there on. -/
  rest : Bytes

/-- The same stream with bodies in front of it. -/
def Parse.prepend (bodies : List Bytes) (p : Parse) : Parse :=
  { p with bodies := bodies ++ p.bodies }

/-- Reads a stream from the front: four bytes, most significant first, say how many bytes the next
body has. -/
def parseWhole (limit : Nat) (stream : Bytes) : Parse :=
  match stream with
  | b₀ :: b₁ :: b₂ :: b₃ :: tail =>
    let length := ((b₀.toNat * 256 + b₁.toNat) * 256 + b₂.toNat) * 256 + b₃.toNat
    if limit < length then ⟨[], some length, stream⟩
    else if tail.length < length then ⟨[], none, stream⟩
    else (parseWhole limit (tail.drop length)).prepend [tail.take length]
  | _ => ⟨[], none, stream⟩
termination_by stream.length
decreasing_by simp only [List.length_drop, List.length_cons]; omega

@[simp] theorem Parse.prepend_nil (p : Parse) : p.prepend [] = p := rfl

@[simp] theorem Parse.prepend_prepend (front bodies : List Bytes) (p : Parse) :
    (p.prepend bodies).prepend front = p.prepend (front ++ bodies) := by
  simp [Parse.prepend, List.append_assoc]

/-! ## The front of a longer stream -/

namespace Front

theorem toNat_ofBigEndian (b₀ b₁ b₂ b₃ : UInt8) :
    (ofBigEndian b₀ b₁ b₂ b₃).toNat
      = ((b₀.toNat * 256 + b₁.toNat) * 256 + b₂.toNat) * 256 + b₃.toNat := by
  rw [ofBigEndian, toNat_ofLittleEndian]
  omega

theorem of_append_of_complete {limit : UInt32} {stream body rest : Bytes}
    (h : Front.of limit stream = .complete body rest) (more : Bytes) :
    Front.of limit (stream ++ more) = .complete body (rest ++ more) := by
  match stream with
  | [] | [_] | [_, _] | [_, _, _] => simp [Front.of, takeBigEndian?] at h
  | b₀ :: b₁ :: b₂ :: b₃ :: tail =>
    simp only [Front.of, takeBigEndian?, List.cons_append] at h ⊢
    split at h
    · cases h
    · next hle =>
      rw [if_neg hle]
      split at h
      · cases h
      · next body' rest' hs =>
        obtain ⟨rfl, hlen⟩ := splitExactly_eq_some_iff.1 hs
        cases h
        have hmore : splitExactly (ofBigEndian b₀ b₁ b₂ b₃).toNat (body ++ rest ++ more)
            = some (body, rest ++ more) :=
          splitExactly_eq_some_iff.2 ⟨List.append_assoc .., hlen⟩
        rw [hmore]

theorem of_append_of_oversize {limit length : UInt32} {stream : Bytes}
    (h : Front.of limit stream = .oversize length) (more : Bytes) :
    Front.of limit (stream ++ more) = .oversize length := by
  match stream with
  | [] | [_] | [_, _] | [_, _, _] => simp [Front.of, takeBigEndian?] at h
  | b₀ :: b₁ :: b₂ :: b₃ :: tail =>
    simp only [Front.of, takeBigEndian?, List.cons_append] at h ⊢
    split at h
    · next hlt => rw [if_pos hlt]; exact h
    · split at h <;> cases h

theorem eq_append_of_complete {limit : UInt32} {stream body rest : Bytes}
    (h : Front.of limit stream = .complete body rest) : stream = lengthPrefixed body ++ rest := by
  match stream with
  | [] | [_] | [_, _] | [_, _, _] => simp [Front.of, takeBigEndian?] at h
  | b₀ :: b₁ :: b₂ :: b₃ :: tail =>
    simp only [Front.of, takeBigEndian?] at h
    split at h
    · cases h
    · split at h
      · cases h
      · next body' rest' hs =>
        obtain ⟨rfl, hlen⟩ := splitExactly_eq_some_iff.1 hs
        cases h
        have hbytes : bigEndian (ofBigEndian b₀ b₁ b₂ b₃) = [b₀, b₁, b₂, b₃] := by
          show (littleEndian (ofLittleEndian b₃ b₂ b₁ b₀)).reverse = _
          rw [littleEndian_ofLittleEndian]
          rfl
        rw [lengthPrefixed, hlen, UInt32.ofNat_toNat, hbytes]
        rfl

/-- What the front of a stream is decides how its parse begins. -/
theorem parseWhole_eq (limit : UInt32) (stream : Bytes) :
    parseWhole limit.toNat stream =
      match Front.of limit stream with
      | .incomplete => ⟨[], none, stream⟩
      | .oversize length => ⟨[], some length.toNat, stream⟩
      | .complete body rest => (parseWhole limit.toNat rest).prepend [body] := by
  match stream with
  | [] | [_] | [_, _] | [_, _, _] => simp [parseWhole, Front.of, takeBigEndian?]
  | b₀ :: b₁ :: b₂ :: b₃ :: tail =>
    rw [parseWhole]
    simp only [Front.of, takeBigEndian?, ← toNat_ofBigEndian, UInt32.lt_iff_toNat_lt]
    generalize ofBigEndian b₀ b₁ b₂ b₃ = length
    by_cases hlimit : limit.toNat < length.toNat
    · simp only [if_pos hlimit]
    · simp only [if_neg hlimit]
      by_cases htail : tail.length < length.toNat
      · simp only [if_pos htail, splitExactly_eq_none_iff.2 htail]
      · have hsplit : splitExactly length.toNat tail
            = some (tail.take length.toNat, tail.drop length.toNat) :=
          splitExactly_eq_some_iff.2
            ⟨(List.take_append_drop ..).symm, by rw [List.length_take]; omega⟩
        simp only [if_neg htail, hsplit]

end Front

/-! ## Framers in use -/

/-- What is done with a framer. -/
inductive Use
  /-- Bytes that have arrived are taken in. -/
  | push (bytes : Bytes)
  /-- The next body is asked for. -/
  | pull

namespace Framer

/-- The bytes that are taken in. -/
def pushed : List Use → Bytes
  | [] => []
  | .push bytes :: uses => bytes ++ pushed uses
  | .pull :: uses => pushed uses

/-- Uses a framer, and collects what the calls returned. -/
def use {β : Type} (call : Framer → Framer × Option β) (f : Framer) :
    List Use → Framer × List (Option β)
  | [] => (f, [])
  | .push bytes :: uses => (f.push bytes).use call uses
  | .pull :: uses =>
    let (f, result) := call f
    let (f, results) := f.use call uses
    (f, result :: results)

/-- The bodies among what the calls returned. -/
def returned (results : List (Option (Except ParseError Bytes))) : List Bytes :=
  results.filterMap fun result => result.bind Except.toOption

/-- The error that a stream ends with, if it ends with one. -/
def ending (limit : UInt32) (p : Parse) : Option ParseError :=
  p.oversize.map fun length => .frameTooLarge (UInt32.ofNat length) limit

@[simp] theorem returned_ok (body : Bytes) (results : List (Option (Except ParseError Bytes))) :
    returned (some (.ok body) :: results) = body :: returned results := rfl

@[simp] theorem returned_error (e : ParseError)
    (results : List (Option (Except ParseError Bytes))) :
    returned (some (.error e) :: results) = returned results := rfl

@[simp] theorem returned_none (results : List (Option (Except ParseError Bytes))) :
    returned (none :: results) = returned results := rfl

theorem returned_append (results more : List (Option (Except ParseError Bytes))) :
    returned (results ++ more) = returned results ++ returned more :=
  List.filterMap_append

theorem pushed_pulls (count : Nat) : pushed (List.replicate count .pull) = [] := by
  induction count with
  | zero => rfl
  | succ count ih => simp [List.replicate_succ, pushed, ih]

theorem use_append {β : Type} (call : Framer → Framer × Option β) (f : Framer)
    (uses more : List Use) :
    f.use call (uses ++ more)
      = (((f.use call uses).1.use call more).1,
          (f.use call uses).2 ++ ((f.use call uses).1.use call more).2) := by
  induction uses generalizing f with
  | nil => simp [use]
  | cons step uses ih =>
    cases step with
    | push bytes => exact ih (f.push bytes)
    | pull => simp only [List.cons_append, use, ih]

/-! ### One call -/

/-- A call takes away the first body of what is kept, which is then the first body of everything
that may follow too; or it reports a length above the limit, as every later call will; or there is
no complete body, and nothing is reported. -/
theorem nextBody_cases (f : Framer) :
    (∃ body rest, f.nextBody = ({ f with buffer := rest }, some (.ok body)) ∧
      f.buffer = lengthPrefixed body ++ rest ∧
      parseWhole f.limit.toNat f.buffer = (parseWhole f.limit.toNat rest).prepend [body] ∧
      ∀ more, parseWhole f.limit.toNat (f.buffer ++ more)
        = (parseWhole f.limit.toNat (rest ++ more)).prepend [body]) ∨
    (∃ length, f.nextBody = (f, some (.error (.frameTooLarge length f.limit))) ∧
      ∀ more, (f.push more).nextBody
          = (f.push more, some (.error (.frameTooLarge length f.limit))) ∧
        parseWhole f.limit.toNat (f.buffer ++ more)
          = ⟨[], some length.toNat, f.buffer ++ more⟩) ∨
    (f.nextBody = (f, none) ∧ parseWhole f.limit.toNat f.buffer = ⟨[], none, f.buffer⟩) := by
  have hparse := Front.parseWhole_eq f.limit f.buffer
  unfold nextBody
  cases hfront : Front.of f.limit f.buffer with
  | incomplete =>
    rw [hfront] at hparse
    exact .inr (.inr ⟨rfl, hparse⟩)
  | oversize length =>
    refine .inr (.inl ⟨length, rfl, fun more => ?_⟩)
    have hmore := Front.of_append_of_oversize hfront more
    refine ⟨by simp only [push, hmore], ?_⟩
    rw [Front.parseWhole_eq, hmore]
  | complete body rest =>
    rw [hfront] at hparse
    refine .inl ⟨body, rest, rfl, Front.eq_append_of_complete hfront, hparse, fun more => ?_⟩
    rw [Front.parseWhole_eq, Front.of_append_of_complete hfront]

/-! ### Calls and pieces in any order -/

/-- What was returned, and then the parse of what is kept and still to come, is the parse of
everything. -/
theorem use_parseWhole (f : Framer) (uses : List Use) :
    (f.use nextBody uses).1.limit = f.limit ∧
      ∀ more, parseWhole f.limit.toNat (f.buffer ++ pushed uses ++ more)
        = (parseWhole f.limit.toNat ((f.use nextBody uses).1.buffer ++ more)).prepend
            (returned (f.use nextBody uses).2) := by
  induction uses generalizing f with
  | nil => exact ⟨rfl, fun more => by simp [use, pushed, returned]⟩
  | cons step uses ih =>
    cases step with
    | push bytes =>
      obtain ⟨hlimit, hparse⟩ := ih (f.push bytes)
      refine ⟨hlimit, fun more => ?_⟩
      have h := hparse more
      simp only [push, List.append_assoc] at h
      simpa only [use, pushed, push, List.append_assoc] using h
    | pull =>
      rcases f.nextBody_cases with ⟨body, rest, hcall, -, -, hfront⟩ | ⟨length, hcall, -⟩ | ⟨hcall, -⟩
      · obtain ⟨hlimit, hparse⟩ := ih { f with buffer := rest }
        simp only [use, pushed, hcall]
        refine ⟨hlimit, fun more => ?_⟩
        rw [List.append_assoc, hfront, ← List.append_assoc, hparse more, Parse.prepend_prepend,
          returned_ok, List.singleton_append]
      · simp only [use, pushed, hcall, returned_error]
        exact ih f
      · simp only [use, pushed, hcall, returned_none]
        exact ih f

/-- What was returned, each body behind its length, and then what is kept are the bytes that were
taken in. -/
theorem use_pushed (f : Framer) (uses : List Use) :
    f.buffer ++ pushed uses
      = ((returned (f.use nextBody uses).2).map lengthPrefixed).flatten
        ++ (f.use nextBody uses).1.buffer := by
  induction uses generalizing f with
  | nil => simp [use, pushed, returned]
  | cons step uses ih =>
    cases step with
    | push bytes =>
      have h := ih (f.push bytes)
      simp only [push, List.append_assoc] at h
      simpa only [use, pushed, push] using h
    | pull =>
      rcases f.nextBody_cases with ⟨body, rest, hcall, hbuffer, -⟩ | ⟨length, hcall, -⟩ | ⟨hcall, -⟩
      · simp only [use, pushed, hcall, returned_ok, List.map_cons, List.flatten_cons]
        rw [hbuffer, List.append_assoc, List.append_assoc, ← ih { f with buffer := rest }]
      · simp only [use, pushed, hcall, returned_error]
        exact ih f
      · simp only [use, pushed, hcall, returned_none]
        exact ih f

/-- Calls alone return the bodies that are complete, one after the other. -/
theorem use_pulls (f : Framer) (count : Nat) :
    returned (f.use nextBody (List.replicate count .pull)).2
      = (parseWhole f.limit.toNat f.buffer).bodies.take count := by
  induction count generalizing f with
  | zero => rfl
  | succ count ih =>
    rw [List.replicate_succ]
    rcases f.nextBody_cases with ⟨body, rest, hcall, -, hparse, -⟩ | ⟨length, hcall, hall⟩ |
      ⟨hcall, hparse⟩
    · simp only [use, hcall, returned_ok, hparse, Parse.prepend, List.singleton_append,
        List.take_succ_cons]
      rw [ih { f with buffer := rest }]
    · have hparse := (hall []).2
      rw [List.append_nil] at hparse
      simp only [use, hcall, returned_error]
      rw [ih f, hparse, List.take_nil, List.take_nil]
    · simp only [use, hcall, returned_none]
      rw [ih f, hparse, List.take_nil, List.take_nil]

/-- When no complete body is left, a call changes nothing and reports how the parse ended, which is
where what is kept begins. -/
theorem nextBody_of_no_bodies (f : Framer)
    (h : (parseWhole f.limit.toNat f.buffer).bodies = []) :
    f.nextBody = (f, (ending f.limit (parseWhole f.limit.toNat f.buffer)).map .error) ∧
      f.buffer = (parseWhole f.limit.toNat f.buffer).rest := by
  rcases f.nextBody_cases with ⟨body, rest, -, -, hparse, -⟩ | ⟨length, hcall, hall⟩ |
    ⟨hcall, hparse⟩
  · rw [hparse] at h
    cases h
  · have hparse := (hall []).2
    rw [List.append_nil] at hparse
    rw [hparse, hcall]
    exact ⟨by simp [ending], rfl⟩
  · rw [hparse, hcall]
    exact ⟨rfl, rfl⟩

/-- Enough calls take away every body that is complete, and then a call reports how the parse
ended. -/
theorem use_pulls_drained (f : Framer) (count : Nat)
    (h : (parseWhole f.limit.toNat f.buffer).bodies.length ≤ count) :
    let drained := f.use nextBody (List.replicate count .pull)
    returned drained.2 = (parseWhole f.limit.toNat f.buffer).bodies ∧
      drained.1.buffer = (parseWhole f.limit.toNat f.buffer).rest ∧
      drained.1.nextBody
        = (drained.1, (ending f.limit (parseWhole f.limit.toNat f.buffer)).map .error) := by
  intro drained
  have hreturned : returned drained.2 = (parseWhole f.limit.toNat f.buffer).bodies := by
    rw [use_pulls, List.take_of_length_le h]
  obtain ⟨hlimit, hparse⟩ := use_parseWhole f (List.replicate count .pull)
  have hparse := hparse []
  rw [pushed_pulls, List.append_nil, List.append_nil, List.append_nil] at hparse
  have hnone : (parseWhole drained.1.limit.toNat drained.1.buffer).bodies = [] := by
    have hbodies := congrArg Parse.bodies hparse
    rw [← hreturned, Parse.prepend, List.self_eq_append_right] at hbodies
    rw [hlimit]
    exact hbodies
  obtain ⟨hcall, hbuffer⟩ := nextBody_of_no_bodies drained.1 hnone
  rw [hlimit] at hcall hbuffer
  refine ⟨hreturned, ?_, ?_⟩
  · rw [hparse]
    exact hbuffer
  · rw [hparse]
    exact hcall

/-- A call returns the next body, or reports how the parse of what is kept ends. -/
theorem nextBody_result (f : Framer) :
    f.nextBody.2 = match (parseWhole f.limit.toNat f.buffer).bodies with
      | body :: _ => some (.ok body)
      | [] => (ending f.limit (parseWhole f.limit.toNat f.buffer)).map .error := by
  rcases f.nextBody_cases with ⟨body, rest, hcall, -, hparse, -⟩ | ⟨length, hcall, hall⟩ |
    ⟨hcall, hparse⟩
  · rw [hcall, hparse]
    rfl
  · have hparse := (hall []).2
    rw [List.append_nil] at hparse
    rw [hparse, hcall]
    simp [ending]
  · rw [hparse, hcall]
    rfl

/-- From a length above the limit on, every call reports it and what arrives is only kept. -/
theorem use_of_error {f : Framer} {e : ParseError} (h : f.nextBody.2 = some (.error e))
    (uses : List Use) :
    (f.use nextBody uses).1.buffer = f.buffer ++ pushed uses ∧
      ∀ result ∈ (f.use nextBody uses).2, result = some (.error e) := by
  induction uses generalizing f with
  | nil => simp [use, pushed]
  | cons step uses ih =>
    rcases f.nextBody_cases with ⟨body, rest, hcall, -⟩ | ⟨length, hcall, hall⟩ | ⟨hcall, -⟩
    · simp [hcall] at h
    · rw [hcall] at h
      cases step with
      | push bytes =>
        have := ih (f := f.push bytes) (by rw [(hall bytes).1]; exact h)
        simpa only [use, pushed, push, List.append_assoc] using this
      | pull =>
        simp only [use, pushed, hcall, List.mem_cons, forall_eq_or_imp]
        obtain ⟨hbuffer, hresults⟩ := ih (f := f) (by rw [hcall]; exact h)
        exact ⟨hbuffer, h, hresults⟩
    · simp [hcall] at h

/-- Reading each body as it is returned changes nothing but what is made of the body. -/
theorem use_next {α : Type} (decode : Bytes → Except ParseError α) (f : Framer)
    (uses : List Use) :
    f.use (next decode) uses
      = ((f.use nextBody uses).1,
          (f.use nextBody uses).2.map (Option.map fun result => result.bind decode)) := by
  induction uses generalizing f with
  | nil => rfl
  | cons step uses ih =>
    cases step with
    | push bytes => exact ih (f.push bytes)
    | pull => simp only [use, next, ih, List.map_cons]

/-! ### Waiting for frames -/

/-- Waits for a number of frames, one after the other. -/
def receiveTimes : Nat → Framer → List Bytes → List (Except LinkError (Option Frame))
  | 0, _, _ => []
  | count + 1, f, pieces =>
    let (f, pieces, result) := f.receive pieces
    result :: receiveTimes count f pieces

/-- What a body is for someone who waits for a frame. -/
def receiptOf (body : Bytes) : Except LinkError (Option Frame) :=
  match Frame.decodeBody body with
  | .ok frame => .ok (some frame)
  | .error e => .error (.framing e)

/-- What waiting for a frame comes to after some others: the next body, or how the stream ended,
once no complete body is left. -/
def receipt (limit : UInt32) (p : Parse) (earlier : Nat) : Except LinkError (Option Frame) :=
  match p.bodies[earlier]?, ending limit p with
  | some body, _ => receiptOf body
  | none, some e => .error (.framing e)
  | none, none => .ok none

/-- The stream after its first body. -/
def afterFirst (p : Parse) : Parse :=
  { p with bodies := p.bodies.tail }

theorem receipt_afterFirst (limit : UInt32) (p : Parse) (earlier : Nat) :
    receipt limit (afterFirst p) earlier = receipt limit p (earlier + 1) := by
  unfold receipt
  rw [afterFirst, List.getElem?_tail]
  rfl

/-- Waiting is over with the first call that returns something. -/
theorem receive_of_some {f g : Framer} {result : Except ParseError Bytes}
    (h : f.nextBody = (g, some result)) (pieces : List Bytes) :
    f.receive pieces = (g, pieces, match result with
      | .ok body => receiptOf body
      | .error e => .error (.framing e)) := by
  have hframe : f.nextFrame = (g, some (result.bind Frame.decodeBody)) := by
    simp only [nextFrame, next, h, Option.map_some]
  rw [receive.eq_def, hframe]
  cases result with
  | error e => rfl
  | ok body =>
    simp only [Except.bind, receiptOf]
    cases Frame.decodeBody body <;> rfl

/-- Without a complete body the stream is read on, to its end if it has to be. -/
theorem receive_of_none {f : Framer} (h : f.nextBody = (f, none)) (pieces : List Bytes)
    (hpieces : ∀ piece ∈ pieces, piece ≠ []) :
    f.receive pieces = match pieces with
      | [] => (f, [], .ok none)
      | piece :: pieces => (f.push piece).receive pieces := by
  have hframe : f.nextFrame = (f, none) := by
    simp only [nextFrame, next, h, Option.map_none]
  rw [receive.eq_def, hframe]
  cases pieces with
  | nil => rfl
  | cons piece pieces =>
    have hpiece : piece.isEmpty = false := by simpa using hpieces piece (List.mem_cons_self ..)
    simp only [hpiece, Bool.false_eq_true, if_false]

/-- Waiting goes through as many pieces as it needs, and takes the first body of what is kept and
still to come. -/
theorem receive_spec (f : Framer) (pieces : List Bytes) (h : ∀ piece ∈ pieces, piece ≠ []) :
    let p := parseWhole f.limit.toNat (f.buffer ++ pieces.flatten)
    let after := f.receive pieces
    after.1.limit = f.limit ∧ (∀ piece ∈ after.2.1, piece ≠ []) ∧
      after.2.2 = receipt f.limit p 0 ∧
      parseWhole f.limit.toNat (after.1.buffer ++ after.2.1.flatten) = afterFirst p := by
  rcases f.nextBody_cases with ⟨body, rest, hcall, -, -, hfront⟩ | ⟨length, hcall, hall⟩ |
    ⟨hcall, hparse⟩
  · rw [receive_of_some hcall, hfront]
    exact ⟨rfl, h, rfl, rfl⟩
  · rw [receive_of_some hcall, (hall _).2]
    exact ⟨rfl, h, by simp [receipt, ending], by rw [(hall _).2]; rfl⟩
  · rw [receive_of_none hcall pieces h]
    match pieces with
    | [] =>
      rw [List.flatten_nil, List.append_nil, hparse]
      exact ⟨rfl, h, rfl, by simp [hparse, afterFirst]⟩
    | piece :: pieces =>
      rw [List.flatten_cons, ← List.append_assoc]
      exact receive_spec (f.push piece) pieces fun p hp => h p (List.mem_cons_of_mem piece hp)

/-- Waiting for one frame after the other goes through the bodies of the stream in order. -/
theorem receiveTimes_eq (count : Nat) (f : Framer) (pieces : List Bytes)
    (h : ∀ piece ∈ pieces, piece ≠ []) :
    receiveTimes count f pieces = (List.range count).map
      (receipt f.limit (parseWhole f.limit.toNat (f.buffer ++ pieces.flatten))) := by
  induction count generalizing f pieces with
  | zero => rfl
  | succ count ih =>
    obtain ⟨hlimit, hpieces, hresult, hparse⟩ := receive_spec f pieces h
    rw [List.range_succ_eq_map, List.map_cons, List.map_map]
    simp only [receiveTimes]
    rw [hresult, ih _ _ hpieces, hlimit, hparse]
    congr 1
    exact List.map_congr_left fun earlier _ => receipt_afterFirst ..

/-! ## The cuts do not matter -/

/-- A length at which a parse ends is above the limit, and is a word. -/
theorem oversize_bounds {limit : Nat} {stream : Bytes} {length : Nat}
    (h : (parseWhole limit stream).oversize = some length) : limit < length ∧ length < UInt32.size := by
  fun_induction parseWhole limit stream with
  | case1 b₀ b₁ b₂ b₃ tail size hlimit =>
    have h₀ := b₀.toNat_lt
    have h₁ := b₁.toNat_lt
    have h₂ := b₂.toNat_lt
    have h₃ := b₃.toNat_lt
    have hsize : size = length := Option.some.inj h
    rw [← hsize]
    exact ⟨hlimit, by rw [UInt32.size]; omega⟩
  | case2 => cases h
  | case3 b₀ b₁ b₂ b₃ tail size hlimit htail ih => exact ih h
  | case4 => cases h

/-- **What a framer returns does not depend on the cuts.** Whatever pieces a stream comes in, and
whenever a body is asked for, the calls return the bodies of the whole stream in order, and what is
kept is the part that they have not gone through. A length above the limit is reported when
everything before it was returned, and from then on by every call. Reading the bodies as frames or
commands changes nothing but what is made of each body. Whoever waits for frames gets the bodies as
frames, one for each wait, and at last how the stream ended. -/
theorem framing_independent_of_cuts (limit : UInt32) :
    (∀ uses : List Use,
      let whole := parseWhole limit.toNat (pushed uses)
      let used := ({ limit } : Framer).use nextBody uses
      -- The calls have returned the first bodies, and the next call returns the one after them.
      (∃ later, whole.bodies = returned used.2 ++ later ∧
        pushed uses = ((returned used.2).map lengthPrefixed).flatten ++ used.1.buffer ∧
        used.1.nextBody.2 = match later with
          | body :: _ => some (.ok body)
          | [] => (ending limit whole).map .error) ∧
      -- With enough calls at the end they have returned all of them.
      (∀ count, whole.bodies.length ≤ count →
        let drained := ({ limit } : Framer).use nextBody (uses ++ List.replicate count .pull)
        returned drained.2 = whole.bodies ∧ drained.1.buffer = whole.rest ∧
          drained.1.nextBody = (drained.1, (ending limit whole).map .error)) ∧
      (∀ length, whole.oversize = some length →
        limit.toNat < length ∧ (UInt32.ofNat length).toNat = length) ∧
      (∀ e, used.1.nextBody.2 = some (.error e) → ∀ more,
        (used.1.use nextBody more).1.buffer = used.1.buffer ++ pushed more ∧
          ∀ result ∈ (used.1.use nextBody more).2, result = some (.error e)) ∧
      (∀ {α : Type} (decode : Bytes → Except ParseError α),
        ({ limit } : Framer).use (next decode) uses
          = (used.1, used.2.map (Option.map fun result => result.bind decode)))) ∧
    (∀ pieces : List Bytes, (∀ piece ∈ pieces, piece ≠ []) → ∀ count,
      receiveTimes count { limit } pieces
        = (List.range count).map (receipt limit (parseWhole limit.toNat pieces.flatten))) := by
  refine ⟨fun uses => ?_, fun pieces hpieces count => receiveTimes_eq count _ pieces hpieces⟩
  intro whole used
  obtain ⟨hsame, hparse⟩ := use_parseWhole { limit } uses
  have hlimit : used.1.limit = limit := hsame
  have hwhole : whole = (parseWhole limit.toNat used.1.buffer).prepend (returned used.2) := by
    have h := hparse []
    rwa [List.append_nil, List.append_nil, List.nil_append] at h
  refine ⟨?_, ?_, ?_, fun e he more => use_of_error he more, fun decode => use_next decode _ uses⟩
  · have hresult := nextBody_result used.1
    rw [hlimit] at hresult
    refine ⟨_, congrArg Parse.bodies hwhole, use_pushed { limit } uses, ?_⟩
    rw [hresult, hwhole]
    rfl
  · intro count hcount
    rw [hwhole, Parse.prepend, List.length_append] at hcount
    have hdrained := use_pulls_drained used.1 count (by rw [hlimit]; omega)
    rw [hlimit] at hdrained
    obtain ⟨hreturned, hbuffer, hcall⟩ := hdrained
    intro drained
    have hdrained : drained = ((used.1.use nextBody (List.replicate count .pull)).1,
        used.2 ++ (used.1.use nextBody (List.replicate count .pull)).2) := use_append ..
    rw [hdrained, hwhole]
    exact ⟨by rw [returned_append, hreturned]; rfl, hbuffer, hcall⟩
  · intro length hlength
    obtain ⟨habove, hword⟩ := oversize_bounds hlength
    exact ⟨habove, UInt32.toNat_ofNat_of_lt' hword⟩

/-- The length of the first body comes in two pieces, and the length after it is above the limit. -/
theorem framing_of_split_length :
    let uses : List Use := [.push [0, 0], .pull, .push [0, 1, 7, 0, 0, 0, 9], .pull]
    let used := ({ limit := 4 } : Framer).use nextBody uses
    let drained := ({ limit := 4 } : Framer).use nextBody (uses ++ List.replicate 1 .pull)
    let pieces : List Bytes := [[0, 0], [0, 1, 7, 0, 0, 0, 9]]
    (parseWhole 4 (pushed uses)).bodies.length ≤ 1 ∧ returned drained.2 = [[7]] ∧
      used.1.nextBody.2 = some (.error (.frameTooLarge 9 4)) ∧
      (∀ more, (used.1.use nextBody more).1.buffer = [0, 0, 0, 9] ++ pushed more) ∧
      (∀ piece ∈ pieces, piece ≠ []) ∧
      receiveTimes 2 { limit := 4 } pieces
        = [.error (.framing (.truncatedHeader 1 16)),
            .error (.framing (.frameTooLarge 9 4))] := by
  intro uses used drained pieces
  have hparse : parseWhole 4 [0, 0, 0, 1, 7, 0, 0, 0, 9] = ⟨[[7]], some 9, [0, 0, 0, 9]⟩ := by
    simp [parseWhole, Parse.prepend]
  have hcount : (parseWhole 4 (pushed uses)).bodies.length ≤ 1 := by
    show (parseWhole 4 [0, 0, 0, 1, 7, 0, 0, 0, 9]).bodies.length ≤ 1
    rw [hparse]
    decide
  have herror : used.1.nextBody.2 = some (.error (.frameTooLarge 9 4)) := rfl
  have hpieces : ∀ piece ∈ pieces, piece ≠ [] := by decide
  obtain ⟨huses, hreceive⟩ := framing_independent_of_cuts 4
  obtain ⟨-, hdrained, -, hrepeat, -⟩ := huses uses
  refine ⟨hcount, ?_, herror, fun more => (hrepeat _ herror more).1, hpieces, ?_⟩
  · rw [(hdrained 1 hcount).1]
    exact congrArg Parse.bodies hparse
  · rw [hreceive pieces hpieces 2]
    show (List.range 2).map (receipt 4 (parseWhole 4 [0, 0, 0, 1, 7, 0, 0, 0, 9])) = _
    rw [hparse]
    rfl

end Framer

end RadioLink
