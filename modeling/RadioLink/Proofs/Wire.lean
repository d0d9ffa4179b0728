import RadioLink.Proofs.Framing

set_option autoImplicit false

/-! # Frames and commands on the wire

Writing and reading undo each other: a frame or command that is written can be read back from the
front of a stream if its body is within the limit, and a frame that was read off a stream is there
as it would be written. -/

namespace RadioLink

theorem lengthPrefixed_ne_nil (body : Bytes) : lengthPrefixed body ≠ [] := by
  intro h
  have hlength := congrArg List.length h
  simp [lengthPrefixed, bigEndian] at hlength

namespace Frame

@[simp] theorem length_encodeBody (frame : Frame) :
    frame.encodeBody.length = frameHeaderSize + frame.payload.length := by
  simp only [encodeBody, List.length_append, length_littleEndian, frameHeaderSize]

theorem decodeBody_encodeBody (frame : Frame) : decodeBody frame.encodeBody = .ok frame := by
  have hsplit : splitHeader? frame.encodeBody = some (frame.kind.tag, frame.token.raw, frame.id,
      frame.status.code.toUInt32, frame.payload) := by
    simp only [splitHeader?, encodeBody, List.append_assoc, takeLittleEndian?_append, bind,
      Option.bind]
  simp only [decodeBody, hsplit, FrameKind.ofTag?_tag]
  rfl

/-- A body that is a frame is the body of that frame. -/
theorem encodeBody_of_decodeBody {body : Bytes} {frame : Frame}
    (h : decodeBody body = .ok frame) : frame.encodeBody = body := by
  unfold decodeBody at h
  split at h
  · cases h
  · next tag token id status payload hsplit =>
    split at h
    · cases h
    · next kind hkind =>
      cases h
      simp only [splitHeader?, bind, Option.bind_eq_some_iff, Option.some.injEq,
        Prod.mk.injEq, Prod.exists] at hsplit
      obtain ⟨_, _, hbody, _, _, htoken, _, _, hid, _, _, hstatus, rfl, rfl, rfl, rfl, rfl⟩ :=
        hsplit
      rw [takeLittleEndian?_eq_some_iff] at hbody htoken hid hstatus
      rw [encodeBody, FrameKind.tag_of_ofTag? hkind, hbody, htoken, hid, hstatus]
      simp only [List.append_assoc]
      rfl

end Frame

namespace Command

@[simp] theorem length_encodeBody (command : Command) :
    command.encodeBody.length = commandHeaderSize + command.payload.length := by
  simp only [encodeBody, List.length_append, length_littleEndian, commandHeaderSize]

theorem decodeBody_encodeBody (command : Command) :
    decodeBody command.encodeBody = .ok command := by
  have hsplit : splitHeader? command.encodeBody
      = some (command.request.raw, command.token.raw, command.payload) := by
    simp only [splitHeader?, encodeBody, List.append_assoc, takeLittleEndian?_append, bind,
      Option.bind]
  simp only [decodeBody, hsplit]

/-- A body that is a command is the body of that command. -/
theorem encodeBody_of_decodeBody {body : Bytes} {command : Command}
    (h : decodeBody body = .ok command) : command.encodeBody = body := by
  unfold decodeBody at h
  split at h
  · cases h
  · next request token payload hsplit =>
    cases h
    simp only [splitHeader?, bind, Option.bind_eq_some_iff, Option.some.injEq, Prod.mk.injEq,
      Prod.exists] at hsplit
    obtain ⟨_, _, hbody, _, _, htoken, rfl, rfl, rfl⟩ := hsplit
    rw [takeLittleEndian?_eq_some_iff] at hbody htoken
    rw [encodeBody, hbody, htoken, List.append_assoc]

end Command

namespace Front

/-- A body within the limit is complete as soon as it is there. -/
theorem of_lengthPrefixed {limit : UInt32} {body : Bytes} (h : body.length ≤ limit.toNat)
    (rest : Bytes) : Front.of limit (lengthPrefixed body ++ rest) = .complete body rest := by
  have hlength : (UInt32.ofNat body.length).toNat = body.length :=
    UInt32.toNat_ofNat_of_lt' (Nat.lt_of_le_of_lt h limit.toNat_lt)
  have hlimit : ¬ limit < UInt32.ofNat body.length := by
    rw [UInt32.lt_iff_toNat_lt, hlength]
    omega
  have hsplit : splitExactly body.length (body ++ rest) = some (body, rest) :=
    splitExactly_eq_some_iff.2 ⟨rfl, rfl⟩
  simp only [Front.of, lengthPrefixed, List.append_assoc, takeBigEndian?_append, if_neg hlimit,
    hlength, hsplit]

theorem length_le_of_complete {limit : UInt32} {stream body rest : Bytes}
    (h : Front.of limit stream = .complete body rest) : body.length ≤ limit.toNat := by
  unfold Front.of at h
  split at h
  · cases h
  · split at h
    · cases h
    · next hlimit =>
      split at h
      · cases h
      · next hsplit =>
        cases h
        rw [(splitExactly_eq_some_iff.1 hsplit).2]
        exact Nat.le_of_not_lt hlimit

/-- Of a stream that starts with a body, nothing else than that body is ever complete. -/
theorem of_prefix {limit : UInt32} {body stream more others : Bytes}
    (h : body.length ≤ limit.toNat) (hstream : stream ++ more = lengthPrefixed body ++ others) :
    Front.of limit stream = .incomplete ∨
      ∃ rest, Front.of limit stream = .complete body rest ∧ rest ++ more = others := by
  have hwhole := of_lengthPrefixed h others
  rw [← hstream] at hwhole
  cases hfront : Front.of limit stream with
  | incomplete => exact .inl rfl
  | oversize length =>
    rw [of_append_of_oversize hfront more] at hwhole
    cases hwhole
  | complete found rest =>
    rw [of_append_of_complete hfront more] at hwhole
    cases hwhole
    exact .inr ⟨rest, rfl, rfl⟩

/-- Of a stream that starts with a body, nothing else than that body is ever complete, also if the
body is too long to be accepted. -/
theorem eq_of_complete {limit : UInt32} {body stream more others found rest : Bytes}
    (hbody : body.length < UInt32.size) (hstream : stream ++ more = lengthPrefixed body ++ others)
    (h : Front.of limit stream = .complete found rest) : found = body ∧ rest ++ more = others := by
  have hfound : found.length ≤ (4294967295 : UInt32).toNat :=
    Nat.le_trans (length_le_of_complete h) (Nat.le_of_lt_succ limit.toNat_lt)
  have hwhole : body.length ≤ (4294967295 : UInt32).toNat := Nat.le_of_lt_succ hbody
  rw [eq_append_of_complete h, List.append_assoc] at hstream
  -- Under the highest limit there is, the front of the same stream is both of them.
  have hfirst := of_lengthPrefixed hfound (rest ++ more)
  have hsecond := of_lengthPrefixed hwhole others
  rw [hstream, hsecond] at hfirst
  cases hfirst
  exact ⟨rfl, rfl⟩

end Front

namespace Framer

/-- A frame that was read was at the front of the buffer, and is not longer than the limit. -/
theorem of_nextFrame {f : Framer} {frame : Frame} (h : f.nextFrame.2 = some (.ok frame)) :
    f.nextFrame.1.limit = f.limit ∧ f.buffer = frame.encode ++ f.nextFrame.1.buffer ∧
      frame.encodeBody.length ≤ f.limit.toNat := by
  have hbody : f.nextFrame.1 = f.nextBody.1 := rfl
  rw [hbody]
  simp only [nextFrame, next, nextBody] at h ⊢
  cases hfront : Front.of f.limit f.buffer with
  | incomplete =>
    rw [hfront] at h
    cases h
  | oversize length =>
    rw [hfront] at h
    cases h
  | complete body rest =>
    rw [hfront] at h
    have hdecode : Frame.decodeBody body = .ok frame := Option.some.inj h
    have hencode := Frame.encodeBody_of_decodeBody hdecode
    refine ⟨rfl, ?_, ?_⟩
    · rw [Frame.encode, hencode]
      exact Front.eq_append_of_complete hfront
    · rw [hencode]
      exact Front.length_le_of_complete hfront

/-- Of a stream of frames, the next one is read when it is there, and nothing before that. -/
theorem nextFrame_of_frames {f : Framer} {frames : List Frame} {more : Bytes}
    (h : f.buffer ++ more = frames.flatMap Frame.encode)
    (hlimit : ∀ frame ∈ frames, frame.encodeBody.length ≤ f.limit.toNat) :
    f.nextFrame.2 = none ∨ ∃ frame rest, frames = frame :: rest ∧
      f.nextFrame.2 = some (.ok frame) ∧
      f.nextFrame.1.buffer ++ more = rest.flatMap Frame.encode := by
  simp only [nextFrame, next, nextBody]
  cases frames with
  | nil =>
    obtain ⟨hbuffer, -⟩ := List.append_eq_nil_iff.1 h
    rw [hbuffer]
    exact .inl rfl
  | cons frame rest =>
    rw [List.flatMap_cons] at h
    rcases Front.of_prefix (hlimit frame List.mem_cons_self) h with hfront | ⟨left, hfront, hleft⟩
    · rw [hfront]
      exact .inl rfl
    · rw [hfront]
      refine .inr ⟨frame, rest, rfl, ?_, hleft⟩
      show some (Frame.decodeBody frame.encodeBody) = _
      rw [Frame.decodeBody_encodeBody]

/-- A frame that is there in full is read. -/
theorem nextFrame_of_encode {f : Framer} {frame : Frame} {rest : Bytes}
    (h : f.buffer = frame.encode ++ rest) (hlimit : frame.encodeBody.length ≤ f.limit.toNat) :
    f.nextFrame.2 = some (.ok frame) := by
  have hfront := Front.of_lengthPrefixed hlimit rest
  simp only [nextFrame, next, nextBody, h, Frame.encode, hfront]
  show some (Frame.decodeBody frame.encodeBody) = _
  rw [Frame.decodeBody_encodeBody]

section Drain

variable {α : Type} {decode : Bytes → Except ParseError α} {f : Framer}

theorem drain_of_incomplete (h : Front.of f.limit f.buffer = .incomplete) :
    f.drain decode = (f, [], none) := by
  rw [drain]
  split
  · rfl
  · next hfront =>
    rw [h] at hfront
    cases hfront
  · next hfront =>
    rw [h] at hfront
    cases hfront

theorem drain_of_oversize {length : UInt32} (h : Front.of f.limit f.buffer = .oversize length) :
    f.drain decode = (f, [], some (.frameTooLarge length f.limit)) := by
  rw [drain]
  split
  · next hfront =>
    rw [h] at hfront
    cases hfront
  · next hfront =>
    rw [h] at hfront
    cases hfront
    rfl
  · next hfront =>
    rw [h] at hfront
    cases hfront

theorem drain_of_complete {body rest : Bytes} {value : α}
    (h : Front.of f.limit f.buffer = .complete body rest) (hdecode : decode body = .ok value) :
    f.drain decode = ((drain decode { f with buffer := rest }).1,
      value :: (drain decode { f with buffer := rest }).2.1,
      (drain decode { f with buffer := rest }).2.2) := by
  rw [drain]
  split
  · next hfront =>
    rw [h] at hfront
    cases hfront
  · next hfront =>
    rw [h] at hfront
    cases hfront
  · next hfront =>
    rw [h] at hfront
    cases hfront
    rw [hdecode]

end Drain

/-- Of a stream of commands, some are read from the front, until no complete one is there that is
short enough. -/
theorem drain_prefix {f : Framer} {commands : List Command} {more : Bytes}
    (h : f.buffer ++ more = commands.flatMap Command.encode)
    (hshort : ∀ command ∈ commands, command.encodeBody.length < UInt32.size) :
    ∃ read rest framer ending, commands = read ++ rest ∧
      f.drain Command.decodeBody = (framer, read, ending) ∧ framer.limit = f.limit ∧
      f.buffer = read.flatMap Command.encode ++ framer.buffer ∧
      framer.buffer ++ more = rest.flatMap Command.encode ∧
      ∀ body left, Front.of f.limit framer.buffer ≠ .complete body left := by
  induction commands generalizing f with
  | nil =>
    obtain ⟨hbuffer, rfl⟩ := List.append_eq_nil_iff.1 h
    have hfront : Front.of f.limit f.buffer = .incomplete := by rw [hbuffer]; rfl
    refine ⟨[], [], f, none, rfl, drain_of_incomplete hfront, rfl, rfl, h, ?_⟩
    rw [hfront]
    exact fun _ _ => Front.noConfusion
  | cons command commands ih =>
    cases hfront : Front.of f.limit f.buffer with
    | incomplete =>
      refine ⟨[], command :: commands, f, none, rfl, drain_of_incomplete hfront, rfl, rfl, h, ?_⟩
      rw [hfront]
      exact fun _ _ => Front.noConfusion
    | oversize length =>
      refine ⟨[], command :: commands, f, _, rfl, drain_of_oversize hfront, rfl, rfl, h, ?_⟩
      rw [hfront]
      exact fun _ _ => Front.noConfusion
    | complete found left =>
      obtain ⟨rfl, hleft⟩ := Front.eq_of_complete (hshort command List.mem_cons_self) h hfront
      obtain ⟨read, rest, framer, ending, rfl, hdrain, hsame, hbuffer, hrest, hstops⟩ :=
        ih (f := { f with buffer := left }) hleft fun other hmem =>
          hshort other (List.mem_cons_of_mem command hmem)
      refine ⟨command :: read, rest, framer, ending, rfl, ?_, hsame, ?_, hrest, hstops⟩
      · rw [drain_of_complete hfront command.decodeBody_encodeBody, hdrain]
      · rw [Front.eq_append_of_complete hfront, List.flatMap_cons, List.append_assoc, ← hbuffer]
        rfl

/-- Of a stream of commands, all those are read that are there in full. -/
theorem drain_commands {f : Framer} {commands : List Command} {more : Bytes}
    (h : f.buffer ++ more = commands.flatMap Command.encode)
    (hlimit : ∀ command ∈ commands, command.encodeBody.length ≤ f.limit.toNat) :
    ∃ read rest framer, commands = read ++ rest ∧
      f.drain Command.decodeBody = (framer, read, none) ∧ framer.limit = f.limit ∧
      framer.buffer ++ more = rest.flatMap Command.encode ∧
      Front.of f.limit framer.buffer = .incomplete := by
  induction commands generalizing f with
  | nil =>
    obtain ⟨hbuffer, rfl⟩ := List.append_eq_nil_iff.1 h
    have hfront : Front.of f.limit f.buffer = .incomplete := by rw [hbuffer]; rfl
    exact ⟨[], [], f, rfl, drain_of_incomplete hfront, rfl, h, hfront⟩
  | cons command commands ih =>
    rw [List.flatMap_cons] at h
    rcases Front.of_prefix (hlimit command List.mem_cons_self) h with hfront | ⟨left, hfront, hleft⟩
    · rw [← List.flatMap_cons] at h
      exact ⟨[], command :: commands, f, rfl, drain_of_incomplete hfront, rfl, h, hfront⟩
    · obtain ⟨read, rest, framer, rfl, hdrain, hsame, hbuffer, hincomplete⟩ :=
        ih (f := { f with buffer := left }) hleft fun other hmem =>
          hlimit other (List.mem_cons_of_mem command hmem)
      refine ⟨command :: read, rest, framer, rfl, ?_, hsame, hbuffer, hincomplete⟩
      rw [drain_of_complete hfront command.decodeBody_encodeBody, hdrain]

end Framer

end RadioLink
