import RadioLink.Proofs.Wire

set_option autoImplicit false

/-! # Which bytes are bodies

A body is a header of words with anything at all behind it. So whether bytes are the body of a
command is decided by how many there are, and for a frame by the first word too. What is read from
a body is then the only value that is written as that body. -/

namespace RadioLink

/-! ## Headers -/

/-- A reader that fails on fewer bytes than these, and on no others. -/
def Needs {α : Type} (count : Nat) (read : Bytes → Option α) : Prop :=
  ∀ bytes, read bytes = none ↔ bytes.length < count

theorem needs_nothing {α : Type} (value : Bytes → α) : Needs 0 fun bytes => some (value bytes) := by
  intro bytes
  simp

/-- A word takes four bytes off those that are left for the rest of the header. -/
theorem Needs.word {α : Type} {count : Nat} {read : UInt32 → Bytes → Option α}
    (h : ∀ word, Needs count (read word)) :
    Needs (count + 4) fun bytes =>
      takeLittleEndian? bytes >>= fun (word, rest) => read word rest := by
  intro bytes
  match bytes with
  | [] | [_] | [_, _] | [_, _, _] => simp [takeLittleEndian?]
  | b₀ :: b₁ :: b₂ :: b₃ :: rest =>
    show read (ofLittleEndian b₀ b₁ b₂ b₃) rest = none ↔ rest.length + 4 < count + 4
    rw [h]
    omega

/-- Bytes start with one word only. -/
theorem littleEndian_append_inj {word other : UInt32} {rest last : Bytes}
    (h : littleEndian word ++ rest = littleEndian other ++ last) : word = other := by
  have htake := takeLittleEndian?_append word rest
  rw [h, takeLittleEndian?_append] at htake
  cases htake
  rfl

theorem FrameKind.ofTag?_eq_none_iff {tag : UInt32} :
    ofTag? tag = none ↔ tag ∉ all.map FrameKind.tag := by
  constructor
  · intro hnone hmem
    obtain ⟨kind, -, rfl⟩ := List.mem_map.1 hmem
    rw [ofTag?_tag] at hnone
    cases hnone
  · intro hmem
    cases hkind : ofTag? tag with
    | none => rfl
    | some kind =>
      refine absurd (List.mem_map.2 ⟨kind, ?_, tag_of_ofTag? hkind⟩) hmem
      cases kind <;> decide

/-! ## What reading a body comes to -/

namespace Frame

theorem needs_splitHeader? : Needs frameHeaderSize splitHeader? :=
  Needs.word fun tag => Needs.word fun token => Needs.word fun id => Needs.word fun status =>
    needs_nothing fun payload => (tag, token, id, status, payload)

/-- The first word of a header is the first word of the body. -/
theorem starts_of_splitHeader? {body payload : Bytes} {tag token id status : UInt32}
    (h : splitHeader? body = some (tag, token, id, status, payload)) :
    ∃ rest, body = littleEndian tag ++ rest := by
  simp only [splitHeader?, bind, Option.bind_eq_some_iff, Prod.exists] at h
  obtain ⟨word, rest, hword, hothers⟩ := h
  obtain rfl : word = tag := by
    obtain ⟨_, _, -, _, _, -, _, _, -, hparts⟩ := hothers
    cases hparts
    rfl
  exact ⟨rest, takeLittleEndian?_eq_some_iff.1 hword⟩

/-- The bytes are too few for a header, or they start with a word that is no kind, or they are the
body of a frame. -/
theorem decodeBody_cases (body : Bytes) :
    (body.length < 16 ∧ decodeBody body = .error (.truncatedHeader body.length 16)) ∨
    (∃ tag rest, body = littleEndian tag ++ rest ∧ tag ∉ FrameKind.all.map FrameKind.tag ∧
      decodeBody body = .error (.unknownKind tag)) ∨
    ∃ frame : Frame, body = frame.encodeBody ∧ decodeBody body = .ok frame := by
  cases hsplit : splitHeader? body with
  | none =>
    refine .inl ⟨(needs_splitHeader? body).1 hsplit, ?_⟩
    rw [decodeBody, hsplit]
    rfl
  | some parts =>
    obtain ⟨tag, token, id, status, payload⟩ := parts
    cases hkind : FrameKind.ofTag? tag with
    | none =>
      obtain ⟨rest, hbody⟩ := starts_of_splitHeader? hsplit
      refine .inr (.inl ⟨tag, rest, hbody, FrameKind.ofTag?_eq_none_iff.1 hkind, ?_⟩)
      rw [decodeBody, hsplit]
      simp only [hkind]
    | some kind =>
      have hdecode : decodeBody body = .ok ⟨kind, ⟨token⟩, id, ⟨status.toInt32⟩, payload⟩ := by
        rw [decodeBody, hsplit]
        simp only [hkind]
      exact .inr (.inr ⟨_, (encodeBody_of_decodeBody hdecode).symm, hdecode⟩)

/-- A frame is read from exactly those bytes that are enough for a header and start with a kind. -/
theorem decodeBody_isOk_iff (body : Bytes) : (∃ frame, decodeBody body = .ok frame) ↔
    16 ≤ body.length ∧ ∃ tag ∈ FrameKind.all.map FrameKind.tag, ∃ rest,
      body = littleEndian tag ++ rest := by
  constructor
  · rintro ⟨frame, hframe⟩
    obtain rfl := encodeBody_of_decodeBody hframe
    refine ⟨by rw [length_encodeBody, frameHeaderSize]; omega, frame.kind.tag, ?_, ?_⟩
    · exact List.mem_map.2 ⟨frame.kind, by cases frame.kind <;> decide, rfl⟩
    · refine ⟨littleEndian frame.token.raw ++ (littleEndian frame.id
        ++ (littleEndian frame.status.code.toUInt32 ++ frame.payload)), ?_⟩
      simp only [encodeBody, List.append_assoc]
  · rintro ⟨hlength, tag, htag, rest, hbody⟩
    rcases decodeBody_cases body with
      ⟨hshort, -⟩ | ⟨other, last, hother, hnone, -⟩ | ⟨frame, -, hframe⟩
    · exact absurd hlength (Nat.not_le.2 hshort)
    · rw [hbody] at hother
      rw [← littleEndian_append_inj hother] at hnone
      exact absurd htag hnone
    · exact ⟨frame, hframe⟩

end Frame

namespace Command

theorem needs_splitHeader? : Needs commandHeaderSize splitHeader? :=
  Needs.word fun request => Needs.word fun token => needs_nothing fun payload =>
    (request, token, payload)

/-- The bytes are too few for a header, or they are the body of a command. -/
theorem decodeBody_cases (body : Bytes) :
    (body.length < 8 ∧ decodeBody body = .error (.truncatedHeader body.length 8)) ∨
    ∃ command : Command, body = command.encodeBody ∧ decodeBody body = .ok command := by
  cases hsplit : splitHeader? body with
  | none =>
    refine .inl ⟨(needs_splitHeader? body).1 hsplit, ?_⟩
    rw [decodeBody, hsplit]
    rfl
  | some parts =>
    have hdecode : decodeBody body = .ok ⟨⟨parts.1⟩, ⟨parts.2.1⟩, parts.2.2⟩ := by
      rw [decodeBody, hsplit]
    exact .inr ⟨_, (encodeBody_of_decodeBody hdecode).symm, hdecode⟩

/-- A command is read from exactly those bytes that are enough for a header. -/
theorem decodeBody_isOk_iff (body : Bytes) :
    (∃ command, decodeBody body = .ok command) ↔ 8 ≤ body.length := by
  constructor
  · rintro ⟨command, hcommand⟩
    rw [← encodeBody_of_decodeBody hcommand, length_encodeBody, commandHeaderSize]
    omega
  · intro hlength
    rcases decodeBody_cases body with ⟨hshort, -⟩ | ⟨command, -, hcommand⟩
    · exact absurd hlength (Nat.not_le.2 hshort)
    · exact ⟨command, hcommand⟩

end Command

/-! ## Bodies in a stream -/

/-- A body that the limit admits is taken away whole, and read. -/
theorem Framer.next_of_lengthPrefixed {α : Type} {decode : Bytes → Except ParseError α}
    {limit : UInt32} {body : Bytes} {value : α} (hlimit : body.length ≤ limit.toNat)
    (hdecode : decode body = .ok value) :
    (({ limit } : Framer).push (lengthPrefixed body)).next decode
      = ({ limit }, some (.ok value)) := by
  have hfront := Front.of_lengthPrefixed hlimit []
  rw [List.append_nil] at hfront
  simp only [next, nextBody, push, List.nil_append, hfront, Option.map_some, Except.bind, hdecode]

/-- **Bodies and their values are in bijection.** The body of a frame or of a command is read as
that frame or command. What is read from any bytes is written as these bytes, one for one; bytes
are read as a command if and only if there are at least eight of them, and as a frame if and only if
there are at least sixteen and the first word is one of the five kinds. Sent behind its length, a
body that the framer admits is read as its value, and no byte is left. -/
theorem bodies_exact :
    (∀ frame : Frame, Frame.decodeBody frame.encodeBody = .ok frame) ∧
    (∀ command : Command, Command.decodeBody command.encodeBody = .ok command) ∧
    (∀ body, (∃ frame, Frame.decodeBody body = .ok frame) ↔
      16 ≤ body.length ∧ ∃ tag ∈ ([0, 1, 2, 3, 4] : List UInt32), ∃ rest,
        body = littleEndian tag ++ rest) ∧
    (∀ body, (∃ command, Command.decodeBody body = .ok command) ↔ 8 ≤ body.length) ∧
    (∀ body frame, Frame.decodeBody body = .ok frame → frame.encodeBody = body) ∧
    (∀ body command, Command.decodeBody body = .ok command → command.encodeBody = body) ∧
    (∀ (limit : UInt32) (frame : Frame), frame.encodeBody.length ≤ limit.toNat →
      (({ limit } : Framer).push frame.encode).nextFrame = ({ limit }, some (.ok frame))) ∧
    (∀ (limit : UInt32) (command : Command), command.encodeBody.length ≤ limit.toNat →
      (({ limit } : Framer).push command.encode).nextCommand
        = ({ limit }, some (.ok command))) := by
  refine ⟨Frame.decodeBody_encodeBody, Command.decodeBody_encodeBody, Frame.decodeBody_isOk_iff,
    Command.decodeBody_isOk_iff, fun _ _ => Frame.encodeBody_of_decodeBody,
    fun _ _ => Command.encodeBody_of_decodeBody, ?_, ?_⟩
  · intro limit frame hlimit
    exact Framer.next_of_lengthPrefixed hlimit frame.decodeBody_encodeBody
  · intro limit command hlimit
    exact Framer.next_of_lengthPrefixed hlimit command.decodeBody_encodeBody

/-- A frame of the last kind with a negative status, at the limit of the framer; one byte less, or a
kind that does not exist, and nothing is read. -/
theorem bodies_exact_at_the_limits :
    let frame : Frame := ⟨.unsolicitedAckExpected, ⟨1⟩, 1000, ⟨-2⟩, []⟩
    let body : Bytes := [4, 0, 0, 0, 1, 0, 0, 0, 232, 3, 0, 0, 254, 255, 255, 255]
    let command : Command := ⟨⟨20⟩, ⟨7⟩, []⟩
    frame.encodeBody = body ∧ Frame.decodeBody body = .ok frame ∧
    (¬ ∃ other, Frame.decodeBody (body.take 15) = .ok other) ∧
    (¬ ∃ other, Frame.decodeBody (5 :: body.drop 1) = .ok other) ∧
    (({ limit := 16 } : Framer).push frame.encode).nextFrame
      = ({ limit := 16 }, some (.ok frame)) ∧
    (({ limit := 8 } : Framer).push command.encode).nextCommand
      = ({ limit := 8 }, some (.ok command)) ∧
    ¬ ∃ other, Command.decodeBody (command.encodeBody.take 7) = .ok other := by
  intro frame body command
  obtain ⟨hframe, -, hframes, hcommands, -, -, hframer, hcommander⟩ := bodies_exact
  have hbody : frame.encodeBody = body := by decide
  refine ⟨hbody, hbody ▸ hframe frame, ?_, ?_, hframer 16 frame (by decide),
    hcommander 8 command (by decide), ?_⟩
  · rw [hframes]
    exact fun h => absurd h.1 (by decide)
  · rw [hframes]
    rintro ⟨-, tag, htag, rest, hrest⟩
    have hfive : (5 : UInt8) :: body.drop 1 = littleEndian 5 ++ body.drop 4 := by decide
    rw [hfive] at hrest
    rw [← littleEndian_append_inj hrest] at htag
    exact absurd htag (by decide)
  · rw [hcommands]
    decide

end RadioLink
