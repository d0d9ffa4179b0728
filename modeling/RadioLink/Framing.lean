import RadioLink.Frame

set_option autoImplicit false

/-! # Cutting a byte stream into bodies

Bytes arrive in pieces of any size. A `Framer` keeps the bytes that are not cut off yet; whenever
its buffer starts with a complete length-prefixed body, `nextBody` takes the body away. A length
above the limit cannot be passed over: it is reported and stays where it is, so that every later
call reports it again. A body that is no frame or command is taken away like any other, because
its end is known. -/

namespace RadioLink

/-- What the front of a byte stream is. -/
inductive Front
  /-- A body is not complete yet. -/
  | incomplete
  /-- A body is announced that is longer than the limit. -/
  | oversize (length : UInt32)
  /-- A complete body and the bytes after it. -/
  | complete (body rest : Bytes)

/-- Looks at the front of a byte stream. The announced length is judged as soon as it is there. -/
def Front.of (limit : UInt32) (stream : Bytes) : Front :=
  match takeBigEndian? stream with
  | none => .incomplete
  | some (length, rest) =>
    if limit < length then .oversize length
    else match splitExactly length.toNat rest with
      | none => .incomplete
      | some (body, rest) => .complete body rest

/-- The bytes that have arrived and are not cut off yet, and the longest body that is accepted. -/
structure Framer where
  limit : UInt32 := defaultMaxFrameLen
  buffer : Bytes := []

namespace Framer

/-- Takes in bytes that have arrived. -/
def push (f : Framer) (bytes : Bytes) : Framer :=
  { f with buffer := f.buffer ++ bytes }

/-- How many bytes are kept. -/
def buffered (f : Framer) : Nat :=
  f.buffer.length

/-- Forgets the bytes that are kept. -/
def clear (f : Framer) : Framer :=
  { f with buffer := [] }

/-- Takes away the next body, if one is complete. -/
def nextBody (f : Framer) : Framer × Option (Except ParseError Bytes) :=
  match Front.of f.limit f.buffer with
  | .incomplete => (f, none)
  | .oversize length => (f, some (.error (.frameTooLarge length f.limit)))
  | .complete body rest => ({ f with buffer := rest }, some (.ok body))

/-- Takes away the next body and reads it. -/
def next {α : Type} (decode : Bytes → Except ParseError α) (f : Framer) :
    Framer × Option (Except ParseError α) :=
  let (f, body) := f.nextBody
  (f, body.map fun result => result.bind decode)

/-- Takes away the next frame. -/
def nextFrame (f : Framer) : Framer × Option (Except ParseError Frame) :=
  f.next Frame.decodeBody

/-- Takes away the next command. -/
def nextCommand (f : Framer) : Framer × Option (Except ParseError Command) :=
  f.next Command.decodeBody

/-- Waits for the next frame: takes it away if it is complete, and otherwise goes on with the next
piece of the stream. An empty piece is the end of the stream, and so is that no piece is left. -/
def receive (f : Framer) (pieces : List Bytes) :
    Framer × List Bytes × Except LinkError (Option Frame) :=
  match f.nextFrame, pieces with
  | (f, some (.ok frame)), pieces => (f, pieces, .ok (some frame))
  | (f, some (.error e)), pieces => (f, pieces, .error (.framing e))
  | (f, none), [] => (f, [], .ok none)
  | (f, none), piece :: pieces =>
    if piece.isEmpty then (f, pieces, .ok none) else (f.push piece).receive pieces

/-- A body taken away makes the buffer shorter. -/
theorem length_rest_lt {limit : UInt32} {stream body rest : Bytes}
    (h : Front.of limit stream = .complete body rest) : rest.length < stream.length := by
  match stream with
  | [] | [_] | [_, _] | [_, _, _] => simp [Front.of, takeBigEndian?] at h
  | _ :: _ :: _ :: _ :: tail =>
    simp only [Front.of, takeBigEndian?] at h
    split at h
    · simp at h
    · split at h
      · simp at h
      · next body' rest' hs =>
        obtain ⟨rfl, -⟩ := splitExactly_eq_some_iff.1 hs
        simp only [Front.complete.injEq] at h
        obtain ⟨rfl, rfl⟩ := h
        simp only [List.length_cons, List.length_append]
        omega

/-- Takes away bodies until none is complete or one cannot be read: what was read, and the error
that ended the reading. -/
def drain {α : Type} (decode : Bytes → Except ParseError α) (f : Framer) :
    Framer × List α × Option ParseError :=
  match _ : Front.of f.limit f.buffer with
  | .incomplete => (f, [], none)
  | .oversize length => (f, [], some (.frameTooLarge length f.limit))
  | .complete body rest =>
    match decode body with
    | .error e => ({ f with buffer := rest }, [], some e)
    | .ok value =>
      let (f, values, ending) := drain decode { f with buffer := rest }
      (f, value :: values, ending)
termination_by f.buffer.length
decreasing_by exact length_rest_lt (by assumption)

end Framer

end RadioLink
