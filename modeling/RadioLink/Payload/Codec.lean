import RadioLink.Error

set_option autoImplicit false

/-! # Payloads as bytes

    void      nothing
    int       the number
    ints      how many, then the numbers
    string    how many bytes, the bytes in UTF-8, then zeros up to a multiple of four
    strings   how many, then the texts
    raw       the bytes

Numbers and lengths are words, least significant byte first. The length of an absent text is -1;
any other negative length is an error. A void payload may be followed by filler that is never
read; every other shape accounts for every byte. Reading goes through a `Cursor`, which knows its
offset, so that each error says where it arose. -/

namespace RadioLink

/-- How many zeros follow a text of `length` bytes. -/
def padding (length : Nat) : Nat :=
  (4 - length % 4) % 4

/-- A number as bytes. -/
def intBytes (value : Int32) : Bytes :=
  littleEndian value.toUInt32

/-- A length as bytes. -/
def lengthBytes (length : Nat) : Bytes :=
  littleEndian (UInt32.ofNat length)

/-- A text, or its absence, as bytes. -/
def textBytes : Option String → Bytes
  | none => intBytes (-1)
  | some text =>
    let bytes := utf8 text
    lengthBytes bytes.length ++ bytes ++ List.replicate (padding bytes.length) 0

/-- A payload as bytes, in its own shape. -/
def Payload.encode : Payload → Bytes
  | void => []
  | int value => intBytes value
  | ints values => lengthBytes values.length ++ values.flatMap intBytes
  | string value => textBytes value
  | strings values => lengthBytes values.length ++ values.flatMap textBytes
  | raw bytes => bytes

/-- Writes a payload that must have the given shape. -/
def Shape.encode (shape : Shape) (payload : Payload) : Except CodecError Bytes :=
  if shape = payload.shape then .ok payload.encode
  else .error (.shapeMismatch shape payload.shape)

/-- A place in the bytes of a payload: how many were read, and what is left. -/
structure Cursor where
  offset : Nat
  rest : Bytes

namespace Cursor

/-- Reads `count` bytes. -/
def take (count : Nat) (c : Cursor) : Except CodecError (Bytes × Cursor) :=
  match splitExactly count c.rest with
  | some (bytes, rest) => .ok (bytes, ⟨c.offset + count, rest⟩)
  | none => .error (.truncated c.offset)

/-- Reads a number. -/
def int (c : Cursor) : Except CodecError (Int32 × Cursor) :=
  match takeLittleEndian? c.rest with
  | some (word, rest) => .ok (word.toInt32, ⟨c.offset + 4, rest⟩)
  | none => .error (.truncated c.offset)

/-- Reads a length that may not be negative. -/
def length (c : Cursor) : Except CodecError (Nat × Cursor) := do
  let (value, next) ← c.int
  if value < 0 then .error (.invalidLength value c.offset) else .ok (value.toNatClampNeg, next)

/-- Reads the bytes of a text of the given length, and the zeros after it. -/
def text (length : Nat) (c : Cursor) : Except CodecError (String × Cursor) := do
  let (bytes, next) ← c.take length
  match ofUtf8? bytes with
  | none => .error (.invalidUtf8 c.offset)
  | some text =>
    let (_, next) ← next.take (padding length)
    .ok (text, next)

/-- Reads a text or its absence. -/
def text? (c : Cursor) : Except CodecError (Option String × Cursor) := do
  let (value, next) ← c.int
  if value = -1 then .ok (none, next)
  else if value < 0 then .error (.invalidLength value c.offset)
  else
    let (text, next) ← next.text value.toNatClampNeg
    .ok (some text, next)

/-- Reads `count` items one after the other. -/
def many {α : Type} (item : Cursor → Except CodecError (α × Cursor)) :
    Nat → Cursor → Except CodecError (List α × Cursor)
  | 0, c => .ok ([], c)
  | count + 1, c => do
    let (value, next) ← item c
    let (values, next) ← many item count next
    .ok (value :: values, next)

/-- Ends the reading, which must have met every byte. -/
def finish {α : Type} (value : α) (c : Cursor) : Except CodecError α :=
  if c.rest = [] then .ok value else .error (.trailingBytes c.rest.length)

end Cursor

/-- Reads a payload of the given shape. -/
def Shape.decode (shape : Shape) (bytes : Bytes) : Except CodecError Payload := do
  let start : Cursor := ⟨0, bytes⟩
  match shape with
  | .void => .ok .void
  | .int =>
    let (value, c) ← start.int
    c.finish (.int value)
  | .ints =>
    let (count, c) ← start.length
    let (values, c) ← c.many Cursor.int count
    c.finish (.ints values)
  | .string =>
    let (value, c) ← start.text?
    c.finish (.string value)
  | .strings =>
    let (count, c) ← start.length
    let (values, c) ← c.many Cursor.text? count
    c.finish (.strings values)
  | .raw => .ok (.raw bytes)

end RadioLink
