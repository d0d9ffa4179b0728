import Mathlib.Algebra.Group.Nat.Defs
import Mathlib.Data.List.Forall2
import RadioLink.Payload.Codec

set_option autoImplicit false

/-! # A payload reads back

Writing a payload and reading it in its own shape gives the payload back, as long as every length in
it is below 2^31: a length of 2^31 or more would come back as a negative number, and one of 2^32 or
more would be cut.

The items of a list follow each other without a separator, so what is said about an item has to hold
at any offset and with anything behind it: `Cursor.Reads`. The lemmas follow the layout, from words
over texts to lists.

The bytes that fill up the word behind a text are passed over without a look, so they need not be
the zeros that are written there: `Payload.IsWritten` leaves them open, and what is read back is
said for all bytes that it allows. -/

namespace RadioLink

theorem ofUtf8?_utf8 (text : String) : ofUtf8? (utf8 text) = some text := by
  have hvalid : (⟨(utf8 text).toArray⟩ : ByteArray).IsValidUTF8 := text.isValidUTF8
  rw [ofUtf8?, String.fromUTF8?, dif_pos hvalid]
  rfl

/-! ## Payloads whose lengths can be written -/

namespace Payload

/-- A text is absent, or has fewer than 2^31 bytes. -/
def IsShortText (value : Option String) : Prop :=
  ∀ text ∈ value, (utf8 text).length < 2 ^ 31

instance (value : Option String) : Decidable (IsShortText value) :=
  match value with
  | none => isTrue fun _ h => by cases h
  | some text => decidable_of_iff ((utf8 text).length < 2 ^ 31) (by simp [IsShortText])

/-- Every list in a payload has fewer than 2^31 items, and every text fewer than 2^31 bytes. -/
def IsShort : Payload → Prop
  | ints values => values.length < 2 ^ 31
  | string value => IsShortText value
  | strings values => values.length < 2 ^ 31 ∧ ∀ value ∈ values, IsShortText value
  | void | int _ | raw _ => True

instance (payload : Payload) : Decidable payload.IsShort :=
  match payload with
  | ints values => inferInstanceAs (Decidable (values.length < 2 ^ 31))
  | string value => inferInstanceAs (Decidable (IsShortText value))
  | strings values =>
    inferInstanceAs (Decidable (values.length < 2 ^ 31 ∧ ∀ value ∈ values, IsShortText value))
  | void | int _ | raw _ => isTrue trivial

/-- Some bytes write a text or its absence. Behind a text stand as many bytes as fill up a word,
whatever they are. -/
def IsText : Option String → Bytes → Prop
  | none, bytes => bytes = intBytes (-1)
  | some text, bytes => ∃ filler : Bytes, filler.length = padding (utf8 text).length ∧
    bytes = lengthBytes (utf8 text).length ++ utf8 text ++ filler

/-- Some bytes write a payload. -/
def IsWritten : Payload → Bytes → Prop
  | void, _ => True
  | int value, bytes => bytes = intBytes value
  | ints values, bytes => bytes = lengthBytes values.length ++ values.flatMap intBytes
  | string value, bytes => IsText value bytes
  | strings values, bytes => ∃ pieces : List Bytes, List.Forall₂ IsText values pieces ∧
    bytes = lengthBytes values.length ++ pieces.flatten
  | raw value, bytes => bytes = value

end Payload

/-! ## Reading items -/

namespace Cursor

/-- Wherever the bytes of a value stand, the value is read from them, and the reading goes on right
behind them. -/
def Reads {α : Type} (item : Cursor → Except CodecError (α × Cursor)) (bytes : Bytes)
    (value : α) : Prop :=
  ∀ offset rest, item ⟨offset, bytes ++ rest⟩ = .ok (value, ⟨offset + bytes.length, rest⟩)

theorem reads_take {count : Nat} {bytes : Bytes} (h : bytes.length = count) :
    Reads (take count) bytes bytes := by
  intro offset rest
  have hsplit : splitExactly count (bytes ++ rest) = some (bytes, rest) :=
    splitExactly_eq_some_iff.2 ⟨rfl, h⟩
  simp only [take, hsplit, h]

theorem reads_int (value : Int32) : Reads int (intBytes value) value := by
  intro offset rest
  simp only [int, intBytes, takeLittleEndian?_append, length_littleEndian,
    Int32.toInt32_toUInt32]

/-- A length is written as the number that it is read as. -/
theorem lengthBytes_eq_intBytes (count : Nat) :
    lengthBytes count = intBytes (Int32.ofNat count) := by
  rw [lengthBytes, intBytes, ← UInt32.toInt32_ofNat', UInt32.toUInt32_toInt32]

/-- A length below 2^31 comes back as a number that is not negative. -/
theorem not_ofNat_neg {count : Nat} (h : count < 2 ^ 31) : ¬ Int32.ofNat count < 0 := by
  rw [Int32.lt_iff_toInt_lt, Int32.toInt_ofNat_of_lt h]
  have hzero : (0 : Int32).toInt = 0 := rfl
  omega

/-- Nor does it come back as the number that stands for no text. -/
theorem ofNat_ne_neg_one {count : Nat} (h : count < 2 ^ 31) : Int32.ofNat count ≠ -1 := by
  intro he
  refine not_ofNat_neg h ?_
  rw [he]
  decide

theorem reads_length {count : Nat} (h : count < 2 ^ 31) :
    Reads length (lengthBytes count) count := by
  intro offset rest
  have hint := reads_int (Int32.ofNat count) offset rest
  rw [← lengthBytes_eq_intBytes] at hint
  simp only [length, hint, bind, Except.bind, if_neg (not_ofNat_neg h),
    Int32.toNatClampNeg_ofNat_of_lt h]

/-- What fills up the word behind a text is passed over. -/
theorem reads_text (value : String) {filler : Bytes}
    (h : filler.length = padding (utf8 value).length) :
    Reads (text (utf8 value).length) (utf8 value ++ filler) value := by
  intro offset rest
  have hbytes : Reads (take (utf8 value).length) (utf8 value) (utf8 value) := reads_take rfl
  have hfiller : Reads (take (padding (utf8 value).length)) filler filler := reads_take h
  rw [List.append_assoc]
  simp only [text, hbytes offset, bind, Except.bind, ofUtf8?_utf8, hfiller _ rest,
    List.length_append, Nat.add_assoc]

theorem reads_text? {value : Option String} {bytes : Bytes} (h : Payload.IsShortText value)
    (hbytes : Payload.IsText value bytes) : Reads text? bytes value := by
  intro offset rest
  cases value with
  | none =>
    obtain rfl : bytes = intBytes (-1) := hbytes
    simp only [text?, reads_int (-1) offset rest, bind, Except.bind, if_true]
  | some value =>
    obtain ⟨filler, hfiller, rfl⟩ := hbytes
    have hshort : (utf8 value).length < 2 ^ 31 := h value rfl
    have hint := reads_int (Int32.ofNat (utf8 value).length) offset (utf8 value ++ filler ++ rest)
    rw [← lengthBytes_eq_intBytes] at hint
    rw [List.append_assoc, List.append_assoc, ← List.append_assoc (utf8 value)]
    simp only [text?, hint, bind, Except.bind, if_neg (ofNat_ne_neg_one hshort),
      if_neg (not_ofNat_neg hshort), Int32.toNatClampNeg_ofNat_of_lt hshort,
      reads_text value hfiller _ rest, List.length_append, Nat.add_assoc]

/-- Items that are read one by one are read as a list. -/
theorem reads_many {α : Type} {item : Cursor → Except CodecError (α × Cursor)} {values : List α}
    {pieces : List Bytes}
    (h : List.Forall₂ (fun value bytes => Reads item bytes value) values pieces) :
    Reads (many item values.length) pieces.flatten values := by
  induction h with
  | nil =>
    intro offset rest
    rfl
  | cons hfirst _ ih =>
    intro offset rest
    rw [List.flatten_cons, List.append_assoc, List.length_cons]
    simp only [many, hfirst offset, bind, Except.bind, ih _ rest, List.length_append,
      Nat.add_assoc]

/-- What is read and followed by nothing accounts for every byte. -/
theorem Reads.finish {α : Type} {item : Cursor → Except CodecError (α × Cursor)} {bytes : Bytes}
    {value : α} (h : Reads item bytes value) (payload : α → Payload) :
    (item ⟨0, bytes⟩ >>= fun result => result.2.finish (payload result.1))
      = .ok (payload value) := by
  have hitem := h 0 []
  rw [List.append_nil] at hitem
  rw [hitem]
  rfl

/-- How many items there are is read first, and then the items. -/
theorem finish_list {α : Type} {item : Cursor → Except CodecError (α × Cursor)} {values : List α}
    {pieces : List Bytes} (hlength : values.length < 2 ^ 31)
    (h : List.Forall₂ (fun value bytes => Reads item bytes value) values pieces)
    (payload : List α → Payload) :
    (do
      let (count, c) ← length ⟨0, lengthBytes values.length ++ pieces.flatten⟩
      let (values, c) ← c.many item count
      c.finish (payload values)) = .ok (payload values) := by
  have hvalues := (reads_many h (0 + (lengthBytes values.length).length) [])
  rw [List.append_nil] at hvalues
  simp only [reads_length hlength 0, bind, Except.bind, hvalues]
  rfl

end Cursor

/-! ## Payloads -/

namespace Payload

theorem shape_encode (payload : Payload) : payload.shape.encode payload = .ok payload.encode := by
  rw [Shape.encode, if_pos rfl]

theorem isText_textBytes (value : Option String) : IsText value (textBytes value) := by
  cases value with
  | none => rfl
  | some text => exact ⟨_, List.length_replicate, rfl⟩

theorem isWritten_encode (payload : Payload) : payload.IsWritten payload.encode := by
  cases payload with
  | void | int _ | ints _ | raw _ => simp [IsWritten, encode]
  | string value => exact isText_textBytes value
  | strings values =>
    refine ⟨values.map textBytes, ?_, by rw [encode, List.flatMap_def]⟩
    exact List.forall₂_map_right_iff.2 (List.forall₂_same.2 fun value _ => isText_textBytes value)

/-- Bytes that write a payload are read as that payload. -/
theorem decode_of_isWritten {payload : Payload} {bytes : Bytes} (hshort : payload.IsShort)
    (h : payload.IsWritten bytes) : payload.shape.decode bytes = .ok payload := by
  cases payload with
  | void => rfl
  | int value =>
    obtain rfl : bytes = intBytes value := h
    exact (Cursor.reads_int value).finish .int
  | ints values =>
    obtain rfl : bytes = lengthBytes values.length ++ values.flatMap intBytes := h
    rw [List.flatMap_def]
    refine Cursor.finish_list hshort ?_ .ints
    exact List.forall₂_map_right_iff.2 (List.forall₂_same.2 fun value _ => Cursor.reads_int value)
  | string value => exact (Cursor.reads_text? hshort h).finish .string
  | strings values =>
    obtain ⟨pieces, hpieces, rfl⟩ := h
    refine Cursor.finish_list hshort.1 ?_ .strings
    refine List.Forall₂.imp ?_ ((List.forall₂_and_left values pieces).2 ⟨hshort.2, hpieces⟩)
    rintro value piece ⟨hvalue, hpiece⟩
    exact Cursor.reads_text? hvalue hpiece
  | raw value =>
    obtain rfl : bytes = value := h
    rfl

/-- The bytes of a payload are read as that payload. -/
theorem decode_encode {payload : Payload} (h : payload.IsShort) :
    payload.shape.decode payload.encode = .ok payload :=
  decode_of_isWritten h payload.isWritten_encode

/-- **A payload reads back.** A payload whose lists and texts are short enough for their lengths to
be written is written in its own shape without an error, and reading the bytes in that shape gives
it back; so no other payload of the shape is written as the same bytes. -/
theorem reads_back (payload : Payload) (h : payload.IsShort) :
    payload.shape.encode payload >>= payload.shape.decode = .ok payload ∧
    ∀ other : Payload, other.shape = payload.shape → other.IsShort →
      payload.shape.encode other = payload.shape.encode payload → other = payload := by
  have hback : payload.shape.encode payload >>= payload.shape.decode = .ok payload := by
    rw [shape_encode]
    exact decode_encode h
  refine ⟨hback, ?_⟩
  intro other hshape hother hsame
  have hotherBack : payload.shape.encode other >>= payload.shape.decode = .ok other := by
    rw [← hshape, shape_encode]
    exact decode_encode hother
  rw [hsame, hback] at hotherBack
  exact (Except.ok.inj hotherBack).symm

/-- Texts of every length modulo four, one of which is absent and one empty, and one that is not
ASCII. Were the absent text empty too, the bytes would not be the same. -/
theorem texts_read_back :
    let texts : List (Option String) := [some "", some "a", some "ab", some "abc", some "é😀"]
    (strings (none :: texts)).IsShort ∧
    Shape.strings.encode (strings (none :: texts)) >>= Shape.strings.decode
      = .ok (strings (none :: texts)) ∧
    (strings (some "" :: texts)).IsShort ∧
    Shape.strings.encode (strings (some "" :: texts))
      ≠ Shape.strings.encode (strings (none :: texts)) := by
  intro texts
  have hshort : (strings (none :: texts)).IsShort := by decide +kernel
  have hother : (strings (some "" :: texts)).IsShort := by decide +kernel
  obtain ⟨hback, hdistinct⟩ := reads_back (strings (none :: texts)) hshort
  refine ⟨hshort, hback, hother, fun hsame => ?_⟩
  have hequal : strings (some "" :: texts) = strings (none :: texts) :=
    hdistinct (strings (some "" :: texts)) rfl hother hsame
  cases hequal

end Payload

end RadioLink
