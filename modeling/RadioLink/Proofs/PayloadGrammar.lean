import RadioLink.Proofs.Payload

set_option autoImplicit false

/-! # What is read as a payload

Reading a payload takes exactly the bytes that write one and refuses all others. The bytes that
write a payload are those that `Payload.encode` gives, except for the filler behind each text, whose
places `Payload.filler` marks; so what is read is written back with the same length, and differs
from what was read in filler at most.

Each reader is described by what it can come to (`Cursor.Yields`): it passes over bytes that have
the form of the value it returns, or it fails at an offset that is not behind the end of the bytes.
The descriptions compose like the readers (`Cursor.Yields.bind`). The other direction, that bytes of
the right form are read, is `Payload.decode_of_isWritten`. -/

namespace RadioLink

/-! ## Errors with a place -/

namespace CodecError

/-- The offset that an error names, if it names one. -/
def offset? : CodecError → Option Nat
  | truncated offset | invalidLength _ offset | invalidUtf8 offset => some offset
  | shapeMismatch _ _ | trailingBytes _ | other _ => none

/-- An error names no offset behind a limit. -/
def IsWithin (e : CodecError) (limit : Nat) : Prop :=
  ∀ offset ∈ e.offset?, offset ≤ limit

theorem isWithin_of_offset? {e : CodecError} {offset limit : Nat} (hoffset : e.offset? = some offset)
    (h : offset ≤ limit) : e.IsWithin limit := by
  rintro other hmem
  rw [hoffset] at hmem
  cases hmem
  exact h

end CodecError

/-! ## What readers come to -/

namespace Cursor

/-- The offset of the end of the bytes. -/
def stop (c : Cursor) : Nat :=
  c.offset + c.rest.length

/-- What reading an item comes to: bytes that have the form of the value are passed over, or the
reading fails at a place that is not behind the end. -/
def Yields {α : Type} (Form : α → Bytes → Prop) (c : Cursor) :
    Except CodecError (α × Cursor) → Prop
  | .ok (value, next) => ∃ bytes, c.rest = bytes ++ next.rest ∧
    next.offset = c.offset + bytes.length ∧ Form value bytes
  | .error e => e.IsWithin c.stop

section Yields

variable {α β : Type} {Form : α → Bytes → Prop} {Whole : β → Bytes → Prop} {c : Cursor}

theorem Yields.imp {Wider : α → Bytes → Prop} {result : Except CodecError (α × Cursor)}
    (h : Yields Form c result) (himp : ∀ value bytes, Form value bytes → Wider value bytes) :
    Yields Wider c result := by
  cases result with
  | error e => exact h
  | ok result =>
    obtain ⟨bytes, hrest, hoffset, hform⟩ := h
    exact ⟨bytes, hrest, hoffset, himp _ _ hform⟩

/-- After an item the reading goes on, with what the item has passed over in mind. -/
theorem Yields.bind {result : Except CodecError (α × Cursor)} (h : Yields Form c result)
    {continue' : α × Cursor → Except CodecError (β × Cursor)}
    (hcontinue : ∀ value bytes next, Form value bytes → c.offset ≤ next.offset →
      Yields (fun whole more => Whole whole (bytes ++ more)) next (continue' (value, next))) :
    Yields Whole c (result >>= continue') := by
  cases result with
  | error e => exact h
  | ok result =>
    obtain ⟨value, next⟩ := result
    obtain ⟨bytes, hrest, hoffset, hform⟩ := h
    -- The end is where it was, so what goes wrong later is in front of it too.
    have hstop : next.stop = c.stop := by simp [stop, hrest, hoffset, Nat.add_assoc]
    have hafter := hcontinue value bytes next hform (by omega)
    show Yields Whole c (continue' (value, next))
    cases hresult : continue' (value, next) with
    | error e =>
      rw [hresult, Yields, hstop] at hafter
      exact hafter
    | ok result =>
      rw [hresult] at hafter
      obtain ⟨more, hmore, hlast, hwhole⟩ := hafter
      refine ⟨bytes ++ more, ?_, ?_, hwhole⟩
      · rw [hrest, hmore, List.append_assoc]
      · rw [hlast, hoffset, List.length_append, Nat.add_assoc]

/-- Nothing more is read. -/
theorem yields_ok {value : α} (h : Form value []) : Yields Form c (.ok (value, c)) :=
  ⟨[], rfl, rfl, h⟩

theorem yields_take (count : Nat) (c : Cursor) :
    Yields (fun read bytes => read = bytes ∧ bytes.length = count) c (c.take count) := by
  unfold take
  cases hsplit : splitExactly count c.rest with
  | none => exact CodecError.isWithin_of_offset? rfl (Nat.le_add_right _ _)
  | some parts =>
    obtain ⟨hrest, hlength⟩ := splitExactly_eq_some_iff.1 hsplit
    exact ⟨parts.1, hrest, by simp [hlength], rfl, hlength⟩

theorem yields_int (c : Cursor) : Yields (fun value bytes => intBytes value = bytes) c c.int := by
  unfold int
  cases hword : takeLittleEndian? c.rest with
  | none => exact CodecError.isWithin_of_offset? rfl (Nat.le_add_right _ _)
  | some parts =>
    refine ⟨littleEndian parts.1, takeLittleEndian?_eq_some_iff.1 hword, rfl, ?_⟩
    simp [intBytes]

/-- A number that is not negative is written like a length. -/
theorem intBytes_of_not_neg {value : Int32} (h : ¬ value < 0) :
    intBytes value = lengthBytes value.toNatClampNeg := by
  rw [lengthBytes_eq_intBytes, Int32.ofNat_toNatClampNeg value (Int32.not_lt.1 h)]

theorem yields_length (c : Cursor) :
    Yields (fun count bytes => count < 2 ^ 31 ∧ bytes = lengthBytes count) c c.length := by
  refine (yields_int c).bind fun value bytes next hbytes hoffset => ?_
  dsimp only
  split
  · exact CodecError.isWithin_of_offset? rfl (Nat.le_add_right_of_le hoffset)
  · next hneg =>
    refine yields_ok ⟨value.toNatClampNeg_lt, ?_⟩
    rw [List.append_nil, ← hbytes, intBytes_of_not_neg hneg]

theorem utf8_of_ofUtf8? {bytes : Bytes} {value : String} (h : ofUtf8? bytes = some value) :
    utf8 value = bytes := by
  unfold ofUtf8? String.fromUTF8? at h
  split at h
  · cases h
    rfl
  · cases h

theorem yields_text (length : Nat) (c : Cursor) :
    Yields (fun value bytes => (utf8 value).length = length ∧ ∃ filler : Bytes,
      filler.length = padding length ∧ bytes = utf8 value ++ filler) c (c.text length) := by
  refine (yields_take length c).bind fun read bytes next hread hoffset => ?_
  obtain ⟨rfl, hlength⟩ := hread
  dsimp only
  cases htext : ofUtf8? read with
  | none => exact CodecError.isWithin_of_offset? rfl (Nat.le_add_right_of_le hoffset)
  | some value =>
    obtain rfl := utf8_of_ofUtf8? htext
    refine (yields_take (padding length) next).bind fun filler more last hfiller _ => ?_
    obtain ⟨rfl, hfiller⟩ := hfiller
    exact yields_ok ⟨hlength, filler, hfiller, by rw [List.append_nil]⟩

theorem yields_text? (c : Cursor) :
    Yields (fun value bytes => Payload.IsShortText value ∧ Payload.IsText value bytes) c
      c.text? := by
  refine (yields_int c).bind fun value bytes next hbytes hoffset => ?_
  dsimp only
  split
  · next habsent =>
    -- The length is -1, which stands for no text and has no bytes behind it.
    refine yields_ok ⟨(fun _ hmem => by cases hmem), ?_⟩
    rw [List.append_nil, ← hbytes, habsent]
    rfl
  · split
    · exact CodecError.isWithin_of_offset? rfl (Nat.le_add_right_of_le hoffset)
    · next hneg =>
      refine (yields_text value.toNatClampNeg next).bind fun text more last htext _ => ?_
      obtain ⟨hlength, filler, hfiller, rfl⟩ := htext
      refine yields_ok ⟨?_, filler, by rw [hlength, hfiller], ?_⟩
      · rintro _ ⟨⟩
        rw [hlength]
        exact value.toNatClampNeg_lt
      · rw [← hbytes, intBytes_of_not_neg hneg, ← hlength]
        simp only [List.append_nil, List.append_assoc]

/-- A list is read if its items are, one behind the other. -/
theorem yields_many {item : Cursor → Except CodecError (α × Cursor)}
    (h : ∀ c, Yields Form c (item c)) (count : Nat) (c : Cursor) :
    Yields (fun values bytes => values.length = count ∧ ∃ pieces : List Bytes,
      List.Forall₂ Form values pieces ∧ bytes = pieces.flatten) c (c.many item count) := by
  induction count generalizing c with
  | zero => exact yields_ok ⟨rfl, [], .nil, rfl⟩
  | succ count ih =>
    refine (h c).bind fun value piece next hpiece _ => ?_
    refine (ih next).bind fun values bytes last hvalues _ => ?_
    obtain ⟨hlength, pieces, hpieces, rfl⟩ := hvalues
    refine yields_ok ⟨by rw [List.length_cons, hlength], piece :: pieces, .cons hpiece hpieces, ?_⟩
    rw [List.append_nil, List.flatten_cons]

end Yields

end Cursor

/-! ## Filler -/

/-- Two strings of bytes that are equal but for the places that are marked. -/
def EqualOutside (marks : List Bool) (bytes other : Bytes) : Prop :=
  bytes.length = other.length ∧ ∀ i : Nat, marks[i]? ≠ some true → bytes[i]? = other[i]?

section EqualOutside

variable {marks more : List Bool} {bytes other last : Bytes}

theorem equalOutside_append (hmarks : marks.length = other.length) :
    EqualOutside (marks ++ more) bytes (other ++ last) ↔
      ∃ front rest, bytes = front ++ rest ∧ EqualOutside marks front other ∧
        EqualOutside more rest last := by
  constructor
  · rintro ⟨hlength, hsame⟩
    rw [List.length_append] at hlength
    -- The bytes are cut where `other` ends; a place behind the cut is shifted by its length.
    refine ⟨bytes.take other.length, bytes.drop other.length, (List.take_append_drop _ _).symm,
      ⟨by simp [hlength], fun i hi => ?_⟩, ⟨by simp [hlength], fun i hi => ?_⟩⟩
    · by_cases hlt : i < other.length
      · have hat := hsame i (by rwa [List.getElem?_append_left (by omega)])
        rwa [List.getElem?_append_left hlt, ← List.getElem?_take_of_lt hlt] at hat
      · rw [List.getElem?_eq_none (by simp; omega), List.getElem?_eq_none (by omega)]
    · have hat := hsame (other.length + i) (by
        rwa [List.getElem?_append_right (by omega), hmarks, Nat.add_sub_cancel_left])
      rwa [List.getElem?_append_right (Nat.le_add_right _ _), Nat.add_sub_cancel_left,
        ← List.getElem?_drop] at hat
  · rintro ⟨front, rest, rfl, ⟨hfront, hsame⟩, hrest, hlater⟩
    refine ⟨by simp [hfront, hrest], fun i hi => ?_⟩
    by_cases hlt : i < other.length
    · rw [List.getElem?_append_left (by omega)] at hi
      rw [List.getElem?_append_left (by omega), List.getElem?_append_left hlt, hsame i hi]
    · rw [List.getElem?_append_right (by omega), hmarks] at hi
      rw [List.getElem?_append_right (by omega), List.getElem?_append_right (by omega), hfront,
        hlater _ hi]

/-- Where nothing is marked, nothing differs. -/
theorem equalOutside_of_unmarked (h : ∀ i : Nat, marks[i]? ≠ some true) :
    EqualOutside marks bytes other ↔ bytes = other := by
  constructor
  · rintro ⟨-, hsame⟩
    exact List.ext_getElem? fun i => hsame i (h i)
  · rintro rfl
    exact ⟨rfl, fun _ _ => rfl⟩

theorem equalOutside_replicate_false (count : Nat) :
    EqualOutside (List.replicate count false) bytes other ↔ bytes = other := by
  refine equalOutside_of_unmarked fun i => ?_
  rw [List.getElem?_replicate]
  split <;> simp

/-- Where everything is marked, only the length counts. -/
theorem equalOutside_replicate_true {count : Nat} (h : other.length = count) :
    EqualOutside (List.replicate count true) bytes other ↔ bytes.length = count := by
  refine ⟨fun hequal => hequal.1.trans h, fun hlength => ⟨hlength.trans h.symm, fun i hi => ?_⟩⟩
  have hle : count ≤ i := by
    by_contra hlt
    exact hi (List.getElem?_replicate_of_lt (by omega))
  rw [List.getElem?_eq_none (by omega), List.getElem?_eq_none (by omega)]

/-- Lists of bytes are compared item by item. -/
theorem equalOutside_flatMap {α : Type} {marksOf : α → List Bool} {bytesOf : α → Bytes}
    (hlength : ∀ value, (marksOf value).length = (bytesOf value).length) (values : List α)
    (bytes : Bytes) :
    EqualOutside (values.flatMap marksOf) bytes (values.flatMap bytesOf) ↔
      ∃ pieces : List Bytes, List.Forall₂
        (fun value piece => EqualOutside (marksOf value) piece (bytesOf value)) values pieces ∧
        bytes = pieces.flatten := by
  induction values generalizing bytes with
  | nil =>
    rw [List.flatMap_nil, List.flatMap_nil, equalOutside_of_unmarked (by simp)]
    simp
  | cons value values ih =>
    rw [List.flatMap_cons, List.flatMap_cons, equalOutside_append (hlength value)]
    constructor
    · rintro ⟨piece, rest, rfl, hpiece, hrest⟩
      obtain ⟨pieces, hpieces, rfl⟩ := (ih rest).1 hrest
      exact ⟨piece :: pieces, .cons hpiece hpieces, List.flatten_cons.symm⟩
    · rintro ⟨_, hpieces, rfl⟩
      cases hpieces with
      | cons hpiece hpieces =>
        exact ⟨_, _, List.flatten_cons, hpiece, (ih _).2 ⟨_, hpieces, rfl⟩⟩

end EqualOutside

namespace Payload

/-- Which bytes of a text only fill up a word. There are at most three, and they come last. -/
def textFiller : Option String → List Bool
  | none => List.replicate 4 false
  | some text => List.replicate (4 + (utf8 text).length) false
    ++ List.replicate (padding (utf8 text).length) true

/-- Which bytes of a payload only fill up a word. Only texts are filled up. -/
def filler : Payload → List Bool
  | string value => textFiller value
  | strings values => List.replicate 4 false ++ values.flatMap textFiller
  | void | int _ | ints _ | raw _ => []

theorem length_textFiller (value : Option String) :
    (textFiller value).length = (textBytes value).length := by
  cases value with
  | none => rfl
  | some text => simp [textFiller, textBytes, lengthBytes, Nat.add_assoc]

theorem equalOutside_textFiller (value : Option String) (bytes : Bytes) :
    EqualOutside (textFiller value) bytes (textBytes value) ↔ IsText value bytes := by
  cases value with
  | none => exact equalOutside_replicate_false 4
  | some text =>
    rw [textFiller, textBytes, equalOutside_append (by simp [lengthBytes])]
    simp only [equalOutside_replicate_false, equalOutside_replicate_true List.length_replicate]
    constructor
    · rintro ⟨_, filler, rfl, rfl, hfiller⟩
      exact ⟨filler, hfiller, rfl⟩
    · rintro ⟨filler, hfiller, rfl⟩
      exact ⟨_, filler, rfl, rfl, hfiller⟩

/-- The bytes that write a payload are those that are written for it, but for the filler. -/
theorem isWritten_iff {payload : Payload} (hvoid : payload.shape ≠ .void) (bytes : Bytes) :
    payload.IsWritten bytes ↔ EqualOutside payload.filler bytes payload.encode := by
  cases payload with
  | void => exact absurd rfl hvoid
  | int _ | ints _ | raw _ => exact (equalOutside_of_unmarked (by simp [filler])).symm
  | string value => exact (equalOutside_textFiller value bytes).symm
  | strings values =>
    rw [filler, encode, equalOutside_append (by simp [lengthBytes])]
    simp only [equalOutside_replicate_false, equalOutside_flatMap length_textFiller,
      equalOutside_textFiller]
    constructor
    · rintro ⟨pieces, hpieces, rfl⟩
      exact ⟨_, _, rfl, rfl, pieces, hpieces, rfl⟩
    · rintro ⟨_, _, rfl, rfl, pieces, hpieces, rfl⟩
      exact ⟨pieces, hpieces, rfl⟩

end Payload

/-! ## Payloads -/

namespace Payload

/-- What is read as a payload has its shape, is short, and writes that payload; and where nothing is
read the error names no place behind the end. -/
def IsReadFrom (shape : Shape) (bytes : Bytes) : Except CodecError Payload → Prop
  | .ok payload => payload.shape = shape ∧ payload.IsShort ∧ payload.IsWritten bytes
  | .error e => e.IsWithin bytes.length

/-- A payload that is read by one reader accounts for all bytes, or the reading fails. -/
theorem isReadFrom_finish {α : Type} {Form : α → Bytes → Prop} {shape : Shape} {bytes : Bytes}
    {result : Except CodecError (α × Cursor)} (h : Cursor.Yields Form ⟨0, bytes⟩ result)
    (payload : α → Payload) (hpayload : ∀ value, Form value bytes →
      (payload value).shape = shape ∧ (payload value).IsShort ∧ (payload value).IsWritten bytes) :
    IsReadFrom shape bytes (result >>= fun read => read.2.finish (payload read.1)) := by
  cases result with
  | error e =>
    have hwithin : e.IsWithin bytes.length := by simpa [Cursor.Yields, Cursor.stop] using h
    exact hwithin
  | ok read =>
    obtain ⟨passed, hrest, -, hform⟩ := h
    show IsReadFrom shape bytes (read.2.finish (payload read.1))
    unfold Cursor.finish
    split
    · next hdone =>
      obtain rfl : bytes = passed := by simpa [hdone] using hrest
      exact hpayload _ hform
    · exact fun _ hmem => by cases hmem

/-- A payload that is a list accounts for all bytes, or the reading fails. -/
theorem isReadFrom_finish_list {α : Type} {item : Cursor → Except CodecError (α × Cursor)}
    {Form : α → Bytes → Prop} (h : ∀ c, Cursor.Yields Form c (item c)) {shape : Shape}
    {bytes : Bytes} (payload : List α → Payload)
    (hpayload : ∀ values pieces, values.length < 2 ^ 31 → List.Forall₂ Form values pieces →
      bytes = lengthBytes values.length ++ pieces.flatten →
      (payload values).shape = shape ∧ (payload values).IsShort ∧
        (payload values).IsWritten bytes) :
    IsReadFrom shape bytes (do
      let (count, c) ← Cursor.length ⟨0, bytes⟩
      let (values, c) ← c.many item count
      c.finish (payload values)) := by
  have hlist : Cursor.Yields (fun values read => values.length < 2 ^ 31 ∧ ∃ pieces : List Bytes,
      List.Forall₂ Form values pieces ∧ read = lengthBytes values.length ++ pieces.flatten)
      ⟨0, bytes⟩ (Cursor.length ⟨0, bytes⟩ >>= fun read => read.2.many item read.1) := by
    refine (Cursor.yields_length _).bind fun count read next hcount _ => ?_
    obtain ⟨hshort, rfl⟩ := hcount
    refine (Cursor.yields_many h count next).imp ?_
    rintro values _ ⟨rfl, pieces, hpieces, rfl⟩
    exact ⟨hshort, pieces, hpieces, rfl⟩
  have hfinish := isReadFrom_finish hlist payload fun values hvalues => by
    obtain ⟨hshort, pieces, hpieces, hbytes⟩ := hvalues
    exact hpayload values pieces hshort hpieces hbytes
  rwa [bind_assoc] at hfinish

theorem isReadFrom_decode {shape : Shape} (hvoid : shape ≠ .void) (hraw : shape ≠ .raw)
    (bytes : Bytes) : IsReadFrom shape bytes (shape.decode bytes) := by
  cases shape with
  | void => exact absurd rfl hvoid
  | raw => exact absurd rfl hraw
  | int =>
    refine isReadFrom_finish (Cursor.yields_int _) .int ?_
    exact fun value hvalue => ⟨rfl, trivial, hvalue.symm⟩
  | string =>
    refine isReadFrom_finish (Cursor.yields_text? _) .string ?_
    exact fun value hvalue => ⟨rfl, hvalue⟩
  | ints =>
    refine isReadFrom_finish_list Cursor.yields_int .ints ?_
    intro values pieces hshort hpieces hbytes
    have hflat : values.map intBytes = pieces := by
      rw [← List.forall₂_eq_eq_eq, List.forall₂_map_left_iff]
      exact hpieces
    refine ⟨rfl, hshort, ?_⟩
    rw [IsWritten, hbytes, ← hflat, List.flatMap_def]
  | strings =>
    refine isReadFrom_finish_list Cursor.yields_text? .strings ?_
    intro values pieces hshort hpieces hbytes
    obtain ⟨hshorts, htexts⟩ := (List.forall₂_and_left values pieces).1 hpieces
    exact ⟨rfl, ⟨hshort, hshorts⟩, pieces, htexts, hbytes⟩

/-- **Exactly the bytes that write a payload are read as it.** For a shape other than void and raw,
bytes are read as a payload of that shape if and only if they are as long as those that are written
for it and differ from them in filler at most. Whatever is read has the shape and is short, so it
can be written again; and bytes that are not of that form for any payload are refused, with an error
that names no place behind their end. -/
theorem reads_exactly {shape : Shape} (hvoid : shape ≠ .void) (hraw : shape ≠ .raw)
    (bytes : Bytes) :
    (∀ payload : Payload, payload.shape = shape → payload.IsShort →
      (shape.decode bytes = .ok payload ↔ EqualOutside payload.filler bytes payload.encode)) ∧
    (∀ payload, shape.decode bytes = .ok payload → payload.shape = shape ∧ payload.IsShort ∧
      ∃ written, shape.encode payload = .ok written ∧
        EqualOutside payload.filler bytes written) ∧
    ((∀ payload : Payload, payload.shape = shape → payload.IsShort →
        ¬ EqualOutside payload.filler bytes payload.encode) →
      ∃ e, shape.decode bytes = .error e ∧ ∀ offset ∈ e.offset?, offset ≤ bytes.length) := by
  have hread := isReadFrom_decode hvoid hraw bytes
  have hform : ∀ payload, shape.decode bytes = .ok payload → payload.shape = shape ∧
      payload.IsShort ∧ EqualOutside payload.filler bytes payload.encode := by
    intro payload hdecode
    rw [hdecode] at hread
    obtain ⟨rfl, hshort, hwritten⟩ := hread
    exact ⟨rfl, hshort, (isWritten_iff hvoid bytes).1 hwritten⟩
  refine ⟨?_, ?_, ?_⟩
  · rintro payload rfl hshort
    refine ⟨fun hdecode => (hform payload hdecode).2.2, fun hequal => ?_⟩
    exact decode_of_isWritten hshort ((isWritten_iff hvoid bytes).2 hequal)
  · intro payload hdecode
    obtain ⟨rfl, hshort, hequal⟩ := hform payload hdecode
    exact ⟨rfl, hshort, payload.encode, shape_encode payload, hequal⟩
  · intro hnone
    cases hdecode : shape.decode bytes with
    | error e =>
      rw [hdecode] at hread
      exact ⟨e, rfl, hread⟩
    | ok payload =>
      obtain ⟨hshape, hshort, hequal⟩ := hform payload hdecode
      exact absurd hequal (hnone payload hshape hshort)

/-- Filler that is not zero is passed over, and a byte behind it is refused. -/
theorem reads_exactly_with_filler :
    let texts : Payload := strings [some "a", none]
    let bytes : Bytes := [2, 0, 0, 0, 1, 0, 0, 0, 97, 7, 8, 9, 255, 255, 255, 255]
    Shape.strings ≠ .void ∧ Shape.strings ≠ .raw ∧ texts.IsShort ∧
    texts.encode = [2, 0, 0, 0, 1, 0, 0, 0, 97, 0, 0, 0, 255, 255, 255, 255] ∧
    Shape.strings.decode bytes = .ok texts ∧ Shape.strings.decode (bytes ++ [0]) ≠ .ok texts := by
  intro texts bytes
  have hshort : texts.IsShort := by decide +kernel
  have hencode : texts.encode = [2, 0, 0, 0, 1, 0, 0, 0, 97, 0, 0, 0, 255, 255, 255, 255] := by
    decide +kernel
  have hvoid : Shape.strings ≠ .void := by decide
  have hraw : Shape.strings ≠ .raw := by decide
  refine ⟨hvoid, hraw, hshort, hencode, ?_, ?_⟩
  · rw [(reads_exactly hvoid hraw bytes).1 texts rfl hshort, hencode]
    have hinside : ∀ i < 16, texts.filler[i]? ≠ some true → bytes[i]? =
        [2, 0, 0, 0, 1, 0, 0, 0, 97, 0, 0, 0, 255, 255, 255, 255][i]? := by decide +kernel
    refine ⟨rfl, fun i hi => ?_⟩
    by_cases hlt : i < 16
    · exact hinside i hlt hi
    · rw [List.getElem?_eq_none (Nat.le_of_not_lt hlt),
        List.getElem?_eq_none (Nat.le_of_not_lt hlt)]
  · rw [ne_eq, (reads_exactly hvoid hraw (bytes ++ [0])).1 texts rfl hshort, hencode]
    exact fun hequal => absurd hequal.1 (by decide)

end Payload

end RadioLink
