import RadioLink.Proofs.Payload

set_option autoImplicit false

/-! # A payload marks its own end

The bytes of a payload that is neither void nor raw say where they end: without the last of them
they are truncated, and whatever stands behind them is left over. No other error can come first. The
bytes of a text are counted before they are looked at as UTF-8, and a length is looked at only when
all of its word is there.

As with `Cursor.Reads` this is said of an item at any offset, so that it carries over to items one
behind the other: when all of the first is there it is read, and then the next falls short. -/

namespace RadioLink

namespace Cursor

/-- When bytes are missing at the end, the reading fails for want of them, at a place that is not
behind the end. -/
def FallsShort {α : Type} (item : Cursor → Except CodecError (α × Cursor)) (bytes : Bytes) : Prop :=
  ∀ offset front rest, front ++ rest = bytes → rest ≠ [] →
    ∃ place, item ⟨offset, front⟩ = .error (.truncated place) ∧ place ≤ offset + front.length

/-! ## One item behind the other -/

section Sequence

variable {α β : Type} {first : Cursor → Except CodecError (α × Cursor)} {bytes more : Bytes}
  {value : α} {next : Cursor → α × Cursor → Except CodecError (β × Cursor)}

/-- A cut is in the first of two strings of bytes, or behind it. -/
theorem cut_append {front rest : Bytes} (h : front ++ rest = bytes ++ more) :
    (∃ last, last ≠ [] ∧ front ++ last = bytes) ∨
      ∃ others, front = bytes ++ others ∧ others ++ rest = more := by
  rcases List.append_eq_append_iff.1 h with ⟨last, rfl, rfl⟩ | ⟨others, rfl, rfl⟩
  · by_cases hlast : last = []
    · subst hlast
      exact .inr ⟨[], by simp, rfl⟩
    · exact .inl ⟨last, hlast, rfl⟩
  · exact .inr ⟨others, rfl, rfl⟩

/-- Where the first item falls short, nothing that follows is reached. -/
theorem FallsShort.stops (h : FallsShort first bytes) :
    FallsShort (fun c => first c >>= next c) bytes := by
  intro offset front rest hbytes hrest
  obtain ⟨place, herror, hplace⟩ := h offset front rest hbytes hrest
  refine ⟨place, ?_, hplace⟩
  dsimp only
  rw [herror]
  rfl

/-- After an item that is read from its bytes the reading goes on with those behind them. -/
theorem Reads.andThen {result : β} (hread : Reads first bytes value)
    (hmore : ∀ start, Reads (fun c => next start (value, c)) more result) :
    Reads (fun c => first c >>= next c) (bytes ++ more) result := by
  intro offset rest
  rw [List.append_assoc, List.length_append, ← Nat.add_assoc]
  dsimp only
  rw [hread offset]
  exact hmore _ _ rest

/-- Either bytes of the first item are missing, or that item is read and bytes behind it are
missing. -/
theorem FallsShort.andThen (hfirst : FallsShort first bytes) (hread : Reads first bytes value)
    (hmore : ∀ start, FallsShort (fun c => next start (value, c)) more) :
    FallsShort (fun c => first c >>= next c) (bytes ++ more) := by
  intro offset front rest hbytes hrest
  rcases cut_append hbytes with ⟨last, hlast, rfl⟩ | ⟨others, rfl, rfl⟩
  · exact hfirst.stops offset front last rfl hlast
  · obtain ⟨place, herror, hplace⟩ := hmore _ (offset + bytes.length) others rest rfl hrest
    refine ⟨place, ?_, by rw [List.length_append]; omega⟩
    dsimp only
    rw [hread offset others]
    exact herror

end Sequence

/-! ## Items -/

theorem fallsShort_take {count : Nat} {bytes : Bytes} (h : bytes.length = count) :
    FallsShort (take count) bytes := by
  rintro offset front rest rfl hrest
  have hpos := List.length_pos_of_ne_nil hrest
  have hnone : splitExactly count front = none := by
    rw [splitExactly_eq_none_iff, ← h, List.length_append]
    omega
  refine ⟨offset, ?_, Nat.le_add_right _ _⟩
  simp only [take, hnone]

theorem fallsShort_int (value : Int32) : FallsShort int (intBytes value) := by
  intro offset front rest hbytes hrest
  have hpos := List.length_pos_of_ne_nil hrest
  have hlength : front.length + rest.length = 4 := by
    rw [← List.length_append, hbytes, intBytes, length_littleEndian]
  have hnone : takeLittleEndian? front = none := by
    rw [Option.eq_none_iff_forall_ne_some]
    rintro ⟨word, last⟩ hword
    rw [takeLittleEndian?_eq_some_iff.1 hword, List.length_append, length_littleEndian] at hlength
    omega
  refine ⟨offset, ?_, Nat.le_add_right _ _⟩
  simp only [int, hnone]

theorem fallsShort_length (count : Nat) : FallsShort length (lengthBytes count) := by
  rw [lengthBytes_eq_intBytes]
  exact (fallsShort_int _).stops

/-- The bytes of a text are counted before they are read as UTF-8. -/
theorem fallsShort_text (value : String) {filler : Bytes}
    (h : filler.length = padding (utf8 value).length) :
    FallsShort (text (utf8 value).length) (utf8 value ++ filler) := by
  refine (fallsShort_take rfl).andThen (reads_take rfl) fun start => ?_
  simp only [ofUtf8?_utf8]
  exact (fallsShort_take h).stops

theorem fallsShort_text? {value : Option String} {bytes : Bytes} (h : Payload.IsShortText value)
    (hbytes : Payload.IsText value bytes) : FallsShort text? bytes := by
  cases value with
  | none =>
    obtain rfl : bytes = intBytes (-1) := hbytes
    exact (fallsShort_int _).stops
  | some value =>
    obtain ⟨filler, hfiller, rfl⟩ := hbytes
    have hshort : (utf8 value).length < 2 ^ 31 := h value rfl
    rw [List.append_assoc, lengthBytes_eq_intBytes]
    refine (fallsShort_int _).andThen (reads_int _) fun start => ?_
    simp only [if_neg (ofNat_ne_neg_one hshort), if_neg (not_ofNat_neg hshort),
      Int32.toNatClampNeg_ofNat_of_lt hshort]
    exact (fallsShort_text value hfiller).stops

/-- Items that are read one by one fall short if one of them does. -/
theorem fallsShort_many {α : Type} {item : Cursor → Except CodecError (α × Cursor)}
    {values : List α} {pieces : List Bytes}
    (hreads : List.Forall₂ (fun value bytes => Reads item bytes value) values pieces)
    (h : ∀ bytes ∈ pieces, FallsShort item bytes) :
    FallsShort (many item values.length) pieces.flatten := by
  induction hreads with
  | nil =>
    intro offset front rest hbytes hrest
    exact absurd (List.append_eq_nil_iff.1 hbytes).2 hrest
  | cons hfirst _ ih =>
    rw [List.forall_mem_cons] at h
    rw [List.flatten_cons, List.length_cons]
    exact h.1.andThen hfirst fun start => (ih h.2).stops

/-- How many items there are is read first, and then the items. -/
theorem reads_list {α : Type} {item : Cursor → Except CodecError (α × Cursor)} {values : List α}
    {pieces : List Bytes} (hlength : values.length < 2 ^ 31)
    (h : List.Forall₂ (fun value bytes => Reads item bytes value) values pieces) :
    Reads (fun c => c.length >>= fun result => result.2.many item result.1)
      (lengthBytes values.length ++ pieces.flatten) values :=
  (reads_length hlength).andThen fun _ => reads_many h

theorem fallsShort_list {α : Type} {item : Cursor → Except CodecError (α × Cursor)}
    {values : List α} {pieces : List Bytes} (hlength : values.length < 2 ^ 31)
    (hreads : List.Forall₂ (fun value bytes => Reads item bytes value) values pieces)
    (h : ∀ bytes ∈ pieces, FallsShort item bytes) :
    FallsShort (fun c => c.length >>= fun result => result.2.many item result.1)
      (lengthBytes values.length ++ pieces.flatten) :=
  (fallsShort_length _).andThen (reads_length hlength) fun _ => fallsShort_many hreads h

end Cursor

/-! ## Payloads -/

/-- Bytes of which none can be missing at the end, and behind which there can be no other. -/
structure MarksEnd (decode : Bytes → Except CodecError Payload) (bytes : Bytes) : Prop where
  truncated : ∀ front rest, front ++ rest = bytes → rest ≠ [] →
    ∃ place, decode front = .error (.truncated place) ∧ place ≤ front.length
  trailing : ∀ more, more ≠ [] → decode (bytes ++ more) = .error (.trailingBytes more.length)

theorem Cursor.marksEnd {α : Type} {item : Cursor → Except CodecError (α × Cursor)} {bytes : Bytes}
    {value : α} (hreads : Reads item bytes value) (hfalls : FallsShort item bytes)
    (payload : α → Payload) :
    MarksEnd (fun bytes => item ⟨0, bytes⟩ >>= fun result => result.2.finish (payload result.1))
      bytes where
  truncated := by
    intro front rest hbytes hrest
    obtain ⟨place, herror, hplace⟩ := hfalls 0 front rest hbytes hrest
    refine ⟨place, ?_, by omega⟩
    rw [herror]
    rfl
  trailing := by
    intro more hmore
    rw [hreads 0 more]
    exact if_neg hmore

namespace Payload

theorem marksEnd_decode {payload : Payload} (hvoid : payload.shape ≠ .void)
    (hraw : payload.shape ≠ .raw) (hshort : payload.IsShort) :
    MarksEnd payload.shape.decode payload.encode := by
  cases payload with
  | void => exact absurd rfl hvoid
  | raw _ => exact absurd rfl hraw
  | int value => exact Cursor.marksEnd (Cursor.reads_int value) (Cursor.fallsShort_int value) .int
  | string value =>
    have htext := isText_textBytes value
    exact Cursor.marksEnd (Cursor.reads_text? hshort htext)
      (Cursor.fallsShort_text? hshort htext) .string
  | ints values =>
    have hreads : List.Forall₂ (fun value bytes => Cursor.Reads Cursor.int bytes value) values
        (values.map intBytes) :=
      List.forall₂_map_right_iff.2 (List.forall₂_same.2 fun value _ => Cursor.reads_int value)
    have hends := Cursor.marksEnd (Cursor.reads_list hshort hreads)
      (Cursor.fallsShort_list hshort hreads (List.forall_mem_map.2 fun value _ =>
        Cursor.fallsShort_int value)) .ints
    simp only [bind_assoc] at hends
    rwa [encode, List.flatMap_def]
  | strings values =>
    have hreads : List.Forall₂ (fun value bytes => Cursor.Reads Cursor.text? bytes value) values
        (values.map textBytes) :=
      List.forall₂_map_right_iff.2 (List.forall₂_same.2 fun value hmem =>
        Cursor.reads_text? (hshort.2 value hmem) (isText_textBytes value))
    have hends := Cursor.marksEnd (Cursor.reads_list hshort.1 hreads)
      (Cursor.fallsShort_list hshort.1 hreads (List.forall_mem_map.2 fun value hmem =>
        Cursor.fallsShort_text? (hshort.2 value hmem) (isText_textBytes value))) .strings
    simp only [bind_assoc] at hends
    rwa [encode, List.flatMap_def]

/-- **A payload marks its own end.** Of the bytes that are written for a number, a text or a list of
either, none can be missing at the end: whatever is left is refused as truncated, at a place that is
not behind the end of what is left. And nothing can stand behind them: whatever it is, it is refused
as so many bytes too many. -/
theorem marks_own_end (payload : Payload) (hvoid : payload.shape ≠ .void)
    (hraw : payload.shape ≠ .raw) (hshort : payload.IsShort) :
    ∃ bytes, payload.shape.encode payload = .ok bytes ∧
      (∀ front, front <+: bytes → front ≠ bytes →
        ∃ place, payload.shape.decode front = .error (.truncated place) ∧ place ≤ front.length) ∧
      ∀ more, more ≠ [] →
        payload.shape.decode (bytes ++ more) = .error (.trailingBytes more.length) := by
  have hends := marksEnd_decode hvoid hraw hshort
  refine ⟨payload.encode, shape_encode payload, ?_, hends.trailing⟩
  rintro front ⟨rest, hbytes⟩ hne
  refine hends.truncated front rest hbytes ?_
  rintro rfl
  exact hne (by rw [← hbytes, List.append_nil])

/-- A text is cut in the middle of a character, and in the middle of its filler. -/
theorem marks_own_end_in_text :
    let texts : Payload := strings [some "aé", none]
    let bytes : Bytes := [2, 0, 0, 0, 3, 0, 0, 0, 97, 195, 169, 0, 255, 255, 255, 255]
    texts.shape ≠ .void ∧ texts.shape ≠ .raw ∧ texts.IsShort ∧
    Shape.strings.encode texts = .ok bytes ∧
    (∃ place, Shape.strings.decode (bytes.take 10) = .error (.truncated place) ∧ place ≤ 10) ∧
    (∃ place, Shape.strings.decode (bytes.take 11) = .error (.truncated place) ∧ place ≤ 11) ∧
    Shape.strings.decode (bytes ++ [255, 255]) = .error (.trailingBytes 2) := by
  intro texts bytes
  have hvoid : texts.shape ≠ .void := by decide
  have hraw : texts.shape ≠ .raw := by decide
  have hshort : texts.IsShort := by decide +kernel
  have hbytes : Shape.strings.encode texts = .ok bytes := by decide +kernel
  obtain ⟨written, hwritten, hcut, hmore⟩ := marks_own_end texts hvoid hraw hshort
  obtain rfl : bytes = written := Except.ok.inj (hbytes.symm.trans hwritten)
  exact ⟨hvoid, hraw, hshort, hbytes, hcut (bytes.take 10) (List.take_prefix ..) (by decide),
    hcut (bytes.take 11) (List.take_prefix ..) (by decide), hmore [255, 255] (by decide)⟩

end Payload

end RadioLink
