import RadioLink.Json.Form
import RadioLink.Proofs.JsonText

set_option autoImplicit false

/-! # A configuration can be written down and read again

The text of a configuration is read as a value, and the value as a configuration. The first half is
`Value.ofText?_written`; here is the second half, type by type. A record that gives each of its
fields once has every field under its name, whatever the order in which they are asked for, so that
one lemma serves a configuration, a slot and every kind of endpoint. An endpoint is taken in as a
whole before it is looked at: what is written of one is sound, and no deeper than one record.

The only value that is written as another type would be is a time limit that is not set: it is
written as null, which stands for no time limit, and not left out, which would stand for the usual
one. -/

namespace RadioLink.Json

/-- What is written of any value of a type is read as that value. -/
def IsFaithful (α : Type) [Form α] : Prop :=
  ∀ a : α, Form.ofValue? (Form.toValue a) = some a

theorem mapM_of_forall {α β γ : Type} {f : α → γ} {read : γ → Option β} {g : α → β} {items : List α}
    (h : ∀ a ∈ items, read (f a) = some (g a)) :
    (items.map f).mapM read = some (items.map g) := by
  induction items with
  | nil => rfl
  | cons a items ih =>
    rw [List.map_cons, List.mapM_cons, h a List.mem_cons_self,
      ih fun b hb => h b (List.mem_cons_of_mem _ hb)]
    rfl

/-! ## Records -/

/-- Under distinct names every name has one entry. -/
theorem filter_entry {fields : List (String × Value)} (hdistinct : (fields.map (·.1)).Nodup)
    {name : String} {value : Value} (hmem : (name, value) ∈ fields) :
    (fields.map fun field => entry field.1 field.2).filter (fun given => given.1 == some name)
      = [entry name value] := by
  induction fields with
  | nil => cases hmem
  | cons first fields ih =>
    rw [List.map_cons, List.nodup_cons] at hdistinct
    obtain ⟨hfresh, hdistinct⟩ := hdistinct
    rw [List.map_cons, List.filter_cons]
    rcases List.mem_cons.1 hmem with rfl | hmem
    · have hothers : (fields.map fun field => entry field.1 field.2).filter
          (fun given => given.1 == some name) = [] := by
        rw [List.filter_eq_nil_iff]
        intro given hgiven hname
        obtain ⟨field, hfield, rfl⟩ := List.mem_map.1 hgiven
        have hsame : field.1 = name := by simpa [entry] using hname
        exact hfresh (List.mem_map.2 ⟨field, hfield, hsame⟩)
      rw [if_pos (by simp [entry]), hothers]
    · have hother : first.1 ≠ name := fun he =>
        hfresh (List.mem_map.2 ⟨_, hmem, he.symm⟩)
      rw [if_neg (by simpa [entry] using hother)]
      exact ih hdistinct hmem

/-- A record of distinct fields has all of them. -/
theorem fields?_record (names : List String) (fields : List (String × Value))
    (hnames : fields.map (·.1) = names) (hdistinct : names.Nodup) :
    (Value.record (fields.map fun field => entry field.1 field.2)).fields? names
      = some (fields.map fun field => some field.2) := by
  subst hnames
  have hnamed : (fields.map fun field => entry field.1 field.2).any
      (fun given => given.1.isNone) = false := by
    simp [entry]
  rw [Value.fields?, Value.fieldsOfEntries?, hnamed, if_neg (by decide)]
  refine mapM_of_forall fun field hfield => ?_
  rw [filter_entry hdistinct hfield]
  rfl

/-! ## Numbers, texts and slots -/

theorem toNat?_ofNat {n limit : Nat} (h : n ≤ limit) : (Value.ofNat n).toNat? limit = some n :=
  if_pos h

theorem isFaithful_uint8 : IsFaithful UInt8 := by
  intro n
  have hread := toNat?_ofNat (show n.toNat ≤ 0xff from Nat.le_of_lt_succ n.toNat_lt)
  simp only [Form.ofValue?, Form.toValue, hread, Option.map_some, UInt8.ofNat_toNat]

theorem isFaithful_uint32 : IsFaithful UInt32 := by
  intro n
  have hread := toNat?_ofNat (show n.toNat ≤ 0xffffffff from Nat.le_of_lt_succ n.toNat_lt)
  simp only [Form.ofValue?, Form.toValue, hread, Option.map_some, UInt32.ofNat_toNat]

theorem isFaithful_uint64 : IsFaithful UInt64 := by
  intro n
  have hread := toNat?_ofNat
    (show n.toNat ≤ 0xffffffffffffffff from Nat.le_of_lt_succ n.toNat_lt)
  simp only [Form.ofValue?, Form.toValue, hread, Option.map_some, UInt64.ofNat_toNat]

/-- A number that may be missing is a number or null. -/
theorem isFaithful_option_uint64 : IsFaithful (Option UInt64) := by
  intro limit
  cases limit with
  | none => rfl
  | some n => exact congrArg (Option.map some) (isFaithful_uint64 n)

theorem isFaithful_slotId : IsFaithful SlotId := fun slot =>
  congrArg (Option.map SlotId.mk) (isFaithful_uint8 slot.raw)

theorem toText?_ofString (text : String) : (Value.ofString text).toText? = some text :=
  rfl

/-! ## Endpoints -/

/-- What is written of an endpoint may be taken in as a whole. -/
theorem isSound_toValue (endpoint : Endpoint) : (Form.toValue endpoint).isSound = true := by
  cases endpoint with
  | unix path => rfl
  | tcp address => rfl
  | serial path baudRate =>
    have hrange : (Number.ofNat baudRate.toNat).isInRange = true :=
      decide_eq_true (Nat.lt_of_lt_of_le baudRate.toNat_lt (by decide))
    simp only [Form.toValue, Value.isSound, Value.haveSoundEntries, entry, Value.ofString,
      Value.ofNat, hrange, Option.isSome_some, Bool.and_self]

theorem depth_toValue (endpoint : Endpoint) : (Form.toValue endpoint).depth = 1 := by
  cases endpoint <;> rfl

/-- The kind of an endpoint is told from the rest of it. -/
theorem splitKind?_kind (kind : String) (fields : List (String × Value))
    (h : "type" ∉ fields.map (·.1)) :
    splitKind? (.record (entry "type" (.ofString kind)
        :: fields.map fun field => entry field.1 field.2))
      = some (kind, .record (fields.map fun field => entry field.1 field.2)) := by
  have hothers : ∀ given ∈ fields.map fun field => entry field.1 field.2,
      (given.1 == some "type") = false := by
    intro given hgiven
    obtain ⟨field, hfield, rfl⟩ := List.mem_map.1 hgiven
    have hne : field.1 ≠ "type" := fun he => h (List.mem_map.2 ⟨field, hfield, he⟩)
    simpa [entry] using hne
  have hpartition : (entry "type" (.ofString kind)
        :: fields.map fun field => entry field.1 field.2).partition
          (fun given => given.1 == some "type")
      = ([entry "type" (.ofString kind)], fields.map fun field => entry field.1 field.2) := by
    rw [List.partition_eq_filter_filter, List.filter_cons_of_pos (by simp [entry]),
      List.filter_cons_of_neg (by simp [entry])]
    rw [List.filter_eq_nil_iff.2 (by simpa using hothers),
      List.filter_eq_self.2 (by simpa using hothers)]
  rw [splitKind?, hpartition]
  rfl

/-- What is written of an endpoint names its kind and has the fields of that kind. -/
theorem exists_splitKind? (endpoint : Endpoint) :
    ∃ kind rest, splitKind? (Form.toValue endpoint) = some (kind, rest) ∧
      endpointOf? kind rest = some endpoint := by
  cases endpoint with
  | unix path =>
    refine ⟨"unix", _, splitKind?_kind "unix" [("path", .ofString path)] (by simp), ?_⟩
    simp only [endpointOf?]
    rw [fields?_record ["path"] [("path", .ofString path)] rfl (by decide)]
    rfl
  | tcp address =>
    refine ⟨"tcp", _, splitKind?_kind "tcp" [("addr", .ofString address)] (by simp), ?_⟩
    simp only [endpointOf?]
    rw [fields?_record ["addr"] [("addr", .ofString address)] rfl (by decide)]
    rfl
  | serial path baudRate =>
    refine ⟨"serial", _, splitKind?_kind "serial"
      [("path", .ofString path), ("baud_rate", Form.toValue baudRate)] (by simp), ?_⟩
    simp only [endpointOf?]
    rw [fields?_record ["path", "baud_rate"]
      [("path", .ofString path), ("baud_rate", Form.toValue baudRate)] rfl (by decide)]
    simp only [List.map_cons, List.map_nil, toText?_ofString, isFaithful_uint32 baudRate,
      Option.bind_eq_bind, Option.bind_some]

theorem endpointWithin?_toValue {outer : Nat} (h : outer < maxDepth) (endpoint : Endpoint) :
    endpointWithin? outer (Form.toValue endpoint) = some endpoint := by
  obtain ⟨kind, rest, hsplit, hendpoint⟩ := exists_splitKind? endpoint
  rw [endpointWithin?, isSound_toValue, depth_toValue, Bool.true_and,
    if_pos (decide_eq_true (by omega)), hsplit]
  exact hendpoint

/-! ## Configurations -/

theorem isFaithful_slotConfig : IsFaithful SlotConfig := by
  intro config
  have hfields : Value.fields? ["slot", "endpoint"] (Form.toValue config)
      = some [some (Form.toValue config.slot), some (Form.toValue config.endpoint)] :=
    fields?_record _ [("slot", _), ("endpoint", _)] rfl (by decide)
  have hslot := isFaithful_slotId config.slot
  have hendpoint :=
    endpointWithin?_toValue (show endpointDepth < maxDepth by decide) config.endpoint
  simp only [Form.ofValue?] at hslot ⊢
  rw [hfields]
  simp only [hslot, hendpoint, Option.bind_eq_bind, Option.bind_some]

theorem items?_list {α : Type} [Form α] (h : IsFaithful α) (items : List α) :
    items? (.list (items.map Form.toValue)) = some items := by
  rw [items?, mapM_of_forall (g := id) fun a _ => h a, List.map_id]

/-- A field that is given is not left to its default. -/
theorem valueOr?_toValue {α : Type} [Form α] (h : IsFaithful α) (default a : α) :
    valueOr? default (some (Form.toValue a)) = some a :=
  h a

theorem isFaithful_config : IsFaithful Config := by
  intro config
  have hfields : Value.fields?
      ["slots", "max_frame_len", "request_timeout_ms", "event_capacity", "ack_history"]
      (Form.toValue config) = some [some (.list (config.slots.map Form.toValue)),
        some (Form.toValue config.maxFrameLen), some (Form.toValue config.requestTimeout),
        some (Form.toValue config.eventCapacity), some (Form.toValue config.ackHistory)] :=
    fields?_record _ [("slots", _), ("max_frame_len", _), ("request_timeout_ms", _),
      ("event_capacity", _), ("ack_history", _)] rfl (by decide)
  simp only [Form.ofValue?]
  rw [hfields]
  simp only [items?_list isFaithful_slotConfig, valueOr?_toValue isFaithful_uint32,
    valueOr?_toValue isFaithful_option_uint64, valueOr?_toValue isFaithful_uint64,
    Option.bind_eq_bind, Option.bind_some]

/-- In either layout, the text of a value is read as that value. -/
theorem read?_written {α : Type} [Form α] (h : IsFaithful α) (layout : Layout) (a : α) :
    read? (String.ofList ((Form.toValue a).written layout)) = some a := by
  rw [read?, Value.ofText?_written, Option.bind_some, h a]

end RadioLink.Json

namespace RadioLink.Config

/-- **A configuration that obeys its rules is read back from its text**: no slot, limit or endpoint
is lost or changed, whatever characters stand in its paths and addresses. -/
theorem ofJson_toJson {config : Config} (h : config.check = .ok ()) :
    ofJson config.toJson = .ok config := by
  have hread := Json.read?_written Json.isFaithful_config (.lines 0) config
  rw [ofJson, toJson, Json.Value.pretty, hread]
  simp only [h]
  rfl

/-- Three endpoints of the three kinds, with quotes, a backslash, a control character and a letter
beyond ASCII in them, no time limit, and numbers at the ends of their ranges. -/
theorem ofJson_toJson_three_endpoints :
    let config : Config := {
      slots := [⟨⟨0⟩, .unix "/run/\"rild\"\\0"⟩, ⟨⟨255⟩, .tcp "bücher:3910"⟩,
        ⟨⟨7⟩, .serial "tty\x01\n" 4294967295⟩]
      maxFrameLen := maxFrameLenCeiling, requestTimeout := none
      eventCapacity := 18446744073709551615, ackHistory := 0 }
    config.check = .ok () ∧ ofJson config.toJson = .ok config := by
  intro config
  have hcheck : config.check = .ok () := by rfl
  exact ⟨hcheck, ofJson_toJson hcheck⟩

end RadioLink.Config
