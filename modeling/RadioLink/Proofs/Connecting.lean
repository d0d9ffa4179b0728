import RadioLink.Proofs.Closing
import RadioLink.Simulation
import RadioLink.SlotSet

set_option autoImplicit false

/-! # Connecting the slots of a configuration

A configuration is connected as a whole or not at all. What is attempted is a prefix of its slots:
those whose endpoints accept, up to the first that does not. While the endpoints accept, the set is
made of exactly the slots so far (`SlotSet.IsMadeOf`), whatever order they come in, because their
numbers were found to be distinct before; one lemma carries that over any number of slots
(`connectAll?_append`), and what follows is then a failure, which shuts the set down, or nothing.

A check does not ask what a slot reserves when it starts. So a checked configuration can still be
of no use, which it is exactly when its limits cannot be reserved (`Config.IsHeldBy`), and it is of
none anywhere when they are beyond what any platform can reserve (`Config.Fits`). -/

namespace RadioLink

/-! ## Checked configurations -/

theorem firstRepeated?_eq_none_iff {seen slots : List SlotId} :
    firstRepeated? seen slots = none ↔ slots.Nodup ∧ ∀ slot ∈ slots, slot ∉ seen := by
  induction slots generalizing seen with
  | nil => simp [firstRepeated?]
  | cons slot slots ih =>
    rw [firstRepeated?]
    split
    · next hseen => simp [hseen]
    · next hseen =>
      rw [ih]
      simp only [List.nodup_cons, List.mem_cons, not_or, forall_eq_or_imp]
      grind

/-- What is reported is the first slot that stands earlier in the list. -/
theorem of_firstRepeated? {seen slots : List SlotId} {slot : SlotId}
    (h : firstRepeated? seen slots = some slot) :
    ∃ before after, slots = before ++ slot :: after ∧ before.Nodup ∧
      (∀ earlier ∈ before, earlier ∉ seen) ∧ (slot ∈ seen ∨ slot ∈ before) := by
  induction slots generalizing seen with
  | nil => cases h
  | cons first slots ih =>
    rw [firstRepeated?] at h
    split at h
    · next hseen =>
      cases h
      exact ⟨[], slots, rfl, List.nodup_nil, List.forall_mem_nil _, .inl hseen⟩
    · next hseen =>
      obtain ⟨before, after, rfl, hdistinct, hnew, hslot⟩ := ih h
      have hfirst : first ∉ before := fun hmem => hnew first hmem List.mem_cons_self
      refine ⟨first :: before, after, rfl, List.nodup_cons.2 ⟨hfirst, hdistinct⟩, ?_, ?_⟩
      · refine List.forall_mem_cons.2 ⟨hseen, fun earlier hmem hearlier => ?_⟩
        exact hnew earlier hmem (List.mem_cons_of_mem first hearlier)
      · rcases hslot with hslot | hslot
        · rcases List.mem_cons.1 hslot with rfl | hslot
          · exact .inr List.mem_cons_self
          · exact .inl hslot
        · exact .inr (List.mem_cons_of_mem first hslot)

namespace Config

variable {config : Config}

/-- The frame limit is neither zero nor above 16 MiB. -/
def HasFrameLimit (config : Config) : Prop :=
  1 ≤ config.maxFrameLen.toNat ∧ config.maxFrameLen.toNat ≤ 16 * 1024 * 1024

/-- No rule is broken: the numbers of the slots are distinct, the frame limit is within its range,
and events are kept. -/
structure IsSound (config : Config) : Prop where
  distinct : config.slotIds.Nodup
  limit : config.HasFrameLimit
  events : 1 ≤ config.eventCapacity.toNat

theorem hasFrameLimit_iff :
    config.HasFrameLimit ↔ ¬(config.maxFrameLen = 0 ∨ maxFrameLenCeiling < config.maxFrameLen) := by
  have hceiling : maxFrameLenCeiling.toNat = 16 * 1024 * 1024 := rfl
  rw [HasFrameLimit, not_or, ← UInt32.toNat_inj, UInt32.lt_iff_toNat_lt, hceiling,
    UInt32.toNat_zero]
  omega

theorem events_iff : 1 ≤ config.eventCapacity.toNat ↔ config.eventCapacity ≠ 0 := by
  rw [Ne, ← UInt64.toNat_inj, UInt64.toNat_zero]
  omega

/-- Repeated slots are reported first. -/
theorem check_of_repeated (h : ¬config.slotIds.Nodup) :
    ∃ before id after, config.slotIds = before ++ id :: after ∧ before.Nodup ∧ id ∈ before ∧
      config.check = .error (.duplicateSlot id) := by
  cases hrepeated : firstRepeated? [] config.slotIds with
  | none => exact absurd (firstRepeated?_eq_none_iff.1 hrepeated).1 h
  | some id =>
    obtain ⟨before, after, hids, hdistinct, -, hid⟩ := of_firstRepeated? hrepeated
    refine ⟨before, id, after, hids, hdistinct, hid.resolve_left List.not_mem_nil, ?_⟩
    rw [check, hrepeated]

theorem check_of_distinct (h : config.slotIds.Nodup) :
    config.check = if config.maxFrameLen = 0 ∨ maxFrameLenCeiling < config.maxFrameLen then
      .error .frameLimitOutOfRange
    else if config.eventCapacity = 0 then .error .noEventCapacity else .ok () := by
  have hnone : firstRepeated? [] config.slotIds = none :=
    firstRepeated?_eq_none_iff.2 ⟨h, fun _ _ => List.not_mem_nil⟩
  rw [check, hnone]

/-- Then a frame limit that is out of range. -/
theorem check_of_frameLimit (hids : config.slotIds.Nodup) (h : ¬config.HasFrameLimit) :
    config.check = .error .frameLimitOutOfRange := by
  rw [hasFrameLimit_iff, not_not] at h
  rw [check_of_distinct hids, if_pos h]

/-- And last that no event is kept. -/
theorem check_of_events (hids : config.slotIds.Nodup) (hlimit : config.HasFrameLimit)
    (h : config.eventCapacity = 0) : config.check = .error .noEventCapacity := by
  rw [check_of_distinct hids, if_neg (hasFrameLimit_iff.1 hlimit), if_pos h]

theorem check_eq_ok_iff : config.check = .ok () ↔ config.IsSound := by
  constructor
  · intro h
    by_cases hids : config.slotIds.Nodup
    · by_cases hlimit : config.HasFrameLimit
      · refine ⟨hids, hlimit, events_iff.2 fun hevents => ?_⟩
        rw [check_of_events hids hlimit hevents] at h
        cases h
      · rw [check_of_frameLimit hids hlimit] at h
        cases h
    · obtain ⟨_, _, _, _, _, _, hrefused⟩ := check_of_repeated hids
      rw [hrefused] at h
      cases h
  · intro h
    rw [check_of_distinct h.distinct, if_neg (hasFrameLimit_iff.1 h.limit),
      if_neg (events_iff.1 h.events)]

end Config

/-! ## Sets in order -/

namespace SlotId

theorem before_iff {first second : SlotId} :
    first.before second = true ↔ first.raw.toNat < second.raw.toNat := by
  rw [before, decide_eq_true_iff]

theorem before_trans {first second third : SlotId} (h : first.before second = true)
    (hnext : second.before third = true) : first.before third = true := by
  rw [before_iff] at *
  omega

/-- Of two slots with distinct numbers one comes first. -/
theorem before_of_not_before {first second : SlotId} (hne : first ≠ second)
    (h : ¬first.before second = true) : second.before first = true := by
  rw [before_iff] at *
  have hraw : first.raw.toNat ≠ second.raw.toNat := fun he =>
    hne (congrArg SlotId.mk (UInt8.toNat_inj.1 he))
  omega

end SlotId

section InsertById

variable {α : Type} {id : α → SlotId} {new : α} {entries : List α}

theorem mem_insertById {entry : α} (h : entry ∈ (insertById id new entries).1) :
    entry = new ∨ entry ∈ entries := by
  induction entries with
  | nil => exact .inl (List.mem_singleton.1 h)
  | cons old others ih =>
    rw [insertById] at h
    split at h
    · exact (List.mem_cons.1 h).imp_right (List.mem_cons_of_mem old)
    · split at h
      · exact List.mem_cons.1 h
      · rcases List.mem_cons.1 h with rfl | h
        · exact .inr List.mem_cons_self
        · exact (ih h).imp_right (List.mem_cons_of_mem old)

/-- Whatever is added, the order is kept. -/
theorem pairwise_insertById
    (h : entries.Pairwise fun first second => (id first).before (id second) = true) :
    (insertById id new entries).1.Pairwise fun first second =>
      (id first).before (id second) = true := by
  induction entries with
  | nil => exact List.pairwise_singleton _ _
  | cons old others ih =>
    obtain ⟨hold, hothers⟩ := List.pairwise_cons.1 h
    rw [insertById]
    split
    · next hsame => exact List.pairwise_cons.2 ⟨hsame ▸ hold, hothers⟩
    · next hne =>
      split
      · next hbefore =>
        refine List.pairwise_cons.2 ⟨List.forall_mem_cons.2 ⟨hbefore, ?_⟩, h⟩
        exact fun other hmem => SlotId.before_trans hbefore (hold other hmem)
      · next hbefore =>
        refine List.pairwise_cons.2 ⟨fun entry hmem => ?_, ih hothers⟩
        rcases mem_insertById hmem with rfl | hmem
        · exact SlotId.before_of_not_before hne hbefore
        · exact hold entry hmem

/-- What has a number of its own takes nobody's place. -/
theorem perm_insertById (h : ∀ old ∈ entries, id old ≠ id new) :
    (insertById id new entries).1.Perm (new :: entries) := by
  induction entries with
  | nil => exact List.Perm.refl _
  | cons old others ih =>
    obtain ⟨hold, hothers⟩ := List.forall_mem_cons.1 h
    rw [insertById, if_neg hold.symm]
    split
    · exact List.Perm.refl _
    · exact ((ih hothers).cons old).trans (List.Perm.swap new old others)

end InsertById

/-! ## Slots that are shut down -/

namespace Outlet

/-- Where nothing is left to be written, every turn is taken, and one of them may shut the
stream. -/
theorem hasStream_attend {o : Outlet} (hsend : ∀ turn ∈ o.turns, isSend turn = false)
    (h : o.hasStream = false ∨ ∃ turn ∈ o.turns, turn.errand = .shut) :
    o.attend.1.hasStream = false := by
  fun_induction attend o with
  | case1 o party turns hturns ih =>
    rw [hturns] at hsend h
    refine ih (fun turn hmem => hsend turn (List.mem_cons_of_mem _ hmem)) (h.imp_right ?_)
    rintro ⟨turn, hmem, hshut⟩
    rcases List.mem_cons.1 hmem with rfl | hmem
    · cases hshut
    · exact ⟨turn, hmem, hshut⟩
  | case2 o party turns hturns next _ hnext ih =>
    rw [hturns] at hsend
    rw [hnext] at ih
    exact ih (fun turn hmem => hsend turn (List.mem_cons_of_mem _ hmem)) (.inl rfl)
  | case3 o hinquire hshut =>
    refine h.resolve_right ?_
    rintro ⟨turn, hmem, -⟩
    cases hturns : o.turns with
    | nil =>
      rw [hturns] at hmem
      cases hmem
    | cons first turns =>
      obtain ⟨party, errand⟩ := first
      cases errand with
      | send rest => cases hsend ⟨party, .send rest⟩ (hturns ▸ List.mem_cons_self)
      | inquire => exact hinquire party turns hturns
      | shut => exact hshut party turns hturns

end Outlet

namespace SlotSet

/-- A slot that is shut down is closed, whatever has happened to it before, and if it was open its
stream is shut. -/
theorem shutDownSlot_spec (slot : Slot) :
    (shutDownSlot slot).isClosed = true ∧ (shutDownSlot slot).id = slot.id ∧
      (slot.isClosed = false → (shutDownSlot slot).outlet.hasStream = false) := by
  rw [shutDownSlot, Slot.shutDownNow]
  cases hclosed : slot.isClosed with
  | true =>
    rw [Slot.closeAndShutNow_of_closed (s := slot.stopReader) hclosed]
    exact ⟨hclosed, rfl, fun hopen => by cases hopen⟩
  | false =>
    rw [Slot.closeAndShutNow_of_open (s := slot.stopReader) hclosed]
    refine ⟨rfl, rfl, fun _ => Outlet.hasStream_attend (Slot.turns_shutNow _ _) (.inr ?_)⟩
    exact ⟨⟨.reader, .shut⟩, List.mem_append_right _ List.mem_cons_self, rfl⟩

/-! ## Connecting -/

/-- A slot that has just started under a number and with limits of its own, and has been used for
nothing yet. -/
structure IsNew (slot : Slot) (id : SlotId) (options : SlotOptions) : Prop where
  number : slot.id = id
  limits : slot.options = options
  history : slot.registry.historyLimit = options.ackHistory.toNat
  written : slot.outlet.limit = options.maxFrameLen
  read : slot.framer.limit = options.maxFrameLen
  entries : slot.registry.entries = []
  isOpen : slot.isClosed = false ∧ slot.registry.isClosed = false ∧ slot.reading = .waiting

/-- The slots of a set are those of some configurations, which have just started, in increasing
order of their numbers. -/
structure IsMadeOf (set : SlotSet) (options : SlotOptions) (configs : List SlotConfig) :
    Prop where
  slots : set.slots.Perm (configs.map fun config => .start config.slot options)
  ordered : set.slots.Pairwise fun first second => first.id.before second.id = true
  areNew : ∀ slot ∈ set.slots, ∃ config ∈ configs, IsNew slot config.slot options

/-- What comes of connecting one slot: the error of its endpoint, or a slot that has just started,
unless it cannot start. -/
def slot? (reserve : Reserve) (dial : SlotConfig → Except LinkError Unit) (options : SlotOptions)
    (config : SlotConfig) : Option (Except LinkError Slot) :=
  match dial config with
  | .error e => some (.error e)
  | .ok () => (Slot.start? config.slot options reserve).map .ok

/-- Connecting one slot succeeds. -/
def Connects (reserve : Reserve) (dial : SlotConfig → Except LinkError Unit)
    (options : SlotOptions) (config : SlotConfig) : Prop :=
  ∃ slot, slot? reserve dial options config = some (.ok slot)

variable {reserve : Reserve} {dial : SlotConfig → Except LinkError Unit} {options : SlotOptions}
  {set : SlotSet} {connected configs : List SlotConfig} {config : SlotConfig} {e : LinkError}

theorem isNew_start (id : SlotId) (options : SlotOptions) :
    IsNew (.start id options) id options :=
  ⟨rfl, rfl, rfl, rfl, rfl, rfl, rfl, rfl, rfl⟩

/-- The slot that is connected is the configured one. -/
theorem Connects.slot? (h : Connects reserve dial options config) :
    slot? reserve dial options config = some (.ok (.start config.slot options)) := by
  obtain ⟨slot, h⟩ := h
  rw [SlotSet.slot?] at h ⊢
  cases hdial : dial config with
  | error e =>
    rw [hdial] at h
    cases h
  | ok =>
    rw [hdial] at h
    dsimp only at h ⊢
    by_cases hstart : options.isStartable reserve = true
    · rw [Slot.start?, if_pos hstart, Option.map_some]
    · rw [Slot.start?, if_neg hstart] at h
      cases h

theorem slot?_eq_none_iff :
    slot? reserve dial options config = none ↔
      dial config = .ok () ∧ ¬options.isStartable reserve = true := by
  rw [slot?]
  split
  · next hdial => simp [hdial]
  · next hdial => simp [hdial, Slot.start?]

/-- Connecting a list begins with its first slot. -/
theorem connectAll?_cons :
    connectAll? reserve dial options set (config :: configs)
      = (slot? reserve dial options config).bind fun
        | .error e => some { attempted := [config], set := set.shutDown, error := some e }
        | .ok slot => (connectAll? reserve dial options (set.insert slot).1 configs).map
            fun attempt => { attempt with attempted := config :: attempt.attempted } := by
  rw [connectAll?, slot?]
  cases dial config with
  | error e => rfl
  | ok =>
    cases Slot.start? config.slot options reserve with
    | none => rfl
    | some slot =>
      dsimp only [Option.bind_eq_bind, Option.bind_some, Option.map_some]
      cases connectAll? reserve dial options (set.insert slot).1 configs <;> rfl

theorem isMadeOf_nothing (options : SlotOptions) : IsMadeOf {} options [] :=
  ⟨List.Perm.refl _, List.Pairwise.nil, List.forall_mem_nil _⟩

/-- A slot with a number of its own is added to the others. -/
theorem IsMadeOf.insert (h : set.IsMadeOf options connected)
    (hnew : config.slot ∉ connected.map (·.slot)) :
    (set.insert (.start config.slot options)).1.IsMadeOf options (connected ++ [config]) where
  slots := by
    have hfresh : ∀ old ∈ set.slots, old.id ≠ (Slot.start config.slot options).id := by
      intro old hmem hsame
      obtain ⟨other, hother, rfl⟩ := List.mem_map.1 (h.slots.mem_iff.1 hmem)
      exact hnew (List.mem_map.2 ⟨other, hother, hsame⟩)
    have hslots := (perm_insertById hfresh).trans (h.slots.cons _)
    rw [List.map_append]
    exact hslots.trans (List.perm_append_singleton _ _).symm
  ordered := pairwise_insertById h.ordered
  areNew := by
    intro slot hmem
    rcases mem_insertById hmem with rfl | hold
    · exact ⟨config, List.mem_append_right _ List.mem_cons_self, isNew_start config.slot options⟩
    · obtain ⟨other, hother, hnew⟩ := h.areNew slot hold
      exact ⟨other, List.mem_append_left _ hother, hnew⟩

/-- When the set is shut down, each of its slots is. -/
theorem IsMadeOf.shutDown (h : set.IsMadeOf options connected) {slot : Slot}
    (hmem : slot ∈ set.shutDown.slots) :
    slot.isClosed = true ∧ slot.outlet.hasStream = false := by
  obtain ⟨old, hold, rfl⟩ := List.mem_map.1 hmem
  obtain ⟨config, -, rfl⟩ := List.mem_map.1 (h.slots.mem_iff.1 hold)
  obtain ⟨hclosed, -, hstream⟩ := shutDownSlot_spec (.start config.slot options)
  exact ⟨hclosed, hstream rfl⟩

/-- Slots that are connected are added one after the other, and the rest is attempted on top of
them. -/
theorem connectAll?_append (hset : set.IsMadeOf options connected)
    (hids : ((connected ++ configs).map (·.slot)).Nodup)
    (hconnects : ∀ config ∈ configs, Connects reserve dial options config)
    (later : List SlotConfig) :
    ∃ after : SlotSet, after.IsMadeOf options (connected ++ configs) ∧
      connectAll? reserve dial options set (configs ++ later)
        = (connectAll? reserve dial options after later).map fun attempt =>
            { attempt with attempted := configs ++ attempt.attempted } := by
  induction configs generalizing set connected with
  | nil =>
    rw [List.append_nil]
    exact ⟨set, hset, Option.map_id'.symm⟩
  | cons config configs ih =>
    obtain ⟨hfirst, hothers⟩ := List.forall_mem_cons.1 hconnects
    rw [List.append_cons] at hids ⊢
    have hnew : config.slot ∉ connected.map (·.slot) := by
      rw [List.append_assoc, List.map_append] at hids
      intro hmem
      exact (List.nodup_append.1 hids).2.2 _ hmem _ List.mem_cons_self rfl
    obtain ⟨after, hafter, hrest⟩ := ih (hset.insert hnew) hids hothers
    refine ⟨after, hafter, ?_⟩
    rw [List.cons_append, connectAll?_cons, hfirst.slot?]
    dsimp only [Option.bind_some]
    rw [hrest, Option.map_map]
    rfl

theorem connect?_of_error {config : Config} {e : ConfigError} (h : config.check = .error e) :
    connect? dial config reserve
      = some { attempted := [], set := {}, error := some e.toLinkError } := by
  rw [connect?, h]

/-- The slots of a sound configuration that come first are connected, and the rest is attempted on
top of them. -/
theorem connect?_of_isSound {config : Config} (hsound : config.IsSound)
    {later : List SlotConfig} (hslots : config.slots = connected ++ later)
    (hconnects : ∀ accepting ∈ connected, Connects reserve dial config.slotOptions accepting) :
    ∃ set : SlotSet, set.IsMadeOf config.slotOptions connected ∧
      connect? dial config reserve
        = (connectAll? reserve dial config.slotOptions set later).map fun attempt =>
            { attempt with attempted := connected ++ attempt.attempted } := by
  have hids : ((connected ++ later).map (·.slot)).Nodup := hslots ▸ hsound.distinct
  rw [List.map_append] at hids
  obtain ⟨set, hset, hconnect⟩ := connectAll?_append (isMadeOf_nothing config.slotOptions)
    (List.nodup_append.1 hids).1 hconnects later
  refine ⟨set, hset, ?_⟩
  rw [connect?, Config.check_eq_ok_iff.2 hsound, hslots]
  exact hconnect

/-- **Connecting is all or nothing.** Nothing is attempted unless the numbers of the slots are
distinct, the frame limit is within its range, and events are kept; otherwise the first of these
rules that is broken is reported, and of repeated slots the first in the list that stands there
before.

Slots are attempted in the order of the list, up to the first that does not connect. If that is an
error, it is returned as it is, and all slots that were connected before, and no others, are shut
down. If every slot connects, the set has exactly the slots of the configuration, one for each, with
its limits, and in increasing order. Where connecting a slot comes to neither, as the slot cannot
start, the whole comes to nothing. -/
theorem connect?_all_or_nothing (dial : SlotConfig → Except LinkError Unit) (config : Config)
    (reserve : Reserve) :
    let reports (e : ConfigError) : Prop := connect? dial config reserve
      = some { attempted := [], set := {}, error := some e.toLinkError }
    let options := config.slotOptions
    (¬config.slotIds.Nodup → ∃ before id after, config.slotIds = before ++ id :: after ∧
      before.Nodup ∧ id ∈ before ∧ reports (.duplicateSlot id)) ∧
    (config.slotIds.Nodup → ¬config.HasFrameLimit → reports .frameLimitOutOfRange) ∧
    (config.slotIds.Nodup → config.HasFrameLimit → config.eventCapacity.toNat = 0 →
      reports .noEventCapacity) ∧
    (config.IsSound →
      (∀ connected failing later e, config.slots = connected ++ failing :: later →
        (∀ accepting ∈ connected, Connects reserve dial options accepting) →
        slot? reserve dial options failing = some (.error e) →
        ∃ set : SlotSet, set.IsMadeOf options connected ∧
          connect? dial config reserve = some {
            attempted := connected ++ [failing], set := set.shutDown, error := some e } ∧
          ∀ slot ∈ set.shutDown.slots, slot.isClosed = true ∧ slot.outlet.hasStream = false) ∧
      ((∀ accepting ∈ config.slots, Connects reserve dial options accepting) →
        ∃ set : SlotSet, set.IsMadeOf options config.slots ∧
          connect? dial config reserve = some { attempted := config.slots, set, error := none }) ∧
      (∀ connected broken later, config.slots = connected ++ broken :: later →
        (∀ accepting ∈ connected, Connects reserve dial options accepting) →
        slot? reserve dial options broken = none → connect? dial config reserve = none)) := by
  intro reports options
  refine ⟨fun hrepeated => ?_, fun hids hlimit => ?_, fun hids hlimit hevents => ?_,
    fun hsound => ⟨?_, ?_, ?_⟩⟩
  · obtain ⟨before, id, after, hids, hdistinct, hid, hcheck⟩ := Config.check_of_repeated hrepeated
    exact ⟨before, id, after, hids, hdistinct, hid, connect?_of_error hcheck⟩
  · exact connect?_of_error (Config.check_of_frameLimit hids hlimit)
  · exact connect?_of_error (Config.check_of_events hids hlimit (UInt64.toNat_inj.1 hevents))
  · intro connected failing later e hslots hconnects hfails
    obtain ⟨set, hset, hconnect⟩ := connect?_of_isSound hsound hslots hconnects
    refine ⟨set, hset, ?_, fun slot hmem => hset.shutDown hmem⟩
    rw [hconnect, connectAll?_cons, hfails]
    rfl
  · intro hconnects
    have hslots : config.slots = config.slots ++ [] := (List.append_nil _).symm
    obtain ⟨set, hset, hconnect⟩ := connect?_of_isSound hsound hslots hconnects
    refine ⟨set, hset, ?_⟩
    rw [hconnect, connectAll?, Option.map_some, List.append_nil]
  · intro connected broken later hslots hconnects hbroken
    obtain ⟨set, -, hconnect⟩ := connect?_of_isSound hsound hslots hconnects
    rw [hconnect, connectAll?_cons, hbroken]
    rfl

/-- Slots 3, 1 and 7 in this order, with limits of their own. If the last is refused, the two before
it are shut down; if none is, the set has them in increasing order, all with those limits. -/
theorem connect?_two_before_refused :
    let config : Config := {
      slots := [⟨⟨3⟩, .unix "a"⟩, ⟨⟨1⟩, .tcp "b:1"⟩, ⟨⟨7⟩, .serial "c" 9600⟩]
      maxFrameLen := 512, requestTimeout := none, eventCapacity := 9, ackHistory := 3 }
    let refused : LinkError := .config "refused"
    let dial (slot : SlotConfig) : Except LinkError Unit :=
      if slot.endpoint = .serial "c" 9600 then .error refused else .ok ()
    let limits (slot : Slot) :=
      (slot.outlet.limit, slot.framer.limit, slot.registry.historyLimit, slot.options)
    (∃ set : SlotSet, set.IsMadeOf config.slotOptions (config.slots.take 2) ∧
      connect? dial config = some {
        attempted := config.slots, set := set.shutDown, error := some refused }) ∧
    (∃ set : SlotSet, set.IsMadeOf config.slotOptions config.slots ∧
      connect? (fun _ => .ok ()) config = some { attempted := config.slots, set, error := none }) ∧
    (connect? dial config).map (·.set.slots.map fun slot => (slot.id.raw, slot.isClosed))
      = some [(1, true), (3, true)] ∧
    (connect? (fun _ => .ok ()) config).map
        (·.set.slots.map fun slot => (slot.id.raw, slot.isClosed, limits slot))
      = some ([1, 3, 7].map fun number => (number, false, 512, 512, 3, {
          maxFrameLen := 512, requestTimeout := none, eventCapacity := 9, ackHistory := 3 })) := by
  intro config refused dial limits
  have hsound : config.IsSound := Config.check_eq_ok_iff.1 (by cbv)
  obtain ⟨-, -, -, hfailing⟩ := connect?_all_or_nothing dial config {}
  have hconnects : ∀ accepting ∈ config.slots.take 2,
      Connects {} dial config.slotOptions accepting :=
    List.forall_mem_cons.2 ⟨⟨_, rfl⟩, List.forall_mem_singleton.2 ⟨_, rfl⟩⟩
  obtain ⟨set, hset, hconnect, -⟩ := (hfailing hsound).1 (config.slots.take 2)
    ⟨⟨7⟩, .serial "c" 9600⟩ [] refused rfl hconnects rfl
  obtain ⟨-, -, -, haccepting⟩ := connect?_all_or_nothing (fun _ => .ok ()) config {}
  exact ⟨⟨set, hset, hconnect⟩, (haccepting hsound).2.1 fun _ _ => ⟨_, rfl⟩, by cbv, by cbv⟩

end SlotSet

/-! ## What a check leaves out -/

namespace SlotSet

variable {reserve : Reserve} {dial : SlotConfig → Except LinkError Unit} {options : SlotOptions}
  {set : SlotSet} {configs : List SlotConfig}

/-- Where slots can start, something comes of every attempt. -/
theorem connectAll?_ne_none (hstart : options.isStartable reserve = true) :
    connectAll? reserve dial options set configs ≠ none := by
  induction configs generalizing set with
  | nil => exact Option.some_ne_none _
  | cons config configs ih =>
    rw [connectAll?_cons]
    rcases hslot : slot? reserve dial options config with - | (e | slot)
    · exact absurd hstart (slot?_eq_none_iff.1 hslot).2
    · exact Option.some_ne_none _
    · rw [Option.bind_some, Ne, Option.map_eq_none_iff]
      exact ih

/-- Where slots cannot start, nothing comes of an attempt whose first endpoint accepts. -/
theorem connectAll?_eq_none_iff :
    connectAll? reserve dial options set configs = none ↔ ¬options.isStartable reserve = true ∧
      ∃ first later, configs = first :: later ∧ dial first = .ok () := by
  constructor
  · intro h
    have hstart : ¬options.isStartable reserve = true := fun hstart =>
      connectAll?_ne_none hstart h
    cases configs with
    | nil => cases h
    | cons first later =>
      refine ⟨hstart, first, later, rfl, ?_⟩
      cases hdial : dial first with
      | error e =>
        rw [connectAll?, hdial] at h
        cases h
      | ok => rfl
  · rintro ⟨hstart, first, later, rfl, hdial⟩
    rw [connectAll?_cons, slot?_eq_none_iff.2 ⟨hdial, hstart⟩]
    rfl

end SlotSet

namespace Config

variable {config : Config} {reserve : Reserve}

/-- No limit is beyond what can be reserved anywhere. -/
def Fits (config : Config) : Prop :=
  config.eventCapacity.toNat < 2 ^ 63 ∧ config.ackHistory.toNat < 2 ^ 61

/-- The limits can be reserved here: a buffer for the events, and four bytes for each token. -/
def IsHeldBy (config : Config) (reserve : Reserve) : Prop :=
  reserve.holdsEvents config.eventCapacity.toNat = true ∧
    reserve.holdsBytes (4 * config.ackHistory.toNat) = true

theorem IsHeldBy.fits (h : config.IsHeldBy reserve) : config.Fits := by
  have hevents := reserve.events_le _ h.1
  have hbytes := reserve.bytes_le _ h.2
  have hmost : maxEventCapacity = 2 ^ 63 - 1 := rfl
  have hlongest : maxReservation = 2 ^ 63 - 1 := rfl
  rw [Fits]
  omega

/-- Where nothing is refused that can be reserved anywhere. -/
theorem holdsBytes_default_iff {tokens : Nat} :
    ({} : Reserve).holdsBytes (4 * tokens) = true ↔ tokens < 2 ^ 61 := by
  have hlongest : maxReservation = 2 ^ 63 - 1 := rfl
  refine decide_eq_true_iff.trans ?_
  omega

theorem Fits.isHeldBy (h : config.Fits) : config.IsHeldBy {} := by
  have hmost : maxEventCapacity = 2 ^ 63 - 1 := rfl
  have hevents := h.1
  exact ⟨decide_eq_true (by omega), holdsBytes_default_iff.2 h.2⟩

theorem isStartable_iff (hcheck : config.check = .ok ()) :
    config.slotOptions.isStartable reserve = true ↔ config.IsHeldBy reserve := by
  -- At least one event is kept as it is.
  have hbuffered : config.slotOptions.bufferedEvents = config.eventCapacity.toNat :=
    Nat.max_eq_left (check_eq_ok_iff.1 hcheck).events
  rw [SlotOptions.isStartable, hbuffered, Bool.and_eq_true]
  exact Iff.rfl

theorem start?_eq_none_iff (hcheck : config.check = .ok ()) {id : SlotId} :
    Slot.start? id config.slotOptions reserve = none ↔ ¬config.IsHeldBy reserve := by
  rw [Slot.start?, ← isStartable_iff hcheck]
  split
  · next hstart => simp [hstart]
  · next hstart => simp [hstart]

theorem create?_eq_none_iff {id : SlotId} {historyLimit : Nat} :
    Registry.create? id historyLimit reserve = none ↔
      ¬reserve.holdsBytes (4 * historyLimit) = true := by
  rw [Registry.create?]
  split
  · next hholds => simp [hholds]
  · next hholds => simp [hholds]

/-- **A checked configuration is of use only as far as its limits can be reserved.** A check bounds
the number of events from below and the length of the history not at all. Whatever the platform can
reserve, a registry can be made exactly if that holds the history, and a slot starts exactly if it
holds both the events and the history; otherwise connecting comes to nothing at the first endpoint,
if it accepts.

No platform holds a history of 2⁶³ bytes or more, nor a buffer for 2⁶³ events or more. Where nothing
else is refused a registry can be made for every shorter history, and a configuration that asks for
neither is of use. -/
theorem unusable_iff_not_fits (reserve : Reserve) (hcheck : config.check = .ok ()) :
    (∀ id, Registry.create? id config.ackHistory.toNat reserve = none ↔
      ¬reserve.holdsBytes (4 * config.ackHistory.toNat) = true) ∧
    (∀ id, Slot.start? id config.slotOptions reserve = none ↔ ¬config.IsHeldBy reserve) ∧
    (∀ dial, SlotSet.connect? dial config reserve = none ↔ ¬config.IsHeldBy reserve ∧
      ∃ first later, config.slots = first :: later ∧ dial first = .ok ()) ∧
    (2 ^ 61 ≤ config.ackHistory.toNat →
      ¬reserve.holdsBytes (4 * config.ackHistory.toNat) = true) ∧
    (¬config.Fits → ¬config.IsHeldBy reserve) ∧ (config.IsHeldBy {} ↔ config.Fits) ∧
    (({} : Reserve).holdsBytes (4 * config.ackHistory.toNat) = true ↔
      config.ackHistory.toNat < 2 ^ 61) := by
  refine ⟨fun id => create?_eq_none_iff, fun id => start?_eq_none_iff hcheck, fun dial => ?_,
    fun hlong hholds => ?_, fun hnot hheld => hnot hheld.fits, ⟨IsHeldBy.fits, Fits.isHeldBy⟩,
    holdsBytes_default_iff⟩
  · rw [SlotSet.connect?, hcheck, ← isStartable_iff hcheck]
    exact SlotSet.connectAll?_eq_none_iff
  · have hbytes := reserve.bytes_le _ hholds
    have hlongest : maxReservation = 2 ^ 63 - 1 := rfl
    omega

/-- With the limits that are set by default, something comes of connecting. -/
theorem usable_by_default :
    let config : Config := { slots := [⟨⟨0⟩, .unix "a"⟩] }
    config.check = .ok () ∧ config.Fits ∧ SlotSet.connect? (fun _ => .ok ()) config ≠ none := by
  intro config
  have hcheck : config.check = .ok () := by cbv
  have hfits : config.Fits := ⟨by decide, by decide⟩
  obtain ⟨-, -, hconnect, -, -, hheld, -⟩ := unusable_iff_not_fits {} hcheck
  refine ⟨hcheck, hfits, fun h => ?_⟩
  exact ((hconnect fun _ => .ok ()).1 h).1 (hheld.2 hfits)

/-- Two configurations that are checked and of no use, whatever the platform can reserve, one with
2⁶¹ tokens to remember and one with 2⁶³ events to keep: no slot starts, and connecting comes to
nothing. -/
theorem checked_and_unusable :
    let slots : List SlotConfig := [⟨⟨0⟩, .unix "a"⟩]
    let history : Config := { slots, ackHistory := 2305843009213693952 }
    let events : Config := { slots, eventCapacity := 9223372036854775808 }
    (history.check = .ok () ∧ Registry.create? ⟨0⟩ history.ackHistory.toNat = none ∧
      Slot.start? ⟨0⟩ history.slotOptions = none ∧
      (SlotSet.connect? (fun _ => .ok ()) history).isNone = true) ∧
    (events.check = .ok () ∧ Slot.start? ⟨0⟩ events.slotOptions = none ∧
      (SlotSet.connect? (fun _ => .ok ()) events).isNone = true) ∧
    ∀ reserve : Reserve, Slot.start? ⟨0⟩ history.slotOptions reserve = none ∧
      Slot.start? ⟨0⟩ events.slotOptions reserve = none := by
  intro slots history events
  have hhistory : history.check = .ok () := by cbv
  have hevents : events.check = .ok () := by cbv
  refine ⟨⟨hhistory, ?_, ?_, ?_⟩, ⟨hevents, ?_, ?_⟩, fun reserve => ⟨?_, ?_⟩⟩
  · cbv
  · cbv
  · cbv
  · cbv
  · cbv
  · exact (start?_eq_none_iff hhistory).2 fun hheld => absurd hheld.fits.2 (by decide)
  · exact (start?_eq_none_iff hevents).2 fun hheld => absurd hheld.fits.1 (by decide)

end Config

end RadioLink
