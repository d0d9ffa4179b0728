import RadioLink.Proofs.Handlings

set_option autoImplicit false

/-! # Handlings are accounted for

Whatever is done to a slot with an open outlet, its trace can still be divided into handlings. Two
things need an argument. An acknowledgment is decided on before it is written, so a token that
counts as acknowledged belongs to a handling that is over, or to the one that is going on; the
reader takes the next frame only after that. And an acknowledgment is written in as many pieces as
the stream likes, but the reader keeps its place at the front of the outlet until the last of them,
so nothing gets in between. -/

namespace RadioLink

/-! ## What others do -/

namespace Session

variable {x y : Session} {handled : List Handling} {pieces : List Bytes} {blocks : List Block}

theorem others_append {trace : List Noted} {effects : List Effect} {byReader : Bool}
    (h : ∀ noted ∈ trace, noted.byReader = false → noted.effect.isReaders = false)
    (heffects : byReader = false → ∀ effect ∈ effects, effect.isReaders = false) :
    ∀ noted ∈ trace ++ effects.map (Noted.mk byReader), noted.byReader = false →
      noted.effect.isReaders = false := by
  intro noted hmem hothers
  rcases List.mem_append.1 hmem with hmem | hmem
  · exact h noted hmem hothers
  · obtain ⟨effect, heffect, rfl⟩ := List.mem_map.1 hmem
    exact heffects hothers effect heffect

/-- What others do is not to be accounted for. -/
theorem Accounts.goPast (h : x.Accounts handled pieces blocks) {action : Action}
    {effects : List Effect} (hpast : x.GoesPast (x.act action) effects)
    (hothers : x.isReaders action = false) (heffects : ∀ effect ∈ effects, effect.isApart) :
    (x.step action).Accounts handled pieces blocks := by
  have htrace := trace_step action h.log hpast.log
  rw [hothers] at htrace
  obtain ⟨bytes, hframer, harrived⟩ := hpast.framer
  exact {
    log := rfl
    isClosed := hpast.isClosed.trans h.isClosed
    isOpen := hpast.outlet.isOpen
    limit := hpast.outlet.limit.trans (h.limit.trans (congrArg Framer.limit hframer).symm)
    proper := h.proper
    arrived := by
      show (x.act action).arrived = _ ++ (x.act action).slot.reading.bytes
        ++ (x.act action).slot.framer.buffer
      rw [harrived, h.arrived, hpast.reading, hframer, List.append_assoc]
      rfl
    effects := by
      show _ = _ ++ (x.act action).slot.reading.effects pieces
      rw [htrace, readerEffects_append, readerEffects_byOthers, List.append_nil, h.effects,
        hpast.reading]
    others := by
      rw [htrace]
      exact others_append h.others fun _ effect hmem => (heffects effect hmem).1
    writes := by
      rw [htrace, writes_append, writes_of_silent fun effect hmem => (heffects effect hmem).2,
        List.append_nil, h.writes]
    acked := by
      intro token hmem
      have hacked := h.acked token (hpast.acked hmem)
      rw [← hpast.reading] at hacked
      exact hacked
    stands := by
      show (x.act action).slot.outlet.Stands handled blocks (x.act action).slot.reading pieces
      rw [hpast.reading]
      exact h.stands.keep hpast.outlet }

/-- A call that only changes the registry goes past the reader. -/
theorem GoesPast.of_does {effects : List Effect} (h : x.slot.Does y.slot effects)
    (htrace : y.trace = x.trace) (harrived : y.arrived = x.arrived)
    (hacked : y.slot.registry.acked ⊆ x.slot.registry.acked)
    (houtlet : x.slot.outlet.KeepsReader y.slot.outlet) : x.GoesPast y effects where
  log := h.log
  trace := htrace
  isClosed := h.isClosed
  reading := h.reading
  framer := by
    refine ⟨[], h.framer.trans ?_, harrived.trans (List.append_nil _).symm⟩
    rw [Framer.push, List.append_nil]
  acked := hacked
  outlet := houtlet

/-! ## Writing -/

/-- What the stream accepts is accounted for if whoever wrote it is. -/
theorem Accounts.accept_of (h : x.Accounts handled pieces blocks) {count : Nat}
    {effects : List Effect} {more : List Bytes} {added : List Block} {byReader : Bool}
    (heffects : effects = if (x.slot.outlet.accept count).2.isEmpty then []
      else [.wrote (x.slot.outlet.accept count).2])
    (hreader : x.isReaders (.accept count) = byReader)
    (hdone : x.slot.reading.effects more
      = x.slot.reading.effects pieces ++ readerEffects (effects.map (Noted.mk byReader)))
    (hwritten : added.flatMap Block.writes
      = blocks.flatMap Block.writes ++ RadioLink.writes (effects.map (Noted.mk byReader)))
    (hstands : (x.slot.outlet.accept count).1.Stands handled added x.slot.reading more) :
    (x.step (.accept count)).Accounts handled more added := by
  have hdoes := x.slot.does_accept count
  rw [← heffects] at hdoes
  have htrace := trace_step (.accept count) h.log hdoes.log
  rw [hreader] at htrace
  have houtlet := x.slot.outlet_accept count
  have hregistry := x.slot.registry_accept count
  exact {
    log := rfl
    isClosed := hdoes.isClosed.trans h.isClosed
    isOpen := houtlet ▸ Outlet.isOpen_accept h.isOpen count
    limit := by
      show (x.slot.accept count).outlet.limit = (x.slot.accept count).framer.limit
      rw [houtlet, Outlet.limit_accept, hdoes.framer, h.limit]
    proper := h.proper
    arrived := by
      show x.arrived = _ ++ (x.slot.accept count).reading.bytes
        ++ (x.slot.accept count).framer.buffer
      rw [hdoes.reading, hdoes.framer, h.arrived]
    effects := by
      show _ = _ ++ (x.slot.accept count).reading.effects more
      rw [htrace, readerEffects_append, h.effects, hdoes.reading, hdone, List.append_assoc]
    others := by
      rw [htrace]
      refine others_append h.others fun _ effect hmem => ?_
      rw [heffects] at hmem
      split at hmem
      · cases hmem
      · rw [List.mem_singleton.1 hmem]
        rfl
    writes := by
      rw [htrace, writes_append, h.writes, hwritten]
    acked := by
      show ∀ token ∈ (x.slot.accept count).registry.acked,
        _ ∨ (x.slot.accept count).reading.Acks token
      rw [hregistry, hdoes.reading]
      exact h.acked
    stands := by
      show (x.slot.accept count).outlet.Stands handled added (x.slot.accept count).reading more
      rw [houtlet, hdoes.reading]
      exact hstands }

/-- The stream accepts bytes of a caller, or nothing. -/
theorem Accounts.accept_caller (h : x.Accounts handled pieces blocks) (count : Nat)
    (hhead : ∀ turn, x.slot.outlet.turns.head? = some turn → turn.party ≠ .reader) :
    ∃ added, (x.step (.accept count)).Accounts handled pieces added := by
  have hreader : x.isReaders (.accept count) = false := by
    rw [isReaders]
    cases hfirst : x.slot.outlet.turns.head? with
    | none => rfl
    | some turn => exact beq_eq_false_iff_ne.2 (hhead turn hfirst)
  have hkeeps := Outlet.keepsReader_accept h.isOpen count hhead
  by_cases hbytes : (x.slot.outlet.accept count).2.isEmpty
  · refine ⟨blocks, h.accept_of (if_pos hbytes).symm hreader ?_ ?_ (h.stands.keep hkeeps)⟩
    · exact (List.append_nil _).symm
    · exact (List.append_nil _).symm
  · refine ⟨blocks ++ [⟨false, [(x.slot.outlet.accept count).2]⟩],
      h.accept_of (if_neg hbytes).symm hreader ?_ ?_ ((h.stands.othersWrite hhead _).keep hkeeps)⟩
    · exact (List.append_nil _).symm
    · exact List.flatMap_append

/-- The stream accepts bytes of the reader, which are the next ones of its acknowledgment. -/
theorem Accounts.accept_reader (h : x.Accounts handled pieces blocks) (count : Nat)
    {rest : Bytes} {turns : List Turn}
    (hturns : x.slot.outlet.turns = ⟨.reader, .send rest⟩ :: turns) :
    ∃ more added, (x.step (.accept count)).Accounts handled more added := by
  have hreader : x.isReaders (.accept count) = true := by
    rw [isReaders, hturns]
    rfl
  obtain ⟨frame, ack, before, hreading, hblocks, hstands⟩ :=
    h.stands.accept h.isOpen hturns count
  have heffects : (writtenNow (x.slot.outlet.accept count).2).map Effect.wrote
      = if (x.slot.outlet.accept count).2.isEmpty then []
        else [.wrote (x.slot.outlet.accept count).2] := by
    rw [writtenNow]
    split <;> rfl
  refine ⟨_, _, h.accept_of heffects hreader ?_ ?_ hstands⟩
  · rw [hreading, readerEffects_byReader, Reading.effects, Reading.effects, List.map_append]
    rfl
  · rw [hblocks, List.flatMap_append, List.flatMap_append, writes_begun, writes_begun,
      writes_wrote, List.map_append, List.append_assoc]

end Session

/-! ## Reading -/

/-- What a frame is acknowledged with is what it asks for, unless the registry takes it for a
duplicate. -/
theorem Slot.receive_ack (s : Slot) (frame : Frame) :
    (s.receive frame).2 = if frame.kind = .solicitedAckExpected ∧
        (s.registry.beginAck frame.token).2 = .duplicate then none else frame.ack? := by
  by_cases hkind : frame.kind = .solicitedAckExpected
  · rw [(receive_ackExpected hkind).2, Frame.ack?, hkind]
    simp only [true_and]
    rfl
  · rw [if_neg fun h => hkind h.1, Frame.ack?]
    unfold receive
    cases hframe : frame.kind with
    | solicitedAckExpected => exact absurd hframe hkind
    | solicited | unsolicited | solicitedAck | unsolicitedAckExpected => rfl

/-- A frame that is taken in needs no acknowledgment, or not any more, or one is to be written. -/
theorem Slot.receive_cases (s : Slot) (frame : Frame) :
    (∃ acknowledgment, (s.receive frame).2 = none ∧
      s.Does (s.receive frame).1 (Handling.mk frame acknowledgment []).effects ∧
      (s.receive frame).1.registry.acked ⊆ s.registry.acked ∧
      (acknowledgment = .none ∧ frame.ack? = none ∨
        acknowledgment = .duplicate ∧ frame.kind = .solicitedAckExpected ∧
          frame.token ∈ s.registry.acked)) ∨
    ∃ ack, (s.receive frame).2 = some ack ∧ frame.ack? = some ack ∧
      s.Does (s.receive frame).1 [frame.received] := by
  have hdoes := s.does_receive frame
  have hacked := s.acked_receive frame
  rw [receive_ack]
  by_cases hduplicate : frame.kind = .solicitedAckExpected ∧
      (s.registry.beginAck frame.token).2 = .duplicate
  · have hmem := Registry.mem_acked_of_duplicate hduplicate.2
    rw [if_pos hduplicate] at hdoes ⊢
    refine .inl ⟨.duplicate, rfl, hdoes, fun token htoken => ?_, .inr ⟨rfl, hduplicate.1, hmem⟩⟩
    rcases hacked token htoken with htoken | ⟨-, rfl⟩
    · exact htoken
    · exact hmem
  · rw [if_neg hduplicate] at hdoes ⊢
    cases hack : frame.ack? with
    | some ack => exact .inr ⟨ack, rfl, rfl, hdoes⟩
    | none =>
      refine .inl ⟨.none, rfl, hdoes, fun token htoken => ?_, .inl ⟨rfl, rfl⟩⟩
      rcases hacked token htoken with htoken | ⟨hkind, -⟩
      · exact htoken
      · rw [Frame.ack?, hkind] at hack
        cases hack

/-- The acknowledgment of a frame is not longer than the frame. -/
theorem Frame.length_of_ack? {frame : Frame} {ack : Command} (h : frame.ack? = some ack) :
    ack.encodeBody.length ≤ frame.encodeBody.length := by
  have hpayload : ack.payload = [] := by
    rw [ack?] at h
    split at h <;> cases h <;> rfl
  rw [Command.length_encodeBody, Frame.length_encodeBody, hpayload, List.length_nil,
    commandHeaderSize, frameHeaderSize]
  omega

namespace Session

variable {x y : Session} {handled : List Handling} {pieces : List Bytes} {blocks : List Block}

/-- The reader ends the handling of a frame with a step. -/
structure Finishes (x y : Session) (handling : Handling) (effects : List Effect) : Prop where
  log : y.slot.log = x.slot.log ++ effects
  isClosed : y.slot.isClosed = x.slot.isClosed
  reading : y.slot.reading = .waiting
  arrived : y.arrived = x.arrived
  bytes : x.slot.reading.bytes ++ x.slot.framer.buffer
    = handling.frame.encode ++ y.slot.framer.buffer
  framer : y.slot.framer.limit = x.slot.framer.limit
  acked : y.slot.registry.acked ⊆ x.slot.registry.acked
  acks : ∀ token, x.slot.reading.Acks token → handling.Acks token
  isOpen : y.slot.outlet.IsOpen
  outlet : y.slot.outlet.limit = x.slot.outlet.limit
  turns : y.slot.outlet.readerTurns = []
  outcomes : y.slot.outlet.readerOutcomes = []

/-- What the reader did about a frame is accounted for when it is over. -/
theorem Accounts.finish (h : x.Accounts handled pieces blocks) {action : Action}
    {handling : Handling} {effects : List Effect}
    (hfinishes : x.Finishes (x.act action) handling effects)
    (hreader : x.isReaders action = true) (hproper : handling.IsProper handled)
    (heffects : x.slot.reading.effects pieces ++ effects = handling.effects)
    (hsilent : ∀ effect ∈ effects, ∀ bytes, effect ≠ .wrote bytes)
    (hblocks : readerPieces blocks = (handled ++ [handling]).filterMap Handling.written?) :
    (x.step action).Accounts (handled ++ [handling]) [] blocks := by
  have htrace := trace_step action h.log hfinishes.log
  rw [hreader] at htrace
  exact {
    log := rfl
    isClosed := hfinishes.isClosed.trans h.isClosed
    isOpen := hfinishes.isOpen
    limit := hfinishes.outlet.trans (h.limit.trans hfinishes.framer.symm)
    proper := h.proper.snoc hproper
    arrived := by
      show (x.act action).arrived = _ ++ (x.act action).slot.reading.bytes
        ++ (x.act action).slot.framer.buffer
      rw [hfinishes.arrived, h.arrived, hfinishes.reading, List.append_assoc, hfinishes.bytes,
        List.flatMap_append, List.flatMap_singleton, Reading.bytes, List.append_nil,
        List.append_assoc]
    effects := by
      show _ = _ ++ (x.act action).slot.reading.effects []
      rw [htrace, readerEffects_append, readerEffects_byReader, h.effects, List.append_assoc,
        heffects, hfinishes.reading, List.flatMap_append, List.flatMap_singleton]
      exact (List.append_nil _).symm
    others := by
      rw [htrace]
      exact others_append h.others fun hothers => by cases hothers
    writes := by
      rw [htrace, writes_append, writes_of_silent hsilent, List.append_nil, h.writes]
    acked := by
      intro token hmem
      left
      rcases h.acked token (hfinishes.acked hmem) with ⟨before, hbefore, htoken⟩ | hreading
      · exact ⟨before, List.mem_append_left _ hbefore, htoken⟩
      · exact ⟨handling, List.mem_append_right _ List.mem_cons_self,
          hfinishes.acks token hreading⟩
    stands := by
      show (x.act action).slot.outlet.Stands _ blocks (x.act action).slot.reading []
      rw [hfinishes.reading]
      exact .waiting hfinishes.turns hfinishes.outcomes hblocks }

/-- A frame that needs no acknowledgment, or not any more, is handled at once. -/
theorem Accounts.read_unacknowledged (h : x.Accounts handled pieces blocks)
    (hwaiting : x.slot.reading = .waiting) {s received : Slot} {frame : Frame}
    (hnext : x.slot.framer.nextFrame.2 = some (.ok frame))
    (hs : s = { x.slot with framer := x.slot.framer.nextFrame.1 })
    {acknowledgment : Acknowledgment}
    (hdoes : s.Does received (Handling.mk frame acknowledgment []).effects)
    (hacked : received.registry.acked ⊆ x.slot.registry.acked)
    (houtlet : received.outlet = x.slot.outlet)
    (hcase : acknowledgment = .none ∧ frame.ack? = none ∨
      acknowledgment = .duplicate ∧ frame.kind = .solicitedAckExpected ∧
        frame.token ∈ x.slot.registry.acked)
    (hact : x.act .read = { x with slot := received.resolve frame }) :
    ∃ handling, (x.step .read).Accounts (handled ++ [handling]) [] blocks := by
  obtain ⟨hframer, hbuffer, -⟩ := Framer.of_nextFrame hnext
  obtain ⟨resolution, hresolved, hresolution⟩ := received.does_resolve frame
  have hboth := hdoes.trans hresolved
  have hstands := h.stands
  rw [hwaiting] at hstands
  cases hstands with
  | waiting hturns houtcomes hblocks =>
    have heffects : (Handling.mk frame acknowledgment []).effects ++ resolution
        = (Handling.mk frame acknowledgment resolution).effects := by
      simp only [Handling.effects, List.append_nil]
    have hproper : (Handling.mk frame acknowledgment resolution).IsProper handled := by
      refine ⟨?_, hresolution⟩
      rcases hcase with ⟨rfl, hack⟩ | ⟨rfl, hkind, hmem⟩
      · exact hack
      · refine ⟨hkind, (h.acked frame.token hmem).resolve_right ?_⟩
        rw [hwaiting]
        exact id
    have hunwritten : (Handling.mk frame acknowledgment resolution).written? = none := by
      rcases hcase with ⟨rfl, -⟩ | ⟨rfl, -⟩ <;> rfl
    have hafter : (received.resolve frame).outlet = x.slot.outlet :=
      (received.outlet_resolve frame).trans houtlet
    have hfinishes : x.Finishes (x.act .read) ⟨frame, acknowledgment, resolution⟩
        ((Handling.mk frame acknowledgment []).effects ++ resolution) := by
      rw [hact]
      rw [hs] at hboth
      exact {
        log := hboth.log
        isClosed := hboth.isClosed
        reading := hboth.reading.trans hwaiting
        arrived := rfl
        bytes := by
          rw [hwaiting, hbuffer, hboth.framer]
          rfl
        framer := (congrArg Framer.limit hboth.framer).trans hframer
        acked := List.Subset.trans (received.acked_resolve frame) hacked
        acks := by
          intro token hacks
          rw [hwaiting] at hacks
          cases hacks
        isOpen := hafter ▸ h.isOpen
        outlet := congrArg Outlet.limit hafter
        turns := (congrArg Outlet.readerTurns hafter).trans hturns
        outcomes := (congrArg Outlet.readerOutcomes hafter).trans houtcomes }
    refine ⟨_, h.finish hfinishes rfl hproper ?_ ?_ ?_⟩
    · rw [hwaiting]
      exact heffects
    · intro effect hmem bytes
      rcases List.mem_append.1 hmem with hmem | hmem
      · rintro rfl
        rcases hcase with ⟨rfl, -⟩ | ⟨rfl, -⟩ <;> simp [Handling.effects, Frame.received] at hmem
      · exact Effect.ne_wrote_of_isResolution (hresolution effect hmem) bytes
    · rw [List.filterMap_append, List.filterMap_cons_none hunwritten, List.filterMap_nil,
        List.append_nil, hblocks]

/-- A frame that is to be acknowledged has its acknowledgment offered first. -/
theorem Accounts.read_acknowledging (h : x.Accounts handled pieces blocks)
    (hwaiting : x.slot.reading = .waiting) {s received offered : Slot} {frame : Frame}
    {ack : Command} (hnext : x.slot.framer.nextFrame.2 = some (.ok frame))
    (hs : s = { x.slot with framer := x.slot.framer.nextFrame.1 })
    (hack : frame.ack? = some ack) (hdoes : s.Does received [frame.received])
    (hacked : ∀ token ∈ received.registry.acked,
      token ∈ x.slot.registry.acked ∨ (frame.kind = .solicitedAckExpected ∧ frame.token = token))
    (houtlet : received.outlet = x.slot.outlet)
    (hoffer : received.offer .reader ack = .ok offered)
    (hact : x.act .read = { x with
      slot := { offered with reading := .acknowledging frame ack } }) :
    (x.step .read).Accounts handled [] blocks := by
  obtain ⟨hframer, hbuffer, -⟩ := Framer.of_nextFrame hnext
  have hboth := hdoes.trans (Slot.does_offer hoffer)
  rw [hs] at hboth
  have hafter : offered.outlet = x.slot.outlet.enqueue .reader (.send ack.encode) := by
    rw [← houtlet]
    exact Outlet.offer_ok (Slot.outlet_of_offer hoffer)
  have hregistry : offered.registry = received.registry := Slot.registry_of_offer hoffer
  have hlog : (x.act .read).slot.log = x.slot.log ++ [frame.received] := by
    rw [hact]
    exact hboth.log
  have htrace := trace_step .read h.log hlog
  have hstands := h.stands
  rw [hwaiting] at hstands
  cases hstands with
  | waiting hturns houtcomes hblocks =>
    exact {
      log := rfl
      isClosed := by
        rw [step, hact]
        exact hboth.isClosed.trans h.isClosed
      isOpen := by
        rw [step, hact]
        exact hafter ▸ Outlet.isOpen_enqueue h.isOpen _ _
      limit := by
        rw [step, hact]
        show offered.outlet.limit = offered.framer.limit
        rw [hafter, hboth.framer]
        exact h.limit.trans hframer.symm
      proper := h.proper
      arrived := by
        rw [step, hact]
        have hrest : offered.framer.buffer = x.slot.framer.nextFrame.1.buffer :=
          congrArg Framer.buffer hboth.framer
        show x.arrived = (handled.flatMap fun h => h.frame.encode) ++ frame.encode
          ++ offered.framer.buffer
        rw [h.arrived, hwaiting, hrest, hbuffer, Reading.bytes, List.append_nil, List.append_assoc]
      effects := by
        rw [htrace, readerEffects_append, h.effects, hwaiting, step, hact]
        exact congrArg (· ++ [frame.received]) (List.append_nil _)
      others := by
        rw [htrace]
        exact others_append h.others fun hothers => by cases hothers
      writes := by
        rw [htrace, writes_append, h.writes]
        exact List.append_nil _
      acked := by
        rw [step, hact]
        show ∀ token ∈ offered.registry.acked, _
        rw [hregistry]
        intro token hmem
        rcases hacked token hmem with hmem | hasked
        · refine .inl ((h.acked token hmem).resolve_right ?_)
          rw [hwaiting]
          exact id
        · exact .inr hasked
      stands := by
        rw [step, hact]
        show offered.outlet.Stands handled blocks (.acknowledging frame ack) []
        rw [hafter]
        refine .writing frame ack [] ack.encode blocks hack ?_ houtcomes rfl ?_
          (List.append_nil _).symm hblocks
        · rw [Outlet.readerTurns, Outlet.enqueue, List.filter_append]
          exact congrArg (· ++ [⟨.reader, .send ack.encode⟩]) hturns
        · exact fun hne => absurd rfl hne }

/-- The reader goes on when its acknowledgment is written, and resolves the frame. -/
theorem Accounts.resume (h : x.Accounts handled pieces blocks) {outlet : Outlet} {outcome : Outcome}
    (htell : x.slot.outlet.tell? .reader = some (outlet, outcome)) :
    ∃ handling, (x.step (.resume .reader)).Accounts (handled ++ [handling]) [] blocks := by
  have houtcome := Outlet.readerOutcomes_tell? htell
  obtain ⟨-, hnext⟩ := Outlet.of_tell? htell
  have hstands := h.stands
  generalize hreading : x.slot.reading = reading at hstands
  cases hstands with
  | waiting hturns hnone =>
    rw [hnone] at houtcome
    cases houtcome
  | writing frame ack pieces rest before hack hturns hnone =>
    rw [hnone] at houtcome
    cases houtcome
  | written frame ack pieces hack hturns hone hpieces hblocks =>
    rw [hone] at houtcome
    obtain ⟨htold, hrest⟩ := List.cons_eq_cons.1 houtcome
    obtain rfl : outcome = .sent (.ok ()) := (congrArg Prod.snd htold).symm
    obtain ⟨resumed, hresumed⟩ : ∃ resumed : Slot,
        resumed = { x.slot with outlet, reading := .waiting } := ⟨_, rfl⟩
    have hact : x.act (.resume .reader)
        = { x with slot := (resumed.publish (.ackSent ack.token)).resolve frame } := by
      simp only [act, htell, goOn, Slot.resumeReader, hreading, hresumed]
      rfl
    obtain ⟨resolution, hresolved, hresolution⟩ :=
      (resumed.publish (.ackSent ack.token)).does_resolve frame
    have hlog : ((resumed.publish (.ackSent ack.token)).resolve frame).log
        = x.slot.log ++ ([.published (.ackSent ack.token)] ++ resolution) := by
      rw [hresolved.log, hresumed, ← List.append_assoc]
      rfl
    have houtlet : ((resumed.publish (.ackSent ack.token)).resolve frame).outlet = outlet := by
      rw [Slot.outlet_resolve, hresumed]
      rfl
    have hproper : (Handling.mk frame (.written ack pieces) resolution).IsProper handled :=
      ⟨⟨hack, hpieces⟩, hresolution⟩
    have hfinishes : x.Finishes (x.act (.resume .reader)) ⟨frame, .written ack pieces, resolution⟩
        ([.published (.ackSent ack.token)] ++ resolution) := by
      rw [hact]
      exact {
        log := hlog
        isClosed := hresolved.isClosed.trans (by rw [hresumed]; rfl)
        reading := hresolved.reading.trans (by rw [hresumed]; rfl)
        arrived := rfl
        bytes := by
          rw [hreading, hresolved.framer, hresumed]
          rfl
        framer := (congrArg Framer.limit hresolved.framer).trans (by rw [hresumed]; rfl)
        acked := by
          refine List.Subset.trans (Slot.acked_resolve _ frame) ?_
          rw [hresumed]
          exact List.Subset.refl _
        acks := by
          intro token hacks
          rw [hreading] at hacks
          obtain ⟨hkind, rfl⟩ := hacks
          rw [Frame.ack?, hkind] at hack
          cases hack
          exact ⟨hkind, rfl, pieces, rfl⟩
        isOpen := by
          rw [houtlet, hnext]
          exact ⟨h.isOpen.isClosing, h.isOpen.hasStream, h.isOpen.isSend⟩
        outlet := by rw [houtlet, hnext]
        turns := by
          rw [houtlet, hnext]
          exact hturns
        outcomes := by
          rw [houtlet]
          exact hrest.symm }
    refine ⟨_, h.finish hfinishes rfl hproper ?_ ?_ ?_⟩
    · rw [hreading]
      simp only [Reading.effects, Handling.effects, List.cons_append, List.append_assoc]
    · intro effect hmem bytes
      rcases List.mem_append.1 hmem with hmem | hmem
      · rw [List.mem_singleton.1 hmem]
        exact Effect.noConfusion
      · exact Effect.ne_wrote_of_isResolution (hresolution effect hmem) bytes
    · rw [List.filterMap_append, hblocks]
      rfl

/-- Whatever frame the reader takes is accounted for. -/
theorem Accounts.read (h : x.Accounts handled pieces blocks) (hcloses : x.closing? .read = none) :
    ∃ handled more, (x.step .read).Accounts handled more blocks := by
  have hidle : x.act .read = x → ∃ handled more, (x.step .read).Accounts handled more blocks := by
    intro hact
    rw [step_of_idle h.log hact]
    exact ⟨handled, pieces, h⟩
  by_cases hwaiting : x.slot.reading = .waiting
  · rcases Slot.readNext?_cases hwaiting with ⟨-, hread⟩ | ⟨e, hnext, -⟩ | ⟨frame, hnext, hread⟩
    · exact hidle (by rw [act, hread])
    · rw [closing?, hwaiting, hnext] at hcloses
      cases hcloses
    · obtain ⟨s, hs⟩ : ∃ s : Slot, s = { x.slot with framer := x.slot.framer.nextFrame.1 } :=
        ⟨_, rfl⟩
      rw [← hs] at hread
      have houtlet : (s.receive frame).1.outlet = x.slot.outlet := by
        rw [Slot.outlet_receive, hs]
      have hregistry : s.registry = x.slot.registry := by rw [hs]
      have hacked := s.acked_receive frame
      rw [hregistry] at hacked
      rcases s.receive_cases frame with
        ⟨acknowledgment, hnone, hdoes, hkept, hcase⟩ | ⟨ack, hsome, hack, hdoes⟩
      · rw [hregistry] at hkept hcase
        have hact : x.act .read = { x with slot := (s.receive frame).1.resolve frame } := by
          rcases s.beginRoute_cases .reader frame with
            ⟨-, hroute⟩ | ⟨_, _, hsome, -⟩ | ⟨_, _, hsome, -⟩
          · rw [act, hread, hroute]
          · rw [hnone] at hsome
            cases hsome
          · rw [hnone] at hsome
            cases hsome
        obtain ⟨handling, hafter⟩ :=
          h.read_unacknowledged hwaiting hnext hs hdoes hkept houtlet hcase hact
        exact ⟨_, _, hafter⟩
      · obtain ⟨-, -, hlength⟩ := Framer.of_nextFrame hnext
        have hfits : ack.encodeBody.length ≤ (s.receive frame).1.outlet.limit.toNat := by
          rw [houtlet, h.limit]
          exact Nat.le_trans (Frame.length_of_ack? hack) hlength
        have hopen : (s.receive frame).1.outlet.IsOpen := houtlet ▸ h.isOpen
        rcases s.beginRoute_cases .reader frame with
          ⟨hnone, -⟩ | ⟨given, e, hgiven, hrefused, -⟩ | ⟨given, offered, hgiven, hoffer, hroute⟩
        · rw [hsome] at hnone
          cases hnone
        · rw [hsome] at hgiven
          cases hgiven
          rw [Slot.offer, Outlet.offer_of_isOpen hopen hfits] at hrefused
          cases hrefused
        · rw [hsome] at hgiven
          cases hgiven
          have hact : x.act .read = { x with
              slot := { offered with reading := .acknowledging frame ack } } := by
            rw [act, hread, hroute]
          exact ⟨_, _, h.read_acknowledging hwaiting hnext hs hack hdoes hacked houtlet hoffer hact⟩
  · exact hidle (by rw [act, Slot.readNext?_of_not_waiting hwaiting])

end Session

end RadioLink
