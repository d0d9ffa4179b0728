import RadioLink.Proofs.AckMarks
import RadioLink.Proofs.Closing
import RadioLink.Proofs.ReaderTurn
import RadioLink.Proofs.Wire

set_option autoImplicit false

/-! # What the reader of a slot does, frame by frame

What the reader of a slot does falls into pieces, one for each frame: it takes the frame in, writes
its acknowledgment if it asks for one, and resolves it. A `Handling` is such a piece, and
`IsProper` says what it has to be given the ones before it.

The invariant `Accounts` divides the trace of a slot into handlings, for as long as the outlet is
open. What has been written in the meantime it divides into blocks, each by one party, and
`Outlet.Stands` says how far the one is that is being written. -/

namespace RadioLink

/-! ## Handlings -/

/-- How a frame asks to be acknowledged: by a command under the number 800 without a payload, whose
token is that of the response or the number of the indication. -/
def Frame.ack? (frame : Frame) : Option Command :=
  match frame.kind with
  | .solicitedAckExpected => some ⟨⟨800⟩, frame.token, []⟩
  | .unsolicitedAckExpected => some ⟨⟨800⟩, ⟨frame.id⟩, []⟩
  | .solicited | .unsolicited | .solicitedAck => none

/-- What became of the acknowledgment of a frame. -/
inductive Acknowledgment
  | none
  /-- It was written, in these pieces. -/
  | written (ack : Command) (pieces : List Bytes)
  /-- One was written before. -/
  | duplicate

/-- What the reader does about one frame. -/
structure Handling where
  frame : Frame
  acknowledgment : Acknowledgment
  /-- What it does after the acknowledgment. -/
  resolution : List Effect

namespace Handling

def effects (h : Handling) : List Effect :=
  h.frame.received :: (match h.acknowledgment with
    | .none => []
    | .written ack pieces => pieces.map .wrote ++ [.published (.ackSent ack.token)]
    | .duplicate => [.published (.duplicateAck h.frame.token)]) ++ h.resolution

/-- The pieces of the acknowledgment, if one was written. -/
def written? (h : Handling) : Option (List Bytes) :=
  match h.acknowledgment with
  | .written _ pieces => some pieces
  | .none | .duplicate => none

/-- The acknowledgment of a response with this token was written. -/
def Acks (h : Handling) (token : Token) : Prop :=
  h.frame.kind = .solicitedAckExpected ∧ h.frame.token = token ∧
    ∃ pieces, h.acknowledgment = .written ⟨⟨800⟩, token, []⟩ pieces

/-- What a handling has to be that comes after others: the acknowledgment that the frame asks for is
written, or was written before for a response with the same token. Nothing is written after that. -/
structure IsProper (earlier : List Handling) (h : Handling) : Prop where
  acknowledgment : match h.acknowledgment with
    | .none => h.frame.ack? = none
    | .written ack pieces => h.frame.ack? = some ack ∧ pieces.flatten = ack.encode
    | .duplicate => h.frame.kind = .solicitedAckExpected ∧
      ∃ before ∈ earlier, before.Acks h.frame.token
  resolution : ∀ effect ∈ h.resolution, effect.isResolution = true

/-- Each of them is what it has to be after those before it. -/
def AreProper (handled : List Handling) : Prop :=
  ∀ earlier h later, handled = earlier ++ h :: later → h.IsProper earlier

theorem AreProper.snoc {handled : List Handling} {h : Handling} (hall : AreProper handled)
    (hlast : h.IsProper handled) : AreProper (handled ++ [h]) := by
  intro earlier other later hsplit
  rcases List.eq_nil_or_concat later with rfl | ⟨init, last, rfl⟩
  · obtain ⟨rfl, hother⟩ := List.append_inj' hsplit rfl
    cases hother
    exact hlast
  · rw [List.concat_eq_append, ← List.cons_append, ← List.append_assoc] at hsplit
    exact hall earlier other init (List.append_inj' hsplit rfl).1

end Handling

/-! ## The trace -/

/-- What only the reader may do. -/
def Effect.isReaders : Effect → Bool
  | .published (.frameReceived ..) | .published (.ackSent _) | .published (.duplicateAck _) => true
  | _ => false

/-- Bytes that were written, and whether they were the reader's. -/
def Noted.written? (noted : Noted) : Option (Bool × Bytes) :=
  match noted.effect with
  | .wrote bytes => some (noted.byReader, bytes)
  | _ => none

/-- Pieces that one party wrote one after the other. -/
structure Block where
  byReader : Bool
  pieces : List Bytes

def Block.writes (block : Block) : List (Bool × Bytes) :=
  block.pieces.map fun bytes => (block.byReader, bytes)

/-- The pieces in each of the reader's blocks. -/
def readerPieces (blocks : List Block) : List (List Bytes) :=
  (blocks.filter (·.byReader)).map (·.pieces)

def readerEffects (trace : List Noted) : List Effect :=
  (trace.filter (·.byReader)).map (·.effect)

def writes (trace : List Noted) : List (Bool × Bytes) :=
  trace.filterMap Noted.written?

namespace Reading

/-- The bytes of the frame that is being acknowledged. -/
def bytes : Reading → Bytes
  | acknowledging frame _ => frame.encode
  | waiting | closing | stopped => []

/-- What the reader has done about that frame, if these pieces of the acknowledgment are
written. -/
def effects (pieces : List Bytes) : Reading → List Effect
  | acknowledging frame _ => frame.received :: pieces.map .wrote
  | waiting | closing | stopped => []

/-- The acknowledgment of a response with this token was decided on and is not written. -/
def Acks (token : Token) : Reading → Prop
  | acknowledging frame _ => frame.kind = .solicitedAckExpected ∧ frame.token = token
  | waiting | closing | stopped => False

end Reading

section Trace

variable (trace more : List Noted) (effects : List Effect)

theorem readerEffects_append :
    readerEffects (trace ++ more) = readerEffects trace ++ readerEffects more := by
  rw [readerEffects, List.filter_append, List.map_append, readerEffects, readerEffects]

theorem readerEffects_byReader : readerEffects (effects.map (Noted.mk true)) = effects := by
  induction effects with
  | nil => rfl
  | cons effect effects ih => exact congrArg (effect :: ·) ih

theorem readerEffects_byOthers : readerEffects (effects.map (Noted.mk false)) = [] := by
  induction effects with
  | nil => rfl
  | cons effect effects ih => exact ih

theorem writes_append : writes (trace ++ more) = writes trace ++ writes more :=
  List.filterMap_append

theorem writes_wrote (byReader : Bool) (pieces : List Bytes) :
    writes ((pieces.map Effect.wrote).map (Noted.mk byReader))
      = pieces.map fun bytes => (byReader, bytes) := by
  induction pieces with
  | nil => rfl
  | cons piece pieces ih => exact congrArg ((byReader, piece) :: ·) ih

variable {effects}

/-- Effects that are no bytes in the stream. -/
theorem writes_of_silent {byReader : Bool}
    (h : ∀ effect ∈ effects, ∀ bytes, effect ≠ .wrote bytes) :
    writes (effects.map (Noted.mk byReader)) = [] := by
  rw [writes, List.filterMap_map, List.filterMap_eq_nil_iff]
  intro effect hmem
  have hne := h effect hmem
  cases effect with
  | wrote bytes => exact absurd rfl (hne bytes)
  | _ => rfl

end Trace

/-- What others do is neither the reader's nor bytes in the stream. -/
def Effect.isApart (effect : Effect) : Prop :=
  effect.isReaders = false ∧ ∀ bytes, effect ≠ .wrote bytes

theorem Effect.isApart_of_isForCallers {effect : Effect} (h : effect.isForCallers = true) :
    effect.isApart := by
  unfold isForCallers at h
  split at h
  case h_5 => cases h
  all_goals exact ⟨rfl, fun _ => Effect.noConfusion⟩

theorem Effect.ne_wrote_of_isResolution {effect : Effect} (h : effect.isResolution = true)
    (bytes : Bytes) : effect ≠ .wrote bytes := by
  rintro rfl
  cases h

/-! ## The invariant -/

/-- The block of the pieces that are written so far. -/
def begun (pieces : List Bytes) : List Block :=
  if pieces.isEmpty then [] else [⟨true, pieces⟩]

/-- Where the reader stands: it waits for a frame, it waits for its turn or has it, or its
acknowledgment is written in full and it is to be told. -/
inductive Outlet.Stands (o : Outlet) (handled : List Handling) (blocks : List Block) :
    Reading → List Bytes → Prop
  | waiting (hturns : o.readerTurns = []) (houtcomes : o.readerOutcomes = [])
      (hblocks : readerPieces blocks = handled.filterMap Handling.written?) :
    Stands o handled blocks .waiting []
  | writing (frame : Frame) (ack : Command) (pieces : List Bytes) (rest : Bytes)
      (before : List Block) (hack : frame.ack? = some ack)
      (hturns : o.readerTurns = [⟨.reader, .send rest⟩]) (houtcomes : o.readerOutcomes = [])
      (hpieces : pieces.flatten ++ rest = ack.encode)
      (hfirst : pieces ≠ [] → o.turns.head? = some ⟨.reader, .send rest⟩)
      (hblocks : blocks = before ++ begun pieces)
      (hbefore : readerPieces before = handled.filterMap Handling.written?) :
    Stands o handled blocks (.acknowledging frame ack) pieces
  | written (frame : Frame) (ack : Command) (pieces : List Bytes) (hack : frame.ack? = some ack)
      (hturns : o.readerTurns = [])
      (houtcomes : o.readerOutcomes = [(.reader, .sent (.ok ()))])
      (hpieces : pieces.flatten = ack.encode)
      (hblocks : readerPieces blocks = handled.filterMap Handling.written? ++ [pieces]) :
    Stands o handled blocks (.acknowledging frame ack) pieces

namespace Session

variable {x y : Session} {handled : List Handling} {pieces : List Bytes} {blocks : List Block}

/-- Everything that the reader did is accounted for by the frames that it has handled, and the one
that it is acknowledging. -/
structure Accounts (x : Session) (handled : List Handling) (pieces : List Bytes)
    (blocks : List Block) : Prop where
  log : x.slot.log = []
  isClosed : x.slot.isClosed = false
  isOpen : x.slot.outlet.IsOpen
  limit : x.slot.outlet.limit = x.slot.framer.limit
  proper : Handling.AreProper handled
  arrived : x.arrived = (handled.flatMap fun h => h.frame.encode) ++ x.slot.reading.bytes
    ++ x.slot.framer.buffer
  effects : readerEffects x.trace = handled.flatMap Handling.effects
    ++ x.slot.reading.effects pieces
  others : ∀ noted ∈ x.trace, noted.byReader = false → noted.effect.isReaders = false
  writes : writes x.trace = blocks.flatMap Block.writes
  acked : ∀ token ∈ x.slot.registry.acked,
    (∃ h ∈ handled, h.Acks token) ∨ x.slot.reading.Acks token
  stands : x.slot.outlet.Stands handled blocks x.slot.reading pieces

/-- Something happens in which the reader has no part. -/
structure GoesPast (x y : Session) (effects : List Effect) : Prop where
  log : y.slot.log = x.slot.log ++ effects
  trace : y.trace = x.trace
  isClosed : y.slot.isClosed = x.slot.isClosed
  reading : y.slot.reading = x.slot.reading
  framer : ∃ bytes, y.slot.framer = x.slot.framer.push bytes ∧ y.arrived = x.arrived ++ bytes
  acked : y.slot.registry.acked ⊆ x.slot.registry.acked
  outlet : x.slot.outlet.KeepsReader y.slot.outlet

end Session

/-- The reader stands where it stood when it keeps what it has. -/
theorem Outlet.Stands.keep {o next : Outlet} {handled : List Handling} {blocks : List Block}
    {reading : Reading} {pieces : List Bytes} (h : o.Stands handled blocks reading pieces)
    (hkeeps : o.KeepsReader next) : next.Stands handled blocks reading pieces := by
  cases h with
  | waiting hturns houtcomes hblocks =>
    exact .waiting (hkeeps.turns.trans hturns) (hkeeps.outcomes.trans houtcomes) hblocks
  | writing frame ack pieces rest before hack hturns houtcomes hpieces hfirst hblocks hbefore =>
    exact .writing frame ack pieces rest before hack (hkeeps.turns.trans hturns)
      (hkeeps.outcomes.trans houtcomes) hpieces (fun hne => hkeeps.head _ (hfirst hne) rfl)
      hblocks hbefore
  | written frame ack pieces hack hturns houtcomes hpieces hblocks =>
    exact .written frame ack pieces hack (hkeeps.turns.trans hturns)
      (hkeeps.outcomes.trans houtcomes) hpieces hblocks

theorem readerPieces_append (blocks more : List Block) :
    readerPieces (blocks ++ more) = readerPieces blocks ++ readerPieces more := by
  rw [readerPieces, List.filter_append, List.map_append, readerPieces, readerPieces]

theorem writes_begun (pieces : List Bytes) :
    (begun pieces).flatMap Block.writes = pieces.map fun bytes => (true, bytes) := by
  cases pieces with
  | nil => rfl
  | cons piece pieces => exact List.append_nil _

theorem readerPieces_begun (pieces : List Bytes) :
    readerPieces (begun pieces) = if pieces.isEmpty then [] else [pieces] := by
  cases pieces <;> rfl

/-- While the reader is not first it has not begun to write, so what others write stands between
two of its blocks. -/
theorem Outlet.Stands.othersWrite {o : Outlet} {handled : List Handling} {blocks : List Block}
    {reading : Reading} {pieces : List Bytes} (h : o.Stands handled blocks reading pieces)
    (hhead : ∀ turn, o.turns.head? = some turn → turn.party ≠ .reader) (bytes : Bytes) :
    o.Stands handled (blocks ++ [⟨false, [bytes]⟩]) reading pieces := by
  have hsame : ∀ before, readerPieces (before ++ [⟨false, [bytes]⟩]) = readerPieces before :=
    fun before => (readerPieces_append before _).trans (List.append_nil _)
  cases h with
  | waiting hturns houtcomes hblocks =>
    exact .waiting hturns houtcomes ((hsame blocks).trans hblocks)
  | writing frame ack pieces rest before hack hturns houtcomes hpieces hfirst hblocks hbefore =>
    obtain rfl : pieces = [] := by
      by_cases hpieces : pieces = []
      · exact hpieces
      · exact absurd rfl (hhead _ (hfirst hpieces))
    rw [hblocks, begun, if_pos List.isEmpty_nil, List.append_nil]
    exact .writing frame ack [] rest _ hack hturns houtcomes hpieces hfirst
      (List.append_nil _).symm ((hsame before).trans hbefore)
  | written frame ack pieces hack hturns houtcomes hpieces hblocks =>
    exact .written frame ack pieces hack hturns houtcomes hpieces ((hsame blocks).trans hblocks)

/-- What is noted when the stream accepts bytes. Nothing is noted when it accepts none. -/
def writtenNow (bytes : Bytes) : List Bytes :=
  if bytes.isEmpty then [] else [bytes]

theorem flatten_writtenNow (bytes : Bytes) : (writtenNow bytes).flatten = bytes := by
  cases bytes with
  | nil => rfl
  | cons byte bytes => exact List.append_nil _

/-- While the reader is first it writes its acknowledgment, and when this is written in full it is
to be told. -/
theorem Outlet.Stands.accept {o : Outlet} {handled : List Handling} {blocks : List Block}
    {reading : Reading} {pieces : List Bytes} (h : o.Stands handled blocks reading pieces)
    (hopen : o.IsOpen) {rest : Bytes} {turns : List Turn}
    (hturns : o.turns = ⟨.reader, .send rest⟩ :: turns) (count : Nat) :
    ∃ frame ack before, reading = .acknowledging frame ack ∧ blocks = before ++ begun pieces ∧
      let more := pieces ++ writtenNow (o.accept count).2
      (o.accept count).1.Stands handled (before ++ begun more) reading more := by
  have hreaderTurns : o.readerTurns
      = ⟨.reader, .send rest⟩ :: turns.filter fun turn => turn.party == .reader := by
    rw [readerTurns, hturns]
    rfl
  cases h with
  | waiting hnone =>
    rw [hreaderTurns] at hnone
    cases hnone
  | written frame ack pieces hack hnone =>
    rw [hreaderTurns] at hnone
    cases hnone
  | writing frame ack pieces left before hack hone houtcomes hpieces hfirst hblocks hbefore =>
    rw [hreaderTurns] at hone
    obtain ⟨hturn, hothers⟩ := List.cons_eq_cons.1 hone
    obtain rfl : rest = left := by cases hturn; rfl
    refine ⟨frame, ack, before, rfl, hblocks, ?_⟩
    rcases accept_of_cons hopen hturns count with ⟨-, haccept⟩ | ⟨hdone, haccept⟩ <;> rw [haccept]
    · have hrest : (pieces ++ writtenNow (rest.take count)).flatten ++ rest.drop count
          = ack.encode := by
        rw [List.flatten_append, flatten_writtenNow, List.append_assoc, List.take_append_drop,
          hpieces]
      refine .writing frame ack _ (rest.drop count) before hack ?_ houtcomes hrest ?_ rfl hbefore
      · exact congrArg (⟨.reader, .send (rest.drop count)⟩ :: ·) hothers
      · exact fun _ => rfl
    · have hall : (pieces ++ writtenNow (rest.take count)).flatten = ack.encode := by
        have htake : rest.take count = rest := by
          have hsplit := List.take_append_drop count rest
          rwa [hdone, List.append_nil] at hsplit
        rw [List.flatten_append, flatten_writtenNow, htake, hpieces]
      have hne : (pieces ++ writtenNow (rest.take count)).isEmpty = false := by
        rw [List.isEmpty_eq_false_iff]
        intro hnil
        rw [hnil] at hall
        exact lengthPrefixed_ne_nil _ hall.symm
      refine .written frame ack _ hack hothers ?_ hall ?_
      · rw [readerOutcomes, finish, List.filter_append]
        exact congrArg (· ++ [(Party.reader, Outcome.sent (.ok ()))]) houtcomes
      · rw [readerPieces_append, hbefore, readerPieces_begun, hne]
        rfl

end RadioLink
