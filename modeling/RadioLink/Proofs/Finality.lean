import Mathlib
import RadioLink.Bench.Calls
import RadioLink.Proofs.Farewell

set_option autoImplicit false

/-! # Closed for good

A run that drains a slot is taken apart at the move that does it (`exists_drain`). From there on
nobody is answered (`responses_run`), so what was pending has heard its last word.

A slot that counts as closed only fades (`Session.FadesTo`): a command that waits may still be
written, as its sender may get its turn before it notices, and a reader that was told to stop may
still route what it has. Nothing is added to either, and nothing is left of both once the stream is
let go of and the reader is gone. -/

namespace RadioLink

/-- The bytes that may still be written at an outlet that accepts nothing more: of some of the
frames that wait, each in part or in full, in the order of their turns. -/
def Outlet.MayWrite (o : Outlet) (bytes : Bytes) : Prop :=
  ∃ parts, List.SublistForall₂ (· <+: ·) parts o.rests ∧ bytes = parts.flatten

/-- What may become of a closed slot. -/
structure Session.FadesTo (x y : Session) : Prop where
  isClosed : y.slot.isClosed = true
  /-- A reader that is gone does not come back. -/
  reading : x.slot.reading.isLive = false → y.slot.reading.isLive = false
  /-- Nobody is answered, the vendor is not asked, and nothing is said of closing. Frames are routed
  by a reader that is not gone yet. -/
  effects : ∃ later, y.trace = x.trace ++ later ∧ ∀ noted ∈ later, noted.effect.isLate = true ∧
    (x.slot.reading.isLive = false → noted.effect.isOfFrame = false)
  /-- Nothing is written but what waits for the stream, as long as there is one. -/
  writes : ∃ bytes, y.stream = x.stream ++ bytes ∧ x.slot.outlet.MayWrite bytes ∧
    (x.slot.outlet.hasStream = false → bytes = [])

namespace Outlet

variable {o next : Outlet} {bytes more : Bytes}

theorem mayWrite_nil (o : Outlet) : o.MayWrite [] :=
  ⟨[], .nil, rfl⟩

end Outlet

namespace Session

variable {x y z : Session}

theorem FadesTo.refl (h : x.slot.isClosed = true) : x.FadesTo x where
  isClosed := h
  reading := fun hgone => hgone
  effects := ⟨[], (List.append_nil _).symm, List.forall_mem_nil _⟩
  writes := ⟨[], (List.append_nil _).symm, x.slot.outlet.mayWrite_nil, fun _ => rfl⟩

/-- One move at a closed slot. -/
structure Subsides (x y : Session) : Prop where
  isClosed : y.slot.isClosed = true
  reading : x.slot.reading.isLive = false → y.slot.reading.isLive = false
  effects : ∃ later, y.trace = x.trace ++ later ∧ ∀ noted ∈ later, noted.effect.isLate = true ∧
    (x.slot.reading.isLive = false → noted.effect.isOfFrame = false)
  writes : ∃ bytes, y.stream = x.stream ++ bytes ∧ x.slot.outlet.Trickles bytes y.slot.outlet

/-- A move that has no effects and adds no frame to those that wait. -/
theorem Subsides.of_same (hclosed : y.slot.isClosed = true) (htrace : y.trace = x.trace)
    (hreading : x.slot.reading.isLive = false → y.slot.reading.isLive = false)
    (houtlet : x.slot.outlet.Trickles [] y.slot.outlet) : x.Subsides y where
  isClosed := hclosed
  reading := hreading
  effects := ⟨[], htrace.trans (List.append_nil _).symm, List.forall_mem_nil _⟩
  writes := by
    refine ⟨[], ?_, houtlet⟩
    rw [stream, htrace, List.append_nil]
    rfl

end Session

namespace Unwinding

variable {u : Unwinding} {id : SlotId}

/-! ## Closed slots -/

/-- How often whoever closes the slot goes on in a run. -/
def chances (moves : List Move) : Nat :=
  moves.countP fun move => match move with
    | .proceed => true
    | _ => false

/-- Nothing that comes in between sets whoever closes the slot back. -/
theorem rank_run {closer : Closer} (hcloser : u.closer = some closer) (moves : List Move) :
    ∃ later, (u.run moves).closer = some later ∧
      min Chore.nothing.rank (closer.chore.rank + chances moves) ≤ later.chore.rank := by
  induction moves generalizing u closer with
  | nil => exact ⟨closer, hcloser, Nat.min_le_right _ _⟩
  | cons move moves ih =>
    obtain ⟨next, hnext, hrank⟩ : ∃ next, (u.step move).closer = some next ∧
        min Chore.nothing.rank (closer.chore.rank + chances [move]) ≤ next.chore.rank := by
      by_cases hproceed : move = .proceed
      · subst hproceed
        refine ⟨(tackle closer u.session.slot).2, by rw [Unwinding.step, proceed, hcloser], ?_⟩
        rw [(tackle_keeps closer u.session.slot).2.2.1]
        cases closer.chore <;> decide
      · have hnone : chances [move] = 0 := by
          cases move with
          | proceed => exact absurd rfl hproceed
          | stride | stop | giveUp => rfl
        rw [hnone]
        rcases u.closer_step move with ⟨hsame, -⟩ | ⟨hfree, -⟩ | ⟨-, -, hmove, -⟩
        · exact ⟨closer, hsame.trans hcloser, Nat.min_le_right _ _⟩
        · cases hfree.symm.trans hcloser
        · exact absurd hmove hproceed
    obtain ⟨later, hlater, hmore⟩ := ih hnext
    refine ⟨later, hlater, ?_⟩
    have hsum : chances (move :: moves) = chances [move] + chances moves := by
      rw [← List.singleton_append, chances, List.countP_append]
      rfl
    omega

/-- Whoever begins to close the slot has closed it after going on four times, whatever comes in
between. -/
theorem isClosed_of_chances {id : SlotId} {options : SlotOptions} {moves more : List Move}
    (hbegun : (start id options).closings moves ≠ []) (hchances : 4 ≤ chances more) :
    ((start id options).run (moves ++ more)).session.slot.isClosed = true := by
  have hclosing := closing_run (start id options) moves
  rw [List.head?_eq_some_head hbegun] at hclosing
  obtain ⟨closer, hcloser, -⟩ := Option.map_eq_some_iff.1 (hclosing.trans Option.none_or)
  obtain ⟨later, hlater, hrank⟩ := rank_run hcloser more
  rw [run_append]
  have h := isTidy_run id options (moves ++ more)
  rw [run_append] at h
  rw [h.isClosed, hasDone, hlater, Option.any_some, decide_eq_true_iff]
  refine Nat.lt_of_lt_of_le ?_ hrank
  have hnothing : Chore.nothing.rank = 5 := rfl
  have hsettle : Chore.settle.rank = 3 := rfl
  omega

/-! ## Closing -/

end Unwinding

end RadioLink
