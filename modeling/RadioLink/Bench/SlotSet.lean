import RadioLink.Bench.Calls
import RadioLink.SlotSet

set_option autoImplicit false

/-! # A set of slots on benches

Every slot of the set has a bench of its own, with a peer. A slot that is replaced is let go of, and
its bench is kept for what its observers still get. -/

namespace RadioLink

/-- A set of slots, each on a bench of its own. -/
structure BenchSet where
  /-- The benches of the slots in the set, by number. -/
  current : List Bench := []
  /-- The benches of slots that were replaced, each with its rank. -/
  replaced : List (Nat × Bench) := []
  /-- The ranks of the benches in the set: the how-manieth was inserted with a number. -/
  ranks : List (SlotId × Nat) := []
  /-- How many slots were inserted. -/
  inserted : Nat := 0

namespace BenchSet

/-- The number of the slot on a bench. -/
def idOf (b : Bench) : SlotId :=
  b.slot.id

/-- The rank of the bench in the set with a number. -/
def rank (s : BenchSet) (id : SlotId) : Nat :=
  (s.ranks.lookup id).getD 0

/-- Adds a slot that has just started. The one that it replaces is returned as it was, and is let
go of. -/
def insert (s : BenchSet) (bench : Bench) : BenchSet × Option Slot :=
  let id := idOf bench
  let bench := { bench with shareIsHeld := false }
  let (current, old) := insertById idOf bench s.current
  let ranks := (id, s.inserted) :: s.ranks.filter fun entry => entry.1 != id
  let next := { s with current, ranks, inserted := s.inserted + 1 }
  match old with
  | none => (next, none)
  | some old =>
    ({ next with replaced := s.replaced ++ [(s.rank id, old.letGo)] }, some old.slot)

/-- The bench of the slot with a number. -/
def get (s : BenchSet) (id : SlotId) : Except LinkError Bench :=
  match s.current.find? fun b => idOf b == id with
  | some b => .ok b
  | none => .error (.slotNotFound id)

/-- Puts a bench in the place of the one with the same number. -/
def set (s : BenchSet) (bench : Bench) : BenchSet :=
  { s with current := s.current.map fun b => if idOf b == idOf bench then bench else b }

/-- Does something on every bench in the set. -/
def forAll (s : BenchSet) (change : Bench → Bench) : BenchSet :=
  { s with current := s.current.map change }

/-- How many slots there are. -/
def size (s : BenchSet) : Nat :=
  s.current.length

/-- Lets everything run until nothing can move. -/
def settle (s : BenchSet) : BenchSet :=
  { s with
    current := s.current.map Bench.settle
    replaced := s.replaced.map fun entry => (entry.1, entry.2.settle) }

/-- The number of the sink that is reported on. -/
def sinkOf : SinkReport → Sink
  | .response sink _ => sink
  | .dropped sink => sink

/-- What has happened on the benches of a set since the last report. -/
structure Report where
  /-- Bench by bench in the order of insertion, those of replaced slots included. -/
  benches : List BenchReport
  /-- Slot by slot, for the slots in the set. -/
  slots : List (Slot × BenchReport)

/-- What became of sinks, in the order of their numbers. -/
def Report.sinks (r : Report) : List SinkReport :=
  (r.benches.flatMap (·.sinks)).mergeSort fun x y => sinkOf x ≤ sinkOf y

/-- The answer to a call that was started, if there is one. -/
def Report.answer? (r : Report) (ticket : Nat) : Option Answer :=
  (r.benches.flatMap (·.answers)).lookup ticket

/-- Reports what has happened since the last report. -/
def report (s : BenchSet) : BenchSet × Report :=
  let current := s.current.map fun b => (s.rank (idOf b), b.slot, b.report)
  let replaced := s.replaced.map fun entry => (entry.1, entry.2.slot, entry.2.report)
  let ordered := (replaced ++ current).mergeSort fun x y => x.1 ≤ y.1
  ({ s with
      current := current.map fun entry => entry.2.2.1
      replaced := replaced.map fun entry => (entry.1, entry.2.2.1) },
    { benches := ordered.map fun entry => entry.2.2.2
      slots := current.map fun entry => (entry.2.1, entry.2.2.2) })

end BenchSet

end RadioLink
