import RadioLink.Slot

set_option autoImplicit false

/-! # Sets of slots

A set has at most one slot for a number and lists its slots in increasing order of their numbers.
`SlotSet.connect?` makes the set of a configuration, all or nothing: it checks the configuration
before it attempts anything, attempts the endpoints in the order of the configuration, and at the
first failure shuts down what is connected so far. It comes to nothing at all if a slot that is
connected cannot start. -/

namespace RadioLink

/-- Puts something with a number into a list that is ordered by number, in the place of what has the
same number, which is returned. -/
def insertById {α : Type} (id : α → SlotId) (new : α) : List α → List α × Option α
  | [] => ([new], none)
  | old :: others =>
    if id new = id old then (new :: others, some old)
    else if (id new).before (id old) then (new :: old :: others, none)
    else
      let (others, replaced) := insertById id new others
      (old :: others, replaced)

/-- Slots, in increasing order of their numbers. -/
structure SlotSet where
  slots : List Slot := []

namespace SlotSet

/-- Adds a slot in the place of the one with the same number, which is returned. -/
def insert (set : SlotSet) (slot : Slot) : SlotSet × Option Slot :=
  let (slots, replaced) := insertById Slot.id slot set.slots
  ({ slots }, replaced)

/-- The slot with a number. -/
def get (set : SlotSet) (id : SlotId) : Except LinkError Slot :=
  match set.slots.find? fun slot => slot.id == id with
  | some slot => .ok slot
  | none => .error (.slotNotFound id)

/-- How many slots there are. -/
def size (set : SlotSet) : Nat :=
  set.slots.length

/-- Shuts a slot down to the end, as nothing else has a turn at its stream. -/
def shutDownSlot (slot : Slot) : Slot :=
  let (slot, _) := slot.shutDownNow .reader
  { slot with outlet := ((slot.outlet.attend).1.takeOutcomes).1 }

/-- Shuts every slot down. -/
def shutDown (set : SlotSet) : SlotSet :=
  { slots := set.slots.map shutDownSlot }

/-- What became of an attempt to connect a list of slots. -/
structure Attempt where
  /-- The endpoints that were attempted, in order. -/
  attempted : List SlotConfig := []
  /-- The slots that were connected; all of them are shut down if there is an error. -/
  set : SlotSet := {}
  error : Option LinkError := none

/-- Connects slots one after the other, on top of those that are connected already, unless one of
them cannot start. -/
def connectAll? (reserve : Reserve) (dial : SlotConfig → Except LinkError Unit)
    (options : SlotOptions) : SlotSet → List SlotConfig → Option Attempt
  | set, [] => some { set }
  | set, config :: configs =>
    match dial config with
    | .error e => some { attempted := [config], set := set.shutDown, error := some e }
    | .ok () => do
      let slot ← Slot.start? config.slot options reserve
      let attempt ← connectAll? reserve dial options (set.insert slot).1 configs
      some { attempt with attempted := config :: attempt.attempted }

/-- Connects the slots of a configuration, unless one of them cannot start. -/
def connect? (dial : SlotConfig → Except LinkError Unit) (config : Config)
    (reserve : Reserve := {}) : Option Attempt :=
  match config.check with
  | .error e => some { error := some e.toLinkError }
  | .ok () => connectAll? reserve dial config.slotOptions {} config.slots

namespace Attempt

/-- The set, if everything was connected. -/
def result (attempt : Attempt) : Except LinkError SlotSet :=
  match attempt.error with
  | some e => .error e
  | none => .ok attempt.set

end Attempt

end SlotSet

end RadioLink
