import RadioLink.Bench.Calls
import RadioLink.Stock

set_option autoImplicit false

/-! # The simulation

Some slots, numbered from zero, each joined to a simulated modem of its own with the stock answers.
All of them have the stock table, and one listener gets the indications of all. In every round the
modems report the signal strength. -/

namespace RadioLink

/-- Slots that are joined to simulated modems. -/
structure Simulation where
  benches : List Bench
  /-- The modems have not been told to stop. -/
  isRunning : Bool := true
  /-- Answers to calls that no single bench gives. -/
  answers : List (Nat × Answer) := []

namespace Simulation

/-- One slot and its modem. Its observers see that the callbacks are registered. -/
def bench? (options : SlotOptions) (number : UInt8) : Option Bench :=
  (Bench.start? ⟨number⟩ options 65536 (some { modem := Stock.modem number })).map fun b =>
    (b.registerCallbacks { table := Stock.table }).listen

/-- Starts as many slots as asked for. -/
def start? (count : UInt8) (options : SlotOptions) : Option Simulation :=
  ((List.range count.toNat).mapM fun n => bench? options (UInt8.ofNat n)).map fun benches =>
    { benches }

/-- Answers a call to the whole. -/
def answer (s : Simulation) (ticket : Nat) (answer : Answer) : Simulation :=
  { s with answers := s.answers ++ [(ticket, answer)] }

/-- Starts to submit a request to a slot and to wait for its response. -/
def call (s : Simulation) (ticket : Nat) (id : SlotId) (request : RequestId) (payload : Payload) :
    Simulation :=
  if s.benches.any fun b => b.slot.id == id then
    { s with benches := s.benches.map fun b =>
        if b.slot.id == id then b.call ticket request payload else b }
  else s.answer ticket (.failed (.slotNotFound id))

/-- Tells modems something one after the other, up to the first that has ended. -/
def tellUpTo (control : Control) : List Bench → List Bench × Bool
  | [] => ([], true)
  | b :: others =>
    match b.tellModem control with
    | (b, false) => (b :: others, false)
    | (b, true) =>
      let (others, result) := tellUpTo control others
      (b :: others, result)

/-- Has every modem report the signal strength. Fails at the first modem that has ended. -/
def tick (s : Simulation) (round : Int32) : Simulation × Bool :=
  let (indication, payload, ackExpected) := Stock.signalIndication round
  let (benches, result) := tellUpTo (.indicate indication payload ackExpected) s.benches
  ({ s with benches }, result)

/-- Shuts every slot down. As the modems keep reading, no slot has to wait for long. -/
def shutDown (s : Simulation) (ticket : Nat) : Simulation :=
  answer { s with benches := s.benches.map (·.shutDown ticket) } ticket .nothing

/-- Tells every modem to stop. -/
def stop (s : Simulation) (ticket : Nat) : Simulation :=
  let benches := s.benches.map fun b => (b.tellModem .disconnect).1
  answer { s with benches, isRunning := false } ticket .nothing

/-- Moves the clock. -/
def advance (s : Simulation) (milliseconds : Nat) : Simulation :=
  { s with benches := s.benches.map (·.advance milliseconds) }

/-- Lets everything run until nothing can move. -/
def settle (s : Simulation) : Simulation :=
  { s with benches := s.benches.map Bench.settle }

/-- Reports what has happened since the last report: the answers to calls, of which none is answered
twice, and all else slot by slot. -/
def report (s : Simulation) : Simulation × List (Nat × Answer) × List (Slot × BenchReport) :=
  let reports := s.benches.map fun b => (b.slot, b.report)
  let own := s.answers.map (·.1)
  let others := (reports.flatMap fun entry => entry.2.2.answers).filter fun entry =>
    !own.contains entry.1
  ({ s with benches := reports.map fun entry => entry.2.1, answers := [] },
    (s.answers ++ others).mergeSort fun x y => x.1 ≤ y.1,
    reports.map fun entry => (entry.1, entry.2.2))

end Simulation

end RadioLink
