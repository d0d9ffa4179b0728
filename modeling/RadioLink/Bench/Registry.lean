import RadioLink.Bench.Watch

set_option autoImplicit false

/-! # A registry on a bench

A registry without a slot around it. A request whose response is taken is kept until the response is
delivered or the request is let go of; its sink is held as long. -/

namespace RadioLink

/-- A registry, whoever watches its sinks, and the requests that were taken out of it. -/
structure RegistryBench where
  registry : Registry
  watch : Watch := {}
  /-- The requests that were taken out and have no response yet, by ticket. -/
  kept : List (Nat × PendingRequest) := []

namespace RegistryBench

/-- Takes the response of a request, and keeps the request if it is to be delivered. -/
def complete (b : RegistryBench) (ticket : Nat) (token : Token) (origin : Origin) :
    RegistryBench × Completion :=
  match b.registry.complete token origin with
  | (registry, .pending request) =>
    ({ b with registry, kept := b.kept ++ [(ticket, request)] }, .pending request)
  | (registry, completion) => ({ b with registry }, completion)

/-- Forgets a request that was kept. -/
def forget (b : RegistryBench) (ticket : Nat) : RegistryBench :=
  { b with kept := b.kept.filter fun entry => entry.1 != ticket }

/-- Lets go of a request that was kept, and says whether it was. -/
def discard (b : RegistryBench) (ticket : Nat) : RegistryBench × Bool :=
  (b.forget ticket, (b.kept.lookup ticket).isSome)

/-- Delivers the response to a request that was kept, if it was. -/
def deliver? (b : RegistryBench) (ticket : Nat) (status : Status)
    (result : Except LinkError Payload) : Option RegistryBench :=
  (b.kept.lookup ticket).map fun request =>
    let response := request.respond b.registry.slot status result
    { b.forget ticket with watch := b.watch.arrive ⟨request.sink, response⟩ }

/-- Reports on the sinks that something has become of. -/
def report (b : RegistryBench) : RegistryBench × List SinkReport :=
  let held := b.registry.entries.map (·.sink) ++ b.kept.map fun entry => entry.2.sink
  let (watch, sinks) := b.watch.report held
  ({ b with watch }, sinks)

end RegistryBench

end RadioLink
