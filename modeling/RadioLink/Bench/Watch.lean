import RadioLink.Registry

set_option autoImplicit false

/-! # Watching sinks

Callers that went away to wait watch their sinks. A sink gets one response or is dropped, which is
noticed when nothing holds it any more; either is reported once, and nobody watches after that. -/

namespace RadioLink

/-- Which sinks are watched, and what has arrived for them. -/
structure Watch where
  /-- The sinks that are watched, in increasing order. -/
  sinks : List Sink := []
  arrived : List Delivery := []

/-- What became of a sink. -/
inductive SinkReport
  | response (sink : Sink) (response : Response)
  | dropped (sink : Sink)

namespace Watch

/-- Watches a sink with a higher number than those before. -/
def add (w : Watch) (sink : Sink) : Watch :=
  { w with sinks := w.sinks ++ [sink] }

/-- Takes in a response. -/
def arrive (w : Watch) (delivery : Delivery) : Watch :=
  { w with arrived := w.arrived ++ [delivery] }

/-- Stops watching a sink, and says whether it was watched. -/
def abandon (w : Watch) (sink : Sink) : Watch × Bool :=
  ({ w with sinks := w.sinks.filter (· != sink) }, w.sinks.contains sink)

/-- What has become of a sink, if anything has. The sinks in `held` may still get a response. -/
def reportOf? (w : Watch) (held : List Sink) (sink : Sink) : Option SinkReport :=
  match w.arrived.find? fun delivery => delivery.sink == sink with
  | some delivery => some (.response sink delivery.response)
  | none => if held.contains sink then none else some (.dropped sink)

/-- Reports on every sink that something has become of. -/
def report (w : Watch) (held : List Sink) : Watch × List SinkReport :=
  ({ sinks := w.sinks.filter fun sink => (w.reportOf? held sink).isNone },
    w.sinks.filterMap (w.reportOf? held))

end Watch

end RadioLink
