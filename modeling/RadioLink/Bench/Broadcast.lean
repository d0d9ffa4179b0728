set_option autoImplicit false

/-! # Broadcasts

What is broadcast is kept for an observer that is behind, but not without limit: the buffer has a
power of two of places, at least as many as were asked for, and the oldest entries are lost when it
overflows. The observer is told how many it has lost. -/

namespace RadioLink

/-- The least power of two that is not below `wanted`, given one that is below or equal to it and
how often it may be doubled. -/
def powerAtLeast (wanted : Nat) : Nat → Nat → Nat
  | 0, power => power
  | fuel + 1, power => if wanted ≤ power then power else powerAtLeast wanted fuel (2 * power)

/-- How many places the buffer of a broadcast has. -/
def bufferPlaces (wanted : Nat) : Nat :=
  powerAtLeast wanted (wanted.log2 + 1) 1

/-- What an observer gets of the entries since it last looked: how many are lost, and the rest. -/
def observed {α : Type} (wanted : Nat) (entries : List α) : Nat × List α :=
  let lost := entries.length - bufferPlaces wanted
  (lost, entries.drop lost)

end RadioLink
