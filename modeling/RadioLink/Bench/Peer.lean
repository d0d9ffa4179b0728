import RadioLink.Bench.Pipe

set_option autoImplicit false

/-! # The peer on a bench

The peer is the far end of a stream when no modem is. It reads whatever arrives, unless it is
stalled, and sends what it is told to. -/

namespace RadioLink

/-- The far end of a stream. -/
structure Peer where
  isPresent : Bool := true
  isStalled : Bool := false
  /-- It has seen the end of the stream. -/
  hasSeenEnd : Bool := false
  /-- What it has read since it was last asked. -/
  inbox : Bytes := []

namespace Peer

/-- Reads all that a pipe holds, if the peer reads at all and there is anything new. -/
def collect? (peer : Peer) (inbound : Pipe) : Option (Peer × Pipe) :=
  if !peer.isPresent || peer.isStalled then none
  else if !inbound.held.isEmpty then
    some ({ peer with inbox := peer.inbox ++ inbound.held }, { inbound with held := [] })
  else if inbound.isClosed && !peer.hasSeenEnd then
    some ({ peer with hasSeenEnd := true }, inbound)
  else none

/-- Takes away what was read. -/
def takeInbox (peer : Peer) : Peer × Bytes :=
  ({ peer with inbox := [] }, peer.inbox)

end Peer

end RadioLink
