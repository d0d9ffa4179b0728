import RadioLink.Bytes
import RadioLink.Ident
import RadioLink.Status

set_option autoImplicit false

/-! # Vendors

A vendor says which requests it supports, and serves local requests. When it is asked to serve one
it may complete the request on the spot, even more than once, before it says whether it accepts. -/

namespace RadioLink

/-- How a vendor answers a local request. -/
structure Service where
  /-- The completions that it reports before it answers. -/
  completions : List (Status × Bytes) := []
  /-- Whether it accepts the request, or the status with which it refuses. -/
  verdict : Except Status Unit

/-- The functions of a vendor. -/
structure Vendor where
  radioState : RadioState
  version : String
  supports : RequestId → Bool
  serve : RequestId → Token → Bytes → Service
  /-- Whether the vendor keeps a journal of the calls to it. -/
  keepsJournal : Bool := false

namespace Vendor

/-- The vendor of a slot for which none is registered: it supports every request, and serves
none. -/
def unavailable : Vendor where
  radioState := .unavailable
  version := "unavailable"
  supports _ := true
  serve _ _ _ := { verdict := .error .requestNotSupported }

instance : Inhabited Vendor := ⟨unavailable⟩

end Vendor

end RadioLink
