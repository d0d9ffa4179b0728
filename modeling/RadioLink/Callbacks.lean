import RadioLink.Dispatch
import RadioLink.Text.Quoted
import RadioLink.Vendor

set_option autoImplicit false

/-! # Callbacks

A dispatch table and a vendor are installed together and replaced together. -/

namespace RadioLink

/-- A dispatch table together with the vendor that owns it. -/
structure Callbacks where
  table : DispatchTable := {}
  vendor : Vendor := .unavailable

namespace Callbacks

instance : Inhabited Callbacks := ⟨{}⟩

/-- Callbacks are shown by their table and the version of their vendor. -/
def text (callbacks : Callbacks) : String :=
  Text.record "CallbackSet"
    [("table", callbacks.table.text), ("vendor", Text.quoted callbacks.vendor.version)]

end Callbacks

end RadioLink
