import RadioLink.Bytes

set_option autoImplicit false

/-! # Hexadecimal text

Bytes as text, two lower-case digits for each. Reading accepts what writing produces and nothing
else. -/

namespace RadioLink.Text

/-- The digit for a number below sixteen. -/
def hexDigit (n : Nat) : Char :=
  if n < 10 then Char.ofNat (48 + n) else Char.ofNat (87 + n)

/-- The number that a digit stands for. -/
def ofHexDigit? (c : Char) : Option Nat :=
  if c.isDigit then some (c.toNat - 48)
  else if 97 ≤ c.toNat ∧ c.toNat ≤ 102 then some (c.toNat - 87)
  else none

/-- Writes bytes. -/
def hex (bytes : Bytes) : List Char :=
  bytes.flatMap fun byte => [hexDigit (byte.toNat / 16), hexDigit (byte.toNat % 16)]

/-- Reads bytes, after those in `read`, of which the last is the first. -/
def ofHexAfter? (read : Bytes) : List Char → Option Bytes
  | [] => some read.reverse
  | [_] => none
  | high :: low :: rest => do
    let high ← ofHexDigit? high
    let low ← ofHexDigit? low
    ofHexAfter? (UInt8.ofNat (16 * high + low) :: read) rest

/-- Reads bytes. -/
def ofHex? (text : List Char) : Option Bytes :=
  ofHexAfter? [] text

theorem ofHexDigit?_hexDigit : ∀ n < 16, ofHexDigit? (hexDigit n) = some n := by
  decide

theorem ofHexAfter?_hex (read bytes : Bytes) :
    ofHexAfter? read (hex bytes) = some (read.reverse ++ bytes) := by
  induction bytes generalizing read with
  | nil => simp [hex, ofHexAfter?]
  | cons byte bytes ih =>
    have high := ofHexDigit?_hexDigit (byte.toNat / 16) (by have := byte.toNat_lt; omega)
    have low := ofHexDigit?_hexDigit (byte.toNat % 16) (by omega)
    have whole : UInt8.ofNat (16 * (byte.toNat / 16) + byte.toNat % 16) = byte := by
      rw [Nat.div_add_mod, UInt8.ofNat_toNat]
    simp only [hex, List.flatMap_cons, List.cons_append, List.nil_append, ofHexAfter?, high, low,
      Option.bind_eq_bind, Option.bind_some, whole]
    rw [← hex, ih]
    simp

/-- What was written can be read. -/
theorem ofHex?_hex (bytes : Bytes) : ofHex? (hex bytes) = some bytes := by
  simp [ofHex?, ofHexAfter?_hex]

end RadioLink.Text
