import RadioLink.Text.Unprintable

set_option autoImplicit false

/-! # Texts between quotes

A text is shown between double quotes. A quote and a backslash inside it follow a backslash, the
usual control characters have a letter, and every other character without a picture is shown by
its code point in hexadecimal. -/

namespace RadioLink.Text

/-- How one character is shown between quotes. -/
def quotedChar (c : Char) : List Char :=
  if c = '"' then ['\\', '"']
  else if c = '\\' then ['\\', '\\']
  else if c = '\n' then ['\\', 'n']
  else if c = '\r' then ['\\', 'r']
  else if c = '\t' then ['\\', 't']
  else if c = '\x00' then ['\\', '0']
  else if isUnprintable c then ['\\', 'u', '\x7b'] ++ Nat.toDigits 16 c.toNat ++ ['\x7d']
  else [c]

/-- A text as it is shown between quotes. -/
def quoted (text : String) : String :=
  String.ofList ('"' :: text.toList.flatMap quotedChar ++ ['"'])

end RadioLink.Text
