import RadioLink.Json.Value

set_option autoImplicit false

/-! # Writing JSON

A value is written either without any blanks, or with every item and entry on a line of its own,
two spaces deeper than what holds it; an empty list or record stays on its line. Only the quote,
the backslash and the control characters are escaped, and only five control characters have a
letter. -/

namespace RadioLink.Json

/-- How one character of a text is written. -/
def escapedChar (c : Char) : List Char :=
  if c = '"' then ['\\', '"']
  else if c = '\\' then ['\\', '\\']
  else if c = '\x08' then ['\\', 'b']
  else if c = '\x0c' then ['\\', 'f']
  else if c = '\n' then ['\\', 'n']
  else if c = '\r' then ['\\', 'r']
  else if c = '\t' then ['\\', 't']
  else if c.toNat < 0x20 then
    ['\\', 'u', '0', '0', Nat.digitChar (c.toNat / 16), Nat.digitChar (c.toNat % 16)]
  else [c]

/-- How a text is written. One that spells nothing is written as half a surrogate pair. -/
def writtenLiteral : Literal → List Char
  | some text => '"' :: (text.toList.flatMap escapedChar ++ ['"'])
  | none => "\"\\ud800\"".toList

/-- How a number is written. -/
def writtenNumber : Number → List Char
  | .integer negative magnitude =>
    (if negative then ['-'] else []) ++ Nat.toDigits 10 magnitude
  | .decimal negative digits exponent =>
    (if negative then ['-'] else []) ++ Nat.toDigits 10 digits ++ ['e']
      ++ (if exponent < 0 then ['-'] else []) ++ Nat.toDigits 10 exponent.natAbs

/-- How the parts of a list or record are laid out. -/
inductive Layout
  /-- Without blanks. -/
  | compact
  /-- On lines of their own, this many levels deep. -/
  | lines (level : Nat)

namespace Layout

/-- The layout of the parts of a part. -/
def deeper : Layout → Layout
  | compact => compact
  | lines level => lines (level + 1)

/-- What stands before a part, or before the closing bracket of its list. -/
def lineBreak : Layout → List Char
  | compact => []
  | lines level => '\n' :: List.replicate (2 * level) ' '

/-- What stands between a name and its value. -/
def colon : Layout → List Char
  | compact => [':']
  | lines _ => [':', ' ']

end Layout

namespace Value

mutual

/-- How a value is written. -/
def written (layout : Layout) : Value → List Char
  | null => ['n', 'u', 'l', 'l']
  | bool true => ['t', 'r', 'u', 'e']
  | bool false => ['f', 'a', 'l', 's', 'e']
  | number value => writtenNumber value
  | text value => writtenLiteral value
  | list [] => ['[', ']']
  | list (item :: items) =>
    '[' :: (layout.deeper.lineBreak ++ item.written layout.deeper
      ++ writtenItems layout.deeper items ++ layout.lineBreak ++ [']'])
  | record [] => ['\x7b', '\x7d']
  | record ((name, item) :: entries) =>
    '\x7b' :: (layout.deeper.lineBreak ++ writtenLiteral name ++ layout.deeper.colon
      ++ item.written layout.deeper ++ writtenEntries layout.deeper entries
      ++ layout.lineBreak ++ ['\x7d'])

/-- How the items of a list after its first are written. -/
def writtenItems (layout : Layout) : List Value → List Char
  | [] => []
  | item :: items =>
    ',' :: (layout.lineBreak ++ item.written layout ++ writtenItems layout items)

/-- How the entries of a record after its first are written. -/
def writtenEntries (layout : Layout) : List (Literal × Value) → List Char
  | [] => []
  | (name, item) :: entries =>
    ',' :: (layout.lineBreak ++ writtenLiteral name ++ layout.colon ++ item.written layout
      ++ writtenEntries layout entries)

end

/-- A value without blanks. -/
def compact (value : Value) : String :=
  String.ofList (value.written .compact)

/-- A value with its parts on lines of their own. -/
def pretty (value : Value) : String :=
  String.ofList (value.written (.lines 0))

end Value

end RadioLink.Json
