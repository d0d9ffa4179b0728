import RadioLink.Json.Value

set_option autoImplicit false

/-! # Reading JSON

A value is read from its tokens in one pass. The reader keeps the lists and records that are not
closed yet, innermost first, and what may come next; so any depth of nesting is read alike. A text
holds one value, and nothing follows it. -/

namespace RadioLink.Json

/-- A list or record that is not closed yet, with what it holds so far, last first. -/
inductive Unclosed
  | list (items : List Value)
  | record (entries : List (Literal × Value))
  /-- A record in which a value is due for a name. -/
  | entry (entries : List (Literal × Value)) (name : Literal)

/-- What may come next. -/
inductive Expected
  | value
  /-- The first item of a list, or its end. -/
  | firstItem
  /-- The first name in a record, or its end. -/
  | firstName
  | name
  | colon
  /-- A comma, or the end of the list or record. -/
  | separator
  /-- Nothing: the value is complete. -/
  | nothing (result : Value)

/-- Where a reader is. -/
structure Reader where
  unclosed : List Unclosed := []
  expected : Expected := .value

namespace Reader

/-- Takes in a complete value. -/
def supply (value : Value) : List Unclosed → Option Reader
  | [] => some ⟨[], .nothing value⟩
  | .list items :: outer => some ⟨.list (value :: items) :: outer, .separator⟩
  | .entry entries name :: outer =>
    some ⟨.record ((name, value) :: entries) :: outer, .separator⟩
  | .record _ :: _ => none

/-- Closes the innermost list. -/
def closeList : List Unclosed → Option Reader
  | .list items :: outer => supply (.list items.reverse) outer
  | _ => none

/-- Closes the innermost record. -/
def closeRecord : List Unclosed → Option Reader
  | .record entries :: outer => supply (.record entries.reverse) outer
  | _ => none

/-- Takes in the first token of a value. -/
def startValue (unclosed : List Unclosed) : Token → Option Reader
  | .openList => some ⟨.list [] :: unclosed, .firstItem⟩
  | .openRecord => some ⟨.record [] :: unclosed, .firstName⟩
  | .null => supply .null unclosed
  | .bool value => supply (.bool value) unclosed
  | .number value => supply (.number value) unclosed
  | .text value => supply (.text value) unclosed
  | _ => none

/-- Takes in a name in the innermost record. -/
def takeName (name : Literal) : List Unclosed → Option Reader
  | .record entries :: outer => some ⟨.entry entries name :: outer, .colon⟩
  | _ => none

/-- Takes in a comma. -/
def takeComma : List Unclosed → Option Reader
  | .list items :: outer => some ⟨.list items :: outer, .value⟩
  | .record entries :: outer => some ⟨.record entries :: outer, .name⟩
  | _ => none

/-- Takes in a token. -/
def step (r : Reader) (token : Token) : Option Reader :=
  match r.expected, token with
  | .value, token => startValue r.unclosed token
  | .firstItem, .closeList => closeList r.unclosed
  | .firstItem, token => startValue r.unclosed token
  | .firstName, .closeRecord => closeRecord r.unclosed
  | .firstName, .text name => takeName name r.unclosed
  | .name, .text name => takeName name r.unclosed
  | .colon, .colon => some { r with expected := .value }
  | .separator, .comma => takeComma r.unclosed
  | .separator, .closeList => closeList r.unclosed
  | .separator, .closeRecord => closeRecord r.unclosed
  | _, _ => none

/-- The value that was read, if it is complete. -/
def result? (r : Reader) : Option Value :=
  match r.expected with
  | .nothing value => some value
  | _ => none

end Reader

/-- The value that some tokens write. -/
def Value.ofTokens? (tokens : List Token) : Option Value :=
  (tokens.foldlM Reader.step {}).bind Reader.result?

/-- The value that a text writes. -/
def Value.ofText? (text : String) : Option Value :=
  (tokens? text.toList).bind Value.ofTokens?

end RadioLink.Json
