set_option autoImplicit false

/-! # Records as one line of text

For diagnostics a record is shown as its name and its fields: `Name \x7b field: value \x7d`. A
record that shows only some of its fields ends in two dots, and a list is shown in brackets. -/

namespace RadioLink.Text

/-- A list between brackets. -/
def bracketed (items : List String) : String :=
  "[" ++ ", ".intercalate items ++ "]"

/-- The name of a record around its parts. -/
def braced (name : String) (parts : List String) : String :=
  name ++ " \x7b " ++ ", ".intercalate parts ++ " \x7d"

/-- A field of a record. -/
def field (entry : String × String) : String :=
  entry.1 ++ ": " ++ entry.2

/-- A record with all its fields. -/
def record (name : String) (fields : List (String × String)) : String :=
  braced name (fields.map field)

/-- A record of which only some fields are shown. -/
def abridgedRecord (name : String) (fields : List (String × String)) : String :=
  braced name (fields.map field ++ [".."])

end RadioLink.Text
