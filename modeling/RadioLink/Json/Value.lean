import RadioLink.Json.Token

set_option autoImplicit false

/-! # Values of JSON

A record keeps its entries in the order in which they are written, and keeps all of them when a
name is repeated. A value that is read into a field of a known type has to be sound: every text in
it spells something and every number is within the range of double-precision numbers. A value that
nobody looks at need not be. -/

namespace RadioLink.Json

/-- A value. -/
inductive Value
  | null
  | bool (value : Bool)
  | number (value : Number)
  | text (value : Literal)
  | list (items : List Value)
  | record (entries : List (Literal × Value))

namespace Number

/-- The integer that a number is, if it is written as one. A zero with a sign is none. -/
def toInt? : Number → Option Int
  | integer false magnitude => some magnitude
  | integer true 0 => none
  | integer true (magnitude + 1) => some (-(magnitude + 1 : Nat))
  | decimal _ _ _ => none

/-- From here on a magnitude rounds to no double-precision number. -/
def doubleLimit : Nat := 1 <<< 1024 - 1 <<< 970

/-- Whether a number is within the range of double-precision numbers. The exponent is looked at
first, so that no power is worked out that is much larger than the number as it is written. -/
def isInRange : Number → Bool
  | integer _ magnitude => magnitude < doubleLimit
  | decimal _ digits exponent =>
    if digits = 0 then true
    else if exponent < 0 then
      digits.log2 < exponent.natAbs || digits < doubleLimit * Nat.pow 10 exponent.natAbs
    else exponent ≤ 308 && digits * Nat.pow 10 exponent.natAbs < doubleLimit

/-- A natural number as it is written. -/
def ofNat (n : Nat) : Number :=
  integer false n

/-- An integer as it is written. -/
def ofInt (n : Int) : Number :=
  integer (n < 0) n.natAbs

end Number

namespace Value

/-- An integer. -/
def ofInt (n : Int) : Value :=
  number (.ofInt n)

/-- A natural number. -/
def ofNat (n : Nat) : Value :=
  number (.ofNat n)

/-- A text. -/
def ofString (text : String) : Value :=
  .text (some text)

/-- The integer that a value is. -/
def toInt? : Value → Option Int
  | number n => n.toInt?
  | _ => none

/-- The natural number that a value is, if it is at most `limit`. -/
def toNat? (limit : Nat) (value : Value) : Option Nat :=
  match value.toInt? with
  | some (.ofNat n) => if n ≤ limit then some n else none
  | _ => none

/-- The text that a value is. -/
def toText? : Value → Option String
  | text literal => literal
  | _ => none

mutual

/-- How many lists and records are around the innermost part of a value. -/
def depth : Value → Nat
  | list items => 1 + depthOfItems items
  | record entries => 1 + depthOfEntries entries
  | _ => 0

/-- The greatest depth among some values. -/
def depthOfItems : List Value → Nat
  | [] => 0
  | item :: items => max item.depth (depthOfItems items)

/-- The greatest depth among the values of some entries. -/
def depthOfEntries : List (Literal × Value) → Nat
  | [] => 0
  | (_, item) :: entries => max item.depth (depthOfEntries entries)

end

mutual

/-- Whether every text in a value spells something and every number is in range. -/
def isSound : Value → Bool
  | number n => n.isInRange
  | text literal => literal.isSome
  | list items => areSound items
  | record entries => haveSoundEntries entries
  | _ => true

/-- Whether all of some values are sound. -/
def areSound : List Value → Bool
  | [] => true
  | item :: items => item.isSound && areSound items

/-- Whether some entries have sound names and values. -/
def haveSoundEntries : List (Literal × Value) → Bool
  | [] => true
  | (key, item) :: entries => key.isSome && item.isSound && haveSoundEntries entries

end

/-- The values of the given fields in some entries, each of which may be missing. Every name must
spell something, and none of the fields may be repeated; other names are passed over. -/
def fieldsOfEntries? (names : List String) (entries : List (Literal × Value)) :
    Option (List (Option Value)) :=
  if entries.any fun entry => entry.1.isNone then none
  else names.mapM fun name =>
    match entries.filter fun entry => entry.1 == some name with
    | [] => some none
    | [entry] => some (some entry.2)
    | _ => none

/-- The values of the given fields in a list that gives them in their order. The last ones may be
missing. -/
def fieldsOfItems? (names : List String) (items : List Value) : Option (List (Option Value)) :=
  if names.length < items.length then none
  else some (items.map some ++ List.replicate (names.length - items.length) none)

/-- The values of the given fields. -/
def fields? (names : List String) : Value → Option (List (Option Value))
  | record entries => fieldsOfEntries? names entries
  | list items => fieldsOfItems? names items
  | _ => none

end Value

end RadioLink.Json
