set_option autoImplicit false

/-! # Tokens of JSON

A JSON text is a sequence of tokens with blanks between them. A number keeps what was written: a
number without a point or an exponent is an integer with its sign, so that `-0` differs from `0`.
A text written with escapes can name half of a surrogate pair without the other half; such a text
is a token all the same, but it spells nothing, and is kept as `none`. -/

namespace RadioLink.Json

/-- A number as it is written. -/
inductive Number
  /-- A number without a point or an exponent. -/
  | integer (negative : Bool) (magnitude : Nat)
  /-- A number with one: its digits, and the power of ten they are multiplied by. -/
  | decimal (negative : Bool) (digits : Nat) (exponent : Int)
deriving DecidableEq, Repr

/-- A text as it is written, or `none` if it spells nothing. -/
abbrev Literal := Option String

/-- The tokens of JSON. -/
inductive Token
  | openList
  | closeList
  | openRecord
  | closeRecord
  | colon
  | comma
  | null
  | bool (value : Bool)
  | number (value : Number)
  | text (value : Literal)
deriving DecidableEq, Repr

/-! ## Numbers -/

/-- The value of a row of digits. -/
def digitsValue (digits : List Char) : Nat :=
  digits.foldl (fun value c => 10 * value + (c.toNat - '0'.toNat)) 0

/-- The digits at the front and what follows them. -/
def spanDigits (cs : List Char) : List Char × List Char :=
  (cs.takeWhile Char.isDigit, cs.dropWhile Char.isDigit)

theorem spanDigits_append (cs : List Char) : (spanDigits cs).1 ++ (spanDigits cs).2 = cs := by
  simp [spanDigits]

/-- A row of at least one digit, and what follows it. -/
def someDigits? (cs : List Char) : Option (List Char × List Char) :=
  match spanDigits cs with
  | ([], _) => none
  | (digits, rest) => some (digits, rest)

/-- The digits before the point: a zero, or a row that starts with another digit. -/
def wholePart? : List Char → Option (List Char × List Char)
  | '0' :: rest => some (['0'], rest)
  | cs => someDigits? cs

/-- The point and the digits after it, if there is a point. -/
def fraction? : List Char → Option (Option (List Char) × List Char)
  | '.' :: rest => (someDigits? rest).map fun (digits, rest) => (some digits, rest)
  | cs => some (none, cs)

/-- The sign of an exponent. -/
def exponentSign : List Char → Bool × List Char
  | '-' :: rest => (true, rest)
  | '+' :: rest => (false, rest)
  | cs => (false, cs)

/-- The exponent, if there is one. -/
def exponent? : List Char → Option (Option Int × List Char)
  | c :: rest =>
    if c = 'e' ∨ c = 'E' then
      let (negative, rest) := exponentSign rest
      (someDigits? rest).map fun (digits, rest) =>
        let value : Int := digitsValue digits
        (some (if negative then -value else value), rest)
    else some (none, c :: rest)
  | [] => some (none, [])

/-- A number without its sign, and what follows it. -/
def unsigned? (negative : Bool) (cs : List Char) : Option (Number × List Char) := do
  let (whole, rest) ← wholePart? cs
  let (fraction, rest) ← fraction? rest
  let (exponent, rest) ← exponent? rest
  match fraction, exponent with
  | none, none => some (.integer negative (digitsValue whole), rest)
  | _, _ =>
    let places := fraction.getD []
    some (.decimal negative (digitsValue (whole ++ places))
      (exponent.getD 0 - places.length), rest)

/-- A number and what follows it. -/
def number? : List Char → Option (Number × List Char)
  | '-' :: rest => unsigned? true rest
  | cs => unsigned? false cs

/-! ## Texts -/

/-- The value of a hexadecimal digit. -/
def hexDigit? (c : Char) : Option Nat :=
  if c.isDigit then some (c.toNat - '0'.toNat)
  else if 'a' ≤ c ∧ c ≤ 'f' then some (c.toNat - 'a'.toNat + 10)
  else if 'A' ≤ c ∧ c ≤ 'F' then some (c.toNat - 'A'.toNat + 10)
  else none

/-- The value of four hexadecimal digits. -/
def hexWord? (a b c d : Char) : Option Nat := do
  let a ← hexDigit? a
  let b ← hexDigit? b
  let c ← hexDigit? c
  let d ← hexDigit? d
  some (4096 * a + 256 * b + 16 * c + d)

/-- What a letter after a backslash stands for. -/
def escaped? : Char → Option Char
  | '"' => some '"'
  | '\\' => some '\\'
  | '/' => some '/'
  | 'b' => some '\x08'
  | 'f' => some '\x0c'
  | 'n' => some '\n'
  | 'r' => some '\r'
  | 't' => some '\t'
  | _ => none

/-- The code points up to the closing quote, and what follows it. An escape by number gives half a
surrogate pair where it names one; a control character must be escaped. -/
def codePoints? : List Char → Option (List Nat × List Char)
  | [] => none
  | '"' :: rest => some ([], rest)
  | '\\' :: 'u' :: a :: b :: c :: d :: rest => do
    let point ← hexWord? a b c d
    let (points, rest) ← codePoints? rest
    some (point :: points, rest)
  | '\\' :: c :: rest => do
    let plain ← escaped? c
    let (points, rest) ← codePoints? rest
    some (plain.toNat :: points, rest)
  | c :: rest =>
    if c.toNat < 0x20 ∨ c = '\\' then none
    else do
      let (points, rest) ← codePoints? rest
      some (c.toNat :: points, rest)

/-- Whether a number is the first half of a surrogate pair. -/
def isHigh (point : Nat) : Bool :=
  0xd800 ≤ point && point < 0xdc00

/-- Whether a number is the second half of a surrogate pair. -/
def isLow (point : Nat) : Bool :=
  0xdc00 ≤ point && point < 0xe000

/-- The characters that code points spell, where two halves of a surrogate pair next to each other
are one character and a half on its own spells nothing. -/
def spell? : List Nat → Option (List Char)
  | [] => some []
  | high :: low :: rest =>
    if isHigh high && isLow low then
      (spell? rest).map (Char.ofNat (0x10000 + (high - 0xd800) * 0x400 + (low - 0xdc00)) :: ·)
    else if isHigh high || isLow high then none
    else (spell? (low :: rest)).map (Char.ofNat high :: ·)
  | [point] => if isHigh point || isLow point then none else some [Char.ofNat point]

/-- A text after its opening quote, and what follows it. -/
def text? (cs : List Char) : Option (Literal × List Char) :=
  (codePoints? cs).map fun (points, rest) => ((spell? points).map String.ofList, rest)

/-! ## All tokens -/

/-- What follows a word at the front, if the word is there. -/
def word? : List Char → List Char → Option (List Char)
  | [], rest => some rest
  | w :: ws, c :: cs => if w = c then word? ws cs else none
  | _ :: _, [] => none

/-- The token that starts with a character, and what follows it. -/
def next? (c : Char) (rest : List Char) : Option (Token × List Char) :=
  match c with
  | '[' => some (.openList, rest)
  | ']' => some (.closeList, rest)
  | '\x7b' => some (.openRecord, rest)
  | '\x7d' => some (.closeRecord, rest)
  | ':' => some (.colon, rest)
  | ',' => some (.comma, rest)
  | 'n' => (word? ['u', 'l', 'l'] rest).map (.null, ·)
  | 't' => (word? ['r', 'u', 'e'] rest).map (.bool true, ·)
  | 'f' => (word? ['a', 'l', 's', 'e'] rest).map (.bool false, ·)
  | '"' => (text? rest).map fun (literal, rest) => (.text literal, rest)
  | c => (number? (c :: rest)).map fun (number, rest) => (.number number, rest)

/-- Whether a character may stand between tokens. -/
def isBlank (c : Char) : Bool :=
  c == ' ' || c == '\n' || c == '\t' || c == '\r'

/-! ## Every token takes something away -/

theorem length_spanDigits (cs : List Char) :
    (spanDigits cs).1.length + (spanDigits cs).2.length = cs.length := by
  rw [← List.length_append, spanDigits_append]

theorem length_someDigits {cs digits rest : List Char} (h : someDigits? cs = some (digits, rest)) :
    rest.length < cs.length := by
  have hlen := length_spanDigits cs
  unfold someDigits? at h
  split at h
  · simp at h
  · next d r hne hs =>
    simp only [Option.some.injEq, Prod.mk.injEq] at h
    obtain ⟨rfl, rfl⟩ := h
    rw [hs] at hlen
    have := List.length_pos_iff.2 hne
    simp only at hlen
    omega

theorem length_wholePart {cs digits rest : List Char} (h : wholePart? cs = some (digits, rest)) :
    rest.length < cs.length := by
  unfold wholePart? at h
  split at h
  · simp only [Option.some.injEq, Prod.mk.injEq] at h
    obtain ⟨-, rfl⟩ := h
    simp
  · exact length_someDigits h

theorem length_fraction {cs rest : List Char} {places : Option (List Char)}
    (h : fraction? cs = some (places, rest)) : rest.length ≤ cs.length := by
  unfold fraction? at h
  split at h
  · obtain ⟨⟨d, r⟩, hd, he⟩ := Option.map_eq_some_iff.1 h
    simp only [Prod.mk.injEq] at he
    obtain ⟨-, rfl⟩ := he
    have := length_someDigits hd
    simp only [List.length_cons]
    omega
  · simp only [Option.some.injEq, Prod.mk.injEq] at h
    obtain ⟨-, rfl⟩ := h
    exact Nat.le_refl _

theorem length_exponentSign (cs : List Char) : (exponentSign cs).2.length ≤ cs.length := by
  unfold exponentSign
  split <;> simp

theorem length_exponent {cs rest : List Char} {value : Option Int}
    (h : exponent? cs = some (value, rest)) : rest.length ≤ cs.length := by
  unfold exponent? at h
  split at h
  · split at h
    · obtain ⟨⟨d, r⟩, hd, he⟩ := Option.map_eq_some_iff.1 h
      simp only [Prod.mk.injEq] at he
      obtain ⟨-, rfl⟩ := he
      next cs' _ =>
        have h₁ := length_someDigits hd
        have h₂ := length_exponentSign cs'
        unfold exponentSign at h₂
        simp only [List.length_cons]
        omega
    · simp only [Option.some.injEq, Prod.mk.injEq] at h
      obtain ⟨-, rfl⟩ := h
      exact Nat.le_refl _
  · simp only [Option.some.injEq, Prod.mk.injEq] at h
    obtain ⟨-, rfl⟩ := h
    exact Nat.le_refl _

theorem length_unsigned {negative : Bool} {cs rest : List Char} {value : Number}
    (h : unsigned? negative cs = some (value, rest)) : rest.length < cs.length := by
  unfold unsigned? at h
  simp only [bind, Option.bind_eq_some_iff, Prod.exists] at h
  obtain ⟨w, r₁, h₁, p, r₂, h₂, e, r₃, h₃, h⟩ := h
  have h₁ := length_wholePart h₁
  have h₂ := length_fraction h₂
  have h₃ := length_exponent h₃
  have h₄ : r₃ = rest := by
    split at h <;> simp_all
  subst h₄
  omega

theorem length_number {cs rest : List Char} {value : Number}
    (h : number? cs = some (value, rest)) : rest.length < cs.length := by
  unfold number? at h
  split at h
  · have := length_unsigned h
    simp only [List.length_cons]
    omega
  · exact length_unsigned h

theorem length_codePoints {cs rest : List Char} {points : List Nat}
    (h : codePoints? cs = some (points, rest)) : rest.length < cs.length := by
  fun_induction codePoints? cs generalizing points with
  | case1 => simp at h
  | case2 r =>
    simp only [Option.some.injEq, Prod.mk.injEq] at h
    obtain ⟨-, rfl⟩ := h
    simp
  | case3 a b c d r ih =>
    simp only [bind, Option.bind_eq_some_iff, Prod.exists, Option.some.injEq, Prod.mk.injEq] at h
    obtain ⟨_, _, ps, r', h, _, rfl⟩ := h
    have := ih h
    simp only [List.length_cons]
    omega
  | case4 c r _ ih =>
    simp only [bind, Option.bind_eq_some_iff, Prod.exists, Option.some.injEq, Prod.mk.injEq] at h
    obtain ⟨_, _, ps, r', h, _, rfl⟩ := h
    have := ih h
    simp only [List.length_cons]
    omega
  | case5 => simp at h
  | case6 c r _ _ _ _ ih =>
    simp only [bind, Option.bind_eq_some_iff, Prod.exists, Option.some.injEq, Prod.mk.injEq] at h
    obtain ⟨ps, r', h, _, rfl⟩ := h
    have := ih h
    simp only [List.length_cons]
    omega

theorem length_word {ws cs rest : List Char} (h : word? ws cs = some rest) :
    rest.length ≤ cs.length := by
  fun_induction word? ws cs with
  | case1 cs => simp_all
  | case2 w ws cs ih =>
    have := ih h
    simp only [List.length_cons]
    omega
  | case3 => simp at h
  | case4 => simp at h

/-- What follows a token is no longer than what follows its first character. -/
theorem length_next {c : Char} {cs rest : List Char} {token : Token}
    (h : next? c cs = some (token, rest)) : rest.length ≤ cs.length := by
  unfold next? at h
  split at h
  case h_7 | h_8 | h_9 =>
    obtain ⟨r, hw, he⟩ := Option.map_eq_some_iff.1 h
    simp only [Prod.mk.injEq] at he
    obtain ⟨-, rfl⟩ := he
    exact length_word hw
  case h_10 =>
    obtain ⟨⟨t, r⟩, ht, he⟩ := Option.map_eq_some_iff.1 h
    simp only [Prod.mk.injEq] at he
    obtain ⟨-, rfl⟩ := he
    obtain ⟨⟨ps, r'⟩, hp, he⟩ := Option.map_eq_some_iff.1 ht
    simp only [Prod.mk.injEq] at he
    obtain ⟨-, rfl⟩ := he
    exact Nat.le_of_lt (length_codePoints hp)
  case h_11 =>
    obtain ⟨⟨n, r⟩, hn, he⟩ := Option.map_eq_some_iff.1 h
    simp only [Prod.mk.injEq] at he
    obtain ⟨-, rfl⟩ := he
    have := length_number hn
    simp only [List.length_cons] at this
    omega
  all_goals
    simp only [Option.some.injEq, Prod.mk.injEq] at h
    obtain ⟨-, rfl⟩ := h
    exact Nat.le_refl _

/-- The tokens of a text, if it has nothing but tokens and blanks. -/
def tokens? : List Char → Option (List Token)
  | [] => some []
  | c :: cs =>
    if isBlank c then tokens? cs
    else match _ : next? c cs with
      | none => none
      | some (token, rest) => (tokens? rest).map (token :: ·)
termination_by cs => cs.length
decreasing_by
  · simp
  · have := length_next (by assumption)
    simp only [List.length_cons]
    omega

end RadioLink.Json
