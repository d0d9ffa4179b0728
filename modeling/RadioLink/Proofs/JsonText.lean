import RadioLink.Json.Reader
import RadioLink.Json.Writer

set_option autoImplicit false

/-! # What is written as JSON is read back

A value is written piece by piece, with blanks between some of the pieces, and read in two passes:
the characters are cut into tokens, and the tokens are put together to a value. `Value.tokens` is
what stands between the two passes. Every piece is cut into its tokens whatever follows it, except
that a number goes on for as long as there are digits; what follows a value begins with a comma, a
bracket or a line break, which end a number.

The reader keeps what is not closed yet. The tokens of a value take it from any state in which a
value may come to the state in which that value has been supplied; so nothing is assumed about how
deep the value is. -/

namespace RadioLink.Json

/-! ## Numbers -/

/-- The text ends here or goes on with a character that cannot go on a number. -/
def EndsNumber (cs : List Char) : Prop :=
  ∀ c ∈ cs.head?, c.isDigit = false ∧ c ≠ '.' ∧ c ≠ 'e' ∧ c ≠ 'E'

theorem endsNumber_nil : EndsNumber [] := by
  intro c hc
  cases hc

theorem endsNumber_cons {c : Char} (hdigit : c.isDigit = false) (hpoint : c ≠ '.') (hlow : c ≠ 'e')
    (hhigh : c ≠ 'E') (cs : List Char) : EndsNumber (c :: cs) := by
  intro d hd
  cases hd
  exact ⟨hdigit, hpoint, hlow, hhigh⟩

theorem digitsValue_toDigits (n : Nat) : digitsValue (Nat.toDigits 10 n) = n :=
  Nat.ofDigitChars_ten_toDigits

theorem isDigit_toDigits {n : Nat} {c : Char} (h : c ∈ Nat.toDigits 10 n) : c.isDigit = true :=
  Nat.isDigit_of_mem_toDigits (by decide) (by decide) h

theorem exists_toDigits (n : Nat) :
    ∃ c cs, Nat.toDigits 10 n = c :: cs ∧ c.isDigit = true := by
  obtain ⟨c, cs, hcons⟩ := List.exists_cons_of_ne_nil (Nat.toDigits_ne_nil (b := 10) (n := n))
  exact ⟨c, cs, hcons, isDigit_toDigits (hcons ▸ List.mem_cons_self)⟩

/-- A row of digits is read up to the first character that is no digit. -/
theorem someDigits?_toDigits (n : Nat) {rest : List Char}
    (hrest : ∀ c ∈ rest.head?, c.isDigit = false) :
    someDigits? (Nat.toDigits 10 n ++ rest) = some (Nat.toDigits 10 n, rest) := by
  have hspan : spanDigits (Nat.toDigits 10 n ++ rest) = (Nat.toDigits 10 n, rest) := by
    have hdigits : ∀ c ∈ Nat.toDigits 10 n, c.isDigit = true := fun c => isDigit_toDigits
    have htake : rest.takeWhile Char.isDigit = [] ∧ rest.dropWhile Char.isDigit = rest := by
      cases rest with
      | nil => exact ⟨rfl, rfl⟩
      | cons c cs =>
        have hc := hrest c rfl
        simp [hc]
    rw [spanDigits, List.takeWhile_append_of_pos hdigits, List.dropWhile_append_of_pos hdigits,
      htake.1, htake.2, List.append_nil]
  obtain ⟨c, cs, hcons, -⟩ := exists_toDigits n
  rw [someDigits?, hspan, hcons]

/-- Only zero is written with a zero in front. -/
theorem head?_toDigits_of_pos {n : Nat} (h : 0 < n) :
    (Nat.toDigits 10 n).head? ≠ some '0' := by
  induction n using Nat.strongRecOn with
  | _ n ih =>
    rw [Nat.toDigits_eq_if (by decide)]
    split
    · simpa using Nat.ne_of_gt h
    · obtain ⟨c, cs, hcons, -⟩ := exists_toDigits (n / 10)
      have hsmaller := ih (n / 10) (by omega) (by omega)
      rw [hcons] at hsmaller ⊢
      exact hsmaller

theorem wholePart?_toDigits (n : Nat) {rest : List Char}
    (hrest : ∀ c ∈ rest.head?, c.isDigit = false) :
    wholePart? (Nat.toDigits 10 n ++ rest) = some (Nat.toDigits 10 n, rest) := by
  rcases Nat.eq_zero_or_pos n with rfl | hpos
  · rfl
  · unfold wholePart?
    split
    · next tail hzero =>
      obtain ⟨c, cs, hcons, -⟩ := exists_toDigits n
      have hhead := head?_toDigits_of_pos hpos
      rw [hcons] at hzero hhead
      obtain ⟨rfl, -⟩ := List.cons.inj hzero
      exact absurd rfl hhead
    · exact someDigits?_toDigits n hrest

theorem fraction?_of_no_point {cs : List Char} (h : cs.head? ≠ some '.') :
    fraction? cs = some (none, cs) := by
  unfold fraction?
  split
  · exact absurd rfl h
  · rfl

theorem exponent?_of_endsNumber {cs : List Char} (h : EndsNumber cs) :
    exponent? cs = some (none, cs) := by
  cases cs with
  | nil => rfl
  | cons c cs =>
    obtain ⟨-, -, hlow, hhigh⟩ := h c rfl
    rw [exponent?, if_neg (by simp [hlow, hhigh])]

/-- An integer is read up to the end of its digits. -/
theorem unsigned?_toDigits (negative : Bool) (n : Nat) {rest : List Char}
    (hrest : EndsNumber rest) :
    unsigned? negative (Nat.toDigits 10 n ++ rest) = some (.integer negative n, rest) := by
  have hpoint : rest.head? ≠ some '.' := fun h => (hrest '.' h).2.1 rfl
  have hwhole := wholePart?_toDigits n fun c hc => (hrest c hc).1
  simp only [unsigned?, hwhole, fraction?_of_no_point hpoint, exponent?_of_endsNumber hrest,
    Option.bind_eq_bind, Option.bind_some, digitsValue_toDigits]

theorem exponentSign_toDigits (exponent : Int) (rest : List Char) :
    exponentSign ((if exponent < 0 then ['-'] else []) ++ Nat.toDigits 10 exponent.natAbs ++ rest)
      = (decide (exponent < 0), Nat.toDigits 10 exponent.natAbs ++ rest) := by
  by_cases hneg : exponent < 0
  · simp [hneg, exponentSign]
  · obtain ⟨c, cs, hcons, hdigit⟩ := exists_toDigits exponent.natAbs
    simp only [hneg, if_false, List.nil_append, decide_false, hcons, List.cons_append]
    unfold exponentSign
    split
    · next hc => cases hc; cases hdigit
    · next hc => cases hc; cases hdigit
    · rfl

/-- A number with an exponent is read up to the end of the exponent. -/
theorem unsigned?_decimal (negative : Bool) (digits : Nat) (exponent : Int) {rest : List Char}
    (hrest : EndsNumber rest) :
    unsigned? negative (Nat.toDigits 10 digits ++ ('e'
        :: ((if exponent < 0 then ['-'] else []) ++ Nat.toDigits 10 exponent.natAbs ++ rest)))
      = some (.decimal negative digits exponent, rest) := by
  have hpower : ∀ c ∈ ('e' :: ((if exponent < 0 then ['-'] else [])
      ++ Nat.toDigits 10 exponent.natAbs ++ rest)).head?, c.isDigit = false := by
    intro c hc
    cases hc
    rfl
  have hwhole := wholePart?_toDigits digits hpower
  have hpoint : ('e' :: ((if exponent < 0 then ['-'] else [])
      ++ Nat.toDigits 10 exponent.natAbs ++ rest)).head? ≠ some '.' := by simp
  have hdigits := someDigits?_toDigits exponent.natAbs fun c hc => (hrest c hc).1
  have hvalue :
      (if exponent < 0 then -(exponent.natAbs : Int) else exponent.natAbs) = exponent := by
    split <;> omega
  simp only [unsigned?, hwhole, fraction?_of_no_point hpoint, exponent?,
    true_or, if_true, exponentSign_toDigits, hdigits, Option.map_some, digitsValue_toDigits,
    Option.bind_eq_bind, Option.bind_some, decide_eq_true_eq, hvalue, Option.getD_some,
    Option.getD_none, List.append_nil, List.length_nil, Int.natCast_zero, Int.sub_zero]

theorem number?_of_digit {cs : List Char} (h : ∀ c ∈ cs.head?, c.isDigit = true) :
    number? cs = unsigned? false cs := by
  unfold number?
  split
  · exact absurd (h '-' rfl) (by decide)
  · rfl

/-- Every number is read as it was written. -/
theorem number?_writtenNumber (number : Number) {rest : List Char} (hrest : EndsNumber rest) :
    number? (writtenNumber number ++ rest) = some (number, rest) := by
  have hhead : ∀ (n : Nat) (tail : List Char), ∀ c ∈ (Nat.toDigits 10 n ++ tail).head?,
      c.isDigit = true := by
    intro n tail c hc
    obtain ⟨first, others, hcons, hdigit⟩ := exists_toDigits n
    rw [hcons] at hc
    cases hc
    exact hdigit
  cases number with
  | integer negative magnitude =>
    cases negative with
    | false =>
      exact (number?_of_digit (hhead _ _)).trans (unsigned?_toDigits false magnitude hrest)
    | true => exact unsigned?_toDigits true magnitude hrest
  | decimal negative digits exponent =>
    have hread := unsigned?_decimal negative digits exponent hrest
    cases negative with
    | false =>
      simp only [writtenNumber, Bool.false_eq_true, if_false, List.nil_append, List.append_assoc,
        List.cons_append] at hread ⊢
      exact (number?_of_digit (hhead _ _)).trans hread
    | true =>
      simp only [writtenNumber, if_true, List.append_assoc, List.cons_append,
        List.nil_append] at hread ⊢
      exact hread

/-! ## Texts -/

theorem hexDigit?_digitChar : ∀ n < 16, hexDigit? (Nat.digitChar n) = some n := by
  decide

theorem hexWord?_control {c : Char} (h : c.toNat < 0x20) :
    hexWord? '0' '0' (Nat.digitChar (c.toNat / 16)) (Nat.digitChar (c.toNat % 16))
      = some c.toNat := by
  have hzero : hexDigit? '0' = some 0 := by decide
  have hhigh := hexDigit?_digitChar (c.toNat / 16) (by omega)
  have hlow := hexDigit?_digitChar (c.toNat % 16) (by omega)
  simp only [hexWord?, hzero, hhigh, hlow, Option.bind_eq_bind, Option.bind_some]
  congr 1
  omega

/-- A character that needs no escape stands for itself. -/
theorem codePoints?_of_plain {c : Char} (hquote : c ≠ '"') (hbackslash : c ≠ '\\')
    (hcontrol : ¬ c.toNat < 0x20) (rest : List Char) :
    codePoints? (c :: rest)
      = (codePoints? rest).map fun (points, rest) => (c.toNat :: points, rest) := by
  rw [codePoints?.eq_def]
  split
  · next h => cases h
  · next h => cases h; exact absurd rfl hquote
  · next h => cases h; exact absurd rfl hbackslash
  · next h => cases h; exact absurd rfl hbackslash
  · next h =>
    cases h
    rw [if_neg (by simp [hcontrol, hbackslash])]
    cases codePoints? rest <;> rfl

/-- Every character is read as it was written, whatever follows. -/
theorem codePoints?_escapedChar (c : Char) (rest : List Char) :
    codePoints? (escapedChar c ++ rest)
      = (codePoints? rest).map fun (points, rest) => (c.toNat :: points, rest) := by
  have hletter : ∀ {letter plain : Char}, letter ≠ 'u' → escaped? letter = some plain →
      codePoints? ('\\' :: letter :: rest)
        = (codePoints? rest).map fun (points, rest) => (plain.toNat :: points, rest) := by
    intro letter plain hletter hplain
    rw [codePoints?.eq_def]
    split
    · next h => cases h
    · next h => cases h
    · next h => cases h; exact absurd rfl hletter
    · next h =>
      cases h
      rw [hplain]
      cases codePoints? rest <;> rfl
    · next hno h => cases h; exact (hno _ _ rfl rfl).elim
  unfold escapedChar
  split
  · next h => subst h; exact hletter (by decide) rfl
  split
  · next h => subst h; exact hletter (by decide) rfl
  split
  · next h => subst h; exact hletter (by decide) rfl
  split
  · next h => subst h; exact hletter (by decide) rfl
  split
  · next h => subst h; exact hletter (by decide) rfl
  split
  · next h => subst h; exact hletter (by decide) rfl
  split
  · next h => subst h; exact hletter (by decide) rfl
  split
  · next hcontrol =>
    simp only [List.cons_append, List.nil_append, codePoints?, hexWord?_control hcontrol]
    cases codePoints? rest <;> rfl
  · next hquote hbackslash _ _ _ _ _ hcontrol =>
    exact codePoints?_of_plain hquote hbackslash hcontrol rest

theorem codePoints?_escaped (cs rest : List Char) :
    codePoints? (cs.flatMap escapedChar ++ '"' :: rest) = some (cs.map Char.toNat, rest) := by
  induction cs with
  | nil => rfl
  | cons c cs ih =>
    rw [List.flatMap_cons, List.append_assoc, codePoints?_escapedChar, ih]
    rfl

/-- No character is half a surrogate pair. -/
theorem not_isHigh_toNat (c : Char) : isHigh c.toNat = false ∧ isLow c.toNat = false := by
  have hvalid : c.toNat < 0xd800 ∨ 0xdfff < c.toNat := by
    rcases c.valid with h | h
    · exact .inl h
    · exact .inr h.1
  generalize c.toNat = point at hvalid
  simp only [isHigh, isLow, Bool.and_eq_false_iff, decide_eq_false_iff_not]
  omega

/-- Characters spell themselves. -/
theorem spell?_toNat (cs : List Char) : spell? (cs.map Char.toNat) = some cs := by
  induction cs with
  | nil => rfl
  | cons c cs ih =>
    obtain ⟨hhigh, hlow⟩ := not_isHigh_toNat c
    cases cs with
    | nil =>
      simp only [List.map_cons, List.map_nil, spell?, hhigh, hlow, Bool.or_self,
        Bool.false_eq_true, if_false, Char.ofNat_toNat]
    | cons d cs =>
      rw [List.map_cons, List.map_cons, spell?, hhigh, hlow, ← List.map_cons, ih]
      simp only [Bool.false_and, Bool.or_self, Bool.false_eq_true, if_false, Option.map_some,
        Char.ofNat_toNat]

/-- Half a surrogate pair on its own spells nothing. -/
theorem text?_half (rest : List Char) :
    text? ('\\' :: 'u' :: 'd' :: '8' :: '0' :: '0' :: '"' :: rest) = some (none, rest) := by
  have hword : hexWord? 'd' '8' '0' '0' = some 0xd800 := by decide
  have hhalf : spell? [0xd800] = none := by decide
  simp only [text?, codePoints?, hword, Option.bind_eq_bind, Option.bind_some, Option.map_some,
    hhalf, Option.map_none]

/-- Every text is read as it was written, whatever follows. -/
theorem text?_writtenLiteral (literal : Literal) (rest : List Char) :
    ∃ cs, writtenLiteral literal ++ rest = '"' :: cs ∧ text? cs = some (literal, rest) := by
  cases literal with
  | none =>
    refine ⟨_, ?_, text?_half rest⟩
    unfold writtenLiteral
    simp
  | some text =>
    refine ⟨text.toList.flatMap escapedChar ++ '"' :: rest, ?_, ?_⟩
    · unfold writtenLiteral
      rw [List.cons_append, List.append_assoc, List.singleton_append]
    · rw [text?, codePoints?_escaped, Option.map_some]
      dsimp only
      rw [spell?_toNat, Option.map_some, String.ofList_toList]

/-! ## Tokens -/

namespace Value

mutual

/-- The tokens of a value. -/
def tokens : Value → List Token
  | null => [.null]
  | bool value => [.bool value]
  | number value => [.number value]
  | text value => [.text value]
  | list [] => [.openList, .closeList]
  | list (item :: items) =>
    .openList :: (item.tokens ++ tokensOfItems items ++ [.closeList])
  | record [] => [.openRecord, .closeRecord]
  | record ((name, item) :: entries) =>
    .openRecord :: .text name :: .colon
      :: (item.tokens ++ tokensOfEntries entries ++ [.closeRecord])

/-- The tokens of the items of a list after its first. -/
def tokensOfItems : List Value → List Token
  | [] => []
  | item :: items => .comma :: (item.tokens ++ tokensOfItems items)

/-- The tokens of the entries of a record after its first. -/
def tokensOfEntries : List (Literal × Value) → List Token
  | [] => []
  | (name, item) :: entries =>
    .comma :: .text name :: .colon :: (item.tokens ++ tokensOfEntries entries)

end

end Value

theorem tokens?_of_blank {c : Char} (h : isBlank c = true) (cs : List Char) :
    tokens? (c :: cs) = tokens? cs := by
  rw [tokens?, if_pos h]

theorem tokens?_of_next {c : Char} {cs rest : List Char} {token : Token}
    (hblank : isBlank c = false) (h : next? c cs = some (token, rest)) :
    tokens? (c :: cs) = (tokens? rest).map (token :: ·) := by
  rw [tokens?, if_neg (by simp [hblank])]
  split
  · next hnone => rw [h] at hnone; cases hnone
  · next other after hsome => rw [h] at hsome; cases hsome; rfl

theorem tokens?_lineBreak (layout : Layout) (cs : List Char) :
    tokens? (layout.lineBreak ++ cs) = tokens? cs := by
  cases layout with
  | compact => rfl
  | lines level =>
    rw [Layout.lineBreak, List.cons_append, tokens?_of_blank rfl]
    induction 2 * level with
    | zero => rfl
    | succ count ih => rw [List.replicate_succ, List.cons_append, tokens?_of_blank rfl, ih]

theorem tokens?_colon (layout : Layout) (cs : List Char) :
    tokens? (layout.colon ++ cs) = (tokens? cs).map (.colon :: ·) := by
  cases layout with
  | compact => exact tokens?_of_next rfl rfl
  | lines level =>
    rw [Layout.colon, List.cons_append, tokens?_of_next rfl rfl, List.cons_append,
      tokens?_of_blank rfl, List.nil_append]

theorem tokens?_writtenLiteral (literal : Literal) (cs : List Char) :
    tokens? (writtenLiteral literal ++ cs) = (tokens? cs).map (.text literal :: ·) := by
  obtain ⟨rest, hwritten, htext⟩ := text?_writtenLiteral literal cs
  have hnext : next? '"' rest = some (.text literal, cs) := by
    unfold next?
    rw [htext, Option.map_some]
    rfl
  rw [hwritten, tokens?_of_next (by decide) hnext]

/-- A digit or a sign begins a number. -/
theorem next?_of_number {c : Char} (h : c.isDigit = true ∨ c = '-') (cs : List Char) :
    next? c cs = (number? (c :: cs)).map fun (number, rest) => (.number number, rest) := by
  unfold next?
  split <;> first | rfl | exact absurd h (by decide)

/-- A number is written with a digit or a sign in front. -/
theorem exists_writtenNumber (number : Number) :
    ∃ c cs, writtenNumber number = c :: cs ∧ (c.isDigit = true ∨ c = '-') := by
  cases number with
  | integer negative magnitude =>
    obtain ⟨c, cs, hcons, hdigit⟩ := exists_toDigits magnitude
    cases negative with
    | false => exact ⟨c, cs, hcons, .inl hdigit⟩
    | true => exact ⟨'-', _, rfl, .inr rfl⟩
  | decimal negative digits exponent =>
    obtain ⟨c, cs, hcons, hdigit⟩ := exists_toDigits digits
    cases negative with
    | false =>
      refine ⟨c, cs ++ (['e'] ++ (if exponent < 0 then ['-'] else [])
        ++ Nat.toDigits 10 exponent.natAbs), ?_, .inl hdigit⟩
      simp only [writtenNumber, hcons, Bool.false_eq_true, if_false, List.nil_append,
        List.cons_append, List.append_assoc]
    | true => exact ⟨'-', _, rfl, .inr rfl⟩

theorem tokens?_writtenNumber (number : Number) {cs : List Char} (hcs : EndsNumber cs) :
    tokens? (writtenNumber number ++ cs) = (tokens? cs).map (.number number :: ·) := by
  obtain ⟨first, others, hwritten, hfirst⟩ := exists_writtenNumber number
  have hread := number?_writtenNumber number hcs
  have hblank : isBlank first = false := by
    rcases hfirst with hdigit | rfl
    · simp only [isBlank, Bool.or_eq_false_iff, beq_eq_false_iff_ne]
      refine ⟨⟨⟨?_, ?_⟩, ?_⟩, ?_⟩ <;> rintro rfl <;> exact absurd hdigit (by decide)
    · decide
  rw [hwritten, List.cons_append] at hread ⊢
  refine tokens?_of_next hblank ?_
  rw [next?_of_number hfirst, hread, Option.map_some]

/-! ## Values -/

namespace Value

theorem endsNumber_lineBreak (layout : Layout) {cs : List Char} (h : EndsNumber cs) :
    EndsNumber (layout.lineBreak ++ cs) := by
  cases layout with
  | compact => exact h
  | lines level => exact endsNumber_cons rfl (by decide) (by decide) (by decide) _

theorem endsNumber_writtenItems (layout : Layout) (items : List Value) {cs : List Char}
    (h : EndsNumber cs) : EndsNumber (writtenItems layout items ++ cs) := by
  cases items with
  | nil => exact h
  | cons item items => exact endsNumber_cons rfl (by decide) (by decide) (by decide) _

theorem endsNumber_writtenEntries (layout : Layout) (entries : List (Literal × Value))
    {cs : List Char} (h : EndsNumber cs) : EndsNumber (writtenEntries layout entries ++ cs) := by
  cases entries with
  | nil => exact h
  | cons entry entries => exact endsNumber_cons rfl (by decide) (by decide) (by decide) _

mutual

/-- What is written of a value is cut into the tokens of the value. -/
theorem tokens?_written (layout : Layout) (value : Value) {cs : List Char} (hcs : EndsNumber cs) :
    tokens? (value.written layout ++ cs) = (tokens? cs).map (value.tokens ++ ·) := by
  match value with
  | null => exact tokens?_of_next rfl rfl
  | bool true => exact tokens?_of_next rfl rfl
  | bool false => exact tokens?_of_next rfl rfl
  | number value => exact tokens?_writtenNumber value hcs
  | text value => exact tokens?_writtenLiteral value cs
  | list [] =>
    rw [written, List.cons_append, List.singleton_append, tokens?_of_next rfl rfl,
      tokens?_of_next rfl rfl, Option.map_map]
    rfl
  | list (item :: items) =>
    have hclose : EndsNumber (layout.lineBreak ++ ']' :: cs) :=
      endsNumber_lineBreak layout (endsNumber_cons rfl (by decide) (by decide) (by decide) cs)
    have hitems := endsNumber_writtenItems layout.deeper items hclose
    simp only [written, List.cons_append, List.append_assoc, List.nil_append]
    rw [tokens?_of_next rfl rfl, tokens?_lineBreak, tokens?_written layout.deeper item hitems,
      tokens?_writtenItems layout.deeper items hclose, tokens?_lineBreak,
      tokens?_of_next rfl rfl]
    simp only [Option.map_map, Function.comp_def, tokens, List.cons_append, List.append_assoc,
      List.nil_append]
  | record [] =>
    rw [written, List.cons_append, List.singleton_append, tokens?_of_next rfl rfl,
      tokens?_of_next rfl rfl, Option.map_map]
    rfl
  | record ((name, item) :: entries) =>
    have hclose : EndsNumber (layout.lineBreak ++ '\x7d' :: cs) :=
      endsNumber_lineBreak layout (endsNumber_cons rfl (by decide) (by decide) (by decide) cs)
    have hentries := endsNumber_writtenEntries layout.deeper entries hclose
    simp only [written, List.cons_append, List.append_assoc, List.nil_append]
    rw [tokens?_of_next rfl rfl, tokens?_lineBreak, tokens?_writtenLiteral, tokens?_colon,
      tokens?_written layout.deeper item hentries,
      tokens?_writtenEntries layout.deeper entries hclose, tokens?_lineBreak,
      tokens?_of_next rfl rfl]
    simp only [Option.map_map, Function.comp_def, tokens, List.cons_append, List.append_assoc,
      List.nil_append]

theorem tokens?_writtenItems (layout : Layout) (items : List Value) {cs : List Char}
    (hcs : EndsNumber cs) :
    tokens? (writtenItems layout items ++ cs) = (tokens? cs).map (tokensOfItems items ++ ·) := by
  match items with
  | [] => exact Option.map_id'.symm
  | item :: items =>
    have hitems := endsNumber_writtenItems layout items hcs
    simp only [writtenItems, List.cons_append, List.append_assoc]
    rw [tokens?_of_next rfl rfl, tokens?_lineBreak, tokens?_written layout item hitems,
      tokens?_writtenItems layout items hcs]
    simp only [Option.map_map, Function.comp_def, tokensOfItems, List.cons_append,
      List.append_assoc]

theorem tokens?_writtenEntries (layout : Layout) (entries : List (Literal × Value))
    {cs : List Char} (hcs : EndsNumber cs) :
    tokens? (writtenEntries layout entries ++ cs)
      = (tokens? cs).map (tokensOfEntries entries ++ ·) := by
  match entries with
  | [] => exact Option.map_id'.symm
  | (name, item) :: entries =>
    have hentries := endsNumber_writtenEntries layout entries hcs
    simp only [writtenEntries, List.cons_append, List.append_assoc]
    rw [tokens?_of_next rfl rfl, tokens?_lineBreak, tokens?_writtenLiteral, tokens?_colon,
      tokens?_written layout item hentries, tokens?_writtenEntries layout entries hcs]
    simp only [Option.map_map, Function.comp_def, tokensOfEntries, List.cons_append,
      List.append_assoc]

end

end Value

/-! ## Reading -/

namespace Reader

theorem foldlM_step_cons {r next : Reader} {token : Token} (h : r.step token = some next)
    (tokens : List Token) : (token :: tokens).foldlM step r = tokens.foldlM step next := by
  rw [List.foldlM_cons, h]
  rfl

theorem foldlM_step_singleton (r : Reader) (token : Token) :
    [token].foldlM step r = r.step token := by
  rw [List.foldlM_cons]
  exact bind_pure _

theorem foldlM_step_append {r next : Reader} {tokens : List Token}
    (h : tokens.foldlM step r = some next) (more : List Token) :
    (tokens ++ more).foldlM step r = more.foldlM step next := by
  rw [List.foldlM_append, h]
  rfl

mutual

/-- The tokens of a value supply the value. -/
theorem foldlM_tokens (value : Value) (unclosed : List Unclosed) {expected : Expected}
    (h : expected = .value ∨ expected = .firstItem) :
    value.tokens.foldlM step ⟨unclosed, expected⟩ = supply value unclosed := by
  have hstart : ∀ {token : Token}, token ≠ .closeList →
      step ⟨unclosed, expected⟩ token = startValue unclosed token := by
    intro token htoken
    rcases h with rfl | rfl <;> cases token <;> first | rfl | exact absurd rfl htoken
  match value with
  | .null | .bool _ | .number _ | .text _ =>
    rw [Value.tokens, foldlM_step_singleton, hstart (by simp)]
    rfl
  | .list [] =>
    rw [Value.tokens, foldlM_step_cons (hstart (by simp)), foldlM_step_singleton]
    rfl
  | .list (item :: items) =>
    rw [Value.tokens, foldlM_step_cons (hstart (by simp)), List.append_assoc,
      foldlM_step_append (foldlM_tokens item _ (.inr rfl)),
      foldlM_step_append (foldlM_tokensOfItems items _ _), foldlM_step_singleton]
    simp only [step, closeList, List.reverse_append, List.reverse_reverse, List.reverse_singleton,
      List.singleton_append]
  | .record [] =>
    rw [Value.tokens, foldlM_step_cons (hstart (by simp)), foldlM_step_singleton]
    rfl
  | .record ((name, item) :: entries) =>
    rw [Value.tokens, foldlM_step_cons (hstart (by simp)), foldlM_step_cons rfl,
      foldlM_step_cons rfl, List.append_assoc,
      foldlM_step_append (foldlM_tokens item _ (.inl rfl)),
      foldlM_step_append (foldlM_tokensOfEntries entries _ _), foldlM_step_singleton]
    simp only [step, closeRecord, List.reverse_append, List.reverse_reverse,
      List.reverse_singleton, List.singleton_append]

/-- The tokens of further items supply them to the innermost list. -/
theorem foldlM_tokensOfItems (items done : List Value) (outer : List Unclosed) :
    (Value.tokensOfItems items).foldlM step ⟨.list done :: outer, .separator⟩
      = some ⟨.list (items.reverse ++ done) :: outer, .separator⟩ := by
  match items with
  | [] => rfl
  | item :: items =>
    rw [Value.tokensOfItems, foldlM_step_cons rfl,
      foldlM_step_append (foldlM_tokens item _ (.inl rfl)), foldlM_tokensOfItems items,
      List.reverse_cons, List.append_assoc, List.singleton_append]

/-- The tokens of further entries supply them to the innermost record. -/
theorem foldlM_tokensOfEntries (entries done : List (Literal × Value)) (outer : List Unclosed) :
    (Value.tokensOfEntries entries).foldlM step ⟨.record done :: outer, .separator⟩
      = some ⟨.record (entries.reverse ++ done) :: outer, .separator⟩ := by
  match entries with
  | [] => rfl
  | (name, item) :: entries =>
    rw [Value.tokensOfEntries, foldlM_step_cons rfl, foldlM_step_cons rfl, foldlM_step_cons rfl,
      foldlM_step_append (foldlM_tokens item _ (.inl rfl)), foldlM_tokensOfEntries entries,
      List.reverse_cons, List.append_assoc, List.singleton_append]

end

end Reader

namespace Value

theorem ofTokens?_tokens (value : Value) : ofTokens? value.tokens = some value := by
  rw [ofTokens?, Reader.foldlM_tokens value [] (.inl rfl)]
  rfl

/-- What is written of a value, in either layout, is read as that value. -/
theorem ofText?_written (layout : Layout) (value : Value) :
    ofText? (String.ofList (value.written layout)) = some value := by
  have hcut := tokens?_written layout value endsNumber_nil
  have hend : tokens? [] = some [] := by rw [tokens?]
  rw [List.append_nil, hend, Option.map_some, List.append_nil] at hcut
  rw [ofText?, String.toList_ofList, hcut, Option.bind_some, ofTokens?_tokens]

end Value

end RadioLink.Json
