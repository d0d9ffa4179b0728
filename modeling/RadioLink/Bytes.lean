set_option autoImplicit false

/-! # Bytes and 32-bit words

Everything on the wire is a list of bytes. Lengths travel most significant byte first, every other
word least significant byte first. Both layouts are stated through the value of the word as a
natural number, so that the laws about them are linear arithmetic: `ofLittleEndian` and
`ofBigEndian` undo `littleEndian` and `bigEndian`, and the other way round. -/

namespace RadioLink

/-- A string of bytes, first byte first. -/
abbrev Bytes := List UInt8

/-- Whether a list has at least `n` elements, looking at no more than `n` of them. -/
def hasAtLeast {α : Type} : Nat → List α → Bool
  | 0, _ => true
  | _ + 1, [] => false
  | n + 1, _ :: xs => hasAtLeast n xs

theorem hasAtLeast_iff {α : Type} (n : Nat) (xs : List α) :
    hasAtLeast n xs = true ↔ n ≤ xs.length := by
  induction n generalizing xs with
  | zero => simp [hasAtLeast]
  | succ n ih => cases xs with
    | nil => simp [hasAtLeast]
    | cons x xs => simp [hasAtLeast, ih]

/-- The first `n` elements and the rest, if there are that many. -/
def splitExactly {α : Type} (n : Nat) (xs : List α) : Option (List α × List α) :=
  if hasAtLeast n xs then some (xs.take n, xs.drop n) else none

theorem splitExactly_eq_some_iff {α : Type} {n : Nat} {xs front rest : List α} :
    splitExactly n xs = some (front, rest) ↔ xs = front ++ rest ∧ front.length = n := by
  unfold splitExactly
  by_cases h : hasAtLeast n xs
  · have hle := (hasAtLeast_iff n xs).1 h
    simp only [h, if_true, Option.some.injEq, Prod.mk.injEq]
    constructor
    · rintro ⟨rfl, rfl⟩
      exact ⟨(List.take_append_drop n xs).symm, by simp [hle]⟩
    · rintro ⟨rfl, rfl⟩
      simp
  · have hlt : ¬ n ≤ xs.length := fun hle => h ((hasAtLeast_iff n xs).2 hle)
    simp only [h, Bool.false_eq_true, if_false, reduceCtorEq, false_iff]
    rintro ⟨rfl, rfl⟩
    exact hlt (by simp)

theorem splitExactly_eq_none_iff {α : Type} {n : Nat} {xs : List α} :
    splitExactly n xs = none ↔ xs.length < n := by
  have := hasAtLeast_iff n xs
  unfold splitExactly
  by_cases h : hasAtLeast n xs
  · simp only [h, if_true, reduceCtorEq, false_iff]
    have := this.1 h
    omega
  · simp only [h, Bool.false_eq_true, if_false, true_iff]
    exact Nat.lt_of_not_le fun hle => h (this.2 hle)

/-- The four bytes of a word, least significant first. -/
def littleEndian (w : UInt32) : Bytes :=
  [UInt8.ofNat w.toNat, UInt8.ofNat (w.toNat / 256), UInt8.ofNat (w.toNat / 65536),
    UInt8.ofNat (w.toNat / 16777216)]

/-- The four bytes of a word, most significant first. -/
def bigEndian (w : UInt32) : Bytes :=
  [UInt8.ofNat (w.toNat / 16777216), UInt8.ofNat (w.toNat / 65536), UInt8.ofNat (w.toNat / 256),
    UInt8.ofNat w.toNat]

/-- The word whose bytes are given, least significant first. -/
def ofLittleEndian (b₀ b₁ b₂ b₃ : UInt8) : UInt32 :=
  UInt32.ofNat (b₀.toNat + 256 * b₁.toNat + 65536 * b₂.toNat + 16777216 * b₃.toNat)

/-- The word whose bytes are given, most significant first. -/
def ofBigEndian (b₀ b₁ b₂ b₃ : UInt8) : UInt32 :=
  ofLittleEndian b₃ b₂ b₁ b₀

@[simp] theorem length_littleEndian (w : UInt32) : (littleEndian w).length = 4 := rfl

@[simp] theorem length_bigEndian (w : UInt32) : (bigEndian w).length = 4 := rfl

theorem toNat_ofLittleEndian (b₀ b₁ b₂ b₃ : UInt8) :
    (ofLittleEndian b₀ b₁ b₂ b₃).toNat
      = b₀.toNat + 256 * b₁.toNat + 65536 * b₂.toNat + 16777216 * b₃.toNat := by
  have h₀ := b₀.toNat_lt
  have h₁ := b₁.toNat_lt
  have h₂ := b₂.toNat_lt
  have h₃ := b₃.toNat_lt
  simp only [ofLittleEndian, UInt32.toNat_ofNat']
  omega

/-- The bytes of a word give the word back. -/
theorem ofLittleEndian_littleEndian (w : UInt32) :
    ofLittleEndian (UInt8.ofNat w.toNat) (UInt8.ofNat (w.toNat / 256))
      (UInt8.ofNat (w.toNat / 65536)) (UInt8.ofNat (w.toNat / 16777216)) = w := by
  apply UInt32.toNat_inj.1
  have h := w.toNat_lt
  simp only [toNat_ofLittleEndian, UInt8.toNat_ofNat']
  omega

/-- A word made of four bytes has these bytes. -/
theorem littleEndian_ofLittleEndian (b₀ b₁ b₂ b₃ : UInt8) :
    littleEndian (ofLittleEndian b₀ b₁ b₂ b₃) = [b₀, b₁, b₂, b₃] := by
  have h₀ := b₀.toNat_lt
  have h₁ := b₁.toNat_lt
  have h₂ := b₂.toNat_lt
  have h₃ := b₃.toNat_lt
  simp only [littleEndian, toNat_ofLittleEndian, List.cons.injEq, and_true]
  refine ⟨?_, ?_, ?_, ?_⟩ <;>
    (apply UInt8.toNat_inj.1; simp only [UInt8.toNat_ofNat']; omega)

/-- The leading word, least significant byte first, and what follows it. -/
def takeLittleEndian? : Bytes → Option (UInt32 × Bytes)
  | b₀ :: b₁ :: b₂ :: b₃ :: rest => some (ofLittleEndian b₀ b₁ b₂ b₃, rest)
  | _ => none

/-- The leading word, most significant byte first, and what follows it. -/
def takeBigEndian? : Bytes → Option (UInt32 × Bytes)
  | b₀ :: b₁ :: b₂ :: b₃ :: rest => some (ofBigEndian b₀ b₁ b₂ b₃, rest)
  | _ => none

@[simp] theorem takeLittleEndian?_append (w : UInt32) (rest : Bytes) :
    takeLittleEndian? (littleEndian w ++ rest) = some (w, rest) := by
  simp only [littleEndian, List.cons_append, List.nil_append, takeLittleEndian?,
    ofLittleEndian_littleEndian]

@[simp] theorem takeBigEndian?_append (w : UInt32) (rest : Bytes) :
    takeBigEndian? (bigEndian w ++ rest) = some (w, rest) := by
  simp only [bigEndian, List.cons_append, List.nil_append, takeBigEndian?, ofBigEndian,
    ofLittleEndian_littleEndian]

/-- A leading word is there exactly if the bytes start with the bytes of that word. -/
theorem takeLittleEndian?_eq_some_iff {bytes rest : Bytes} {w : UInt32} :
    takeLittleEndian? bytes = some (w, rest) ↔ bytes = littleEndian w ++ rest := by
  constructor
  · intro h
    match bytes, h with
    | b₀ :: b₁ :: b₂ :: b₃ :: tail, h =>
      simp only [takeLittleEndian?, Option.some.injEq, Prod.mk.injEq] at h
      obtain ⟨rfl, rfl⟩ := h
      simp [littleEndian_ofLittleEndian]
  · rintro rfl
    exact takeLittleEndian?_append w rest

/-- The bytes of a text in UTF-8. -/
def utf8 (text : String) : Bytes :=
  text.toUTF8.data.toList

/-- The text that some bytes spell in UTF-8, if they do. -/
def ofUtf8? (bytes : Bytes) : Option String :=
  String.fromUTF8? ⟨bytes.toArray⟩

end RadioLink
