/-
HttpSuite/Text/Units.lean

The 16-bit units of a text. A character beyond the first plane is two of them. Main statement: a
text is what its units are read as (`ofUnits_units`).
-/

namespace HttpSuite.Text

/-- The units of a character. -/
def unitsOf (c : Char) : List Nat :=
  let n := c.toNat
  if n < 0x10000 then [n] else [0xD800 + (n - 0x10000) / 0x400, 0xDC00 + (n - 0x10000) % 0x400]

/-- The units of a text. -/
def units (s : List Char) : List Nat := s.flatMap unitsOf

/-- Whether a unit is the first half of a pair. -/
def isHighHalf (n : Nat) : Bool := 0xD800 ≤ n && n < 0xDC00

/-- Whether a unit is the second half of a pair. -/
def isLowHalf (n : Nat) : Bool := 0xDC00 ≤ n && n < 0xE000

/-- The character of a number; the replacement character when it is none. -/
def charOf (n : Nat) : Char :=
  if n < 0xD800 ∨ (0xE000 ≤ n ∧ n < 0x110000) then Char.ofNat n else '\uFFFD'

/-- The text of units. A half without its other half becomes the replacement character; a number
beyond 16 bits is read as the character that it is. -/
def ofUnits : List Nat → List Char
  | [] => []
  | [n] => [charOf n]
  | high :: low :: rest =>
    if isHighHalf high && isLowHalf low then
      charOf (0x10000 + (high - 0xD800) * 0x400 + (low - 0xDC00)) :: ofUnits rest
    else charOf high :: ofUnits (low :: rest)

/-- How many units a text has. -/
def unitCount (s : String) : Nat := (units s.toList).length

theorem charOf_toNat (c : Char) : charOf c.toNat = c := by
  have h := c.valid
  have hn : c.toNat < 0xD800 ∨ (0xDFFF < c.toNat ∧ c.toNat < 0x110000) := h
  have : c.toNat < 0xD800 ∨ (0xE000 ≤ c.toNat ∧ c.toNat < 0x110000) := by omega
  simp [charOf, this]

theorem ofUnits_cons_of_not_high {n : Nat} (h : isHighHalf n = false) (rest : List Nat) :
    ofUnits (n :: rest) = charOf n :: ofUnits rest := by
  cases rest <;> simp [ofUnits, h]

theorem ofUnits_units (s : List Char) : ofUnits (units s) = s := by
  induction s with
  | nil => rfl
  | cons c s ih =>
    have h := c.valid
    have hn : c.toNat < 0xD800 ∨ (0xDFFF < c.toNat ∧ c.toNat < 0x110000) := h
    simp only [units, List.flatMap_cons] at ih ⊢
    by_cases hc : c.toNat < 0x10000
    · have hh : isHighHalf c.toNat = false := by simp [isHighHalf]; omega
      simp [unitsOf, hc, ofUnits_cons_of_not_high hh, charOf_toNat, ih]
    · have hhigh : isHighHalf (0xD800 + (c.toNat - 0x10000) / 0x400) = true := by
        simp [isHighHalf]; omega
      have hlow : isLowHalf (0xDC00 + (c.toNat - 0x10000) % 0x400) = true := by
        simp [isLowHalf]; omega
      have hsum : 0x10000 + (0xD800 + (c.toNat - 0x10000) / 0x400 - 0xD800) * 0x400
          + (0xDC00 + (c.toNat - 0x10000) % 0x400 - 0xDC00) = c.toNat := by omega
      simp only [unitsOf, hc, if_false, List.cons_append, List.nil_append, ofUnits, hhigh, hlow,
        Bool.and_self, if_true, hsum, charOf_toNat, ih]

end HttpSuite.Text
