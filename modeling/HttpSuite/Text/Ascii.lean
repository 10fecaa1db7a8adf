/-
HttpSuite/Text/Ascii.lean

Letters and digits of ASCII, and the case of ASCII letters. Other characters have no case here:
names of headers, keywords and units compare by the 26 letters alone.
-/
import HttpSuite.Number.Power

namespace HttpSuite.Ascii

/-- A capital ASCII letter becomes small; every other character stays. -/
def lowerChar (c : Char) : Char :=
  if 'A' ≤ c ∧ c ≤ 'Z' then Char.ofNat (c.toNat + 32) else c

/-- The text with its capital ASCII letters made small. -/
def lower (s : List Char) : List Char := s.map lowerChar

/-- Whether two texts differ at most in the case of ASCII letters. -/
def equalFold (s t : List Char) : Bool := lower s == lower t

/-- Whether two strings differ at most in the case of ASCII letters. -/
def sameName (s t : String) : Bool := equalFold s.toList t.toList

/-- A decimal digit. -/
def isDigit (c : Char) : Bool := '0' ≤ c && c ≤ '9'

/-- An ASCII letter. -/
def isLetter (c : Char) : Bool := ('a' ≤ c && c ≤ 'z') || ('A' ≤ c && c ≤ 'Z')

/-- The value of a hexadecimal digit. -/
def hexValue? (c : Char) : Option Nat :=
  if '0' ≤ c ∧ c ≤ '9' then some (c.toNat - '0'.toNat)
  else if 'a' ≤ c ∧ c ≤ 'f' then some (c.toNat - 'a'.toNat + 10)
  else if 'A' ≤ c ∧ c ≤ 'F' then some (c.toNat - 'A'.toNat + 10)
  else none

/-- The digit of a value below sixteen, capitals for ten to fifteen. -/
def hexDigit (n : Nat) : Char :=
  if n < 10 then Char.ofNat ('0'.toNat + n) else Char.ofNat ('A'.toNat + n - 10)

/-- The value of a text of decimal digits; the empty text has none. -/
def natOfDigits? (s : List Char) : Option Nat :=
  if s.isEmpty || !s.all isDigit then none
  else some (s.foldl (fun n c => 10 * n + (c.toNat - '0'.toNat)) 0)

/-- The value of a text of decimal digits with an optional sign in front. -/
def intOfDigits? : List Char → Option Int
  | '-' :: s => (natOfDigits? s).map fun n => -(n : Int)
  | '+' :: s => (natOfDigits? s).map fun n => (n : Int)
  | s => (natOfDigits? s).map fun n => (n : Int)

/-- A whole number that fits in 64 bits with a sign. -/
def int64OfDigits? (s : List Char) : Option Int :=
  (intOfDigits? s).filter fun n => -(2 ^ 63 : Int) ≤ n && n < 2 ^ 63

theorem isDigit_iff {c : Char} : isDigit c = true ↔ 48 ≤ c.toNat ∧ c.toNat ≤ 57 := by
  simp [isDigit, Char.le_def, UInt32.le_iff_toNat_le]

theorem isLetter_iff {c : Char} : isLetter c = true ↔
    97 ≤ c.toNat ∧ c.toNat ≤ 122 ∨ 65 ≤ c.toNat ∧ c.toNat ≤ 90 := by
  simp [isLetter, Char.le_def, UInt32.le_iff_toNat_le]

/-- Only a capital letter is changed when it is made small. -/
theorem lowerChar_eq_or (c : Char) :
    lowerChar c = c ∨ ∃ i : Fin 26, c = Char.ofNat (65 + i) := by
  unfold lowerChar
  split
  · rename_i h
    have hlow : 65 ≤ c.toNat := h.1
    have hhigh : c.toNat ≤ 90 := h.2
    refine .inr ⟨⟨c.toNat - 65, by omega⟩, ?_⟩
    rw [Nat.add_sub_cancel' hlow, Char.ofNat_toNat]
  · exact .inl rfl

/-- A letter is one in either case. -/
theorem isLetter_lowerChar (c : Char) : isLetter (lowerChar c) = isLetter c := by
  rcases lowerChar_eq_or c with h | ⟨i, rfl⟩
  · rw [h]
  · have hall : ∀ i : Fin 26,
        isLetter (lowerChar (Char.ofNat (65 + i))) = isLetter (Char.ofNat (65 + i)) := by
      decide
    exact hall i

theorem equalFold_refl (s : List Char) : equalFold s s = true := by
  simp [equalFold]

theorem sameName_refl (s : String) : sameName s s = true := equalFold_refl _

end HttpSuite.Ascii
