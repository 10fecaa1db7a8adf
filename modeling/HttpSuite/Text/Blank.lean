/-
HttpSuite/Text/Blank.lean

White space. A text is scanned as a list of characters; `isBlank` is the Unicode property
White_Space, and `trimStart`, `trimEnd`, `trim` and `words` are all that the line formats of this
library do with it. Main statements: what is left of a trimmed text neither starts nor ends with a
blank (`head_trimStart`, `getLast_trimEnd`), and trimming keeps a text that does neither
(`trim_eq_self`).
-/

namespace HttpSuite.Text

/-- A character of the Unicode property White_Space. -/
def isBlank (c : Char) : Bool :=
  let n := c.toNat
  (9 ≤ n && n ≤ 13) || n == 0x20 || n == 0x85 || n == 0xA0 || n == 0x1680 ||
    (0x2000 ≤ n && n ≤ 0x200A) || n == 0x2028 || n == 0x2029 || n == 0x202F || n == 0x205F ||
    n == 0x3000

/-- Whether a text holds no character but blanks. -/
def isBlankText (s : List Char) : Bool := s.all isBlank

/-- Drops the blanks in front. -/
def trimStart (s : List Char) : List Char := s.dropWhile isBlank

/-- Drops the blanks at the end. -/
def trimEnd (s : List Char) : List Char := (s.reverse.dropWhile isBlank).reverse

/-- Drops the blanks at both ends. -/
def trim (s : List Char) : List Char := trimEnd (trimStart s)

/-- The longest blank-free piece in front, and what follows it. -/
def firstWord (s : List Char) : List Char × List Char :=
  (s.takeWhile (!isBlank ·), s.dropWhile (!isBlank ·))

/-- The maximal blank-free pieces of a text, in order. -/
def words (s : List Char) : List (List Char) :=
  (s.splitOnP isBlank).filter (!·.isEmpty)

/-! ### Trimming -/

@[simp] theorem trimStart_nil : trimStart [] = [] := rfl

@[simp] theorem trimEnd_nil : trimEnd [] = [] := rfl

@[simp] theorem trim_nil : trim [] = [] := rfl

theorem head_trimStart {s t : List Char} {c : Char} (h : trimStart s = c :: t) :
    isBlank c = false := by
  induction s with
  | nil => simp [trimStart] at h
  | cons a s ih =>
    unfold trimStart at h ih
    rw [List.dropWhile_cons] at h
    split at h
    · exact ih h
    · rename_i ha
      have : a = c := by injection h
      subst this
      simpa using ha

theorem getLast_trimEnd {s t : List Char} {c : Char} (h : trimEnd s = t ++ [c]) :
    isBlank c = false := by
  apply head_trimStart (s := s.reverse) (t := t.reverse)
  unfold trimEnd at h
  have := congrArg List.reverse h
  simpa [trimStart] using this

theorem trimStart_cons_of_not_blank {c : Char} {s : List Char} (h : isBlank c = false) :
    trimStart (c :: s) = c :: s := by
  simp [trimStart, h]

theorem trimEnd_append_of_not_blank {c : Char} {s : List Char} (h : isBlank c = false) :
    trimEnd (s ++ [c]) = s ++ [c] := by
  simp [trimEnd, h]

/-- A text whose ends are not blank is kept. -/
theorem trim_eq_self {s : List Char} (first : ∀ c, s.head? = some c → isBlank c = false)
    (last : ∀ c, s.getLast? = some c → isBlank c = false) : trim s = s := by
  rcases s with _ | ⟨a, s⟩
  · rfl
  · have ha : isBlank a = false := first a rfl
    rw [trim, trimStart_cons_of_not_blank ha]
    rcases List.eq_nil_or_concat (a :: s) with h | ⟨t, b, h⟩
    · simp at h
    · rw [h] at last ⊢
      simp only [List.concat_eq_append] at last ⊢
      exact trimEnd_append_of_not_blank (last b (by simp))

end HttpSuite.Text
