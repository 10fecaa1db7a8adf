/-
HttpSuite/Text/Search.lean

Looking for one text in another: a text in front (`stripStart?`), at the end (`stripEnd?`) and the
first place where it occurs (`splitOnce?`, `contains`). Main statement: `splitOnce?` cuts at an
occurrence and loses nothing else (`splitOnce?_eq_some`).
-/

namespace HttpSuite.Text

/-- What follows `front`, when the text starts with it. -/
def stripStart? : (front s : List Char) → Option (List Char)
  | [], s => some s
  | _ :: _, [] => none
  | a :: front, c :: s => if a = c then stripStart? front s else none

/-- What comes before `tail`, when the text ends with it. -/
def stripEnd? (tail s : List Char) : Option (List Char) :=
  (stripStart? tail.reverse s.reverse).map List.reverse

/-- Whether a text starts with `front`. -/
def startsWith (front s : List Char) : Bool := (stripStart? front s).isSome

/-- Whether a text ends with `tail`. -/
def endsWith (tail s : List Char) : Bool := (stripEnd? tail s).isSome

/-- What comes before and after the first occurrence of `mark`. -/
def splitOnce? (mark : List Char) : List Char → Option (List Char × List Char)
  | [] => if mark.isEmpty then some ([], []) else none
  | c :: s =>
    match stripStart? mark (c :: s) with
    | some rest => some ([], rest)
    | none => (splitOnce? mark s).map fun (before, after) => (c :: before, after)

/-- Whether `mark` occurs in a text. -/
def contains (mark s : List Char) : Bool := (splitOnce? mark s).isSome

/-- The pieces of a text between the occurrences of a character, the first kept apart. -/
def splitAtChar (mark : Char) (s : List Char) : List Char × List (List Char) :=
  match s.splitOn mark with
  | [] => ([], [])
  | first :: rest => (first, rest)

theorem stripStart?_eq_some {front s rest : List Char} :
    stripStart? front s = some rest ↔ s = front ++ rest := by
  induction front generalizing s with
  | nil => simp [stripStart?, eq_comm]
  | cons a front ih =>
    cases s with
    | nil => simp [stripStart?]
    | cons c s =>
      by_cases h : a = c
      · simp [stripStart?, h, ih]
      · simp [stripStart?, h, Ne.symm h]

theorem startsWith_iff {front s : List Char} : startsWith front s = true ↔ front <+: s := by
  rw [startsWith, Option.isSome_iff_exists]
  exact ⟨fun ⟨r, h⟩ => ⟨r, (stripStart?_eq_some.1 h).symm⟩,
    fun ⟨r, h⟩ => ⟨r, stripStart?_eq_some.2 h.symm⟩⟩

theorem stripEnd?_eq_some {tail s rest : List Char} :
    stripEnd? tail s = some rest ↔ s = rest ++ tail := by
  rw [stripEnd?, Option.map_eq_some_iff]
  constructor
  · rintro ⟨r, h, rfl⟩
    have := congrArg List.reverse (stripStart?_eq_some.1 h)
    simpa using this
  · rintro rfl
    exact ⟨rest.reverse, stripStart?_eq_some.2 (by simp), by simp⟩

theorem splitOnce?_eq_some {mark s before after : List Char}
    (h : splitOnce? mark s = some (before, after)) : s = before ++ mark ++ after := by
  induction s generalizing before with
  | nil =>
    simp only [splitOnce?] at h
    split at h
    · simp_all
    · simp at h
  | cons c s ih =>
    simp only [splitOnce?] at h
    split at h
    · rename_i rest hr
      obtain ⟨rfl, rfl⟩ : [] = before ∧ rest = after := by simpa using h
      simpa using stripStart?_eq_some.1 hr
    · obtain ⟨p, hp, he⟩ := Option.map_eq_some_iff.1 h
      obtain ⟨b, a⟩ := p
      obtain ⟨rfl, rfl⟩ : c :: b = before ∧ a = after := by simpa using he
      simp [ih hp]

end HttpSuite.Text
