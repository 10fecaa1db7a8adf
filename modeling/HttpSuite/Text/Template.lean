/-
HttpSuite/Text/Template.lean

Texts with holes. A hole is a name between an opening and a closing mark; `HoleStyle` fixes the
marks, the characters of names and which names count. `pieces` cuts a text from left to right, one
hole at a time, and `fill` puts a text into each hole, or leaves the hole as it stands; what is put
in is not looked at again. Main statements: the pieces of a text spell that text
(`spell_pieces`), and filling no hole changes nothing (`fill_none`).
-/
import HttpSuite.Text.Blank
import HttpSuite.Text.Search

namespace HttpSuite

/-- How holes are written. -/
structure HoleStyle where
  opening : List Char
  closing : List Char
  nameChar : Char → Bool
  isName : List Char → Bool
  opening_ne_nil : opening ≠ [] := by simp

/-- A piece of a text with holes. -/
inductive Piece where
  | char (c : Char)
  | hole (name : List Char)
deriving DecidableEq, Repr

namespace HoleStyle

variable (style : HoleStyle)

/-- The name of a hole at the start of a text, and what follows the hole. -/
def holeAt (s : List Char) : Option (List Char × List Char) :=
  match Text.stripStart? style.opening s with
  | none => none
  | some rest =>
    let name := rest.takeWhile style.nameChar
    if style.isName name then
      (Text.stripStart? style.closing (rest.dropWhile style.nameChar)).map (name, ·)
    else none

/-- A hole as it stands in a text. -/
def spellHole (name : List Char) : List Char := style.opening ++ name ++ style.closing

/-- A piece as it stands in a text. -/
def spell : Piece → List Char
  | .char c => [c]
  | .hole name => style.spellHole name

theorem eq_of_holeAt {s name rest : List Char} (h : style.holeAt s = some (name, rest)) :
    s = style.spellHole name ++ rest := by
  simp only [holeAt] at h
  split at h
  · simp at h
  · rename_i after ha
    split at h
    · obtain ⟨r, hr, he⟩ := Option.map_eq_some_iff.1 h
      obtain ⟨rfl, rfl⟩ : after.takeWhile style.nameChar = name ∧ r = rest := by simpa using he
      have h1 := Text.stripStart?_eq_some.1 ha
      have h2 := Text.stripStart?_eq_some.1 hr
      rw [h1, spellHole, List.append_assoc, List.append_assoc, ← h2,
        List.takeWhile_append_dropWhile]
    · simp at h

/-- A hole takes at least one character. -/
theorem length_lt_of_holeAt {s name rest : List Char} (h : style.holeAt s = some (name, rest)) :
    rest.length < s.length := by
  have h1 := congrArg List.length (style.eq_of_holeAt h)
  have h2 := List.length_pos_iff.2 style.opening_ne_nil
  simp only [spellHole, List.length_append] at h1
  omega

/-- The pieces of a text. -/
def pieces (s : List Char) : List Piece :=
  match s with
  | [] => []
  | c :: rest =>
    match h : style.holeAt (c :: rest) with
    | none => .char c :: pieces rest
    | some (name, after) =>
      have := style.length_lt_of_holeAt h
      .hole name :: pieces after
termination_by s.length
decreasing_by
  · exact Nat.lt_succ_self _
  · exact this

/-- The text with each hole filled that `f` has a text for. -/
def fill (f : String → Option String) (s : String) : String :=
  String.ofList ((style.pieces s.toList).flatMap fun
    | .char c => [c]
    | .hole name => ((f (String.ofList name)).map String.toList).getD (style.spellHole name))

/-- Fills the holes of a list of pieces from left to right, with a state that each look-up may
change. -/
def fillPieces {σ : Type} (f : σ → String → Option String × σ) : σ → List Piece → List Char × σ
  | state, [] => ([], state)
  | state, .char c :: rest =>
    let (text, state) := fillPieces f state rest
    (c :: text, state)
  | state, .hole name :: rest =>
    let (value, state) := f state (String.ofList name)
    let (text, state) := fillPieces f state rest
    ((value.map String.toList).getD (style.spellHole name) ++ text, state)

/-- The text with its holes filled from left to right, and the state after the last look-up. -/
def fillFrom {σ : Type} (f : σ → String → Option String × σ) (state : σ) (s : String) :
    String × σ :=
  let (text, state) := style.fillPieces f state (style.pieces s.toList)
  (String.ofList text, state)

/-- The pieces of a text spell it. -/
theorem spell_pieces (s : List Char) : (style.pieces s).flatMap style.spell = s := by
  fun_induction pieces style s with
  | case1 => rfl
  | case2 c rest h ih => simp [spell, ih]
  | case3 c rest name after h hlt ih => simp [spell, ih, ← style.eq_of_holeAt h]

/-- A text none of whose holes is filled stays as it is. -/
theorem fill_none (s : String) : style.fill (fun _ => none) s = s := by
  have : (fun
      | .char c => [c]
      | .hole name => ((none : Option String).map String.toList).getD (style.spellHole name)) =
        style.spell := by
    funext p
    cases p <;> rfl
  rw [fill, this, spell_pieces, String.ofList_toList]

end HoleStyle

end HttpSuite
