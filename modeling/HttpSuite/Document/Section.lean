/-
HttpSuite/Document/Section.lean

Sections of a document. Comments between `/*` and `*/` are dropped first, then lines that start with
`#` or `//`; a line that starts with exactly three number signs begins a section. A section that
starts with a directive and has no request line holds assignments for the whole document.
-/
import HttpSuite.Document.RequestLine
import HttpSuite.Text.Lines

namespace HttpSuite

namespace Line

/-- Whether a line begins a section. -/
def isSectionDelimiter (line : List Char) : Bool :=
  let line := Text.trimStart line
  Text.startsWith "###".toList line && !Text.startsWith "####".toList line

/-- Whether a line begins a block of tests. -/
def isTestDelimiter (line : List Char) : Bool :=
  Text.startsWith "####".toList (Text.trimStart line)

/-- Whether a line is a comment. -/
def isComment (line : List Char) : Bool :=
  let line := Text.trimStart line
  !Text.startsWith "###".toList line &&
    (Text.startsWith "#".toList line || Text.startsWith "//".toList line)

end Line

/-- What a section holds. -/
inductive SectionKind where
  | request
  /-- Assignments for the whole document. -/
  | globals
deriving DecidableEq, Repr

/-- A section. -/
structure Section where
  /-- Its number in the document, from zero. -/
  index : Nat
  kind : SectionKind
  text : List Char
deriving DecidableEq, Repr

namespace Section

/-- What follows the first `*/` of a text. -/
def afterCommentEnd? (s : List Char) : Option (List Char) :=
  (Text.splitOnce? ['*', '/'] s).map (·.2)

theorem length_le_of_afterCommentEnd? {s rest : List Char} (h : afterCommentEnd? s = some rest) :
    rest.length ≤ s.length := by
  obtain ⟨⟨before, after⟩, hp, rfl⟩ := Option.map_eq_some_iff.1 h
  have := congrArg List.length (Text.splitOnce?_eq_some hp)
  simp only [List.length_append] at this ⊢
  omega

/-- The text without its comments between `/*` and `*/`; one that is not closed stays. -/
def stripComments (s : List Char) : List Char :=
  match s with
  | [] => []
  | '/' :: '*' :: rest =>
    match h : afterCommentEnd? rest with
    | some after =>
      have := length_le_of_afterCommentEnd? h
      stripComments after
    | none => '/' :: stripComments ('*' :: rest)
  | c :: rest => c :: stripComments rest
termination_by s.length

theorem stripComments_of_closed {rest after : List Char} (h : afterCommentEnd? rest = some after) :
    stripComments ('/' :: '*' :: rest) = stripComments after := by
  rw [stripComments]
  split <;> simp_all

theorem stripComments_of_open {rest : List Char} (h : afterCommentEnd? rest = none) :
    stripComments ('/' :: '*' :: rest) = '/' :: stripComments ('*' :: rest) := by
  rw [stripComments]
  split <;> simp_all

theorem stripComments_cons {c : Char} {s : List Char}
    (h : ∀ rest, c = '/' → s = '*' :: rest → False) :
    stripComments (c :: s) = c :: stripComments s := by
  rw [stripComments]
  exact h

/-- Dropping comments leaves out characters. -/
theorem stripComments_sublist (s : List Char) : (stripComments s).Sublist s := by
  fun_induction stripComments s with
  | case1 => exact List.Sublist.refl []
  | case2 rest after hend _ ih =>
      obtain ⟨cut, hcut, rfl⟩ := Option.map_eq_some_iff.mp hend
      have hrest := Text.splitOnce?_eq_some hcut
      have hafter : cut.2.Sublist rest := hrest ▸ List.sublist_append_right _ cut.2
      exact ((ih.trans hafter).cons '*').cons '/'
  | case3 rest _ ih => exact ih.cons_cons '/'
  | case4 c rest _ ih => exact ih.cons_cons c

/-- Lines cut before each section delimiter: what comes before the first one, then the pieces. -/
def chunks : List (List Char) → List (List Char) × List (List (List Char))
  | [] => ([], [])
  | line :: rest =>
    let (first, others) := chunks rest
    if Line.isSectionDelimiter line then ([], (line :: first) :: others)
    else (line :: first, others)

/-- The kind of a section with these lines. -/
def kindOf (lines : List (List Char)) : SectionKind :=
  let first := (lines.map Text.trim).find? (!·.isEmpty)
  if first.any (·.head? = some '@') && !lines.any (Line.isRequestLine <| Text.trim ·) then .globals
  else .request

/-- The sections of a document, those without any text left out. -/
def split (content : List Char) : List Section :=
  let lines := (Text.lines (stripComments content)).filter (!Line.isComment ·)
  let (first, others) := chunks lines
  let pieces := (first :: others).filter (·.any (!Text.isBlankText ·))
  pieces.mapIdx fun index lines => ⟨index, kindOf lines, Text.unlines lines⟩

end Section

end HttpSuite
