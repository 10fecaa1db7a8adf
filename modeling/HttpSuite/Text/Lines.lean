/-
HttpSuite/Text/Lines.lean

Lines of a text. A line ends at a line feed, and a carriage return right before that line feed
belongs to the line end, not to the line; an empty piece after the last line feed is no line.
`unlines` puts line feeds between lines. Main statement: pieces between line feeds are the lines
when none ends with a carriage return and the last one is not empty (`linesOfPieces_eq_self`).
-/
import HttpSuite.Text.Blank

namespace HttpSuite.Text

/-- Drops one carriage return at the end. -/
def dropReturn (s : List Char) : List Char :=
  if s.getLast? = some '\r' then s.dropLast else s

/-- The lines of a text that is given as its pieces between line feeds. -/
def linesOfPieces : List (List Char) → List (List Char)
  | [] => []
  | [last] => if last.isEmpty then [] else [last]
  | piece :: next :: rest => dropReturn piece :: linesOfPieces (next :: rest)

/-- The lines of a text. -/
def lines (s : List Char) : List (List Char) := linesOfPieces (s.splitOn '\n')

/-- Lines with a line feed between each two. -/
def unlines (ls : List (List Char)) : List Char := List.intercalate ['\n'] ls

theorem linesOfPieces_eq_self {ls : List (List Char)} (noReturn : ∀ l ∈ ls, l.getLast? ≠ some '\r')
    (last : ls.getLast? ≠ some []) : linesOfPieces ls = ls := by
  induction ls using linesOfPieces.induct with
  | case1 => rfl
  | case2 l h => simp_all
  | case3 l h => simp_all [linesOfPieces]
  | case4 l next rest ih =>
    rw [linesOfPieces,
      ih (fun m hm => noReturn m (List.mem_cons_of_mem _ hm)) (by simpa using last)]
    simp [dropReturn, noReturn l (by simp)]

end HttpSuite.Text
