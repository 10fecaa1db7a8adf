/-
HttpSuite/Text/Runs.lean

Tables of characters. A table is a list of runs: characters in a row, and numbers that are said of
them. A table is written in lines of words, one for each run: the first character, a hyphen and the
last one if there are more, and after a colon the numbers with points between them, all of them
hexadecimal. No two runs of a table have a character in common.
-/
import HttpSuite.Text.Ascii

namespace HttpSuite.Text

/-- Characters in a row, and what is said of them. -/
structure Run where
  first : Nat
  last : Nat
  said : List Nat
deriving DecidableEq, Repr

namespace Run

/-- Whether a character lies in a run. -/
def holds (r : Run) (c : Char) : Bool := r.first ≤ c.toNat && c.toNat ≤ r.last

/-- The number that hexadecimal digits write; other characters count as nothing. -/
def number (digits : List Char) : Nat :=
  digits.foldl (fun n c => n * 16 + (Ascii.hexValue? c).getD 0) 0

/-- The run that a word writes. -/
def ofWord (word : List Char) : Run :=
  let ends := (word.takeWhile (· ≠ ':')).splitOn '-'
  let said := (word.dropWhile (· ≠ ':')).tail
  ⟨number (ends.head?.getD []), number (ends.getLast?.getD []),
    if said.isEmpty then [] else (said.splitOn '.').map number⟩

/-- The runs that lines write. -/
def table (lines : List String) : List Run :=
  lines.flatMap fun s => (s.toList.splitOn ' ').map ofWord

/-- The run that a character lies in. -/
def find? (t : List Run) (c : Char) : Option Run := t.find? (·.holds c)

/-- Whether a character lies in a run of a table. -/
def contains (t : List Run) (c : Char) : Bool := (find? t c).isSome

/-- The first number that a table says of a character. -/
def number? (t : List Run) (c : Char) : Option Nat := (find? t c).bind (·.said.head?)

end Run

end HttpSuite.Text
