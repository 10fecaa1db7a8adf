/-
HttpSuite/Variables/Dotenv.lean

Files of environment variables. A line gives a text to a name with an equals sign; `export ` may
stand in front, quotes of one kind around the text are dropped, and blank lines and lines that
start with a number sign say nothing.
-/
import HttpSuite.Table
import HttpSuite.Text.Lines
import HttpSuite.Text.Search

namespace HttpSuite.Dotenv

/-- The name of such a file. -/
def fileName : String := ".env"

/-- The text without the quotes around it. -/
def unquote (s : List Char) : List Char :=
  match s with
  | q :: rest =>
    if (q = '"' ∨ q = '\'') ∧ rest.getLast? = some q then rest.dropLast else s
  | [] => []

/-- The entry of a line that is trimmed and not empty. -/
def entryOfTrimmed (line : List Char) : Option (String × String) :=
  let line := (Text.stripStart? "export ".toList line).getD line
  match Text.splitOnce? ['='] line with
  | none => none
  | some (key, value) =>
    let key := Text.trim key
    if key.isEmpty then none
    else some (String.ofList key, String.ofList (unquote (Text.trim value)))

/-- The entry of a line. -/
def entryOfLine (line : List Char) : Option (String × String) :=
  match Text.trim line with
  | [] => none
  | '#' :: _ => none
  | line => entryOfTrimmed line

/-- The table of a file; the last of equal names stays. -/
def parse (text : String) : Table String :=
  Table.ofList ((Text.lines text.toList).filterMap entryOfLine)

end HttpSuite.Dotenv
