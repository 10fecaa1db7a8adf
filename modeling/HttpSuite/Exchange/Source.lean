/-
HttpSuite/Exchange/Source.lean

The texts of scripts. A path of a script starts from the directory of the document.
-/
import HttpSuite.Document.Unit
import HttpSuite.Error

namespace HttpSuite

/-- A path that starts from a directory, if there is one. -/
def Path.from (directory : Option String) (path : String) : String :=
  match directory with
  | some d => Path.join d path
  | none => path

/-- The text of a script. -/
def ScriptReference.source (files : Files) (directory : Option String) :
    ScriptReference → Except Error String
  | inline text => .ok text
  | file path =>
    let path := Path.from directory path
    (files.read path).mapError (.unreadableScript path)

end HttpSuite
