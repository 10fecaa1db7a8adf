/-
HttpSuite/Document/RequestLine.lean

Request lines, header lines and query lines. A request line is a method and a target, blanks
between them; what follows the target is not looked at. A header line holds a colon, and its name
is what comes before the first one.
-/
import HttpSuite.Http.Method
import HttpSuite.Text.Blank
import HttpSuite.Text.Search

namespace HttpSuite

/-- A method and a target. -/
structure RequestLine where
  method : Method
  target : String
deriving DecidableEq, Repr

namespace Line

/-- The method and target of a request line. -/
def requestLine? (line : List Char) : Option RequestLine :=
  match Text.words line with
  | method :: target :: _ =>
    (Method.ofText? (String.ofList method)).map fun m => ⟨m, String.ofList target⟩
  | _ => none

/-- Whether a line is a request line. -/
def isRequestLine (line : List Char) : Bool := (requestLine? line).isSome

/-- Whether a line starts with an at sign. -/
def isDirective (line : List Char) : Bool := (Text.trimStart line).head? = some '@'

/-- Whether a line has the look of a header: a colon, no at sign in front, no request line. -/
def isHeader (line : List Char) : Bool :=
  let line := Text.trimStart line
  line.contains ':' && line.head? ≠ some '@' && !isRequestLine line

/-- The name and the value of a header; the empty name is none. -/
def header? (line : List Char) : Option (String × String) :=
  match Text.splitOnce? [':'] line with
  | none => none
  | some (key, value) =>
    let key := Text.trim key
    if key.isEmpty then none else some (String.ofList key, String.ofList (Text.trim value))

/-- Whether a line continues the query of the request line. -/
def isQuery (line : List Char) : Bool :=
  match Text.trimStart line with
  | '?' :: _ | '&' :: _ => true
  | _ => false

end Line

end HttpSuite
