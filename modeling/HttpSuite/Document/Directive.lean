/-
HttpSuite/Document/Directive.lean

Reading directives. After the at sign, the word `name` (in any case of letters) and a blank
introduce the name of the request; otherwise a key and a text stand on the two sides of the first
equals sign, and a text that starts with `$.` is a path into the response.
-/
import HttpSuite.Document.RequestLine
import HttpSuite.Document.Unit

namespace HttpSuite.Directive

/-- The word that introduces the name of a request, with its blank. -/
def nameWord : List Char := "name ".toList

/-- The mark of a path into the response. -/
def pathMark : List Char := "$.".toList

/-- What follows the word that introduces a name. -/
def afterNameWord? (rest : List Char) : Option (List Char) :=
  if Ascii.equalFold (rest.take nameWord.length) nameWord then some (rest.drop nameWord.length)
  else none

/-- The name that a text binds: equals signs in front of it do not count. -/
def nameOf (rest : List Char) : Except DirectiveError Directive :=
  let id := Text.trim ((Text.trimStart rest).dropWhile (· == '='))
  if id.isEmpty then .error .emptyName else .ok (.nameBinding (String.ofList id))

/-- The assignment or extraction of a key and a text. -/
def assignmentOf (rest : List Char) : Except DirectiveError Directive :=
  match Text.splitOnce? ['='] rest with
  | none => .error (.missingAssignment (String.ofList rest))
  | some (key, value) =>
    let key := Text.trim key
    let value := Text.trim value
    if key.isEmpty then .error (.emptyKey (String.ofList rest))
    else if Text.startsWith pathMark value then
      .ok (.pathExtraction (String.ofList key) (String.ofList value))
    else .ok (.staticAssignment (String.ofList key) (String.ofList value))

/-- The directive that a trimmed text after the at sign writes. -/
def ofBody (rest : List Char) : Except DirectiveError Directive :=
  match afterNameWord? rest with
  | some rest => nameOf rest
  | none => assignmentOf rest

/-- The directive of a line; none for a line that does not start with an at sign. -/
def ofLine? (line : List Char) : Option (Except DirectiveError Directive) :=
  match Text.trimStart line with
  | '@' :: rest => some (ofBody (Text.trim rest))
  | _ => none

end HttpSuite.Directive
