/-
HttpSuite/Assertion/Expression.lean

Assertions about a response: a path, an operator and a value with blanks between them, or a path and
the word `exists`.
-/
import HttpSuite.Assertion.Value

namespace HttpSuite.Assertion

/-- The part of a response that an assertion looks at. -/
inductive Path where
  | status
  | header (name : String)
  /-- The whole body for the empty path. -/
  | body (path : String)
  /-- The milliseconds that the response took. -/
  | time
deriving DecidableEq, Repr, Inhabited

/-- The written form of a path. -/
def Path.text : Path → String
  | status => "status"
  | header name => "headers." ++ name
  | body path => if path = "" then "body" else "body." ++ path
  | time => "response.time"

/-- An assertion. -/
inductive Expression where
  | compare (left : Path) (op : Operator) (right : Value)
  | exists (path : Path)
deriving DecidableEq, Repr, Inhabited

/-- The written form of an assertion. -/
def Expression.text : Expression → String
  | compare left op right => left.text ++ " " ++ op.text ++ " " ++ right.display
  | .exists path => path.text ++ " exists"

namespace Path

/-- The path that a word writes. -/
def ofWord (word : List Char) : Except Error Path :=
  let text := String.ofList word
  if text = "status" then .ok status
  else if text = "response.time" then .ok time
  else if text = "body" then .ok (body "")
  else
    match Text.stripStart? "headers.".toList word, Text.stripStart? "body.".toList word with
    | some (c :: rest), _ => .ok (header (String.ofList (c :: rest)))
    | _, some (c :: rest) => .ok (body (String.ofList (c :: rest)))
    | _, _ =>
      .error (.invalidSyntax ("Invalid value path: " ++ text ++
        ". Must start with 'status', 'headers.', 'body', or 'response.time'"))

end Path

namespace Value

/-- Whether a text stands between two quotes of this kind. -/
def isQuoted (quote : Char) (s : List Char) : Bool :=
  2 ≤ s.length && s.head? = some quote && s.getLast? = some quote

/-- The value that a trimmed text writes: a word for a constant, a string between quotes, a number,
or the text as it is. -/
def ofTrimmed (s : List Char) : Value :=
  let text := String.ofList s
  if text = "null" then null
  else if text = "true" then bool true
  else if text = "false" then bool false
  else if isQuoted '"' s || isQuoted '\'' s then string (String.ofList s.tail.dropLast)
  else
    match Binary64.ofText? s with
    | some x => number x
    | none => string text

end Value

namespace Expression

/-- The operator in front of a text, what follows the blanks behind it, if there are any. -/
def operator? (s : List Char) : Option (Operator × List Char) :=
  Operator.all.findSome? fun o =>
    match Text.stripStart? o.text.toList s with
    | none => none
    | some rest =>
      let value := Text.trimStart rest
      if value.length < rest.length && !value.isEmpty && !value.contains '\n' then some (o, value)
      else none

/-- The assertion that a line writes. -/
def ofLine (line : List Char) : Except Error Expression :=
  let line := Text.trim line
  let (word, rest) := Text.firstWord line
  let rest := Text.trimStart rest
  if !word.isEmpty && rest = "exists".toList then (Path.ofWord word).map .exists
  else
    match if word.isEmpty then none else operator? rest with
    | none =>
      .error (.invalidSyntax ("No valid operator found in assertion: " ++ String.ofList line))
    | some (op, value) =>
      (Path.ofWord word).map fun left => .compare left op (Value.ofTrimmed value)

end Expression

end HttpSuite.Assertion
