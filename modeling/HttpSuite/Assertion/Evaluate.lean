/-
HttpSuite/Assertion/Evaluate.lean

Carrying out assertions on a response. A path leads to a scalar of the response, or to the reason
why there is none; an array or an object is there but is no scalar.
-/
import HttpSuite.Assertion.Expression
import HttpSuite.Http.Response

namespace HttpSuite.Assertion

/-- The node of a JSON body at a path: an expression with a dollar sign or a plain path. -/
def nodeAt? (v : Json) (path : String) : Option Json :=
  if path.toList.head? = some '$' then JsonPath.first v path else JsonPath.lookup v path

/-- The scalar that a node is. -/
def Value.ofJson : Json → Except Error Value
  | .number n => .ok (number n.toBinary64)
  | .string s => .ok (string s)
  | .bool b => .ok (bool b)
  | .null => .ok null
  | .array _ | .object _ => .error (.extraction "Cannot compare arrays or objects directly")

namespace Path

/-- The scalar at a path into a body. -/
def valueInBody (body : ResponseBody) (path : String) : Except Error Value :=
  if path = "" then .ok (.string body.render)
  else
    match body.json? with
    | none => .error (.extraction ("Response body is not JSON, cannot read body." ++ path))
    | some v =>
      match nodeAt? v path with
      | none => .error (.pathNotFound ("Path 'body." ++ path ++ "' not found"))
      | some node => Value.ofJson node

/-- The scalar at a path into a response. -/
def value (r : Response) : Path → Except Error Value
  | status => .ok (.number (Binary64.ofInt r.status.code))
  | header name =>
    match r.headers.find? name with
    | some v => .ok (.string v)
    | none => .error (.pathNotFound ("Header '" ++ name ++ "' not found"))
  | body path => valueInBody (ResponseBody.ofText r.body) path
  | time => .ok (.number (Binary64.ofInt r.duration))

/-- Whether something is at a path into a response. -/
def isPresent (r : Response) : Path → Bool
  | status | time => true
  | header name => (r.headers.find? name).isSome
  | body path =>
    path = "" || (((ResponseBody.ofText r.body).json?.bind (nodeAt? · path)).isSome)

end Path

/-- What came of an assertion. -/
structure Result where
  /-- The assertion, or the line that could not be read as one. -/
  raw : String
  passed : Bool
  actual : Option String
  expected : String
  message : Option String
deriving DecidableEq, Repr, Inhabited

namespace Result

/-- The result of an assertion that cannot be read or carried out. -/
def ofError (raw : String) (e : Error) : Result := ⟨raw, false, none, "", some e.message⟩

end Result

/-- The result of a comparison. -/
def compareResult (r : Response) (left : Path) (op : Operator) (right : Value) : Result :=
  let raw := (Expression.compare left op right).text
  match left.value r with
  | .error e => .ofError raw e
  | .ok actual =>
    let expected := op.text ++ " " ++ right.display
    match op.holds actual right with
    | .error e => .ofError raw e
    | .ok true => ⟨raw, true, some actual.display, expected, none⟩
    | .ok false =>
      ⟨raw, false, some actual.display, expected,
        some (left.text ++ " was " ++ actual.display ++ ", expected " ++ expected)⟩

/-- The result of an assertion. -/
def Expression.evaluate (r : Response) : Expression → Result
  | compare left op right => compareResult r left op right
  | .exists path =>
    let raw := (Expression.exists path).text
    if path.isPresent r then ⟨raw, true, some "present", "exists", none⟩
    else ⟨raw, false, some "missing", "exists", some (path.text ++ " is missing")⟩

/-- The result of a line. -/
def lineResult (r : Response) (line : List Char) : Result :=
  match Expression.ofLine line with
  | .ok e => e.evaluate r
  | .error e => .ofError (String.ofList line) e

/-- Whether a trimmed line is an assertion: not empty, and no comment. -/
def isAssertion (line : List Char) : Bool :=
  !line.isEmpty && !Text.startsWith ['#'] line && !Text.startsWith ['/', '/'] line

/-- The results of lines; blank lines and comments have none. -/
def results (r : Response) (lines : List String) : List Result :=
  ((lines.map fun l => Text.trim l.toList).filter isAssertion).map (lineResult r)

end HttpSuite.Assertion
