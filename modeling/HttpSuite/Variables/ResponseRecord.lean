/-
HttpSuite/Variables/ResponseRecord.lean

What is kept of a response under the name of its request, and the references into it:
`status`, `statusText`, `headers`, `headers.<name>`, `body` and `body.<path>`. The body is read as
JSON once; a body that is no JSON text is kept as it is.
-/
import HttpSuite.JsonPath
import HttpSuite.Json.Reader

namespace HttpSuite

/-- Name and value pairs, in order. -/
abbrev Headers := List (String × String)

/-- The value of the first header of a name, whatever the case of its letters. -/
def Headers.find? (headers : Headers) (name : String) : Option String :=
  (List.find? (fun h => Ascii.sameName h.1 name) headers).map (·.2)

/-- The values of all headers of a name, whatever the case of its letters. -/
def Headers.findAll (headers : Headers) (name : String) : List String :=
  (headers.filter fun h => Ascii.sameName h.1 name).map (·.2)

/-- The body of a response. -/
inductive ResponseBody where
  | json (v : Json)
  | text (s : String)
deriving Repr, Inhabited

namespace ResponseBody

/-- Reads a body. -/
def ofText (raw : String) : ResponseBody :=
  match Json.parse? raw.toList with
  | some v => json v
  | none => text raw

/-- The JSON value of a body that is one. -/
def json? : ResponseBody → Option Json
  | json v => some v
  | text _ => none

/-- The body as a JSON value; a text becomes a string. -/
def toJson : ResponseBody → Json
  | json v => v
  | text s => .string s

/-- The text of the whole body. -/
def render : ResponseBody → String
  | json v => v.render
  | text s => s

end ResponseBody

/-- What is kept of a response. -/
structure ResponseRecord where
  status : Nat
  statusText : String
  headers : Headers
  body : ResponseBody
deriving Repr, Inhabited

namespace ResponseRecord

/-- The record of a response with the text of its body. -/
def ofRaw (status : Nat) (statusText : String) (headers : Headers) (raw : String) :
    ResponseRecord :=
  ⟨status, statusText, headers, ResponseBody.ofText raw⟩

/-- The headers as a JSON object; the last of equal names stays. -/
def headersJson (r : ResponseRecord) : Json :=
  Json.ofMembers (r.headers.map fun h => (h.1, .string h.2))

/-- The text without the double quotes at its ends. -/
def trimQuotes (s : List Char) : List Char :=
  ((s.dropWhile (· == '"')).reverse.dropWhile (· == '"')).reverse

/-- The character set that a parameter of a content type names. -/
def charset? (parameter : List Char) : Option String :=
  match Text.splitOnce? ['='] parameter with
  | some (key, value) =>
    if Ascii.equalFold (Text.trim key) "charset".toList then
      some (String.ofList (trimQuotes (Text.trim value)))
    else none
  | none => none

/-- The media type and the character set of the content type. -/
def contentType (r : ResponseRecord) : Option (String × Option String) :=
  (r.headers.find? "content-type").map fun raw =>
    let (media, parameters) := Text.splitAtChar ';' raw.toList
    (String.ofList (Text.trim media), parameters.findSome? charset?)

/-- The value at a path into the body: an expression with a dollar sign or a plain path. -/
def bodyValue? (r : ResponseRecord) (path : String) : Option Json :=
  r.body.json?.bind fun v =>
    if Text.startsWith "$.".toList path.toList || path = "$" then JsonPath.first v path
    else JsonPath.lookup v path

/-- The text that a reference into the response stands for. -/
def lookup (r : ResponseRecord) (path : String) : Option String :=
  match Text.splitOnce? ['.'] path.toList with
  | none =>
    match path with
    | "status" => some (toString r.status)
    | "statusText" => some r.statusText
    | "headers" => some r.headersJson.compact
    | "body" => some r.body.render
    | _ => none
  | some (head, rest) =>
    match String.ofList head with
    | "headers" => r.headers.find? (String.ofList rest)
    | "body" => (r.bodyValue? (String.ofList rest)).map Json.render
    | _ => none

end ResponseRecord

/-- The mark between the name of a request and a reference into its response. -/
def responseMark : List Char := ".response.".toList

/-- The records of named requests. -/
abbrev NamedResponses := Table ResponseRecord

/-- The text that a reference `name.response.path` stands for. -/
def NamedResponses.resolve (responses : NamedResponses) (expression : String) : Option String :=
  match Text.splitOnce? responseMark expression.toList with
  | none => none
  | some (name, path) =>
    (responses.get? (String.ofList name)).bind (·.lookup (String.ofList path))

end HttpSuite
