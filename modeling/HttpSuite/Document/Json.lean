/-
HttpSuite/Document/Json.lean

The JSON form of a compiled document. Members stand in the order in which they are listed here.
-/
import HttpSuite.Document.Unit
import HttpSuite.Json.Basic

namespace HttpSuite

/-- A text, or nothing. -/
def Json.ofText? : Option String → Json
  | some s => .string s
  | none => .null

/-- An object that names its kind first. -/
def Json.tagged (kind : String) (members : List (String × Json)) : Json :=
  .object (("kind", .string kind) :: members)

/-- A list of texts. -/
def Json.texts (l : List String) : Json := .array (l.map .string)

/-- The JSON form of headers: pairs. -/
def Json.ofHeaders (l : List (String × String)) : Json :=
  .array (l.map fun h => .array [.string h.1, .string h.2])

/-- The JSON form of a directive. -/
def Directive.toJson : Directive → Json
  | nameBinding id => Json.tagged "name_binding" [("request_id", .string id)]
  | staticAssignment key value =>
    Json.tagged "static_assignment" [("key", .string key), ("value", .string value)]
  | pathExtraction key path =>
    Json.tagged "path_extraction" [("key", .string key), ("path", .string path)]

/-- The JSON form of a script. -/
def ScriptReference.toJson : ScriptReference → Json
  | inline source => Json.tagged "inline" [("value", .string source)]
  | file path => Json.tagged "file" [("value", .string path)]

/-- The JSON form of a body. -/
def RequestBody.toJson : RequestBody → Json
  | none => Json.tagged "none" []
  | inline text => Json.tagged "inline" [("value", .string text)]
  | file path => Json.tagged "file" [("value", .string path)]

/-- The JSON form of a block of tests. -/
def TestBlock.toJson (b : TestBlock) : Json :=
  .object [("title", .string b.title), ("lines", Json.texts b.lines)]

/-- The JSON form of a compiled request. -/
def RequestUnit.toJson (u : RequestUnit) : Json :=
  .object
    [("name", .string u.name), ("method", Json.ofText? (u.method.map (·.text))),
      ("target", .string u.target), ("headers", Json.ofHeaders u.headers),
      ("body", u.body.toJson), ("request_id", Json.ofText? u.requestId),
      ("pre_scripts", .array (u.preScripts.map (·.toJson))),
      ("post_scripts", .array (u.postScripts.map (·.toJson))),
      ("directives", .array (u.directives.map (·.toJson))),
      ("tests", .array (u.tests.map (·.toJson)))]

/-- The JSON form of a diagnostic. -/
def Diagnostic.toJson (d : Diagnostic) : Json :=
  .object
    [("section", .number (.whole d.place)), ("kind", .string d.problem.kind.text),
      ("message", .string d.problem.message)]

/-- The JSON form of a document. -/
def Document.toJson (d : Document) : Json :=
  .object
    [("units", .array (d.units.map (·.toJson))),
      ("diagnostics", .array (d.diagnostics.map (·.toJson))),
      ("source_path", Json.ofText? d.source)]

end HttpSuite
