/-
HttpSuite/Document/Unit.lean

What a document is compiled to: units, one for each request, and diagnostics. A unit holds the
request line, headers and body, the directives and scripts around them and the blocks of tests.
-/
import HttpSuite.Http.Method
import HttpSuite.Text.Quoted
import HttpSuite.Files

namespace HttpSuite

/-- A directive: a line that starts with an at sign. -/
inductive Directive where
  /-- Names the request, for references into its response. -/
  | nameBinding (requestId : String)
  /-- Gives a text to a name while the document is compiled. -/
  | staticAssignment (key value : String)
  /-- Gives to a name what a path selects from the response. -/
  | pathExtraction (key path : String)
deriving DecidableEq, Repr, Inhabited

/-- The form of a directive in messages. -/
def Directive.show : Directive → String
  | nameBinding id => "NameBinding \x7b request_id: " ++ Text.quoted id ++ " \x7d"
  | staticAssignment key value =>
    "StaticAssignment \x7b key: " ++ Text.quoted key ++ ", value: " ++ Text.quoted value ++ " \x7d"
  | pathExtraction key path =>
    "PathExtraction \x7b key: " ++ Text.quoted key ++ ", path: " ++ Text.quoted path ++ " \x7d"

/-- Why a line that starts with an at sign is no directive. -/
inductive DirectiveError where
  | missingAssignment (rest : String)
  | emptyKey (rest : String)
  | emptyName
deriving DecidableEq, Repr, Inhabited

/-- The text of a cause. -/
def DirectiveError.message : DirectiveError → String
  | missingAssignment rest => "directive '" ++ rest ++ "' has no '=' assignment"
  | emptyKey rest => "directive '" ++ rest ++ "' has an empty key"
  | emptyName => "@name directive without a request id"

/-- When a script runs. -/
inductive ScriptPhase where
  | preRequest
  | postResponse
deriving DecidableEq, Repr, Inhabited

/-- A script: its text, or the path of a file with it. -/
inductive ScriptReference where
  | inline (source : String)
  | file (path : String)
deriving DecidableEq, Repr, Inhabited

/-- A script at its place in a section. -/
structure ScriptBlock where
  phase : ScriptPhase
  reference : ScriptReference
deriving DecidableEq, Repr, Inhabited

/-- The body of a request: a text, or the path of a file with it. -/
inductive RequestBody where
  | none
  | inline (text : String)
  | file (path : String)
deriving DecidableEq, Repr, Inhabited

/-- Tests under a title. -/
structure TestBlock where
  title : String
  lines : List String
deriving DecidableEq, Repr, Inhabited

/-- A compiled request. -/
structure RequestUnit where
  name : String := ""
  /-- None as long as no request line is found. -/
  method : Option Method := none
  target : String := ""
  headers : List (String × String) := []
  body : RequestBody := .none
  requestId : Option String := none
  preScripts : List ScriptReference := []
  postScripts : List ScriptReference := []
  directives : List Directive := []
  tests : List TestBlock := []
deriving DecidableEq, Repr, Inhabited

namespace RequestUnit

/-- The extractions of a unit: a key and a path each, in order. -/
def extractions (u : RequestUnit) : List (String × String) :=
  u.directives.filterMap fun
    | .pathExtraction key path => some (key, path)
    | _ => none

/-- The assignments of a unit: a key and a text each, in order. -/
def assignments (u : RequestUnit) : List (String × String) :=
  u.directives.filterMap fun
    | .staticAssignment key value => some (key, value)
    | _ => none

/-- The lines of all test blocks, in order. -/
def testLines (u : RequestUnit) : List String := u.tests.flatMap (·.lines)

end RequestUnit

/-! ### Diagnostics -/

/-- What is wrong with a line or a section. None of these stops the compilation. -/
inductive Problem where
  | invalidDirective (cause : DirectiveError)
  /-- A script is opened and never closed; lines are counted from one. -/
  | unterminatedScript (line : Nat)
  | missingRequestLine (name : String)
  /-- A line that comes before the request line. -/
  | strayLine (line : String)
  | namelessHeader (line : String)
  /-- A line between assignments outside of any request. -/
  | strayGlobal (line : String)
  /-- A directive outside of any request that needs one. -/
  | homelessDirective (d : Directive)
deriving DecidableEq, Repr, Inhabited

/-- The kinds of diagnostics. -/
inductive DiagnosticKind where
  | invalidDirective
  | unterminatedScript
  | missingRequestLine
  | ignoredLine
deriving DecidableEq, Repr, Inhabited

/-- The name of a kind. -/
def DiagnosticKind.text : DiagnosticKind → String
  | invalidDirective => "invalid_directive"
  | unterminatedScript => "unterminated_script"
  | missingRequestLine => "missing_request_line"
  | ignoredLine => "ignored_line"

namespace Problem

/-- The kind of diagnostic that a problem is reported as. -/
def kind : Problem → DiagnosticKind
  | invalidDirective _ => .invalidDirective
  | unterminatedScript _ => .unterminatedScript
  | missingRequestLine _ => .missingRequestLine
  | strayLine _ | namelessHeader _ | strayGlobal _ | homelessDirective _ => .ignoredLine

/-- The text of a problem. -/
def message : Problem → String
  | invalidDirective cause => cause.message
  | unterminatedScript line => "script block opened at line " ++ toString line ++ " is never closed"
  | missingRequestLine name => "section '" ++ name ++ "' has no request line"
  | strayLine line => "line before request line ignored: " ++ line
  | namelessHeader line => "header with empty name ignored: " ++ line
  | strayGlobal line => "line in globals section ignored: " ++ line
  | homelessDirective d => d.show ++ " has no request to attach to"

end Problem

/-- A problem at its place: the number of its section, from zero. -/
structure Diagnostic where
  place : Nat
  problem : Problem
deriving DecidableEq, Repr, Inhabited

/-- A compiled document. -/
structure Document where
  units : List RequestUnit := []
  diagnostics : List Diagnostic := []
  /-- The path that the document was read from. -/
  source : Option String := none
deriving Repr, Inhabited

/-- The directory that the paths of a document start from. -/
def Document.directory (d : Document) : Option String := d.source.bind Path.parent?

end HttpSuite
