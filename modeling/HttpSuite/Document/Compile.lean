/-
HttpSuite/Document/Compile.lean

Compiling a document. Each line of the request zone of a section has exactly one role
(`RequestZone.roleOf`), which depends on the line and on how far the request has been read; the
unit is built from the roles. Assignments are carried out when they are read, so that later lines
and sections see them; the target and the headers are filled from the overrides and the store at
the end, and what those do not know is left for the moment of sending.
-/
import HttpSuite.Document.Script
import HttpSuite.Document.TestZone
import HttpSuite.Variables.State

namespace HttpSuite

namespace RequestZone

/-- How far a request has been read. -/
inductive Mode where
  | awaitingMethod
  /-- Among the headers; `fresh` before the first of them. -/
  | headers (fresh : Bool)
  | body
deriving DecidableEq, Repr

/-- What a line of the request zone is. -/
inductive LineRole where
  | blank
  | directive (d : Except DirectiveError Directive)
  | request (line : RequestLine)
  /-- A line before the request line that is none. -/
  | stray (line : String)
  | query (text : String)
  | header (key value : String)
  | namelessHeader (line : String)
  | body (line : List Char)

/-- The line of a role, if it belongs to the body. -/
def LineRole.body? : LineRole → Option (List Char)
  | body line => some line
  | _ => none

/-- The role of a line, and how far the request has been read after it. -/
def roleOf : Mode → List Char → LineRole × Mode
  | .awaitingMethod, line =>
    let trimmed := Text.trim line
    if trimmed.isEmpty then (.blank, .awaitingMethod)
    else
      match Directive.ofLine? trimmed with
      | some d => (.directive d, .awaitingMethod)
      | none =>
        match Line.requestLine? trimmed with
        | some request => (.request request, .headers true)
        | none => (.stray (String.ofList trimmed), .awaitingMethod)
  | .headers fresh, line =>
    let trimmed := Text.trim line
    if trimmed.isEmpty then (.blank, .body)
    else
      match Directive.ofLine? trimmed with
      | some d => (.directive d, .headers fresh)
      | none =>
        if fresh && Line.isQuery trimmed then (.query (String.ofList trimmed), .headers fresh)
        else if Line.isHeader trimmed then
          match Line.header? trimmed with
          | some (key, value) => (.header key value, .headers false)
          | none => (.namelessHeader (String.ofList trimmed), .headers false)
        else (.body line, .body)
  | .body, line => (.body line, .body)

/-- The roles of lines one after the other. -/
def roles : Mode → List (List Char) → List LineRole
  | _, [] => []
  | mode, line :: rest =>
    let (role, mode) := roleOf mode line
    role :: roles mode rest

/-- The body of a request from its lines: blank lines at both ends do not count, and a lone path
after a `<` refers to a file. -/
def bodyOf (lines : List (List Char)) : RequestBody :=
  let lines := lines.dropWhile Text.isBlankText
  let lines := (lines.reverse.dropWhile Text.isBlankText).reverse
  if lines.isEmpty then .none
  else
    let text := Text.unlines lines
    match ScriptScan.bodyFile? text with
    | some path => .file path
    | none => .inline (String.ofList text)

end RequestZone

/-- What the compilation of a document carries along. -/
structure Compilation where
  vars : VariableState
  diagnostics : List Diagnostic := []

namespace Compilation

variable (w : World)

/-- Reports a problem of a section. -/
def report (c : Compilation) (index : Nat) (problem : Problem) : Compilation :=
  { c with diagnostics := c.diagnostics ++ [⟨index, problem⟩] }

/-- Carries out a directive: an assignment fills its placeholders and goes to the store. -/
def carryOut (c : Compilation) : Directive → Directive × Compilation
  | .staticAssignment key value =>
    let (value, vars) := c.vars.substitute w value
    (.staticAssignment key value, { c with vars := vars.set key value })
  | d => (d, c)

/-- Adds a directive to a unit. -/
def addDirective (u : RequestUnit) (d : Directive) : RequestUnit :=
  let u := { u with directives := u.directives ++ [d] }
  match d with
  | .nameBinding id => { u with requestId := some id }
  | _ => u

/-- Carries out a directive of a unit, or reports why it is none. -/
def directive (index : Nat) (u : RequestUnit) (c : Compilation) :
    Except DirectiveError Directive → RequestUnit × Compilation
  | .ok d =>
    let (d, c) := c.carryOut w d
    (addDirective u d, c)
  | .error cause => (u, c.report index (.invalidDirective cause))

/-- Adds a line of the request zone to a unit; the lines of the body are collected elsewhere. -/
def line (index : Nat) (u : RequestUnit) (c : Compilation) :
    RequestZone.LineRole → RequestUnit × Compilation
  | .directive d => directive w index u c d
  | .request l => ({ u with method := some l.method, target := l.target }, c)
  | .stray text => (u, c.report index (.strayLine text))
  | .query text => ({ u with target := u.target ++ text }, c)
  | .header key value => ({ u with headers := u.headers ++ [(key, value)] }, c)
  | .namelessHeader text => (u, c.report index (.namelessHeader text))
  | .blank | .body _ => (u, c)

/-- Adds the lines of the request zone to a unit. -/
def lines (index : Nat) (u : RequestUnit) (c : Compilation)
    (roles : List RequestZone.LineRole) : RequestUnit × Compilation :=
  roles.foldl (fun (u, c) role => line w index u c role) (u, c)

/-- The name of a section and the lines after it. -/
def nameAndRest (text : List Char) : String × List (List Char) :=
  match Text.lines text with
  | [] => ("", [])
  | first :: rest =>
    match Text.stripStart? "###".toList (Text.trimStart first) with
    | some name => (String.ofList (Text.trim name), rest)
    | none => ("", first :: rest)

/-- The lines before the first one that begins a block of tests, and the others. -/
def splitZones (lines : List (List Char)) : List (List Char) × List (List Char) :=
  lines.span (!Line.isTestDelimiter ·)

/-- The unit of a section. -/
def compileSection (c : Compilation) (s : Section) : RequestUnit × Compilation :=
  let (name, rest) := nameAndRest s.text
  let scan := ScriptScan.ofText (Text.unlines rest)
  let c := scan.unterminated.foldl (fun c n => c.report s.index (.unterminatedScript (n + 1))) c
  let (requestZone, testZone) := splitZones (Text.lines scan.remaining)
  let roles := RequestZone.roles .awaitingMethod requestZone
  let start : RequestUnit :=
    { name, preScripts := scan.scripts .preRequest, postScripts := scan.scripts .postResponse }
  let (u, c) := lines w s.index start c roles
  let tests := TestZone.ofLines testZone
  let fill := c.vars.substituteStatic
  ({ u with
      target := fill u.target
      headers := u.headers.map fun h => (h.1, fill h.2)
      body := RequestZone.bodyOf (roles.filterMap (·.body?))
      directives := u.directives ++ tests.extractions
      tests := tests.blocks }, c)

/-- Carries out the assignments of a section that holds nothing else; its directives of other kinds
are reported after its lines. -/
def globals (c : Compilation) (s : Section) : Compilation :=
  let trimmed := ((Text.lines s.text).map Text.trim).filter (!·.isEmpty)
  let (scratch, c) := trimmed.foldl (fun (u, c) l =>
    match Directive.ofLine? l with
    | some d => directive w s.index u c d
    | none => (u, c.report s.index (.strayGlobal (String.ofList l)))) (({} : RequestUnit), c)
  scratch.directives.foldl (fun c d =>
    match d with
    | .staticAssignment _ _ => c
    | d => c.report s.index (.homelessDirective d)) c

/-- Compiles a section: a unit, if it has a request line. -/
def oneSection (c : Compilation) (s : Section) : Option RequestUnit × Compilation :=
  match s.kind with
  | .globals => (none, globals w c s)
  | .request =>
    let (u, c) := compileSection w c s
    if u.method.isNone then (none, c.report s.index (.missingRequestLine u.name)) else (some u, c)

/-- Compiles sections one after the other. -/
def sections (c : Compilation) : List Section → List RequestUnit × Compilation
  | [] => ([], c)
  | s :: rest =>
    let (u, c) := oneSection w c s
    let (us, c) := sections c rest
    (u.toList ++ us, c)

end Compilation

namespace Document

/-- Compiles a document, and gives the variables after it. -/
def compile (w : World) (st : VariableState) (content : String) : Document × VariableState :=
  let (units, c) := Compilation.sections w ⟨st, []⟩ (Section.split content.toList)
  ({ units, diagnostics := c.diagnostics }, c.vars)

/-- Compiles the document at a path. -/
def compileFile (w : World) (st : VariableState) (path : String) :
    Except FileError (Document × VariableState) := do
  let content ← w.files.read path
  let (d, st) := compile w st content
  pure ({ d with source := some path }, st)

end Document

end HttpSuite
