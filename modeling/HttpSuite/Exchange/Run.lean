/-
HttpSuite/Exchange/Run.lean

Carrying out compiled requests one after the other. What sends requests and what runs scripts are
parameters (`Setting`): each is a function with a state of its own, so that every statement about a
run holds for any network and any script, also where one request or one script comes out differently
from time to time. What one request leaves behind for the next is a `Session`.

A request is carried out in stages: the scripts before it, up to the first that fails; the request
itself, from the unit with its placeholders filled; the response; and what follows from the response
(its record, the extractions, the assertions, the scripts after it). The first three can end it.
-/
import HttpSuite.Document.Compile
import HttpSuite.Exchange.Result
import HttpSuite.Exchange.Source
import HttpSuite.Http.Request

namespace HttpSuite.Exchange

/-- What runs scripts, with a state of its own. -/
structure Runner (τ : Type) where
  /-- Runs a script on the globals; gives its result and the globals after it. -/
  run : String → Table String → Script.Surface → τ → Script.Result × Table String × τ

/-- What has no state runs a script the same each time. -/
instance {τ : Type} :
    Coe (String → Table String → Script.Surface → Script.Result × Table String) (Runner τ) where
  coe run := ⟨fun source globals surface t =>
    let (result, globals) := run source globals surface
    (result, globals, t)⟩

/-- What is fixed during a run. -/
structure Setting (σ : Type) (τ : Type := Unit) where
  world : World
  /-- The directory that the paths of the document start from. -/
  directory : Option String := none
  runScript : Runner τ
  send : Request → σ → Except Error Response × σ

/-- What is carried from one request to the next. -/
structure Session (σ : Type) (τ : Type := Unit) where
  vars : VariableState
  globals : Table String := ∅
  /-- The state of what sends requests. -/
  transport : σ
  /-- The state of what runs scripts. -/
  sandbox : τ := by exact default

variable {σ τ : Type} (e : Setting σ τ)

/-! ### Scripts -/

/-- Runs the script of a reference. -/
def runReference (reference : ScriptReference) (globals : Table String)
    (surface : Script.Surface) (sandbox : τ) : Script.Result × Table String × τ :=
  match reference.source e.world.files e.directory with
  | .ok source => e.runScript.run source globals surface sandbox
  | .error cause => (.failed cause.message, globals, sandbox)

/-- Runs a script before a request; what it writes goes to the store. -/
def runPre (s : Session σ τ) (reference : ScriptReference) : ScriptReport × Session σ τ :=
  let (result, globals, sandbox) :=
    runReference e reference s.globals (.preRequest s.vars.snapshot) s.sandbox
  let store := s.vars.store.insertAll result.writes.entries
  (⟨.preRequest, result⟩, { s with globals, sandbox, vars := { s.vars with store } })

/-- Runs the scripts before a request, up to the first that fails; says whether one failed. -/
def runPreAll (s : Session σ τ) : List ScriptReference → List ScriptReport × Bool × Session σ τ
  | [] => ([], false, s)
  | reference :: rest =>
    let (report, s) := runPre e s reference
    if report.result.success then
      let (reports, failed, s) := runPreAll s rest
      (report :: reports, failed, s)
    else ([report], true, s)

/-- Runs a script after a response. -/
def runPost (record : ResponseRecord) (s : Session σ τ) (reference : ScriptReference) :
    ScriptReport × Session σ τ :=
  let (result, globals, sandbox) :=
    runReference e reference s.globals (.postResponse record) s.sandbox
  (⟨.postResponse, result⟩, { s with globals, sandbox })

/-- Runs the scripts after a response. -/
def runPostAll (record : ResponseRecord) (s : Session σ τ) :
    List ScriptReference → List ScriptReport × Session σ τ
  | [] => ([], s)
  | reference :: rest =>
    let (report, s) := runPost e record s reference
    let (reports, s) := runPostAll record s rest
    (report :: reports, s)

/-! ### Requests -/

/-- Fills the placeholders in the values of headers. -/
def fillHeaders (w : World) (v : VariableState) : Headers → Headers × VariableState
  | [] => ([], v)
  | (name, value) :: rest =>
    let (value, v) := v.substitute w value
    let (rest, v) := fillHeaders w v rest
    ((name, value) :: rest, v)

/-- The body of a request with its placeholders filled; a file is taken as it is. -/
def fillBody (directory : Option String) (w : World) (v : VariableState) :
    RequestBody → Except Error (Option String) × VariableState
  | .none => (.ok none, v)
  | .inline text =>
    let (text, v) := v.substitute w text
    (.ok (some text), v)
  | .file path =>
    let path := Path.from directory path
    (((w.files.read path).mapError (.unreadableBody path)).map some, v)

/-- The request of a unit for a target whose placeholders are filled. -/
def build (v : VariableState) (u : RequestUnit) (method : Method) (target : String) :
    Except Error Request × VariableState :=
  match Request.ofTarget method target with
  | .error cause => (.error cause, v)
  | .ok request =>
    let (headers, v) := fillHeaders e.world v u.headers
    let (body, v) := fillBody e.directory e.world v u.body
    (body.map fun body => { request with headers, body }, v)

/-! ### Responses -/

/-- Gives to the names of extractions what their paths select from a body. -/
def extract (body : ResponseBody) (store : Table String) :
    List (String × String) → Table String
  | [] => store
  | (key, path) :: rest =>
    match body.json?.bind (JsonPath.first · path) with
    | some v => extract body (store.insert key v.render) rest
    | none => extract body store rest

/-- Keeps the record of a response, and what the extractions of the unit select from it. -/
def keep (u : RequestUnit) (record : ResponseRecord) (v : VariableState) : VariableState :=
  let v :=
    match u.requestId with
    | some id => v.record id record
    | none => v
  { v with store := extract record.body v.store u.extractions }

/-- The results of the assertions of a unit. -/
def assertionsOf (u : RequestUnit) (response : Response) : List Assertion.Result :=
  u.tests.flatMap fun block => Assertion.results response block.lines

/-! ### Units -/

/-- The name of a unit, if it has one. -/
def nameOf (u : RequestUnit) : Option String := if u.name = "" then none else some u.name

/-- The result of a request that got no response. -/
def failure (number : Nat) (u : RequestUnit) (method : Method) (url error : String)
    (scripts : List ScriptReport) : Result :=
  { number, name := nameOf u, method := method.text, url, outcome := .failed error 0,
    success := false, scripts }

/-- What is said before the cause when a request cannot be made. -/
def notBuilt (cause : Error) : String := "Failed to build request: " ++ cause.message

/-- What is said before the cause when a request gets no response. -/
def notSent (cause : Error) : String := "Request failed: " ++ cause.message

/-- What follows from a response. -/
def conclude (s : Session σ τ) (number : Nat) (u : RequestUnit) (method : Method) (url : String)
    (before : List ScriptReport) (response : Response) : Result × Session σ τ :=
  let record := response.record
  let assertions := assertionsOf u response
  let s := { s with vars := keep u record s.vars }
  let (after, s) := runPostAll e record s u.postScripts
  let scripts := before ++ after
  ({ number, name := nameOf u, method := method.text, url, outcome := .answered response,
     success := verdict response assertions scripts, assertions, scripts }, s)

/-- Carries out a unit with a method. -/
def carryOut (s : Session σ τ) (number : Nat) (u : RequestUnit) (method : Method) :
    Result × Session σ τ :=
  let (before, failed, s) := runPreAll e s u.preScripts
  let (url, vars) := s.vars.substitute e.world u.target
  let s := { s with vars }
  if failed then (failure number u method url "Pre-request script failed" before, s)
  else
    let (request, vars) := build e s.vars u method url
    let s := { s with vars }
    match request with
    | .error cause => (failure number u method url (notBuilt cause) before, s)
    | .ok request =>
      let (response, transport) := e.send request s.transport
      let s := { s with transport }
      match response with
      | .error cause => (failure number u method url (notSent cause) before, s)
      | .ok response => conclude e s number u method url before response

/-- Carries out a unit; one without a method is skipped. -/
def runUnit (s : Session σ τ) (number : Nat) (u : RequestUnit) : Result × Session σ τ :=
  match u.method with
  | some method => carryOut e s number u method
  | none =>
    ({ number, name := nameOf u, method := "", url := u.target, outcome := .skipped,
       success := true }, s)

/-- Carries out units one after the other, counted from `number` on. -/
def runFrom (s : Session σ τ) (number : Nat) : List RequestUnit → List Result × Session σ τ
  | [] => ([], s)
  | u :: rest =>
    let (result, s) := runUnit e s number u
    let (results, s) := runFrom s (number + 1) rest
    (result :: results, s)

/-- Carries out the units of a document. -/
def run (s : Session σ τ) (units : List RequestUnit) : List Result × Session σ τ :=
  runFrom e s 1 units

end HttpSuite.Exchange
