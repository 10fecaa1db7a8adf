/-
HttpSuite/CommandLine/Perform.lean

Carrying out a call: what it prints, and why it fails if it does. A failure is told as a chain of
causes, the outermost first.
-/
import HttpSuite.CommandLine.Arguments
import HttpSuite.Document.Json
import HttpSuite.Exchange.Report
import HttpSuite.Exchange.Run

namespace HttpSuite.CommandLine

/-- Why a call fails. -/
inductive Failure where
  | unusableConfiguration (path : String) (cause : Error)
  | unreadableDocument (path : String) (cause : FileError)
  | failedRequests (failed total : Nat)
deriving DecidableEq, Repr

/-- The chain of causes. -/
def Failure.chain : Failure → List String
  | unusableConfiguration path cause => ["Failed to load config " ++ path, cause.message]
  | unreadableDocument path cause =>
    ["Failed to read " ++ path, Error.documentDetail cause, cause.message]
  | failedRequests failed total =>
    [toString failed ++ " of " ++ toString total ++ " requests failed"]

/-- The configuration of a call: the one that is named, or the one that is found. -/
def configurationOf (w : World) : Option String → Except Failure Configuration
  | some path => (Configuration.load w.files path).mapError (.unusableConfiguration path)
  | none => .ok ((Configuration.find? w).getD {})

/-- The compiled document of a call, and the variables after it. -/
def documentOf (w : World) (v : VariableState) (path : String) :
    Except Failure (Document × VariableState) :=
  (Document.compileFile w v path).mapError (.unreadableDocument path)

/-- Compiles a document: what is printed. -/
def parse (w : World) (file : String) (environment configuration : Option String) :
    Except Failure String := do
  let c ← configurationOf w configuration
  let (d, _) ← documentOf w (c.vars w environment []) file
  pure d.toJson.pretty

/-- What a run is started from. -/
structure Start where
  configuration : Configuration
  document : Document
  vars : VariableState

/-- Prepares a run. -/
def prepare (w : World) (file : String) (environment : Option String)
    (overrides : List (String × String)) (configuration : Option String) :
    Except Failure Start := do
  let c ← configurationOf w configuration
  let (d, v) ← documentOf w (c.vars w environment overrides) file
  pure ⟨c, d, v⟩

/-- Runs a document: what is printed, and why the run fails if it does. -/
def run {σ : Type} (w : World) (send : Request → σ → Except Error Response × σ) (transport : σ)
    (style : Exchange.Style) (file : String) (environment : Option String)
    (overrides : List (String × String)) (configuration : Option String) :
    String × Option Failure :=
  match prepare w file environment overrides configuration with
  | .error failure => ("", some failure)
  | .ok s =>
    let setting : Exchange.Setting σ :=
      { world := w, directory := s.document.directory
        runScript := Script.run s.configuration.limits, send }
    let (results, _) :=
      Exchange.run setting { vars := s.vars, transport } s.document.units
    let summary := Exchange.Summary.ofResults results
    (Exchange.report style file results,
      if summary.allPassed then none else some (.failedRequests summary.failed summary.total))

end HttpSuite.CommandLine
