/-
HttpSuite/Script/Sandbox.lean

Running a script for a request. A script and what is around it are kept apart: the machine asks,
and an `Invocation` answers, so that what a script leaves behind depends on its requests alone.
What scripts write to the globals stays whatever happens; what they write to the variables counts
only when the script succeeds. A script that is not done after a count of steps is cut off.
-/
import HttpSuite.Script.Statement
import HttpSuite.Script.Realm
import HttpSuite.Script.Trial

namespace HttpSuite.Script

/-- The outcome of a test in a script. -/
structure TestResult where
  name : String
  passed : Bool
  /-- Why it failed. -/
  detail : Option String
deriving DecidableEq, Repr, Inhabited

/-- What is known of the promises that were rejected while nobody waited for them. -/
structure Rejections where
  /-- How many there are for which still nobody waits. -/
  count : Nat := 0
  /-- The reason of the first one there was. -/
  reason : Option String := none
deriving DecidableEq, Repr, Inhabited

namespace Rejections

/-- One more promise is rejected. -/
def reject (r : Rejections) (reason : String) : Rejections :=
  ⟨r.count + 1, some (r.reason.getD reason)⟩

/-- Somebody waits for one of them now. -/
def handle (r : Rejections) : Rejections := ⟨r.count - 1, r.reason⟩

/-- Why a script fails at its end. -/
def failure? (r : Rejections) : Option String :=
  if r.count = 0 then none
  else some ("unhandled promise rejection: " ++ r.reason.getD "unknown reason")

end Rejections

/-- What is around a script that runs. -/
structure Invocation where
  logs : List String := []
  tests : List TestResult := []
  globals : Table String := ∅
  /-- The variables as the script sees them. -/
  vars : Table String := ∅
  /-- What the script wrote to the variables. -/
  writes : Table String := ∅
  rejections : Rejections := {}

namespace Invocation

/-- The answer to a request, and what the request changes. -/
def answer (i : Invocation) : Request → Option String × Invocation
  | .log line => (none, { i with logs := i.logs ++ [line] })
  | .readGlobal name => (i.globals.get? name, i)
  | .writeGlobal name value => (none, { i with globals := i.globals.insert name value })
  | .removeGlobal name => (none, { i with globals := i.globals.erase name })
  | .clearGlobals => (none, { i with globals := ∅ })
  | .readVariable name => (i.vars.get? name, i)
  | .writeVariable name value =>
    (none, { i with
      vars := i.vars.insert name value, writes := i.writes.insert name value })
  | .rejected reason => (none, { i with rejections := i.rejections.reject reason })
  | .handled => (none, { i with rejections := i.rejections.handle })

/-- Takes down how a test ended. -/
def record (i : Invocation) (name : String) (e : TestEnd) : Invocation :=
  { i with tests := i.tests ++ [⟨name, e.failure?.isNone, e.failure?⟩] }

end Invocation

/-! ### Runs -/

/-- How a run of a script ends. -/
inductive Ending where
  | completed
  /-- With a thrown value, which is described. -/
  | threw (message : String)
  | cutOff
deriving DecidableEq, Repr, Inhabited

/-- Runs a script for at most a count of turns; an answer and the end of a test are turns, too. -/
def drive :
    (turns : Nat) → Process → Invocation → Ending × Invocation
  | 0, _, i => (.cutOff, i)
  | turns + 1, p, i =>
    match p.turn with
    | .go p => drive turns p i
    | .ask q => drive turns (p.answered (i.answer q).1) (i.answer q).2
    | .ended name e p => drive turns p (i.record name e)
    | .finished none => (.completed, i)
    | .finished (some v) => (.threw (p.engine.complaint v), i)

/-- What a script is run for. -/
inductive Surface where
  | preRequest (vars : Table String)
  | postResponse (response : ResponseRecord)

/-- How scripts are run. -/
structure Limits where
  /-- The milliseconds after which a script is cut off. -/
  timeout : Nat := 5000
  /-- The megabytes that a script may use. -/
  memory : Nat := 64
  /-- How many turns a script gets to in this time. The time that a turn takes is not known here: a
  script can be cut off at any count of turns, so what holds of all scripts holds for each count. -/
  turns : Nat := 3000000
deriving DecidableEq, Repr, Inhabited

namespace Limits

/-- The message for a script that is cut off. -/
def message (l : Limits) : String := "script timed out after " ++ toString l.timeout ++ " ms"

end Limits

/-- What came of a script. -/
structure Result where
  success : Bool
  logs : List String := []
  tests : List TestResult := []
  failure : Option String := none
  /-- What the script wrote to the variables, if it succeeded. -/
  writes : Table String := ∅

namespace Result

/-- The result of a script that could not be started. -/
def failed (message : String) : Result := { success := false, failure := some message }

/-- The tests that failed. -/
def failedTests (r : Result) : List TestResult := r.tests.filter (!·.passed)

/-- Whether the script succeeded and all its tests passed. -/
def allPassed (r : Result) : Bool := r.success && r.tests.all (·.passed)

end Result

/-- Runs the statements of a script. -/
def runBody (l : Limits) (body : List Stmt) (surface : Surface) (i : Invocation) :
    Ending × Invocation :=
  match surface with
  | .preRequest _ =>
    let h := Library.withRequest (Library.withClient Library.ground)
    drive l.turns { engine := Engine.start h body } i
  | .postResponse r =>
    let h := Library.withResponse (Library.withClient Library.ground) r
    drive l.turns { engine := Engine.start h body } i

/-- Why a script that ended this way has failed. -/
def failureOf (l : Limits) (ending : Ending) (i : Invocation) : Option String :=
  match ending with
  | .cutOff => some l.message
  | .threw message => some message
  | .completed => i.rejections.failure?

/-- The variables that a script starts with. -/
def Surface.vars : Surface → Table String
  | .preRequest vars => vars
  | .postResponse _ => ∅

/-- Runs a script: how it ended, and what it left around it. -/
def play (l : Limits) (source : String) (globals : Table String) (surface : Surface) :
    Ending × Invocation :=
  let start : Invocation := { globals, vars := surface.vars }
  match parse source with
  | .error message => (.threw ("SyntaxError: " ++ message), start)
  | .ok body => runBody l body surface start

/-- What comes of a script from how it ended and what it left around it: its result, and the globals
after it. -/
def settle (l : Limits) (played : Ending × Invocation) : Result × Table String :=
  let (ending, i) := played
  let failure := failureOf l ending i
  let result : Result :=
    { success := failure.isNone
      logs := i.logs
      tests := i.tests
      failure
      writes := if failure.isNone then i.writes else ∅ }
  (result, i.globals)

/-- Runs a script: its result, and the globals after it. -/
def run (l : Limits) (source : String) (globals : Table String) (surface : Surface) :
    Result × Table String :=
  settle l (play l source globals surface)

end HttpSuite.Script
