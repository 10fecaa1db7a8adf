/-
HttpSuite/Exchange/Result.lean

What comes of a compiled request, and the summary of several. The verdict on an answered request
(`verdict`) is that of its scripts, their tests and the assertions; where there are neither tests
nor assertions, the status of the response has to be one of success.
-/
import HttpSuite.Assertion.Evaluate
import HttpSuite.Document.Unit
import HttpSuite.Script.Sandbox

namespace HttpSuite.Exchange

/-- What came of a script, and when it ran. -/
structure ScriptReport where
  phase : ScriptPhase
  result : Script.Result

/-- How far a request got. -/
inductive Outcome where
  /-- There was no request to send. -/
  | skipped
  | failed (error : String) (duration : Nat)
  | answered (response : Response)

/-- What came of a request. -/
structure Result where
  /-- The place of the request, counted from one. -/
  number : Nat
  name : Option String
  /-- The written form of the method; empty when there is none. -/
  method : String
  url : String
  outcome : Outcome
  success : Bool
  assertions : List Assertion.Result := []
  /-- What came of the scripts, in the order in which they ran. -/
  scripts : List ScriptReport := []

namespace Result

/-- The response, if one came. -/
def response? (r : Result) : Option Response :=
  match r.outcome with
  | .answered response => some response
  | _ => none

/-- Why there is no response, if one was asked for. -/
def error? (r : Result) : Option String :=
  match r.outcome with
  | .failed error _ => some error
  | _ => none

/-- Whether there was nothing to send. -/
def isSkipped (r : Result) : Bool :=
  match r.outcome with
  | .skipped => true
  | _ => false

/-- The milliseconds that the request took. -/
def duration (r : Result) : Nat :=
  match r.outcome with
  | .skipped => 0
  | .failed _ duration => duration
  | .answered response => response.duration

/-- The lines that scripts logged. -/
def logs (r : Result) : List String := r.scripts.flatMap (·.result.logs)

/-- The tests of the scripts. -/
def tests (r : Result) : List Script.TestResult := r.scripts.flatMap (·.result.tests)

end Result

/-- Whether a request with a response has succeeded. -/
def verdict (response : Response) (assertions : List Assertion.Result)
    (scripts : List ScriptReport) : Bool :=
  scripts.all (·.result.allPassed) && assertions.all (·.passed) &&
    (!assertions.isEmpty || scripts.any (!·.result.tests.isEmpty) || response.status.isSuccess)

/-! ### Summaries -/

/-- What came of several requests. -/
structure Summary where
  total : Nat
  passed : Nat
  skipped : Nat
  duration : Nat
  assertions : Nat
  passedAssertions : Nat
  tests : Nat
  passedTests : Nat
deriving DecidableEq, Repr

namespace Summary

/-- The summary of results. -/
def ofResults (results : List Result) : Summary :=
  let assertions := results.flatMap (·.assertions)
  let tests := results.flatMap (·.tests)
  { total := results.length
    passed := (results.filter fun r => r.success && !r.isSkipped).length
    skipped := (results.filter (·.isSkipped)).length
    duration := results.foldl (fun total r => total + r.duration) 0
    assertions := assertions.length
    passedAssertions := (assertions.filter (·.passed)).length
    tests := tests.length
    passedTests := (tests.filter (·.passed)).length }

/-- How many requests failed. -/
def failed (s : Summary) : Nat := s.total - s.passed - s.skipped

/-- How many assertions failed. -/
def failedAssertions (s : Summary) : Nat := s.assertions - s.passedAssertions

/-- How many tests failed. -/
def failedTests (s : Summary) : Nat := s.tests - s.passedTests

/-- Whether no request failed. -/
def allPassed (s : Summary) : Bool := s.failed = 0

end Summary

end HttpSuite.Exchange
