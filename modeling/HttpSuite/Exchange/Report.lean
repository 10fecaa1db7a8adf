/-
HttpSuite/Exchange/Report.lean

The report of a run: a line for each request, what there is to say about it below, and a summary. A
report is a list of lines; lines that belong together end with an empty one. Words are set off by
colour and weight where the reader's screen shows them.
-/
import HttpSuite.Exchange.Result
import HttpSuite.Json.Reader
import HttpSuite.Json.Writer
import HttpSuite.Text.Lines

namespace HttpSuite.Exchange

/-! ### Emphasis -/

/-- How a word is set off. -/
inductive Emphasis where
  | bold
  | dimmed
  | green
  | red
  | cyan
  | boldRed
deriving DecidableEq, Repr

/-- The code of an emphasis. -/
def Emphasis.code : Emphasis → String
  | bold => "1"
  | dimmed => "2"
  | green => "32"
  | red => "31"
  | cyan => "36"
  | boldRed => "1;31"

/-- What starts a code and what ends it. -/
def Emphasis.start (e : Emphasis) : String := "\x1b[" ++ e.code ++ "m"

/-- What ends every emphasis. -/
def Emphasis.stop : String := "\x1b[0m"

/-- How a report is written. -/
structure Style where
  /-- Whether words are set off. -/
  colored : Bool := false
  /-- Whether responses and logs are shown for requests that succeeded, too. -/
  verbose : Bool := false
deriving DecidableEq, Repr

namespace Style

/-- A text that is set off; where the text itself ends an emphasis, it starts anew. -/
def mark (style : Style) (e : Emphasis) (text : String) : String :=
  if style.colored then
    e.start ++ text.replace Emphasis.stop (Emphasis.stop ++ e.start) ++ Emphasis.stop
  else text

/-- The sign of what passed or failed. -/
def sign (style : Style) (passed : Bool) : String :=
  if passed then style.mark .green "✓" else style.mark .red "✗"

end Style

/-! ### Responses -/

/-- The text of a body; JSON is set out in lines. -/
def bodyText (body : String) : String :=
  match Json.parse? body.toList with
  | some v => v.pretty
  | none => body

/-- The text of a response. -/
def responseText (style : Style) (r : Response) : String :=
  let headers :=
    if style.verbose then r.headers.map fun h => style.mark .dimmed h.1 ++ ": " ++ h.2 ++ "\n"
    else []
  let body := if r.body = "" then "" else "\n" ++ bodyText r.body
  "HTTP " ++ toString r.status.code ++ " " ++ r.statusText ++ "\n" ++ String.join headers ++ body

/-! ### Results -/

/-- The lines of a response. -/
def responseLines (style : Style) (r : Result) : List String :=
  match r.outcome with
  | .answered response =>
    if style.verbose || !r.success then
      ((Text.lines (responseText style response).toList).map fun l => "   " ++ String.ofList l) ++
        [""]
    else []
  | _ => []

/-- The lines of an error. -/
def errorLines (style : Style) (r : Result) : List String :=
  match r.outcome with
  | .failed error _ => ["   " ++ style.mark .boldRed "Error" ++ ": " ++ error, ""]
  | _ => []

/-- The lines of something that passed or failed, with the reason if there is one. -/
def checkLines (style : Style) (passed : Bool) (name : String) (reason : Option String) :
    List String :=
  let line := "     " ++ style.sign passed ++ " " ++ name
  match passed, reason with
  | false, some reason => [line, "       " ++ style.mark .red reason]
  | _, _ => [line]

/-- The lines of the assertions. -/
def assertionLines (style : Style) (l : List Assertion.Result) : List String :=
  if l.isEmpty then []
  else
    "   Assertions:" ::
      (l.flatMap fun a => checkLines style a.passed a.raw a.message) ++ [""]

/-- What a script is called. -/
def scriptTitle : ScriptPhase → String
  | .preRequest => "Pre-request script"
  | .postResponse => "Response script"

/-- The lines of a script. -/
def scriptLines (style : Style) (report : ScriptReport) : List String :=
  let title := scriptTitle report.phase
  let r := report.result
  let first :=
    if !r.success then
      ["   " ++ style.sign false ++ " " ++ title ++ ": " ++
        style.mark .red (r.failure.getD "failed")]
    else if style.verbose || !r.tests.isEmpty then ["   " ++ title ++ ":"]
    else []
  let logs :=
    if style.verbose then r.logs.map fun l => "     " ++ style.mark .dimmed "›" ++ " " ++ l else []
  first ++ logs ++ r.tests.flatMap fun t => checkLines style t.passed t.name t.detail

/-- The lines of a result. -/
def resultLines (style : Style) (r : Result) : List String :=
  let number := " [" ++ toString r.number ++ "]"
  let name := (r.name.map fun n => " " ++ n ++ " -").getD ""
  if r.isSkipped then
    [" " ++ style.mark .dimmed "⊘" ++ number ++ name ++ " " ++
      style.mark .dimmed "(no request line)"]
  else
    [" " ++ style.sign r.success ++ number ++ name ++ " " ++ style.mark .cyan r.method ++ " " ++
        r.url ++ " (" ++ toString r.duration ++ "ms)"] ++
      responseLines style r ++ errorLines style r ++ assertionLines style r.assertions ++
      r.scripts.flatMap (scriptLines style)

/-- The lines in front of the results. -/
def headerLines (style : Style) (file : String) (count : Nat) : List String :=
  ["", "Running " ++ toString count ++ " requests from " ++ style.mark .bold file ++ "...", ""]

/-! ### Summaries -/

/-- Milliseconds as seconds with three decimals. -/
def seconds (ms : Nat) : String :=
  let rest := toString (ms % 1000)
  toString (ms / 1000) ++ "." ++ String.ofList (List.replicate (3 - rest.length) '0') ++ rest ++ "s"

/-- A line of counts. -/
def countLine (style : Style) (title : String) (passed failed : Nat) (skipped : Option Nat)
    (total : Nat) : String :=
  "  " ++ style.mark .bold title ++ ": " ++ style.mark .green (toString passed) ++ " passed, " ++
    style.mark .red (toString failed) ++ " failed, " ++
    (skipped.map fun n => style.mark .dimmed (toString n) ++ " skipped, ").getD "" ++
    toString total ++ " total"

/-- The line between the parts of a report. -/
def rule : String := String.ofList (List.replicate 50 '━')

/-- The lines of a summary. -/
def summaryLines (style : Style) (s : Summary) : List String :=
  let skipped := if 0 < s.skipped then some s.skipped else none
  let assertions :=
    if 0 < s.assertions then
      [countLine style "Assertions" s.passedAssertions s.failedAssertions none s.assertions]
    else []
  let tests :=
    if 0 < s.tests then
      [countLine style "Script tests" s.passedTests s.failedTests none s.tests]
    else []
  ["", rule, style.mark .bold "Summary", rule,
      countLine style "Requests" s.passed s.failed skipped s.total] ++
    assertions ++ tests ++ ["  " ++ style.mark .bold "Duration" ++ ": " ++ seconds s.duration, ""]

/-- The report of results. -/
def report (style : Style) (file : String) (results : List Result) : String :=
  let lines := headerLines style file results.length ++ results.flatMap (resultLines style) ++
    summaryLines style (Summary.ofResults results)
  String.join (lines.map (· ++ "\n"))

end HttpSuite.Exchange
