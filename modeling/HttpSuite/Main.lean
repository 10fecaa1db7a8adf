/-
HttpSuite/Main.lean

The program: it gathers what a call looks at outside, carries the call out and prints what comes of
it. Files are gathered in two steps, because a document names more of them. The program opens no
connections; a run ends at the first thing that would need one.
-/
import HttpSuite.CommandLine.Perform
import Std.Time.Zoned

namespace HttpSuite.Program

open CommandLine

/-! ### What lies outside -/

/-- Names without points: one point stays, two lead to the parent. -/
def resolve (names : List String) (more : List String) : List String :=
  more.foldl (fun names name =>
    if name = "" ∨ name = "." then names
    else if name = ".." then names.dropLast
    else names ++ [name]) names

/-- The names of a path from the top. -/
def namesFrom (current : List String) (path : String) : List String :=
  resolve (if path.toList.head? = some '/' then [] else current) (Files.namesOf path)

/-- A text that can be read outside, if it can. -/
def attempt {α : Type} (action : IO α) : IO (Option α) := do
  try pure (some (← action))
  catch _ => pure none

/-- The files with those that lie at some names outside. -/
def gather (files : Files) (paths : List (List String)) : IO Files :=
  paths.foldlM (fun files names => do
    match ← attempt (IO.FS.readFile ("/" ++ Files.pathOf names)) with
    | some text => pure (files.write (Files.pathOf names) text)
    | none => pure files) files

/-- The environment variables, as the system lists them. -/
def environment : IO (Table String) := do
  let text ← attempt (IO.FS.readFile "/proc/self/environ")
  let entries := ((text.getD "").toList.splitOn '\x00').filterMap (Text.splitOnce? ['='])
  pure (Table.ofList (entries.map fun (key, value) => (String.ofList key, String.ofList value)))

/-- How many seconds the local clock is east of UTC at an instant. -/
def zone (t : Std.Time.Timestamp) : IO Int := do
  let rules ← attempt Std.Time.Database.defaultGetLocalZoneRules
  pure ((rules.map fun rules => (rules.timezoneAt t).offset.second.val).getD 0)

/-- A number to start random numbers from. -/
def seed : IO UInt64 := do
  let bytes ← IO.getRandomBytes 8
  pure (bytes.toList.foldl (fun n b => n * 256 + b.toUInt64) 0)

/-- What lies outside, without files. -/
def surroundings : IO World := do
  let current := namesFrom [] (← IO.currentDir).toString
  let now ← Std.Time.Timestamp.now
  let environment ← environment
  pure
    { files := { current, directories := [current], top := .inside [] }
      environment
      now := now.toMillisecondsSinceUnixEpoch.val
      zone := ← zone now
      home := namesFrom [] ((environment.get? "HOME").getD "/")
      seed := ← seed }

/-! ### Files of a call -/

/-- The document that a command names. -/
def documentPath : Command → String
  | .run file .. | .parse file _ => file

/-- The names of the files that decide how a document is read. -/
def firstFiles (w : World) (a : Arguments) : List (List String) :=
  let named := ([documentPath a.command] ++ a.configuration.toList).map (namesFrom w.files.current)
  let above := (Configuration.upwards w.files.current).map (· ++ [Configuration.fileName])
  named ++ above ++
    [w.home ++ Configuration.userDirectory ++ [Configuration.fileName],
      w.files.current ++ [Dotenv.fileName]]

/-- The paths that a unit refers to. -/
def pathsOf (u : RequestUnit) : List String :=
  let scripts := (u.preScripts ++ u.postScripts).filterMap fun
    | .file path => some path
    | .inline _ => none
  match u.body with
  | .file path => scripts ++ [path]
  | _ => scripts

/-- The names of the files that a document refers to. -/
def otherFiles (w : World) (a : Arguments) : List (List String) :=
  match prepare w (documentPath a.command) none [] a.configuration with
  | .error _ => []
  | .ok s =>
    let scripts := (s.document.units.flatMap pathsOf).map (Path.from s.document.directory)
    let dotenv := s.configuration.dotenvDirectory.map (Path.join · Dotenv.fileName)
    (scripts ++ dotenv.toList).map (namesFrom w.files.current)

/-! ### Calls -/

/-- What is told of a request that would need a connection. -/
def refuse (_ : Request) (_ : Unit) : Except Error Response × Unit :=
  (.error (.unreachable "connections are not supported"), ())

/-- Tells a chain of causes. -/
def tell (chain : List String) : IO Unit := do
  match chain with
  | [] => pure ()
  | first :: causes =>
    IO.eprintln ("Error: " ++ first)
    if !causes.isEmpty then
      IO.eprintln "\nCaused by:"
      causes.forM fun cause => IO.eprintln ("    " ++ cause)

/-- Carries out a call. -/
def perform (a : Arguments) : IO UInt32 := do
  let w ← surroundings
  let files ← gather w.files (firstFiles w a)
  let w := { w with files }
  let files ← gather w.files (otherFiles w a)
  let w := { w with files }
  let fail (f : Failure) : IO UInt32 := do
    tell f.chain
    pure 1
  match a.command with
  | .parse file environment =>
    match parse w file environment a.configuration with
    | .ok text =>
      IO.println text
      pure 0
    | .error f => fail f
  | .run file environment overrides =>
    let colored ← (← IO.getStdout).isTty
    let (text, failure) :=
      run w refuse () { colored, verbose := a.verbose } file environment overrides a.configuration
    IO.print text
    match failure with
    | none => pure 0
    | some f => fail f

/-- How the program is called. -/
def usage : List String :=
  ["Usage: http-suite [-v] [-c CONFIG] run FILE [-e ENV] [--var KEY=VALUE]...",
    "       http-suite [-v] [-c CONFIG] parse FILE [-e ENV]"]

/-- Answers a call that cannot be carried out. -/
def answerMisuse : Misuse → IO UInt32
  | .helpAsked => do
    usage.forM fun line => IO.println line
    pure 0
  | .versionAsked => do
    IO.println "http-suite 0.1.0"
    pure 0
  | _ => do
    usage.forM fun line => IO.eprintln line
    pure 2

end HttpSuite.Program

/-- Reads the arguments and carries them out. -/
def main (arguments : List String) : IO UInt32 :=
  match HttpSuite.CommandLine.Arguments.ofList arguments with
  | .ok a => HttpSuite.Program.perform a
  | .error m => HttpSuite.Program.answerMisuse m
