/-
HttpSuite/CommandLine/Arguments.lean

Reading the arguments of a call: a command with its own arguments, and two options that stand
before or behind the command. Arguments are read from left to right. The value of an option may
stand in the next argument, so it is kept aside (`pending`) and looked at when the next one begins;
of two faults, the one that is met first counts.
-/
import HttpSuite.Configuration

namespace HttpSuite.CommandLine

/-- Why arguments cannot be carried out. -/
inductive Misuse where
  | helpAsked
  | versionAsked
  /-- There are no arguments. -/
  | nothingAsked
  | missingCommand
  | unknownCommand
  | unknownArgument
  | missingArgument
  | missingValue
  | malformedValue
  /-- A value for an option that takes none. -/
  | needlessValue
  | repeated
deriving DecidableEq, Repr, Inhabited

/-- What a call asks for. -/
inductive Command where
  | run (file : String) (environment : Option String) (overrides : List (String × String))
  | parse (file : String) (environment : Option String)
deriving DecidableEq, Repr

/-- A call. -/
structure Arguments where
  command : Command
  verbose : Bool := false
  configuration : Option String := none
deriving DecidableEq, Repr

/-! ### Options -/

/-- Where arguments are read: before the command, or behind one. -/
inductive Level where
  | top
  | run
  | parse
deriving DecidableEq, Repr

/-- What takes a value. -/
inductive Slot where
  | file
  | environment
  | override
  | configuration
deriving DecidableEq, Repr

/-- What an option is. -/
inductive Switch where
  | slot (s : Slot)
  | verbose
  | help
  | version
deriving DecidableEq, Repr

/-- The word that starts a command, or asks for help. -/
inductive Verb where
  | run
  | parse
  | help
deriving DecidableEq, Repr

/-- The verb of a word. -/
def Verb.ofText? : String → Option Verb
  | "run" => some run
  | "parse" => some parse
  | "help" => some help
  | _ => none

namespace Level

/-- The option of a long name. -/
def long? (level : Level) (name : String) : Option Switch :=
  match name, level with
  | "verbose", _ => some .verbose
  | "help", _ => some .help
  | "config", _ => some (.slot .configuration)
  | "version", .top => some .version
  | "env", .run | "env", .parse => some (.slot .environment)
  | "var", .run => some (.slot .override)
  | _, _ => none

/-- The option of a letter. -/
def short? (level : Level) (letter : Char) : Option Switch :=
  match letter, level with
  | 'v', _ => some .verbose
  | 'h', _ => some .help
  | 'c', _ => some (.slot .configuration)
  | 'V', .top => some .version
  | 'e', .run | 'e', .parse => some (.slot .environment)
  | _, _ => none

end Level

/-! ### States -/

/-- What has been read at a level. -/
structure Reading where
  file : Option String := none
  environment : Option String := none
  overrides : List (String × String) := []
  configuration : Option String := none
  verbose : Bool := false
  /-- What takes a value, and its value if that has been met. -/
  pending : Option (Slot × Option String) := none
  /-- Whether the file has been met. -/
  hasFile : Bool := false
  /-- Whether only values follow. -/
  valuesOnly : Bool := false

namespace Reading

/-- Gives a slot its value. -/
def put (r : Reading) (slot : Slot) (value : String) : Except Misuse Reading :=
  match slot with
  | .file => if value = "" then .error .missingValue else .ok { r with file := some value }
  | .environment =>
    if r.environment.isSome then .error .repeated else .ok { r with environment := some value }
  | .configuration =>
    if r.configuration.isSome then .error .repeated
    else if value = "" then .error .missingValue
    else .ok { r with configuration := some value }
  | .override =>
    match Configuration.override? value with
    | some v => .ok { r with overrides := r.overrides ++ [v] }
    | none => .error .malformedValue

/-- Looks at the value that is pending. -/
def settle (r : Reading) : Except Misuse Reading :=
  match r.pending with
  | none => .ok r
  | some (_, none) => .error .missingValue
  | some (slot, some value) => { r with pending := none }.put slot value

/-- Whether the next argument is the value of an option. -/
def isAwaiting (r : Reading) : Bool :=
  match r.pending with
  | some (_, none) => true
  | _ => false

/-- Whether nothing has been met. -/
def isEmpty (r : Reading) : Bool := r.configuration.isNone && !r.verbose

/-- An option without a value. -/
def raise (r : Reading) (o : Switch) : Except Misuse Reading := do
  let r ← r.settle
  match o with
  | .help => throw .helpAsked
  | .version => throw .versionAsked
  | .verbose => if r.verbose then throw .repeated else pure { r with verbose := true }
  | .slot slot => pure { r with pending := some (slot, none) }

/-- An option with a value of its own. -/
def attach (r : Reading) (o : Switch) (value : String) : Except Misuse Reading :=
  match o with
  | .slot slot => do (← r.settle).put slot value
  | _ => .error .needlessValue

/-- An argument with two dashes in front. -/
def longOption (level : Level) (r : Reading) (s : List Char) : Except Misuse Reading :=
  let name := String.ofList (s.takeWhile (· ≠ '='))
  match level.long? name, s.dropWhile (· ≠ '=') with
  | none, _ => .error .unknownArgument
  | some o, '=' :: value => r.attach o (String.ofList value)
  | some o, _ => r.raise o

/-- Letters behind a dash. The first that takes a value takes the letters behind it. -/
def shortOptions (level : Level) (r : Reading) : List Char → Except Misuse Reading
  | [] => .ok r
  | c :: rest =>
    match level.short? c, rest with
    | none, _ => .error .unknownArgument
    | some (.slot slot), [] => r.raise (.slot slot)
    | some (.slot slot), '=' :: value => r.attach (.slot slot) (String.ofList value)
    | some (.slot slot), value => r.attach (.slot slot) (String.ofList value)
    | some o, rest => do shortOptions level (← r.raise o) rest

/-- An argument that is no option. -/
def value (level : Level) (r : Reading) (s : String) : Except Misuse Reading :=
  match level with
  | .top =>
    .error (if r.valuesOnly ∧ (Verb.ofText? s).isSome then .unknownArgument
      else .unknownCommand)
  | _ =>
    if r.hasFile then .error .unknownArgument
    else do
      let r ← r.settle
      pure { r with pending := some (.file, some s), hasFile := true }

/-- The next argument. -/
def step (level : Level) (r : Reading) (argument : String) : Except Misuse Reading :=
  if r.valuesOnly then r.value level argument
  else
    match argument.toList with
    | ['-', '-'] => .ok { r with valuesOnly := true }
    | '-' :: '-' :: s => r.longOption level s
    | '-' :: c :: s => r.shortOptions level (c :: s)
    | _ =>
      match r.pending with
      | some (slot, none) => .ok { r with pending := some (slot, some argument) }
      | _ => r.value level argument

/-- Reads arguments. -/
def steps (level : Level) (r : Reading) (arguments : List String) : Except Misuse Reading :=
  arguments.foldlM (step level) r

/-- Reads arguments up to a verb; gives the verb and the arguments behind it. -/
def untilVerb (r : Reading) : List String → Except Misuse (Reading × Option (Verb × List String))
  | [] => .ok (r, none)
  | a :: rest =>
    match if r.valuesOnly || r.isAwaiting then none else Verb.ofText? a with
    | some v => .ok (r, some (v, rest))
    | none => do (← r.step .top a).untilVerb rest

/-- Reads the arguments behind a verb; gives the file, too. -/
def behindVerb (level : Level) (arguments : List String) : Except Misuse (String × Reading) := do
  let r ← (← steps level {} arguments).settle
  match r.file with
  | some file => pure (file, r)
  | none => throw .missingArgument

end Reading

/-- Why a question for help is not answered. -/
def helpMisuse : List String → Misuse
  | [] => .helpAsked
  | [topic] => if (Verb.ofText? topic).isSome then .helpAsked else .unknownCommand
  | _ => .unknownCommand

namespace Arguments

/-- A call with a command; the options behind the command come before those in front of it. -/
def ofReadings (command : Command) (front behind : Reading) : Except Misuse Arguments := do
  let front ← front.settle
  pure
    { command
      verbose := front.verbose || behind.verbose
      configuration := behind.configuration.or front.configuration }

/-- The call that arguments write. -/
def ofList (arguments : List String) : Except Misuse Arguments := do
  match ← Reading.untilVerb {} arguments with
  | (front, none) =>
    let front ← front.settle
    throw (if front.isEmpty then .nothingAsked else .missingCommand)
  | (front, some (.run, rest)) =>
    let (file, r) ← Reading.behindVerb .run rest
    ofReadings (.run file r.environment r.overrides) front r
  | (front, some (.parse, rest)) =>
    let (file, r) ← Reading.behindVerb .parse rest
    ofReadings (.parse file r.environment) front r
  | (_, some (.help, rest)) => throw (helpMisuse rest)

end Arguments

end HttpSuite.CommandLine
