/-
HttpSuite/Configuration.lean

The configuration of runs: environments, which give texts to names, the limits of scripts and where
`.env` files lie. It is a TOML document; what it does not say has a usual value, and what it says
beyond that does not count. When none is named, it is looked for from the current directory upwards,
where the first file of that name decides, and, unless that one can be used, in the directory of the
user.
-/
import HttpSuite.Error
import HttpSuite.Script.Sandbox
import HttpSuite.Toml.Reader
import HttpSuite.Variables.State

namespace HttpSuite

/-- The configuration of runs. -/
structure Configuration where
  environments : Table (Table String) := ∅
  limits : Script.Limits := {}
  dotenvDirectory : Option String := none

namespace Configuration

/-! ### Reading -/

/-- What a setting is to one that may be missing. -/
def optional {α : Type} (read : Toml → Option α) (usual : α) : Option Toml → Option α
  | none => some usual
  | some v => read v

/-- A setting of a group, which is a table, or a list of its settings in order. -/
def setting (group : Toml) (place : Nat) (key : String) : Option Toml :=
  match group with
  | .array l => l[place]?
  | group => group.get? key

/-- Whether a value can be a group of settings. -/
def isGroup : Toml → Bool
  | .table _ | .array _ => true
  | _ => false

/-- A number that fits in 64 bits. -/
def readSize : Toml → Option Nat
  | .integer n => if 0 ≤ n ∧ n < 2 ^ 64 then some n.toNat else none
  | _ => none

/-- A text. -/
def readText : Toml → Option String
  | .string s => some s
  | _ => none

/-- The limits of scripts. -/
def readLimits (v : Toml) : Option Script.Limits := do
  if !isGroup v then none
  let usual : Script.Limits := {}
  let timeout ← optional readSize usual.timeout (setting v 0 "timeout_ms")
  let memory ← optional readSize usual.memory (setting v 1 "memory_limit_mb")
  pure { timeout, memory }

/-- The directory of `.env` files. -/
def readDotenv (v : Toml) : Option (Option String) := do
  if !isGroup v then none
  optional (fun v => (readText v).map some) none (setting v 0 "base_dir")

/-- A table whose values are read. -/
def readTable {α : Type} (read : Toml → Option α) : Toml → Option (Table α)
  | .table l => (l.mapM fun e => (read e.2).map (e.1, ·)).map Table.ofList
  | _ => none

/-- The configuration that a document writes. -/
def ofText? (text : String) : Option Configuration := do
  let v ← Toml.parse? text.toList
  let environments ← optional (readTable (readTable readText)) ∅ (v.get? "environments")
  let limits ← optional readLimits {} (v.get? "sandbox")
  let dotenvDirectory ← optional readDotenv none (v.get? "dotenv")
  pure { environments, limits, dotenvDirectory }

/-! ### Files -/

/-- The name of the file. -/
def fileName : String := "restflow.toml"

/-- The directory of the file below the directory of the user. -/
def userDirectory : List String := [".config", "restflow"]

/-- The configuration at a path. -/
def load (files : Files) (path : String) : Except Error Configuration :=
  match files.read path with
  | .error cause => .error (.unreadableConfiguration path cause)
  | .ok text =>
    match ofText? text with
    | some c => .ok c
    | none => .error .malformedConfiguration

/-- The configuration of a directory, if there is one that can be used. -/
def inDirectory? (files : Files) (names : List String) : Option Configuration :=
  (files.file? (names ++ [fileName])).bind ofText?

/-- The directories from some names upwards. -/
def upwards : List String → List (List String)
  | [] => [[]]
  | name :: rest => (upwards rest).map (name :: ·) ++ [[]]

/-- The configuration from the current directory upwards. -/
def above? (files : Files) : Option Configuration :=
  ((upwards files.current).find? fun names => files.isThere (names ++ [fileName])).bind
    (inDirectory? files)

/-- The configuration that is found when none is named. -/
def find? (w : World) : Option Configuration :=
  (above? w.files).or (inDirectory? w.files (w.home ++ userDirectory))

/-! ### Variables -/

/-- The variables that a run starts with: those of an environment, with their references to
environment variables replaced, and overrides. -/
def vars (c : Configuration) (w : World) (environment : Option String)
    (overrides : List (String × String)) : VariableState :=
  let chosen := ((environment.bind c.environments.get?).map Table.entries).getD []
  { overrides := Table.ofList overrides
    store := Table.ofList (chosen.map fun (key, text) => (key, w.expandEnvironment text))
    generators := { dotenvDirectory := c.dotenvDirectory } }

/-- The name and the text of an override: what comes before and after the first equals sign. -/
def override? (argument : String) : Option (String × String) :=
  match Text.splitOnce? ['='] argument.toList with
  | none => none
  | some (key, value) =>
    let key := Text.trim key
    if key.isEmpty then none
    else some (String.ofList key, String.ofList (Text.trim value))

end Configuration

end HttpSuite
