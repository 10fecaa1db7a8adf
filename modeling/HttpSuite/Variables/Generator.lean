/-
HttpSuite/Variables/Generator.lean

Variables that are made up at the moment of use: instants, random numbers, environment variables
and entries of `.env` files. An expression is a dollar sign, a name in any case of letters and
arguments. `Generators.evaluate` gives its text, or none when it is no expression of this kind, and
the generators after it: the place in the random sequence and the `.env` tables, which are read
once and kept from the first moment at which a file is there.
-/
import HttpSuite.World
import HttpSuite.Variables.Arguments
import HttpSuite.Variables.Dotenv
import HttpSuite.Variables.Offset
import HttpSuite.Text.Search

namespace HttpSuite

/-- What the generators keep between two uses. -/
structure Generators where
  /-- Where a `.env` file is looked for before the current directory. -/
  dotenvDirectory : Option String := none
  /-- The tables of the `.env` files, once one was found. -/
  tables : Option (List (Table String)) := none
  /-- How many random numbers were drawn. -/
  drawn : Nat := 0

namespace Generators

/-! ### Dates -/

/-- The tokens of a date format, each with what it stands for. -/
def dateTokens (r : Calendar.Reading) : List (List Char × String) :=
  [("YYYY".toList, Calendar.yearField r.date.year),
    ("SSS".toList, Calendar.padded 3 r.milli),
    ("MM".toList, Calendar.padded 2 r.date.month),
    ("DD".toList, Calendar.padded 2 r.date.day),
    ("HH".toList, Calendar.padded 2 r.hour),
    ("mm".toList, Calendar.padded 2 r.minute),
    ("ss".toList, Calendar.padded 2 r.second)]

/-- What the first token at the start of a text stands for, and the length of the token. -/
def tokenAt (tokens : List (List Char × String)) (s : List Char) : Option (Nat × String) :=
  (tokens.find? fun token => Text.startsWith token.1 s).map fun token => (token.1.length, token.2)

/-- The text with its date tokens replaced from left to right, and whether it has any; `skip`
characters belong to a token that has been replaced. -/
def fillDate (tokens : List (List Char × String)) : (skip : Nat) → List Char → List Char × Bool
  | _, [] => ([], false)
  | skip + 1, _ :: rest => fillDate tokens skip rest
  | 0, c :: rest =>
    match tokenAt tokens (c :: rest) with
    | some (length, value) => (value.toList ++ (fillDate tokens (length - 1) rest).1, true)
    | none =>
      let (text, found) := fillDate tokens 0 rest
      (c :: text, found)

/-- A reading of the clock in a named format or in one with date tokens. -/
def formatDate (r : Calendar.Reading) (utc : Bool) (format : List Char) : Option String :=
  let name := String.ofList (Ascii.lower format)
  if name = "iso8601" then some (r.iso utc)
  else if name = "rfc1123" then some (r.rfc1123 utc)
  else
    match fillDate (dateTokens r) 0 format with
    | (text, true) => some (String.ofList text)
    | (_, false) => none

/-- The arguments with blanks between them, trimmed. -/
def joinArguments (arguments : List (List Char)) : List Char :=
  Text.trim (List.intercalate [' '] arguments)

/-- The instant that the arguments of an offset lead to; no arguments lead nowhere else. -/
def shifted (w : World) (arguments : List (List Char)) : Option Int :=
  match joinArguments arguments with
  | [] => some w.now
  | text => (TimeOffset.ofText? text).bind (·.shift? w.now)

/-- Seconds since the start of 1970. -/
def timestamp (w : World) (arguments : List (List Char)) : Option String :=
  (shifted w arguments).map fun instant => toString (Int.fdiv instant 1000)

/-- A date on the clock of UTC or on the local one: a format, then an offset. -/
def datetime (w : World) (utc : Bool) (arguments : List (List Char)) : Option String :=
  let format := (arguments.head?).getD "iso8601".toList
  (shifted w arguments.tail).bind fun instant =>
    formatDate (Calendar.read instant (if utc then 0 else w.zone)) utc format

/-! ### Random values -/

/-- Two small hexadecimal digits for each of `count` bytes of a number, the high ones first. -/
def hexBytes (n : Nat) : (count : Nat) → List Char
  | 0 => []
  | count + 1 =>
    let byte := n / 256 ^ count % 256
    Ascii.lowerChar (Ascii.hexDigit (byte / 16)) :: Ascii.lowerChar (Ascii.hexDigit (byte % 16)) ::
      hexBytes n count

/-- A random identifier of version 4 from 128 random bits. -/
def uuid (high low : UInt64) : String :=
  let high := (high &&& 0xFFFFFFFFFFFF0FFF) ||| 0x4000
  let low := (low &&& 0x3FFFFFFFFFFFFFFF) ||| 0x8000000000000000
  let h := hexBytes high.toNat 8
  let l := hexBytes low.toNat 8
  String.ofList (h.take 8 ++ '-' :: (h.drop 8).take 4 ++ '-' :: h.drop 12 ++ '-' :: l.take 4 ++
    '-' :: l.drop 4)

/-- The range that the arguments of a random number name: none for 0 to 1000. -/
def randomRange? : List (List Char) → Option (Int × Int)
  | [] => some (0, 1000)
  | [low, high] => do
    let low ← Ascii.int64OfDigits? low
    let high ← Ascii.int64OfDigits? high
    if low ≤ high then pure (low, high) else none
  | _ => none

/-- A number of a range from 128 random bits. -/
def randomIn (low high : Int) (a b : UInt64) : Int :=
  low + ((a.toNat * 2 ^ 64 + b.toNat) % ((high - low).toNat + 1) : Nat)

/-! ### Environment -/

/-- An environment variable; a percent sign in front makes a missing one the empty text. -/
def environmentVariable (w : World) : List (List Char) → Option String
  | [] => none
  | ('%' :: name) :: _ => some ((w.environment.get? (String.ofList name)).getD "")
  | name :: _ => w.environment.get? (String.ofList name)

/-- The tables of the `.env` files that can be read now. -/
def readTables (g : Generators) (w : World) : List (Table String) :=
  let paths := (g.dotenvDirectory.map fun d => Path.join d Dotenv.fileName).toList ++
    [Dotenv.fileName]
  paths.filterMap fun path =>
    match w.files.read path with
    | .ok text => some (Dotenv.parse text)
    | .error _ => none

/-- The generators with the `.env` tables read, if they were not and a file is there. -/
def load (g : Generators) (w : World) : Generators :=
  match g.tables with
  | some _ => g
  | none =>
    match g.readTables w with
    | [] => g
    | tables => { g with tables := some tables }

/-- The entry of a name in the first table that has it. -/
def dotenvEntry (g : Generators) (name : String) : Option String :=
  (g.tables.getD []).findSome? (·.get? name)

/-- An entry of the `.env` files. -/
def dotenv (g : Generators) (w : World) : List (List Char) → Option String × Generators
  | [] => (none, g)
  | name :: _ =>
    let g := g.load w
    (g.dotenvEntry (String.ofList name), g)

/-- Forgets the `.env` tables. -/
def forgetTables (g : Generators) : Generators := { g with tables := none }

/-! ### Expressions -/

/-- The text of a name in small letters with its arguments. -/
def generate (g : Generators) (w : World) (name : String) (arguments : List (List Char)) :
    Option String × Generators :=
  match name with
  | "guid" | "uuid" =>
    (some (uuid (w.draw g.drawn) (w.draw (g.drawn + 1))), { g with drawn := g.drawn + 2 })
  | "randomint" =>
    match randomRange? arguments with
    | none => (none, g)
    | some (low, high) =>
      (some (toString (randomIn low high (w.draw g.drawn) (w.draw (g.drawn + 1)))),
        { g with drawn := g.drawn + 2 })
  | "timestamp" => (timestamp w arguments, g)
  | "datetime" => (datetime w true arguments, g)
  | "localdatetime" => (datetime w false arguments, g)
  | "dotenv" => g.dotenv w arguments
  | "processenv" => (environmentVariable w arguments, g)
  | _ => (none, g)

/-- The text of an expression, and the generators after it. -/
def evaluate (g : Generators) (w : World) (expression : String) : Option String × Generators :=
  match Text.trim expression.toList with
  | '$' :: body =>
    match Arguments.split body with
    | [] => (none, g)
    | name :: arguments => g.generate w (String.ofList (Ascii.lower name)) arguments
  | _ => (none, g)

end Generators

end HttpSuite
