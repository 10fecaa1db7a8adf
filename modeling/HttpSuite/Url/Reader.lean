/-
HttpSuite/Url/Reader.lean

Reading URLs, as browsers read them: blanks and control characters at the ends and line ends within
do not count, a backslash is a slash where the scheme is one of the well-known ones, segments of one
or two points are carried out, and what may not stand as it is gets escaped. A text without a scheme
is no URL here.
-/
import HttpSuite.Text.Percent
import HttpSuite.Url.Basic
import HttpSuite.Url.Domain

namespace HttpSuite.Url

/-! ### Schemes -/

/-- How the rest of a URL is read. -/
inductive SchemeKind where
  | file
  /-- A well-known scheme with hosts. -/
  | special
  | other
deriving DecidableEq, Repr

namespace SchemeKind

/-- The kind of a scheme in small letters. -/
def ofScheme (scheme : String) : SchemeKind :=
  if scheme = "file" then file
  else if ["http", "https", "ws", "wss", "ftp"].contains scheme then special
  else other

/-- Whether a backslash is a slash. -/
def isWellKnown (k : SchemeKind) : Bool := k != other

/-- Whether a character separates segments. -/
def isSlash (k : SchemeKind) (c : Char) : Bool := c == '/' || (k.isWellKnown && c == '\\')

/-- Whether a character ends an authority. -/
def endsAuthority (k : SchemeKind) (c : Char) : Bool := k.isSlash c || c == '?' || c == '#'

end SchemeKind

/-- The usual port of a scheme. -/
def usualPort? (scheme : String) : Option Nat :=
  match scheme with
  | "http" | "ws" => some 80
  | "https" | "wss" => some 443
  | "ftp" => some 21
  | _ => none

/-- A character of a scheme. -/
def isSchemeChar (c : Char) : Bool :=
  Ascii.isLetter c || Ascii.isDigit c || c == '+' || c == '-' || c == '.'

/-- The scheme in front of a text, and what follows its colon. -/
def scheme? (s : List Char) : Option (String × List Char) :=
  if s.head?.any Ascii.isLetter then
    match s.dropWhile isSchemeChar with
    | ':' :: rest => some (String.ofList (Ascii.lower (s.takeWhile isSchemeChar)), rest)
    | _ => none
  else none

/-! ### Characters that are escaped -/

/-- A control character. -/
def isControl (c : Char) : Bool := c.toNat < 0x20 || c.toNat == 0x7F

/-- Escaped in fragments. -/
def escapedInFragment (c : Char) : Bool := isControl c || [' ', '"', '<', '>', '\u0060'].contains c

/-- Escaped in paths. -/
def escapedInPath (c : Char) : Bool :=
  escapedInFragment c || ['#', '?', '\x7b', '\x7d'].contains c

/-- Escaped in names of users and in passwords. -/
def escapedInUser (c : Char) : Bool :=
  escapedInPath c || ['/', ':', ';', '=', '@', '[', '\\', ']', '^', '|'].contains c

/-- Escaped in queries. -/
def escapedInQuery (k : SchemeKind) (c : Char) : Bool :=
  isControl c || [' ', '"', '#', '<', '>'].contains c || (k.isWellKnown && c == '\'')

/-- The escaped form of a text. -/
def escape (escaped : Char → Bool) (s : List Char) : String :=
  String.ofList (Percent.encode escaped s)

/-! ### Authorities -/

/-- What comes before the last at sign of an authority, and the rest. -/
def splitUser (s : List Char) : Option (List Char) × List Char :=
  let tail := (s.reverse.takeWhile (· ≠ '@')).reverse
  if tail.length < s.length then (some (s.take (s.length - tail.length - 1)), tail) else (none, s)

/-- The name of a user and the password of what comes before an at sign. -/
def userOf (s : List Char) : String × Option String :=
  match s.dropWhile (· ≠ ':') with
  | ':' :: c :: rest =>
    (escape escapedInUser (s.takeWhile (· ≠ ':')), some (escape escapedInUser (c :: rest)))
  | _ => (escape escapedInUser (s.takeWhile (· ≠ ':')), none)

/-- The host in front of a text, up to a colon outside of brackets, and the rest. -/
def splitHost : (bracketed : Bool) → List Char → List Char × List Char
  | _, [] => ([], [])
  | bracketed, c :: s =>
    if c = ':' ∧ !bracketed then ([], c :: s)
    else
      let inside := if c = '[' then true else if c = ']' then false else bracketed
      let (host, rest) := splitHost inside s
      (c :: host, rest)

/-- The address between brackets. -/
def bracketHost (s : List Char) : Except Fault Host :=
  if s.getLast? = some ']' then
    match Address6.ofText? s.dropLast with
    | some a => .ok (.address6 a)
    | none => .error .invalidAddress6
  else .error .invalidAddress6

/-- The host of a well-known scheme. -/
def domainHost (s : List Char) : Except Fault Host :=
  match s with
  | '[' :: rest => bracketHost rest
  | s =>
    match (Percent.textOf? (Percent.bytes s)).bind fun t => Domain.toAscii? t.toList with
    | none => .error .invalidDomain
    | some name =>
      if name.isEmpty then .error .emptyHost
      else if Address4.isNumeric name then
        match Address4.ofHost? name with
        | some a => .ok (.address4 a)
        | none => .error .invalidAddress4
      else .ok (.name (String.ofList name))

/-- A character that hosts of other schemes do not hold. -/
def isForbiddenInHost (c : Char) : Bool :=
  c == '\x00' || c == ' ' || "#/:<>?@[\\]^|".toList.contains c

/-- The host of another scheme. -/
def plainHost (s : List Char) : Except Fault Host :=
  match s with
  | [] => .ok .empty
  | '[' :: rest => bracketHost rest
  | s =>
    if s.any isForbiddenInHost then .error .invalidHostCharacter
    else .ok (.name (escape isControl s))

/-- The port behind a host. -/
def portOf (scheme : String) (s : List Char) : Except Fault (Option Nat) :=
  if s.isEmpty then .ok none
  else
    match Ascii.natOfDigits? s with
    | none => .error .invalidPort
    | some n =>
      if 65535 < n then .error .invalidPort
      else .ok (if usualPort? scheme = some n then none else some n)

/-- The authority that a text writes; `more` says whether something follows it. -/
def authorityOf (scheme : String) (k : SchemeKind) (s : List Char) (more : Bool) :
    Except Fault Authority := do
  let (before, rest) := splitUser s
  if before = some [] ∧ rest.isEmpty ∧ more then throw .emptyHost
  let (user, password) := userOf (before.getD [])
  let (name, after) := splitHost false rest
  if k = .special ∧ name.isEmpty then throw .emptyHost
  let host ← if k = .special then domainHost name else plainHost name
  if host = .empty ∧ !after.isEmpty then throw .emptyHost
  let port ← portOf scheme after.tail
  if host = .empty ∧ (user ≠ "" ∨ password.isSome) then throw .emptyHost
  pure { user, password, host, port }

/-! ### Paths -/

/-- A segment that stays where it is. -/
def isSingleDot (segment : String) : Bool := [".", "%2e"].any (Ascii.sameName segment ·)

/-- A segment that goes up. -/
def isDoubleDot (segment : String) : Bool :=
  ["..", ".%2e", "%2e.", "%2e%2e"].any (Ascii.sameName segment ·)

/-- A segment that names a drive, above which nothing lies. -/
def isDrive (segment : String) : Bool :=
  match segment.toList with
  | [c, d] => Ascii.isLetter c && (d == ':' || d == '|')
  | _ => false

/-- The segments without the last one. -/
def goUp (l : List String) : List String :=
  if l.getLast?.any isDrive then l else l.dropLast

/-- Adds segments to a list of segments. The last one leaves an empty one when it is carried out. -/
def addSegments (l : List String) : List String → List String
  | [] => l
  | s :: rest =>
    let here := if isDoubleDot s then goUp l else l
    if isDoubleDot s || isSingleDot s then
      addSegments (if rest.isEmpty then here ++ [""] else here) rest
    else addSegments (l ++ [s]) rest

/-- The segments that a text writes, with a slash in front or without. -/
def segmentsOf (k : SchemeKind) (s : List Char) : List String :=
  let s := if s.head?.any k.isSlash then s.tail else s
  addSegments [] ((s.splitOnP k.isSlash).map (escape escapedInPath))

/-- The segments of a file: empty ones in front do not count, and a drive is written with a
colon. -/
def fileSegments (l : List String) : List String :=
  match l.dropWhile (· = "") with
  | [] => [""]
  | first :: rest =>
    if isDrive first then String.ofList (first.toList.take 1 ++ [':']) :: rest else first :: rest

/-- The path behind an authority. -/
def routeBehind (k : SchemeKind) (s : List Char) : Route :=
  match k, s with
  | .other, [] => .segments []
  | _, s => .segments (segmentsOf k s)

/-! ### URLs -/

/-- The fragment of a text, and what comes before it. -/
def splitFragment (s : List Char) : List Char × Option String :=
  match s.dropWhile (· ≠ '#') with
  | '#' :: rest => (s.takeWhile (· ≠ '#'), some (escape escapedInFragment rest))
  | _ => (s, none)

/-- The query of a text without fragment, and what comes before it. -/
def splitQuery (k : SchemeKind) (s : List Char) : List Char × Option String :=
  match s.dropWhile (· ≠ '?') with
  | '?' :: rest => (s.takeWhile (· ≠ '?'), some (escape (escapedInQuery k) rest))
  | _ => (s, none)

/-- The authority and the path of a text behind two slashes. -/
def behindSlashes (scheme : String) (k : SchemeKind) (s : List Char) (more : Bool) :
    Except Fault (Option Authority × Route) := do
  let front := s.takeWhile (!k.endsAuthority ·)
  let path := s.dropWhile (!k.endsAuthority ·)
  let a ← authorityOf scheme k front (more || !path.isEmpty)
  pure (some a, routeBehind k path)

/-- The host of a file; none when it is the own one. -/
def fileHost (s : List Char) : Except Fault Host :=
  if s.isEmpty then .ok .empty
  else (domainHost s).map fun host => if host = .name "localhost" then .empty else host

/-- The authority and the path of a file. -/
def ofFile (s : List Char) : Except Fault (Option Authority × Route) := do
  match s with
  | a :: b :: rest =>
    if SchemeKind.file.isSlash a ∧ SchemeKind.file.isSlash b then
      let name := rest.takeWhile (!SchemeKind.file.isSlash ·)
      if isDrive (String.ofList name) then
        pure (some ⟨"", none, .empty, none⟩, .segments (fileSegments (segmentsOf .file rest)))
      else
        let host ← fileHost name
        let l := fileSegments (segmentsOf .file (rest.dropWhile (!SchemeKind.file.isSlash ·)))
        let host := if l.head?.any isDrive then .empty else host
        pure (some ⟨"", none, host, none⟩, .segments l)
    else pure (some ⟨"", none, .empty, none⟩, .segments (fileSegments (segmentsOf .file s)))
  | s => pure (some ⟨"", none, .empty, none⟩, .segments (fileSegments (segmentsOf .file s)))

/-- The authority and the path of a text behind the colon of its scheme. -/
def behindScheme (scheme : String) (k : SchemeKind) (s : List Char) (more : Bool) :
    Except Fault (Option Authority × Route) :=
  match k with
  | .file => ofFile s
  | .special => behindSlashes scheme k (s.dropWhile k.isSlash) more
  | .other =>
    match s with
    | '/' :: '/' :: rest => behindSlashes scheme k rest more
    | '/' :: rest => .ok (none, .segments (segmentsOf k ('/' :: rest)))
    | s => .ok (none, .plain (escape isControl s))

/-- A character that does not count at the ends of a URL. -/
def isIdle (c : Char) : Bool := c.toNat ≤ 0x20

/-- The characters of a text that count. -/
def significant (s : List Char) : List Char :=
  ((s.dropWhile isIdle).reverse.dropWhile isIdle).reverse.filter
    fun c => c != '\t' && c != '\n' && c != '\r'

/-- The URL that a text writes. -/
def ofText (s : List Char) : Except Fault Url :=
  match scheme? (significant s) with
  | none => .error .relativeWithoutBase
  | some (scheme, rest) => do
    let k := SchemeKind.ofScheme scheme
    let (rest, fragment) := splitFragment rest
    let (rest, query) := splitQuery k rest
    let (authority, route) ← behindScheme scheme k rest (query.isSome || fragment.isSome)
    pure { scheme, authority, route, query, fragment }

end HttpSuite.Url
