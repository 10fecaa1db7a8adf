/-
HttpSuite/Url/Basic.lean

URLs and their written form. A URL has a scheme, an authority (with a host and perhaps a user and a
port), a path, and perhaps a query and a fragment. Its parts are kept in their written forms, with
escapes. A path is a list of segments, each behind a slash, or one text without structure.
-/
import HttpSuite.Text.Search
import HttpSuite.Url.Address

namespace HttpSuite

namespace Url

/-- Why a text is no URL. -/
inductive Fault where
  | relativeWithoutBase
  | emptyHost
  | invalidDomain
  | invalidHostCharacter
  | invalidAddress4
  | invalidAddress6
  | invalidPort
deriving DecidableEq, Repr, Inhabited

/-- The text of a cause. -/
def Fault.message : Fault → String
  | relativeWithoutBase => "relative URL without a base"
  | emptyHost => "empty host"
  | invalidDomain => "invalid international domain name"
  | invalidHostCharacter => "invalid domain character"
  | invalidAddress4 => "invalid IPv4 address"
  | invalidAddress6 => "invalid IPv6 address"
  | invalidPort => "invalid port number"

/-- A host. -/
inductive Host where
  | empty
  | name (text : String)
  | address4 (a : Address4)
  | address6 (a : Address6)
deriving DecidableEq, Repr

/-- The written form of a host. -/
def Host.text : Host → String
  | empty => ""
  | name text => text
  | address4 a => a.text
  | address6 a => "[" ++ a.text ++ "]"

/-- What comes between the two slashes and the path. -/
structure Authority where
  user : String := ""
  password : Option String := none
  host : Host
  /-- None for the usual port of the scheme. -/
  port : Option Nat := none
deriving DecidableEq, Repr

/-- The written form of an authority. -/
def Authority.text (a : Authority) : String :=
  let password := (a.password.map (":" ++ ·)).getD ""
  let user := if a.user = "" ∧ a.password.isNone then "" else a.user ++ password ++ "@"
  user ++ a.host.text ++ (a.port.map fun n => ":" ++ toString n).getD ""

/-- A path. -/
inductive Route where
  | segments (l : List String)
  /-- A text without slash in front, below no authority. -/
  | plain (text : String)
deriving DecidableEq, Repr

/-- The written form of a path. -/
def Route.text : Route → String
  | segments l => String.join (l.map ("/" ++ ·))
  | plain text => text

end Url

/-- A URL. -/
structure Url where
  scheme : String
  authority : Option Url.Authority := none
  route : Url.Route
  query : Option String := none
  fragment : Option String := none
deriving DecidableEq, Repr

namespace Url

/-- The written form of the host. -/
def host? (u : Url) : Option String :=
  match u.authority with
  | some a => if a.host.text = "" then none else some a.host.text
  | none => none

/-- The port, if it is not the usual one of the scheme. -/
def port? (u : Url) : Option Nat := u.authority.bind (·.port)

/-- What stands for the authority. Without one, a path that starts with two slashes is kept from
being read as an authority. -/
def authorityText (u : Url) : String :=
  match u.authority with
  | some a => "//" ++ a.text
  | none => if Text.startsWith ['/', '/'] u.route.text.toList then "/." else ""

/-- The written form of a URL. -/
def text (u : Url) : String :=
  u.scheme ++ ":" ++ u.authorityText ++ u.route.text ++
    (u.query.map ("?" ++ ·)).getD "" ++ (u.fragment.map ("#" ++ ·)).getD ""

end Url

end HttpSuite
