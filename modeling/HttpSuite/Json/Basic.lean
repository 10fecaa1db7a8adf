/-
HttpSuite/Json/Basic.lean

JSON values. An object is a list of members in the order in which they are written; an object that
is read from a text has its members in ascending order of their names, one member a name
(`Json.ofMembers`). The views `get?`, `item?`, `children` and `descendants` are what paths are
made of.
-/
import HttpSuite.Number.Binary64
import HttpSuite.Table

namespace HttpSuite

/-- A JSON number: whole numbers of 64 bits are kept as they are. -/
inductive JsonNumber where
  | whole (n : Int)
  | real (x : Binary64)
deriving DecidableEq, Repr, Inhabited

/-- The number of the binary64 format nearest to a JSON number. -/
def JsonNumber.toBinary64 : JsonNumber → Binary64
  | whole n => Binary64.ofInt n
  | real x => x

/-- A JSON value. -/
inductive Json where
  | null
  | bool (b : Bool)
  | number (n : JsonNumber)
  | string (s : String)
  | array (items : List Json)
  | object (members : List (String × Json))
deriving Repr, Inhabited

namespace Json

/-- A whole number. -/
def ofNat (n : Nat) : Json := number (.whole n)

/-- The object of a list of members, in ascending order; the last of equal names stays. -/
def ofMembers (members : List (String × Json)) : Json :=
  object (Table.ofList members).entries

/-- The value of a member. -/
def get? : Json → String → Option Json
  | object members, key => Table.find? key members
  | _, _ => none

/-- The item of an array at an index; a negative index counts from the end. -/
def item? : Json → Int → Option Json
  | array items, .ofNat n => items[n]?
  | array items, .negSucc n => if n < items.length then items[items.length - (n + 1)]? else none
  | _, _ => none

/-- The values directly inside a value, in order. -/
def children : Json → List Json
  | array items => items
  | object members => members.map (·.2)
  | _ => []

mutual

/-- A value, then everything inside it, each before what is inside of it. -/
def descendants : Json → List Json
  | array items => array items :: descendantsOfItems items
  | object members => object members :: descendantsOfMembers members
  | v => [v]

/-- The descendants of a list of items. -/
def descendantsOfItems : List Json → List Json
  | [] => []
  | v :: rest => descendants v ++ descendantsOfItems rest

/-- The descendants of the values of a list of members. -/
def descendantsOfMembers : List (String × Json) → List Json
  | [] => []
  | (_, v) :: rest => descendants v ++ descendantsOfMembers rest

end

end Json

end HttpSuite
