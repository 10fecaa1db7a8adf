/-
HttpSuite/Http/Method.lean

The request methods. A method is written in capitals, and no other spelling is one.
-/

namespace HttpSuite

/-- A request method. -/
inductive Method where
  | get
  | post
  | put
  | delete
  | patch
  | head
  | options
  | connect
  | trace
deriving DecidableEq, Repr, Inhabited

namespace Method

/-- The methods, in the order in which they are listed here. -/
def all : List Method := [get, post, put, delete, patch, head, options, connect, trace]

/-- The written form of a method. -/
def text : Method → String
  | get => "GET"
  | post => "POST"
  | put => "PUT"
  | delete => "DELETE"
  | patch => "PATCH"
  | head => "HEAD"
  | options => "OPTIONS"
  | connect => "CONNECT"
  | trace => "TRACE"

/-- The method that a text writes. -/
def ofText? (s : String) : Option Method := all.find? (·.text = s)

theorem ofText?_text (m : Method) : ofText? m.text = some m := by
  cases m <;> decide

end Method

end HttpSuite
