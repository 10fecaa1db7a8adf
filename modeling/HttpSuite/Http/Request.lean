/-
HttpSuite/Http/Request.lean

A request that is ready to be sent.
-/
import HttpSuite.Http.Header
import HttpSuite.Http.Method
import HttpSuite.Http.Target

namespace HttpSuite

/-- A request. -/
structure Request where
  method : Method
  url : Url
  /-- In order, a name perhaps more than once. -/
  headers : Headers := []
  body : Option String := none

namespace Request

/-- A request without headers and body. -/
def ofTarget (method : Method) (target : String) : Except Error Request :=
  (Target.url target).map fun url => { method, url }

end Request

/-- The method that a text writes. -/
def Method.ofText (s : String) : Except Error Method :=
  match Method.ofText? s with
  | some m => .ok m
  | none => .error (.invalidMethod s)

end HttpSuite
