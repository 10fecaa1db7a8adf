/-
HttpSuite/Http/Response.lean

A response and how long it took.
-/
import HttpSuite.Error
import HttpSuite.Http.Status
import HttpSuite.Variables.ResponseRecord

namespace HttpSuite

/-- A response. -/
structure Response where
  status : Status
  headers : Headers
  body : String
  /-- Milliseconds from the request to the response. -/
  duration : Nat
deriving Repr

namespace Response

/-- The response with a status code, if there is such a code. -/
def ofCode (code : Nat) (headers : Headers) (body : String) (duration : Nat) :
    Except Error Response :=
  match Status.ofNat? code with
  | some status => .ok { status, headers, body, duration }
  | none => .error (.invalidStatus code)

/-- The reason phrase of the status. -/
def statusText (r : Response) : String := r.status.phrase

/-- What is kept of the response for references and scripts. -/
def record (r : Response) : ResponseRecord :=
  ResponseRecord.ofRaw r.status.code r.statusText r.headers r.body

end Response

end HttpSuite
