/-
HttpSuite/Http/Header.lean

Which headers can be sent. A name is a token, whose letters count as small ones; a value holds no
control characters but tabs. The first header that cannot be sent decides the error, and its name is
looked at before its value.
-/
import HttpSuite.Error
import HttpSuite.Variables.ResponseRecord

namespace HttpSuite

namespace Header

/-- A character of a name. -/
def isNameChar (c : Char) : Bool :=
  Ascii.isLetter c || Ascii.isDigit c || "!#$%&'*+-.^_\u0060|~".toList.contains c

/-- Whether a text is a name. -/
def isName (s : List Char) : Bool := !s.isEmpty && s.all isNameChar

/-- A character of a value. -/
def isValueChar (c : Char) : Bool := c == '\t' || (0x20 ≤ c.toNat && c.toNat != 0x7F)

/-- Whether a text is a value. -/
def isValue (s : List Char) : Bool := s.all isValueChar

/-- A header as it is sent. -/
def checked (h : String × String) : Except Error (String × String) :=
  if !isName h.1.toList then .error (.invalidHeaderName h.1)
  else if !isValue h.2.toList then .error (.invalidHeaderValue h.1 h.2)
  else .ok (String.ofList (Ascii.lower h.1.toList), h.2)

end Header

/-- The headers as they are sent, in order. -/
def Headers.checked (headers : Headers) : Except Error Headers := headers.mapM Header.checked

/-- The headers in ascending order of their names, those of one name in the order in which they
stand. -/
def Headers.sorted (headers : Headers) : Headers := headers.mergeSort fun a b => a.1 ≤ b.1

end HttpSuite
