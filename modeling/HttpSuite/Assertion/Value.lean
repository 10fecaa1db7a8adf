/-
HttpSuite/Assertion/Value.lean

The scalars on the two sides of an assertion and how they compare. Numbers are equal when they
differ by less than `2 ^ -52`; a string counts as the number that it writes when the other side is
a number or when the order is asked for.
-/
import HttpSuite.Number.Notation
import HttpSuite.Text.Blank
import HttpSuite.Text.Search

namespace HttpSuite.Assertion

/-- A scalar. -/
inductive Value where
  | number (x : Binary64)
  | string (s : String)
  | bool (b : Bool)
  | null
deriving DecidableEq, Repr, Inhabited

/-- Why an assertion cannot be read or carried out. -/
inductive Error where
  | invalidSyntax (detail : String)
  | invalidOperator (text : String)
  | pathNotFound (detail : String)
  | typeMismatch (expected actual : String)
  | extraction (detail : String)
deriving DecidableEq, Repr

/-- The text of a cause. -/
def Error.message : Error → String
  | invalidSyntax detail => "Invalid assertion syntax: " ++ detail
  | invalidOperator text => "Invalid operator: " ++ text
  | pathNotFound detail => "Path not found: " ++ detail
  | typeMismatch expected actual => "Type mismatch: expected " ++ expected ++ ", got " ++ actual
  | extraction detail => "Value extraction failed: " ++ detail

namespace Value

/-- The name of the kind of a scalar. -/
def kind : Value → String
  | number _ => "number"
  | string _ => "string"
  | bool _ => "boolean"
  | null => "null"

/-- The text of a scalar; a string is itself. -/
def text : Value → String
  | number x => NumberStyle.plain.render x
  | string s => s
  | bool b => if b then "true" else "false"
  | null => "null"

/-- The text of a scalar with quotes around a string. -/
def display : Value → String
  | string s => "\"" ++ s ++ "\""
  | v => v.text

/-- The number that a scalar is or writes. -/
def number? : Value → Option Binary64
  | number x => some x
  | string s => Binary64.ofText? (Text.trim s.toList)
  | _ => none

/-- The greatest difference of equal numbers, itself excluded. -/
def tolerance : Binary64 := Binary64.round false 1 (2 ^ 52)

/-- Whether two numbers are as good as equal. -/
def near (x y : Binary64) : Bool := ((x.sub y).abs).below tolerance

/-- Whether two scalars are equal. -/
def equal : Value → Value → Bool
  | string s, string t => s = t
  | bool b, bool c => b = c
  | null, null => true
  | v, w =>
    match v, w with
    | number _, _ | _, number _ =>
      match v.number?, w.number? with
      | some x, some y => near x y
      | _, _ => false
    | _, _ => false

/-- The error that a scalar is no number. -/
def notNumber (v : Value) : Error := .typeMismatch "number" v.kind

/-- The order of two scalars that are numbers. -/
def order (v w : Value) : Except Error Ordering :=
  match v.number? with
  | none => .error v.notNumber
  | some x =>
    match w.number? with
    | none => .error w.notNumber
    | some y =>
      match Binary64.compare? x y with
      | none => .error w.notNumber
      | some o => .ok o

end Value

/-- The operators. -/
inductive Operator where
  | equal
  | notEqual
  | greater
  | less
  | greaterOrEqual
  | lessOrEqual
  | contains
deriving DecidableEq, Repr, Inhabited

namespace Operator

/-- The operators, in the order in which they are listed here. -/
def all : List Operator :=
  [equal, notEqual, greaterOrEqual, lessOrEqual, greater, less, contains]

/-- The sign of an operator. -/
def text : Operator → String
  | equal => "=="
  | notEqual => "!="
  | greater => ">"
  | less => "<"
  | greaterOrEqual => ">="
  | lessOrEqual => "<="
  | contains => "contains"

/-- The operator of a sign. -/
def ofText (s : String) : Except Error Operator :=
  match all.find? (·.text = s) with
  | some o => .ok o
  | none => .error (.invalidOperator s)

/-- Whether an order answers an operator that asks for one. -/
def accepts : Operator → Ordering → Bool
  | greater, o => o = .gt
  | less, o => o = .lt
  | greaterOrEqual, o => o ≠ .lt
  | _, o => o ≠ .gt

/-- Whether an operator holds between the actual and the expected scalar. -/
def holds (o : Operator) (actual expected : Value) : Except Error Bool :=
  match o with
  | equal => .ok (actual.equal expected)
  | notEqual => .ok !(actual.equal expected)
  | contains =>
    match actual with
    | .string s => .ok (Text.contains expected.text.toList s.toList)
    | v => .error (.typeMismatch "string" v.kind)
  | o => (actual.order expected).map o.accepts

end Operator

end HttpSuite.Assertion
