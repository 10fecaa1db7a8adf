/-
HttpSuite/Script/Value.lean

What scripts compute with: values, objects, scopes, and the frames in which a computation waits for
the value of a part of it. An object lies in a cell of the heap, or it is one that the script is
given from outside.
-/
import HttpSuite.Script.Syntax
import HttpSuite.Variables.ResponseRecord

namespace HttpSuite.Script

/-- Where an object is. -/
inductive Ref where
  | given (index : Nat)
  | cell (index : Nat)
deriving DecidableEq, Repr, Inhabited

/-- A value. -/
inductive Value where
  | undefined
  | null
  | bool (b : Bool)
  | number (x : Binary64)
  | string (s : String)
  | object (r : Ref)
deriving DecidableEq, Repr, Inhabited

namespace Value

/-- A whole number. -/
def ofInt (n : Int) : Value := number (Binary64.ofInt n)

/-- The text that is there, or the undefined value. -/
def ofText? : Option String → Value
  | some s => string s
  | none => undefined

/-- Whether a value is undefined or null. -/
def isNothing : Value → Bool
  | undefined | null => true
  | _ => false

end Value

/-- The kinds of errors. -/
inductive ErrorKind where
  | error
  | type
  | reference
  | range
  | syntaxError
  | eval
  | uri
deriving DecidableEq, Repr, Inhabited

namespace ErrorKind

/-- The kinds, in the order in which they are listed here. -/
def all : List ErrorKind := [error, type, reference, range, syntaxError, eval, uri]

/-- The name of a kind. -/
def name : ErrorKind → String
  | error => "Error"
  | type => "TypeError"
  | reference => "ReferenceError"
  | range => "RangeError"
  | syntaxError => "SyntaxError"
  | eval => "EvalError"
  | uri => "URIError"

end ErrorKind

/-- Why an operation has no value. -/
inductive Fault where
  /-- An error of a kind, with its message. -/
  | error (kind : ErrorKind) (message : String)
  /-- A value of the script. -/
  | value (v : Value)
deriving DecidableEq, Repr

/-! ### What a script asks for -/

/-- What a script asks of what is around it. The answer is a text or nothing. -/
inductive Request where
  | log (line : String)
  | readGlobal (name : String)
  | writeGlobal (name value : String)
  | removeGlobal (name : String)
  | clearGlobals
  | readVariable (name : String)
  | writeVariable (name value : String)
  /-- A promise that nobody waits for is rejected. -/
  | rejected (reason : String)
  /-- Somebody waits for a promise that was rejected before. -/
  | handled
deriving DecidableEq, Repr, Inhabited

/-! ### Functions of the library -/

/-- Functions on objects. -/
inductive ObjectFunction where
  | constructor
  | assign
  | create
  | entries
  | freeze
  | fromEntries
  | getOwnPropertyNames
  | getPrototypeOf
  | hasOwn
  | is
  | isExtensible
  | isFrozen
  | isClosed
  | keys
  | preventExtensions
  | close
  | values
  | hasOwnProperty
  | isPrototypeOf
  | toText
  | valueOf
deriving DecidableEq, Repr, Inhabited

/-- Functions on arrays. -/
inductive ArrayFunction where
  | constructor
  | fromList
  | isArray
  | of
  | at
  | concat
  | every
  | fill
  | filter
  | find
  | findIndex
  | findLast
  | findLastIndex
  | flat
  | flatMap
  | forEach
  | includes
  | indexOf
  | join
  | lastIndexOf
  | map
  | pop
  | push
  | reduce
  | reduceRight
  | reverse
  | shift
  | slice
  | some
  | sort
  | splice
  | toText
  | unshift
deriving DecidableEq, Repr, Inhabited

/-- Functions on texts. -/
inductive StringFunction where
  | constructor
  | fromCharCode
  | at
  | charAt
  | charCodeAt
  | codePointAt
  | concat
  | endsWith
  | includes
  | indexOf
  | lastIndexOf
  | padEnd
  | padStart
  | repeat
  | replace
  | replaceAll
  | slice
  | split
  | startsWith
  | substr
  | substring
  | toLowerCase
  | toText
  | toUpperCase
  | trim
  | trimEnd
  | trimStart
deriving DecidableEq, Repr, Inhabited

/-- Functions on numbers and truth values. -/
inductive NumberFunction where
  | constructor
  | isFinite
  | isInteger
  | isNaN
  | isSafeInteger
  | parseFloat
  | parseInt
  | globalIsFinite
  | globalIsNaN
  | toFixed
  | toText
  | valueOf
  | boolean
  | booleanToText
deriving DecidableEq, Repr, Inhabited

/-- Functions of mathematics. -/
inductive MathFunction where
  | abs
  | ceil
  | floor
  | max
  | min
  | pow
  | random
  | round
  | sign
  | sqrt
  | trunc
deriving DecidableEq, Repr, Inhabited

/-- What is made of the outcomes of several promises. -/
inductive Gathering where
  | all
  | allSettled
  | any
  | race
deriving DecidableEq, Repr, Inhabited

/-- Several promises of which one is made. -/
structure Several where
  gathering : Gathering
  /-- The promise that is made. -/
  made : Value
  /-- The functions that settle it. -/
  fulfil : Value
  reject : Value
  /-- The function that makes a promise of each of the values, and its receiver. -/
  promiseOf : Value
  receiver : Value
  /-- The cell of the array with the outcomes that have come in. -/
  outcomes : Nat
  /-- The cell that counts those that have not come in. -/
  missing : Nat
deriving DecidableEq, Repr, Inhabited

/-- Functions on promises. -/
inductive PromiseFunction where
  | constructor
  | gather (g : Gathering)
  | reject
  | resolve
  | then
  | catch
  | finally
  /-- Settles a promise, unless the flag in a cell is set. -/
  | settle (promise flag : Nat) (fulfils : Bool)
  /-- Keeps the functions that settle a promise in a cell. -/
  | keepSettlers (functions : Nat)
  /-- Takes in the outcome of one of several promises, unless the flag in a cell is set. -/
  | collect (s : Several) (index flag : Nat) (fulfilled : Bool)
  /-- Calls a function, waits for the promise that a constructor makes of what it gives, and goes on
  with the outcome from before. -/
  | passing (constructor : Option Value) (f : Value) (fulfilled : Bool)
  /-- Gives or throws a value. -/
  | constant (v : Value) (fulfilled : Bool)
deriving DecidableEq, Repr, Inhabited

/-- Functions on functions and errors, and those on texts of other formats. -/
inductive OtherFunction where
  | functionConstructor
  | call
  | apply
  | bind
  | functionToText
  | errorConstructor (kind : ErrorKind)
  | errorToText
  | jsonParse
  | jsonStringify
  | encodeComponent
  | decodeComponent
deriving DecidableEq, Repr, Inhabited

/-- Functions that speak for what is around the script. -/
inductive HostFunction where
  | log
  | test
  | assert
  | globalGet
  | globalSet
  | globalClear
  | globalClearAll
  | variableGet
  | variableSet
  | jsonPath
  | headerValue (headers : Headers)
  | headerValues (headers : Headers)
deriving DecidableEq, Repr, Inhabited

/-- A function of the library. -/
inductive Builtin where
  | object (f : ObjectFunction)
  | array (f : ArrayFunction)
  | string (f : StringFunction)
  | number (f : NumberFunction)
  | math (f : MathFunction)
  | promise (f : PromiseFunction)
  | other (f : OtherFunction)
  | host (f : HostFunction)
deriving DecidableEq, Repr, Inhabited

/-! ### Frames -/

/-- How a part of a computation ends early. -/
inductive Jump where
  | breakTo (label : Option String)
  | continueTo (label : Option String)
  | ret (v : Value)
  /-- The end of a chain whose object is not there. -/
  | endChain
deriving DecidableEq, Repr, Inhabited

/-- How a part of a computation ends. -/
inductive Completion where
  | normal (v : Value)
  | throw (v : Value)
  | jump (j : Jump)
deriving DecidableEq, Repr, Inhabited

/-- What is done with a list of values. -/
inductive Gathered where
  | array
  | call (f this : Value)
  | construct (f : Value)
  /-- Calls the parent of the class whose constructor runs in a scope. -/
  | superCall (scope : Nat)
deriving DecidableEq, Repr, Inhabited

/-- Where a value can be kept. -/
inductive Place where
  | name (x : String) (scope : Nat)
  | property (object : Value) (key : String)
deriving DecidableEq, Repr, Inhabited

/-- What is done with a place. -/
inductive PlaceUse where
  | assign (e : Expr)
  | assignBinary (op : BinaryOp) (e : Expr)
  | assignLogical (op : LogicalOp) (e : Expr)
  | update (step : Int) (old : Bool)
  | delete
  | put (v : Value)

/-- What names are given their values for. -/
inductive BindMode where
  /-- The names are new in their scope. -/
  | introduce
  | assign
deriving DecidableEq, Repr, Inhabited

/-- What a loop over values goes through: an array as it is at each step, or a list. -/
inductive Source where
  | live (array : Ref) (index : Nat)
  | list (l : List Value)
deriving DecidableEq, Repr, Inhabited

/-- A loop over values. -/
structure ForEach where
  head : LoopHead
  body : Stmt
  scope : Nat

/-- A counting loop. The names in `fresh` are new at each turn. -/
structure ForLoop where
  test : Option Expr
  update : Option Expr
  body : Stmt
  fresh : List String

/-- What is made of the results of a function on the elements of an array. -/
inductive Walk where
  | every
  | filter
  | find
  | findIndex
  | findLast
  | findLastIndex
  | flatMap
  | forEach
  | map
  | some
deriving DecidableEq, Repr, Inhabited

/-- How a promise is settled: by itself, when no script has its functions, or by these. -/
inductive Settler where
  | promise (p : Nat)
  | functions (fulfil reject : Value)
deriving DecidableEq, Repr, Inhabited

/-- What a promise is made for. -/
inductive PromiseUse where
  /-- For what the handlers of a promise give. -/
  | derive (p : Nat) (yes no : Value)
  /-- To be settled with a value. -/
  | settle (fulfils : Bool) (v : Value)
  /-- For the promises that a constructor makes of values. -/
  | gather (g : Gathering) (constructor values : Value)
deriving DecidableEq, Repr, Inhabited

/-- A computation that waits for a value. -/
inductive Frame where
  /-- An expression of a template. -/
  | template (before after : String) (rest : List TemplatePart) (scope : Nat)
  /-- An item of a list, spread or not; the values before it stand last first. -/
  | items (done : List (Option Value)) (spread : Bool) (rest : List Item) (scope : Nat)
      (next : Gathered)
  /-- The value of a field of an object that is made. -/
  | field (object : Nat) (key : String) (rest : List Member) (scope : Nat)
  /-- The key of the first member of an object that is made. -/
  | memberKey (object : Nat) (members : List Member) (scope : Nat)
  /-- The parent of an object that is made. -/
  | memberParent (object : Nat) (rest : List Member) (scope : Nat)
  /-- An object whose fields an object that is made takes over. -/
  | memberSpread (object : Nat) (rest : List Member) (scope : Nat)
  /-- The parent of a class. -/
  | classParent (c : ClassBody) (scope : Nat)
  /-- The key of the first method of a class. -/
  | methodKey (c : ClassBody) (made proto : Nat) (methods : List ClassMethod) (scope : Nat)
  | unary (op : UnaryOp)
  | binaryLeft (op : BinaryOp) (b : Expr) (scope : Nat)
  | binaryRight (op : BinaryOp) (a : Value)
  /-- The left operand, made primitive. -/
  | operandLeft (op : BinaryOp) (b : Value)
  /-- The right operand, made primitive. -/
  | operandRight (op : BinaryOp) (a : Value)
  | logical (op : LogicalOp) (b : Expr) (scope : Nat)
  | conditional (yes no : Expr) (scope : Nat)
  | propertyObject (key : Expr) (optional : Bool) (scope : Nat)
  | propertyKey (object : Value)
  | superKey (scope : Nat)
  | placeObject (key : Expr) (use : PlaceUse) (scope : Nat)
  | placeKey (object : Value) (use : PlaceUse) (scope : Nat)
  | write (place : Place)
  | writeBinary (op : BinaryOp) (place : Place) (old : Value)
  | writePattern (p : Pattern) (scope : Nat)
  | calleeObject (key : Expr) (optional : Bool) (args : List Item) (optionalCall : Bool)
      (scope : Nat)
  | calleeKey (object : Value) (args : List Item) (optionalCall : Bool) (scope : Nat)
  | superCalleeKey (args : List Item) (scope : Nat)
  | callee (args : List Item) (optionalCall : Bool) (scope : Nat)
  | newCallee (args : List Item) (scope : Nat)
  | chainEnd
  | await
  | second (b : Expr) (scope : Nat)
  /-- Gives another value in the stead of the one that comes. -/
  | give (v : Value)
  /-- Patterns that are still to be given their values. -/
  | bindings (mode : BindMode) (todo : List (Pattern × Value)) (scope : Nat)
  /-- The default of a pattern. -/
  | bindDefault (mode : BindMode) (p : Pattern) (todo : List (Pattern × Value)) (scope : Nat)
  /-- Tries the next way to make an object primitive. -/
  | convert (methods : List String) (object : Value)
  | statements (rest : List Stmt) (scope : Nat)
  | declare (kind : DeclarationKind) (p : Pattern) (rest : List Declarator) (scope : Nat)
  | ret
  | throwing
  | branch (yes : Stmt) (no : Option Stmt) (scope : Nat)
  | whileTest (test : Expr) (body : Stmt) (scope : Nat)
  | whileBody (test : Expr) (body : Stmt) (scope : Nat)
  | doBody (body : Stmt) (test : Expr) (scope : Nat)
  | doTest (body : Stmt) (test : Expr) (scope : Nat)
  | forInit (l : ForLoop) (scope : Nat)
  | forTest (l : ForLoop) (scope : Nat)
  | forBody (l : ForLoop) (scope : Nat)
  | forUpdate (l : ForLoop) (scope : Nat)
  | eachSource (l : ForEach) (keys : Bool)
  | eachBound (l : ForEach) (rest : Source) (inner : Nat)
  | eachBody (l : ForEach) (rest : Source)
  | labeled (label : String)
  | attempt (handler : Option Handler) (finalizer : Option (List Stmt)) (scope : Nat)
  | handling (finalizer : Option (List Stmt)) (scope : Nat)
  | finalizing (c : Completion)
  | switchValue (cases : List SwitchCase) (scope : Nat)
  | switchTest (v : Value) (all rest : List SwitchCase) (scope : Nat)
  | switchBody
  /-- The end of a function that gives what is returned. -/
  | call
  /-- The end of a constructor: what it returns if that is an object, else the object. -/
  | constructed (object : Value)
  /-- The end of a constructor that asks its parent for the object. -/
  | derived (scope : Nat)
  /-- What the parent made. -/
  | parentMade (scope : Nat)
  /-- The end of an asynchronous function. -/
  | asyncBody (promise : Nat)
  /-- The end of a handler of a promise. -/
  | jobResult (settler : Settler)
  /-- The end of a function that settles a promise unless a flag is set. -/
  | executor (promise flag : Nat)
  | walk (w : Walk) (f this : Value) (array : Value) (index count : Nat) (element : Value)
      (done : List Value)
  | fold (f array : Value) (rest : List (Nat × Value))
  /-- A comparison of an item with the last of the sorted ones, which stand last first. -/
  | sorting (f : Value) (array : Ref) (above : List Value) (item : Value) (sorted rest : List Value)
  | textOf
  /-- The argument at a place, which a function of the host takes as a text. -/
  | hostText (f : HostFunction) (args : List Value) (place : Nat)
  /-- The promise that a constructor makes, the functions that settle it kept in a cell. -/
  | promiseMade (functions : Nat) (use : PromiseUse)
  /-- A promise, the method `then` of which is called. -/
  | awaited (args : List Value)
  /-- The promise that is made of one of several values. -/
  | severalNext (s : Several) (index : Nat) (rest : List Value)
  /-- The end of a call of its method `then`. -/
  | several (s : Several) (index : Nat) (rest : List Value)
  /-- The end of the call that settles the promise for several ones. -/
  | severalEnd (s : Several)
  /-- A function that was called between an outcome and those who wait for it. -/
  | passed (constructor : Option Value) (v : Value) (fulfilled : Bool)

instance : Inhabited Frame := ⟨.ret⟩

/-! ### Objects -/

/-- A property of an object. -/
structure Slot where
  value : Value
  writable : Bool := true
  enumerable : Bool := true
  configurable : Bool := true
deriving DecidableEq, Repr, Inhabited

/-- Who waits for a promise. -/
inductive Reaction where
  /-- The handlers, and the promise for what they give. -/
  | call (onFulfilled onRejected : Value) (settler : Settler)
  /-- An asynchronous function that goes on. -/
  | resume (frames : List Frame)

instance : Inhabited Reaction := ⟨.resume []⟩

/-- Whether a promise is settled. -/
inductive PromiseState where
  | pending
  | fulfilled (v : Value)
  | rejected (reason : Value)
deriving DecidableEq, Repr, Inhabited

/-- A promise. -/
structure Promise where
  state : PromiseState := .pending
  /-- Who waits for it, the first one first. -/
  reactions : List Reaction := []
  /-- Whether somebody has ever waited for it. -/
  handled : Bool := false
deriving Inhabited

/-- A function of the script with what it refers to. -/
structure Closure where
  function : Function
  scope : Nat
  /-- The object whose parent `super` is. -/
  home : Option Ref := none
  /-- The function that sets the fields of new objects. -/
  fields : Option Value := none

/-- What an object is, its properties apart. -/
inductive Kind where
  | plain
  | error
  /-- An array with its elements, and whether they can be set. -/
  | array (items : Array (Option Value)) (writable : Bool)
  | closure (c : Closure)
  | builtin (b : Builtin)
  | bound (f this : Value) (args : List Value)
  | promise (p : Promise)
  | flag (set : Bool)
  | count (n : Nat)

instance : Inhabited Kind := ⟨.plain⟩

/-- An object. -/
structure Object where
  parent : Option Ref := none
  extensible : Bool := true
  /-- The properties in the order in which they were added. -/
  slots : List (String × Slot) := []
  kind : Kind := .plain
deriving Inhabited

/-! ### Scopes -/

/-- What a name stands for; nothing until it is initialised. -/
structure Binding where
  value : Option Value
  constant : Bool := false
deriving Inhabited

/-- The receiver of a function that runs. -/
structure Activation where
  /-- Nothing until the parent of a class has made the object. -/
  this : Option Value
  function : Option Ref
  /-- The class that an object is made for. -/
  target : Option Ref
deriving Inhabited

/-- The names of a piece of a script. -/
structure Scope where
  parent : Option Nat := none
  bindings : List (String × Binding) := []
  activation : Option Activation := none
deriving Inhabited

/-- What is to be done when nothing else runs. -/
inductive Job where
  | react (r : Reaction) (fulfilled : Bool) (v : Value)
  /-- Lets an object with a method `then` settle a promise. -/
  | follow (promise : Nat) (object method : Value)

instance : Inhabited Job := ⟨.react default true .undefined⟩

end HttpSuite.Script
