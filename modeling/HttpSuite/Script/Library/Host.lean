/-
HttpSuite/Script/Library/Host.lean

The functions that speak for what is around the script: the log, the tests, the stores and the
response. They check how many arguments they are given, and what they change or read outside is a
request.
-/
import HttpSuite.Script.Library.Array
import HttpSuite.Json.Reader

namespace HttpSuite.Script

namespace Engine

/-- Goes on when there are enough arguments. -/
def needing (m : Engine) (args : List Value) (count : Nat)
    (next : Engine) : Engine :=
  if args.length < count then
    m.raise .type ("Error calling function with " ++ toString args.length ++
      " argument(s) while " ++ toString count ++ " where expected")
  else next

/-- The texts of values in a log. -/
def shownAll (h : Heap) : List Value → Except Fault (List String)
  | [] => .ok []
  | v :: rest => do
    let s ← h.shown v
    pure (s :: (← shownAll h rest))

/-- Ends with what an expression selects from a JSON value. -/
def selectFrom (m : Engine) (v : Json) (path : String) : Engine :=
  match JsonPath.first v path with
  | some found => m.giveNew (m.heap.ofDatum (Datum.ofJson found))
  | none => m.finish

/-- Ends with what an expression selects from a value. A text is read as JSON when it is a JSON
text. -/
def selectPath (m : Engine) (v : Value) (path : String) : Engine :=
  match v with
  | .string s => m.selectFrom ((Json.parse? s.toList).getD (.string s)) path
  | v =>
    match m.heap.jsonText? "" v with
    | .error fault => m.fail fault
    | .ok none => m.finish
    | .ok (some t) =>
      match Json.parse? t.toList with
      | some j => m.selectFrom j path
      | none => m.raise .error "recursion limit exceeded"

/-- How many arguments a function asks for. -/
def leastArguments : HostFunction → Nat
  | .test | .globalSet | .variableSet | .jsonPath => 2
  | .assert | .globalGet | .globalClear | .variableGet | .headerValue _ | .headerValues _ => 1
  | .log | .globalClearAll => 0

/-- The place of the argument that a function takes as a text. -/
def textPlace? : HostFunction → Option Nat
  | .log | .globalClearAll => none
  | .assert | .jsonPath => some 1
  | _ => some 0

/-- Does what a function that speaks for what is around the script is for. -/
def actHost (m : Engine) (f : HostFunction) (args : List Value) : Engine :=
  let first := argument args 0
  let second := argument args 1
  match f with
  | .log =>
    match shownAll m.heap args with
    | .ok l => m.ask (.log (String.intercalate " " l))
    | .error fault => m.fail fault
  | .test =>
    if m.heap.isCallable second then { m with control := .test (m.heap.text first) second }
    else
      m.raise .type ("Error converting from js '" ++ m.heap.typeName second ++
        "' into type 'function'")
  | .assert =>
    if first.truthy then m.finish
    else
      match args.tail with
      | v :: _ => m.raise .error (m.heap.text v)
      | [] => m.raise .error "Assertion failed"
  | .globalGet => m.ask (.readGlobal (m.heap.text first))
  | .globalSet =>
    match m.heap.shown second with
    | .ok s => m.ask (.writeGlobal (m.heap.text first) s)
    | .error fault => m.fail fault
  | .globalClear => m.ask (.removeGlobal (m.heap.text first))
  | .globalClearAll => m.ask .clearGlobals
  | .variableGet => m.ask (.readVariable (m.heap.text first))
  | .variableSet =>
    match m.heap.shown second with
    | .ok s => m.ask (.writeVariable (m.heap.text first) s)
    | .error fault => m.fail fault
  | .jsonPath => m.selectPath first (m.heap.text second)
  | .headerValue headers => m.give (.ofText? (headers.find? (m.heap.text first)))
  | .headerValues headers => m.giveArray ((headers.findAll (m.heap.text first)).map .string)

/-- Goes on with the arguments of a function, the one that is taken as a text made primitive. -/
def withTexts (m : Engine) (f : HostFunction) (args : List Value) : Engine :=
  match textPlace? f with
  | none => m.actHost f args
  | some i =>
    match args[i]? with
    | none => m.actHost f args
    | some v =>
      m.withPrimitive v (Heap.methodOrder true) (.hostText f args i) fun p =>
        m.actHost f (args.set i p)

/-- Calls a function that speaks for what is around the script. -/
def callHost (m : Engine) (f : HostFunction) (args : List Value) : Engine :=
  m.needing args (leastArguments f) (m.withTexts f args)

end Engine

end HttpSuite.Script
