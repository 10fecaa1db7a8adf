/-
HttpSuite/Script/Library/Promise.lean

The functions on promises. A promise that is made of another one is made by the constructor of that
one, which a script may have written; where it is the constructor of the library, nobody else can have
the functions that settle the promise, and it is settled without them.
-/
import HttpSuite.Script.Library.Array

namespace HttpSuite.Script

/-! ### Constructors -/

/-- The constructor that makes promises of others. -/
inductive Species where
  /-- The one of the library. -/
  | library
  | constructor (f : Value)
  /-- The property `constructor` has a value that is no object. -/
  | noObject
  /-- The object that is asked for a constructor makes no objects. -/
  | noConstructor (f : Value)
deriving DecidableEq, Repr, Inhabited

namespace Heap

/-- Whether a function of the library makes objects. -/
def makesObjects : Builtin → Bool
  | .object .constructor | .array .constructor | .string .constructor | .number .constructor
  | .number .boolean | .promise .constructor | .other .functionConstructor
  | .other (.errorConstructor _) => true
  | _ => false

/-- Whether an object makes objects; a bound function does if the function behind it does. -/
def isMaker (h : Heap) : (fuel : Nat) → Ref → Bool
  | 0, _ => false
  | fuel + 1, r =>
    match (h.object r).kind with
    | .closure c =>
      match c.function.kind with
      | .ordinary | .baseConstructor | .derivedConstructor => !c.function.isAsync
      | .arrow | .method => false
    | .builtin b => makesObjects b
    | .bound (.object g) _ _ => h.isMaker fuel g
    | _ => false

/-- Whether an object names itself as the constructor of what is made of its objects. The constructors
of promises and arrays do, and all that inherit from them. -/
def namesItself (h : Heap) : (fuel : Nat) → Ref → Bool
  | 0, _ => false
  | fuel + 1, r =>
    match (h.object r).kind with
    | .builtin (.promise .constructor) | .builtin (.array .constructor) => true
    | _ => ((h.object r).parent.map (h.namesItself fuel)).getD false

/-- The constructor that makes promises of a value. -/
def species (h : Heap) (v : Value) : Species :=
  if !v.isObject then .noObject
  else
    match h.get v "constructor" with
    | .undefined => .library
    | .object r =>
      if h.isBuiltin (.object r) (.promise .constructor) then .library
      else if !h.namesItself h.size r then .library
      else if h.isMaker h.size r then .constructor (.object r)
      else .noConstructor (.object r)
    | _ => .noObject

/-- A constructor that is asked for by name; nothing stands for the one of the library. -/
def constructorOf (h : Heap) (c : Value) : Option Value :=
  if h.isBuiltin c (.promise .constructor) then none else some c

end Heap

namespace Engine

/-- A promise as a value. -/
def promiseValue (p : Nat) : Value := .object (.cell p)

/-- Goes on with the constructor that makes promises of a value. -/
def withSpecies (m : Engine) (v : Value) (next : Option Value → Engine) : Engine :=
  match m.heap.species v with
  | .library => next none
  | .constructor c => next (some c)
  | .noObject => m.raise .type "not an object"
  | .noConstructor c => m.notConstructor c

/-- Calls the method `then` that a value has, which a script may have put in the stead of the one of
the library. -/
def callThen (m : Engine) (v : Value) (args : List Value) : Engine :=
  if v.isNothing then m.readProperty v "then" else m.call (m.heap.get v "then") v args

/-! ### Several promises -/

/-- Takes down that one outcome less is missing, and says whether this was the last one. -/
def countDown (m : Engine) (missing : Nat) : Bool × Engine :=
  match (m.heap.object (.cell missing)).kind with
  | .count n =>
    (n = 1,
      { m with heap := m.heap.modify (.cell missing) fun o => { o with kind := .count (n - 1) } })
  | _ => (false, m)

/-- Takes down that one outcome more is missing. -/
def countUp (m : Engine) (missing : Nat) : Engine :=
  match (m.heap.object (.cell missing)).kind with
  | .count n =>
    { m with heap := m.heap.modify (.cell missing) fun o => { o with kind := .count (n + 1) } }
  | _ => m

/-- Puts an outcome at its place. -/
def putOutcome (m : Engine) (s : Several) (index : Nat) (v : Value) : Engine :=
  { m with heap := m.heap.modify (.cell s.outcomes) (·.put (toString index) v) }

/-- An outcome has come in, or the list has come to its end; after the last one the promise is
settled. -/
def arrive (m : Engine) (s : Several) : Engine :=
  let (complete, m) := m.countDown s.missing
  let outcomes := promiseValue s.outcomes
  if !complete then m.finish
  else
    match s.gathering with
    | .any =>
      let (e, heap) := m.heap.make
        { parent := some (Library.errors .error)
          slots := [("name", ⟨.string "AggregateError", true, false, true⟩),
            ("errors", ⟨outcomes, true, false, true⟩)]
          kind := .error }
      ({ m with heap }.push (.give .undefined)).call s.reject .undefined [e]
    | _ => (m.push (.give .undefined)).call s.fulfil .undefined [outcomes]

/-- Takes in the outcome of one of several promises. -/
def collectOutcome (m : Engine) (s : Several) (index : Nat) (fulfilled : Bool) (v : Value) :
    Engine :=
  match s.gathering with
  | .allSettled =>
    let fields :=
      if fulfilled then [("status", Value.string "fulfilled"), ("value", v)]
      else [("status", Value.string "rejected"), ("reason", v)]
    let (o, heap) := m.heap.makePlain fields
    ({ m with heap }.putOutcome s index o).arrive s
  | _ => (m.putOutcome s index v).arrive s

/-- Makes a promise of the next of several values. -/
def gatherOn (m : Engine) (s : Several) (index : Nat) : List Value → Engine
  | v :: rest => (m.push (.severalNext s index rest)).call s.promiseOf s.receiver [v]
  | [] =>
    match s.gathering with
    | .race => m.give s.made
    | _ => (m.push (.severalEnd s)).arrive s

/-- Waits for one of several promises with handlers. -/
def waitNext (m : Engine) (s : Several) (index : Nat) (rest : List Value) (q yes no : Value) :
    Engine :=
  ((m.countUp s.missing).push (.several s (index + 1) rest)).callThen q [yes, no]

/-- Waits for one of several promises: with functions that take its outcome in, or with those that
settle the promise for all of them. -/
def gatherNext (m : Engine) (s : Several) (index : Nat) (rest : List Value) (q : Value) :
    Engine :=
  let (flag, m) := m.makeFlag
  match s.gathering with
  | .race => m.waitNext s index rest q s.fulfil s.reject
  | .all =>
    let (yes, heap) := m.heap.makeBuiltin "" (.promise (.collect s index flag true))
    { m with heap }.waitNext s index rest q yes s.reject
  | .any =>
    let (no, heap) := m.heap.makeBuiltin "" (.promise (.collect s index flag false))
    ({ m with heap }.putOutcome s index .undefined).waitNext s index rest q s.fulfil no
  | .allSettled =>
    let (yes, heap) := m.heap.makeBuiltin "" (.promise (.collect s index flag true))
    let (no, heap) := heap.makeBuiltin "" (.promise (.collect s index flag false))
    { m with heap }.waitNext s index rest q yes no

/-- Makes promises of the values of a list. -/
def gatherAll (m : Engine) (s : Several) (values : Value) : Engine :=
  if m.heap.isCallable s.promiseOf then
    match m.listOf values with
    | .ok l => m.gatherOn s 0 l
    | .error fault => (m.push (.severalEnd s)).fail fault
  else (m.push (.severalEnd s)).raise .type "not a function"

/-- Makes one promise of several values, each of which is made a promise by the constructor. -/
def gather (m : Engine) (g : Gathering) (constructor values made fulfil reject : Value) : Engine :=
  let (outcomes, heap) := m.heap.allocate { parent := some Library.arrays, kind := .array #[] true }
  let (missing, heap) := heap.allocate { kind := .count 1 }
  { m with heap }.gatherAll
    { gathering := g, made, fulfil, reject, promiseOf := heap.get constructor "resolve"
      receiver := constructor, outcomes, missing }
    values

/-! ### New promises -/

/-- Goes on with a promise and with what settles it. -/
def usePromise (m : Engine) (use : PromiseUse) (made : Value) (settler : Settler) : Engine :=
  match use with
  | .derive p yes no => (m.push (.give made)).waitFor p (.call yes no settler)
  | .settle fulfils v => (m.push (.give made)).settleBy settler fulfils v
  | .gather g constructor values =>
    match settler with
    | .promise p =>
      let (fulfil, reject, _, m) := m.makeSettlers p
      m.gather g constructor values made fulfil reject
    | .functions fulfil reject => m.gather g constructor values made fulfil reject

/-- Has a promise made. A constructor of the script is given a function that keeps the two functions
with which it hands the promise out. -/
def newPromise (m : Engine) (constructor : Option Value) (use : PromiseUse) : Engine :=
  match constructor with
  | none =>
    let (p, m) := m.makePromise
    m.usePromise use (promiseValue p) (.promise p)
  | some c =>
    let (functions, heap) := m.heap.allocate {}
    let (executor, heap) := heap.makeBuiltin "" (.promise (.keepSettlers functions))
    { m with
      heap, stack := .promiseMade functions use :: m.stack, control := .construct c [executor] c }

/-- Keeps the functions that settle a promise; they can be kept once. -/
def keepSettlers (m : Engine) (functions : Nat) (fulfil reject : Value) : Engine :=
  let keep (m : Engine) (key : String) (v : Value) (next : Engine → Engine) : Engine :=
    if m.heap.get (promiseValue functions) key = .undefined then
      next { m with heap := m.heap.modify (.cell functions) (·.put key v) }
    else m.raise .type "resolving function already set"
  keep m "fulfil" fulfil (keep · "reject" reject (·.finish))

/-- Goes on with a promise that a constructor of the script has made. -/
def takePromise (m : Engine) (functions : Nat) (use : PromiseUse) (made : Value) : Engine :=
  let fulfil := m.heap.get (promiseValue functions) "fulfil"
  let reject := m.heap.get (promiseValue functions) "reject"
  if m.heap.isCallable fulfil && m.heap.isCallable reject then
    m.usePromise use made (.functions fulfil reject)
  else m.raise .type "not a function"

/-- Lets handlers wait for a promise and ends with the promise for what they give. -/
def chain (m : Engine) (p : Nat) (yes no : Value) : Engine :=
  m.withSpecies (promiseValue p) (m.newPromise · (.derive p yes no))

/-- Makes a promise of a value, unless the value is one that the constructor has made. -/
def resolveIn (m : Engine) (constructor : Option Value) (v : Value) : Engine :=
  if (m.heap.promise? v).isSome && m.isConstructor constructor (m.heap.get v "constructor") then
    m.give v
  else m.newPromise constructor (.settle true v)

/-- Makes a promise for a class and hands out the functions that settle it. -/
def constructPromise (m : Engine) (executor target : Value) : Engine :=
  if m.heap.isCallable executor then
    let (p, m) := m.makePromiseUnder (m.prototypeOf target Library.promises)
    let (yes, no, flag, m) := m.makeSettlers p
    let m := (m.push (.give (promiseValue p))).push (.executor p flag)
    m.call executor .undefined [yes, no]
  else m.raise .type "not a function"

/-! ### Calls -/

/-- Calls a function on promises. -/
def callPromise (m : Engine) (f : PromiseFunction) (this : Value) (args : List Value) :
    Engine :=
  let first := argument args 0
  let onPromise (next : Nat → Engine) : Engine :=
    match m.heap.promise? this with
    | some (p, _) => next p
    | none => m.raise .type "Promise object expected"
  let onConstructor (next : Option Value → Engine) : Engine :=
    if this.isObject then next (m.heap.constructorOf this) else m.raise .type "not an object"
  match f with
  | .constructor => m.raise .type "must be called with new"
  | .gather g => onConstructor (m.newPromise · (.gather g this first))
  | .resolve => onConstructor (m.resolveIn · first)
  | .reject => onConstructor (m.newPromise · (.settle false first))
  | .then => onPromise fun p => m.chain p first (argument args 1)
  | .catch => m.callThen this [.undefined, first]
  | .finally =>
    m.withSpecies this fun constructor =>
      if m.heap.isCallable first then
        let (yes, heap) := m.heap.makeBuiltin "" (.promise (.passing constructor first true))
        let (no, heap) := heap.makeBuiltin "" (.promise (.passing constructor first false))
        { m with heap }.callThen this [yes, no]
      else m.callThen this [first, first]
  | .settle p flag fulfils =>
    if m.isSet flag then m.finish
    else if fulfils then (m.setFlag flag).resolve p first
    else (m.setFlag flag).reject p first
  | .keepSettlers functions => m.keepSettlers functions first (argument args 1)
  | .collect s index flag fulfilled =>
    if m.isSet flag then m.finish
    else (m.setFlag flag).collectOutcome s index fulfilled first
  | .passing constructor f fulfilled =>
    (m.push (.passed constructor first fulfilled)).call f .undefined []
  | .constant v fulfilled => if fulfilled then m.give v else m.throwValue v

/-- Goes on with an outcome after the function between has given a value. -/
def passOn (m : Engine) (constructor : Option Value) (outcome : Value) (fulfilled : Bool)
    (v : Value) : Engine :=
  let (next, heap) := m.heap.makeBuiltin "" (.promise (.constant outcome fulfilled))
  ({ m with heap }.push (.awaited [next])).resolveIn constructor v

end Engine

end HttpSuite.Script
