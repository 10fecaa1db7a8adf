/-
HttpSuite/Script/Trial.lean

The tests of a script. A test runs its function as a script of its own: the frames that wait for its
end are laid aside, so that nothing that its function does can reach them, and are put back when it
has ended. Tests can lie within one another.

When the function gives a promise, a handler is attached to the promise by the method `catch` that the
promise has, and then the jobs that wait are run until it is settled or none is left.
-/
import HttpSuite.Script.Machine

namespace HttpSuite.Script

/-- What a test is at. -/
inductive Phase where
  /-- Its function runs. -/
  | body
  /-- Its function gave a promise, for which a handler has been made. -/
  | promised (promise : Nat) (handler : Value)
  /-- The handler is attached to the promise. -/
  | attaching (promise : Nat)
  /-- Jobs run until the promise is settled. -/
  | waiting (promise : Nat)
deriving DecidableEq, Repr, Inhabited

/-- A test that runs. -/
structure Trial where
  name : String
  phase : Phase := .body
  /-- The frames that wait for its end. -/
  below : List Frame := []
deriving Inhabited

/-- How a test ends. -/
inductive TestEnd where
  /-- Its function gave a value that is no promise. -/
  | gave
  /-- Its function threw a value, which is described. -/
  | threw (message : String)
  | fulfilled
  /-- The promise was rejected for a reason, which is described. -/
  | rejected (message : String)
  /-- No job is left, and the promise is not settled. -/
  | unsettled
  /-- No handler could be attached to the promise. -/
  | refused (message : String)
deriving DecidableEq, Repr, Inhabited

/-- Why a test that ends so has failed. -/
def TestEnd.failure? : TestEnd → Option String
  | .gave | .fulfilled => none
  | .threw message | .rejected message | .refused message => some message
  | .unsettled => some "Error: async test did not settle"

/-- A script that runs, with the tests that it is in, the innermost one first. -/
structure Process where
  engine : Engine
  trials : List Trial := []

/-- What a script does next. -/
inductive Turn where
  | go (p : Process)
  /-- It asks what is around it. -/
  | ask (q : Request)
  /-- The innermost test ends. -/
  | ended (name : String) (e : TestEnd) (p : Process)
  /-- It is over, with a thrown value or without one. -/
  | finished (thrown : Option Value)

namespace Process

/-- How many tests may lie within one another. This stands for the size of the stack of the engine that
scripts are run by: there each test lies on the stack with the calls that lead to it, and here the
frames are laid aside, so that they are counted by tests. -/
def maxNesting : Nat := 1000

/-- Lays the frames aside and calls the function of a test. -/
def openTest (p : Process) (name : String) (f : Value) : Process :=
  let m := { p.engine with stack := [] }
  { engine :=
      if p.trials.length < maxNesting then m.call f .undefined []
      else m.raise .range "Maximum call stack size exceeded"
    trials := { name, below := p.engine.stack } :: p.trials }

/-- Puts the frames back that waited for a test; what the test came to is not told to them. -/
def endTest (m : Engine) (t : Trial) (trials : List Trial) (e : TestEnd) :
    Turn :=
  .ended t.name e { engine := { m with stack := t.below }.finish, trials }

/-- Makes a handler that does nothing, for the promise that the function of a test gave. -/
def promise (m : Engine) (t : Trial) (trials : List Trial) (p : Nat) : Turn :=
  let (handler, heap) := m.heap.makeBuiltin "" (.promise (.constant .undefined true))
  .go { engine := { m with heap }, trials := { t with phase := .promised p handler } :: trials }

/-- Attaches the handler to the promise of a test by the method `catch` that the promise has. -/
def attach (m : Engine) (t : Trial) (trials : List Trial) (p : Nat) (handler : Value) :
    Turn :=
  let method := m.heap.get (Engine.promiseValue p) "catch"
  if m.heap.isCallable method then
    .go { engine := m.call method (Engine.promiseValue p) [handler]
          trials := { t with phase := .attaching p } :: trials }
  else
    endTest m t trials (.refused ("Error converting from js '" ++ m.heap.typeName method ++
      "' into type 'function'"))

/-- Waits for the promise of a test. -/
def await (m : Engine) (t : Trial) (trials : List Trial) (p : Nat) : Turn :=
  match (m.promise p).state with
  | .fulfilled _ => endTest m t trials .fulfilled
  | .rejected v => endTest m t trials (.rejected (m.heap.described v))
  | .pending =>
    match m.jobs with
    | [] => endTest m t trials .unsettled
    | j :: rest =>
      .go { engine := { m with jobs := rest }.startJob j
            trials := { t with phase := .waiting p } :: trials }

/-- Goes on with a test for which nothing runs at the moment. -/
def goOn (m : Engine) (t : Trial) (trials : List Trial) (c : Completion) :
    Turn :=
  match t.phase, c with
  | .body, .throw v => endTest m t trials (.threw (m.heap.described v))
  | .body, .normal v =>
    match m.heap.promise? v with
    | some (p, _) => promise m t trials p
    | none => endTest m t trials .gave
  | .body, .jump _ => endTest m t trials .gave
  | .promised p handler, _ => attach m t trials p handler
  | .attaching _, .throw v => endTest m t trials (.refused (m.heap.described v))
  | .attaching p, _ => await m t trials p
  | .waiting p, _ => await m t trials p

/-- The next turn of a script. -/
def turn (p : Process) : Turn :=
  match p.engine.control with
  | .ask q => .ask q
  | .test name f => .go (p.openTest name f)
  | .done c =>
    match p.engine.stack, p.trials with
    | [], t :: rest => goOn p.engine t rest c
    | [], [] =>
      match p.engine.outcome? with
      | some thrown => .finished thrown
      | none => .go { p with engine := p.engine.step }
    | _ :: _, _ => .go { p with engine := p.engine.step }
  | _ => .go { p with engine := p.engine.step }

/-- Goes on with an answer. -/
def answered (p : Process) (a : Option String) : Process :=
  { p with engine := p.engine.give (.ofText? a) }

end Process

end HttpSuite.Script
