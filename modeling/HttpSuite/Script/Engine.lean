/-
HttpSuite/Script/Engine.lean

The state of a script that runs: its heap, its scopes, the jobs that wait, and a stack of frames
over what is computed at the moment. Names, functions and promises are here; what an expression or a
statement does is in `Evaluate`, and what a frame does with the value that it waited for in
`Resume`.
-/
import HttpSuite.Script.Convert

namespace HttpSuite.Script

/-- What is computed at the moment. -/
inductive Control where
  | eval (e : Expr) (scope : Nat)
  | exec (s : Stmt) (scope : Nat)
  | call (f this : Value) (args : List Value)
  /-- Makes an object for the class `target`. -/
  | construct (f : Value) (args : List Value) (target : Value)
  | done (c : Completion)
  /-- Waits for an answer from outside. -/
  | ask (q : Request)
  /-- Waits for the end of a test, which is run outside. -/
  | test (name : String) (f : Value)

instance : Inhabited Control := ⟨.done default⟩

/-- The state of a script that runs. -/
structure Engine where
  heap : Heap := {}
  scopes : Array Scope := #[]
  /-- The jobs that wait, the first one first. -/
  jobs : List Job := []
  /-- The frames that wait, the innermost one first. -/
  stack : List Frame := []
  control : Control := default
  /-- Whether the script has come to its end, so that only its jobs run. -/
  working : Bool := false
deriving Inhabited

namespace Engine

/-! ### Results -/

/-- Ends with a value. -/
def give (m : Engine) (v : Value) : Engine :=
  { m with control := .done (.normal v) }

/-- Ends with the undefined value. -/
def finish (m : Engine) : Engine := m.give .undefined

/-- Throws a value. -/
def throwValue (m : Engine) (v : Value) : Engine :=
  { m with control := .done (.throw v) }

/-- Throws a new error. -/
def raise (m : Engine) (kind : ErrorKind) (message : String) : Engine :=
  let (v, heap) := m.heap.makeError kind message
  { m with heap }.throwValue v

/-- Throws what a fault stands for. -/
def fail (m : Engine) : Fault → Engine
  | .error kind message => m.raise kind message
  | .value v => m.throwValue v

/-- Jumps. -/
def jump (m : Engine) (j : Jump) : Engine :=
  { m with control := .done (.jump j) }

/-- Lets a frame wait. -/
def push (m : Engine) (f : Frame) : Engine :=
  { m with stack := f :: m.stack }

/-- Evaluates an expression for a frame. -/
def evalFor (m : Engine) (f : Frame) (e : Expr) (scope : Nat) : Engine :=
  { m with stack := f :: m.stack, control := .eval e scope }

/-- Runs a statement for a frame. -/
def execFor (m : Engine) (f : Frame) (s : Stmt) (scope : Nat) : Engine :=
  { m with stack := f :: m.stack, control := .exec s scope }

/-- Calls a function. -/
def call (m : Engine) (f this : Value) (args : List Value) : Engine :=
  { m with control := .call f this args }

/-- Asks what is around the script. -/
def ask (m : Engine) (q : Request) : Engine := { m with control := .ask q }

/-- Ends with a new object. -/
def giveNew (m : Engine) (made : Value × Heap) : Engine :=
  { m with heap := made.2 }.give made.1

/-- Goes on with the heap of an operation, or throws its fault. -/
def withHeap (m : Engine) (r : Except Fault Heap)
    (next : Engine → Engine) : Engine :=
  match r with
  | .ok heap => next { m with heap }
  | .error f => m.fail f

/-! ### Scopes -/

/-- A new scope. -/
def addScope (m : Engine) (s : Scope) : Nat × Engine :=
  (m.scopes.size, { m with scopes := m.scopes.push s })

/-- The scope of a name and what the name stands for in it. -/
def find? (scopes : Array Scope) (x : String) : (fuel : Nat) → Nat → Option (Nat × Binding)
  | 0, _ => none
  | fuel + 1, i =>
    match scopes[i]? with
    | none => none
    | some s =>
      match Table.find? x s.bindings with
      | some b => some (i, b)
      | none => s.parent.bind (find? scopes x fuel)

/-- The scope of the function that runs, with its activation. -/
def activation? (scopes : Array Scope) : (fuel : Nat) → Nat → Option (Nat × Activation)
  | 0, _ => none
  | fuel + 1, i =>
    match scopes[i]? with
    | none => none
    | some s =>
      match s.activation with
      | some a => some (i, a)
      | none => s.parent.bind (activation? scopes fuel)

/-- The activation that a scope lies in. -/
def activationOf (m : Engine) (scope : Nat) : Option (Nat × Activation) :=
  activation? m.scopes (m.scopes.size + 1) scope

/-- Changes a binding. -/
def setBinding (x : String) (v : Value) : List (String × Binding) → List (String × Binding)
  | [] => []
  | (k, b) :: rest =>
    if k = x then (k, { b with value := some v }) :: rest else (k, b) :: setBinding x v rest

/-- Gives a name of a scope its value. -/
def bind (m : Engine) (scope : Nat) (x : String) (v : Value) : Engine :=
  { m with
    scopes := m.scopes.modify scope fun s => { s with bindings := setBinding x v s.bindings } }

/-- The fault of a name that has no value yet. -/
def unset (x : String) : Fault := .error .reference (x ++ " is not initialized")

/-- The fault of a name that is declared nowhere. -/
def undeclared (x : String) : Fault := .error .reference (x ++ " is not defined")

/-- The value of a name. -/
def nameValue (m : Engine) (x : String) (scope : Nat) : Except Fault Value :=
  if x = "this" then
    match m.activationOf scope with
    | some (_, ⟨some v, _, _⟩) => .ok v
    | some (_, ⟨none, _, _⟩) => .error (unset x)
    | none => .ok .undefined
  else
    match find? m.scopes x (m.scopes.size + 1) scope with
    | some (_, ⟨some v, _⟩) => .ok v
    | some (_, ⟨none, _⟩) => .error (unset x)
    | none =>
      match m.heap.slot? Library.global x with
      | some s => .ok s.value
      | none => .error (undeclared x)

/-- Gives a name another value. -/
def assignName (m : Engine) (x : String) (v : Value) (scope : Nat) :
    Engine :=
  match find? m.scopes x (m.scopes.size + 1) scope with
  | some (i, ⟨some _, false⟩) => (m.bind i x v).give v
  | some (_, ⟨some _, true⟩) => m.fail (Heap.readOnly x)
  | some (_, ⟨none, _⟩) => m.fail (unset x)
  | none =>
    match m.heap.slot? Library.global x with
    | some _ => m.withHeap (m.heap.write Library.global x v) (·.give v)
    | none => m.fail (undeclared x)

/-- Gives a new name its value: in its scope, or as a global name. -/
def introduceName (m : Engine) (x : String) (v : Value) (scope : Nat) :
    Engine :=
  match find? m.scopes x (m.scopes.size + 1) scope with
  | some (i, _) => (m.bind i x v).give v
  | none => { m with heap := m.heap.modify Library.global (·.put x v) }.give v

/-! ### Properties -/

/-- Ends with a property. -/
def readProperty (m : Engine) (v : Value) (key : String) : Engine :=
  match v with
  | .undefined => m.raise .type ("cannot read property '" ++ key ++ "' of undefined")
  | .null => m.raise .type ("cannot read property '" ++ key ++ "' of null")
  | v => m.give (m.heap.get v key)

/-- Sets a property and ends with the value. -/
def writeProperty (m : Engine) (object : Value) (key : String) (v : Value) :
    Engine :=
  match object with
  | .undefined => m.raise .type ("cannot set property '" ++ key ++ "' of undefined")
  | .null => m.raise .type ("cannot set property '" ++ key ++ "' of null")
  | .object r => m.withHeap (m.heap.write r key v) (·.give v)
  | _ => m.raise .type "not an object"

/-- Reads a place. -/
def readPlace (m : Engine) : Place → Except Fault Value
  | .name x scope => m.nameValue x scope
  | .property object key =>
    match object with
    | .undefined => .error (.error .type ("cannot read property '" ++ key ++ "' of undefined"))
    | .null => .error (.error .type ("cannot read property '" ++ key ++ "' of null"))
    | v => .ok (m.heap.get v key)

/-- Writes a place and ends with the value. -/
def writePlace (m : Engine) (p : Place) (v : Value) : Engine :=
  match p with
  | .name x scope => m.assignName x v scope
  | .property object key => m.writeProperty object key v

/-! ### Primitive values -/

/-- Goes on with a value made primitive; when a function of the script has to be called for it, the
frame is given its value. -/
def withPrimitive (m : Engine) (v : Value) (methods : List String) (f : Frame)
    (next : Value → Engine) : Engine :=
  match m.heap.primitive v methods with
  | .value p => next p
  | .call g rest => ((m.push f).push (.convert rest v)).call g v []
  | .nothing => m.raise .type "toPrimitive"

/-! ### Lists -/

/-- The values that a value can be taken apart into. -/
def listOf (m : Engine) (v : Value) : Except Fault (List Value) :=
  match m.heap.items? v, v with
  | some l, _ => .ok l
  | none, .string s => .ok (s.toList.map fun c => .string (String.singleton c))
  | none, .undefined =>
    .error (.error .type "cannot read property 'Symbol.iterator' of undefined")
  | none, .null => .error (.error .type "cannot read property 'Symbol.iterator' of null")
  | none, _ => .error (.error .type "value is not iterable")

/-! ### Functions -/

/-- A new function of the script. -/
def makeClosure (m : Engine) (f : Function) (scope : Nat) (home : Option Ref) :
    Value × Engine :=
  let (r, heap) := m.heap.allocate
    { parent := some Library.functions
      slots := [("length", ⟨.ofInt f.arity, false, false, true⟩),
        ("name", ⟨.string f.name, false, false, true⟩)]
      kind := .closure { function := f, scope, home } }
  let v := Value.object (.cell r)
  if f.kind = .ordinary ∧ !f.isAsync then
    let (p, heap) := heap.allocate
      { parent := some Library.objects
        slots := [("constructor", ⟨v, true, false, true⟩)] }
    let heap := heap.modify (.cell r) fun o =>
      { o with slots := o.slots ++ [("prototype", ⟨.object (.cell p), true, false, false⟩)] }
    (v, { m with heap })
  else (v, { m with heap })

/-- The functions that a block declares, made and given to their names. -/
def declareFunctions (m : Engine) (scope : Nat) : List Function → Engine
  | [] => m
  | f :: rest =>
    let (v, m) := m.makeClosure f scope none
    (m.introduceName f.name v scope).declareFunctions scope rest

/-- The names that statements declare for their block. -/
def blockBindings (l : List Stmt) : List (String × Binding) :=
  (l.flatMap Stmt.lexicalNames).map (fun (x, constant) => (x, ⟨none, constant⟩)) ++
    (declaredFunctions l).map fun f => (f.name, ⟨some .undefined, false⟩)

/-- Runs the statements of a block. -/
def enterBlock (m : Engine) (l : List Stmt) (scope : Nat) : Engine :=
  match blockBindings l with
  | [] => (m.push (.statements l scope)).finish
  | bindings =>
    let (inner, m) := m.addScope { parent := some scope, bindings }
    ((m.declareFunctions inner (declaredFunctions l)).push (.statements l inner)).finish

/-- The names of the parameters, when they take the arguments as they are. -/
def plainParameters? : List Pattern → Option (List String)
  | [] => some []
  | .leaf (.name x) none :: rest => (plainParameters? rest).map (x :: ·)
  | _ => none

/-- The names with the arguments, undefined where there is none. -/
def zipArguments : List String → List Value → List (String × Binding)
  | [], _ => []
  | x :: xs, [] => (x, ⟨some .undefined, false⟩) :: zipArguments xs []
  | x :: xs, v :: vs => (x, ⟨some v, false⟩) :: zipArguments xs vs

/-- The patterns with the arguments, undefined where there is none. -/
def zipPatterns : List Pattern → List Value → List (Pattern × Value)
  | [], _ => []
  | p :: ps, [] => (p, .undefined) :: zipPatterns ps []
  | p :: ps, v :: vs => (p, v) :: zipPatterns ps vs

/-- Starts the body of a function in a new scope, the frames of its end pushed before. -/
def startBody (m : Engine) (c : Closure) (args : List Value)
    (activation : Option Activation) : Engine :=
  let f := c.function
  let (list, m) :=
    if activation.isSome then
      let (list, heap) := m.heap.makeArray args
      ([("arguments", (⟨some list, false⟩ : Binding))], { m with heap })
    else ([], m)
  let declared := (varNamesOfAll f.body).map fun x => (x, (⟨some .undefined, false⟩ : Binding))
  let inner := blockBindings f.body ++ declared ++ list
  match plainParameters? f.parameters, f.rest with
  | some xs, none =>
    let bindings := zipArguments xs args ++ inner
    let (scope, m) := m.addScope { parent := some c.scope, bindings, activation }
    ((m.declareFunctions scope (declaredFunctions f.body)).push (.statements f.body scope)).finish
  | _, _ =>
    let names := namesOfAll f.parameters ++ (f.rest.map Pattern.names).getD []
    let bindings := names.map (fun x => (x, (⟨none, false⟩ : Binding))) ++ inner
    let (scope, m) := m.addScope { parent := some c.scope, bindings, activation }
    let m := m.declareFunctions scope (declaredFunctions f.body)
    let m := m.push (.statements f.body scope)
    let todo := zipPatterns f.parameters args
    match f.rest with
    | none => (m.push (.bindings .introduce todo scope)).finish
    | some p =>
      let (list, heap) := m.heap.makeArray (args.drop f.parameters.length)
      ({ m with heap }.push (.bindings .introduce (todo ++ [(p, list)]) scope)).finish

/-- How many frames may wait. This stands for the size of the stack of the engine that scripts are run
by, which is counted in bytes and set nowhere; a script that calls itself without end throws here as
it does there. -/
def maxDepth : Nat := 20000

/-- Whether too many frames wait. -/
def isDeep (m : Engine) : Bool := !(m.stack.drop maxDepth).isEmpty

/-- A new promise with a parent. -/
def makePromiseUnder (m : Engine) (parent : Ref) : Nat × Engine :=
  let (p, heap) := m.heap.allocate { parent := some parent, kind := .promise {} }
  (p, { m with heap })

/-- A new promise of the library. -/
def makePromise (m : Engine) : Nat × Engine := m.makePromiseUnder Library.promises

/-- Calls a function of the script. -/
def callClosure (m : Engine) (r : Ref) (c : Closure) (this : Value) (args : List Value) :
    Engine :=
  let f := c.function
  match f.kind with
  | .baseConstructor | .derivedConstructor =>
    m.raise .type "class constructors must be invoked with 'new'"
  | kind =>
    if m.isDeep then m.raise .range "Maximum call stack size exceeded"
    else
      let activation := if kind = .arrow then none else some ⟨some this, some r, none⟩
      if f.isAsync then
        let (p, m) := m.makePromise
        ((m.push (.give (.object (.cell p)))).push (.asyncBody p)).startBody c args activation
      else (m.push .call).startBody c args activation

/-- The parent of the objects that a class makes. -/
def prototypeOf (m : Engine) (target : Value) (default : Ref) : Ref :=
  match m.heap.get target "prototype" with
  | .object r => r
  | _ => default

/-- Throws because a value makes no objects. -/
def notConstructor (m : Engine) (v : Value) : Engine :=
  match v with
  | .object r =>
    if (m.heap.object r).isCallable then
      match m.heap.get v "name" with
      | .string "" => m.raise .type "not a constructor"
      | name => m.raise .type (m.heap.text name ++ " is not a constructor")
    else m.raise .type "not a constructor"
  | _ => m.raise .type "not a constructor"

/-- Makes an object with a function of the script. -/
def constructClosure (m : Engine) (r : Ref) (c : Closure) (args : List Value)
    (target : Value) : Engine :=
  let targetRef := match target with | .object t => some t | _ => none
  if m.isDeep then m.raise .range "Maximum call stack size exceeded"
  else if c.function.isAsync then m.notConstructor (.object r)
  else
    match c.function.kind with
    | .ordinary | .baseConstructor =>
      let parent := m.prototypeOf target Library.objects
      let (o, heap) := m.heap.make { parent := some parent }
      let m := { m with heap }.push (.constructed o)
      let m := m.startBody c args (some ⟨some o, some r, targetRef⟩)
      match c.fields with
      | some set => m.call set o []
      | none => m
    | .derivedConstructor =>
      let m := m.push (.derived m.scopes.size)
      m.startBody c args (some ⟨none, some r, targetRef⟩)
    | _ => m.notConstructor (.object r)

/-! ### Promises -/

/-- Changes a promise. -/
def modifyPromise (m : Engine) (p : Nat) (f : Promise → Promise) : Engine :=
  { m with
    heap := m.heap.modify (.cell p) fun o =>
      match o with
      | ⟨parent, extensible, slots, .promise s⟩ => ⟨parent, extensible, slots, .promise (f s)⟩
      | o => o }

/-- The promise in a cell; what is no promise counts as settled. -/
def promise (m : Engine) (p : Nat) : Promise :=
  match (m.heap.object (.cell p)).kind with
  | .promise s => s
  | _ => { state := .fulfilled .undefined }

/-- Puts a job behind those that wait. -/
def enqueue (m : Engine) (j : Job) : Engine :=
  { m with jobs := m.jobs ++ [j] }

/-- Settles a promise and lets all go on that waited for it. -/
def settle (m : Engine) (p : Nat) (fulfilled : Bool) (v : Value) : Engine :=
  let s := m.promise p
  match s.state with
  | .pending =>
    let m := m.modifyPromise p fun s =>
      { s with state := if fulfilled then .fulfilled v else .rejected v, reactions := [] }
    { m with jobs := m.jobs ++ s.reactions.map fun r => .react r fulfilled v }
  | _ => m

/-- Rejects a promise. What is around the script is told when nobody waits for it. -/
def reject (m : Engine) (p : Nat) (v : Value) : Engine :=
  let s := m.promise p
  match s.state with
  | .pending =>
    let m := m.settle p false v
    if s.handled then m.finish else m.ask (.rejected (m.heap.reasonText v))
  | _ => m.finish

/-- Fulfils a promise with a value that is not the promise itself, or lets it follow an object with
a method `then`. -/
def resolveWith (m : Engine) (p : Nat) (v : Value) : Engine :=
  if v.isObject then
    let method := m.heap.get v "then"
    if m.heap.isCallable method then (m.enqueue (.follow p v method)).finish
    else (m.settle p true v).finish
  else (m.settle p true v).finish

/-- Resolves a promise with a value; a promise cannot be resolved with itself. -/
def resolve (m : Engine) (p : Nat) (v : Value) : Engine :=
  if v = .object (.cell p) then
    let (e, heap) := m.heap.makeError .type "promise self resolution"
    { m with heap }.reject p e
  else m.resolveWith p v

/-- Lets somebody wait for a promise. What is around the script is told when it was rejected and
nobody waited for it. -/
def waitFor (m : Engine) (p : Nat) (r : Reaction) : Engine :=
  let s := m.promise p
  let m := m.modifyPromise p fun s => { s with handled := true }
  match s.state with
  | .pending => (m.modifyPromise p fun s => { s with reactions := s.reactions ++ [r] }).finish
  | .fulfilled v => (m.enqueue (.react r true v)).finish
  | .rejected v =>
    let m := m.enqueue (.react r false v)
    if s.handled then m.finish else m.ask .handled

/-- A new flag, not set. -/
def makeFlag (m : Engine) : Nat × Engine :=
  let (i, heap) := m.heap.allocate { kind := .flag false }
  (i, { m with heap })

/-- Whether a flag is set. -/
def isSet (m : Engine) (flag : Nat) : Bool :=
  match (m.heap.object (.cell flag)).kind with
  | .flag b => b
  | _ => true

/-- Sets a flag. -/
def setFlag (m : Engine) (flag : Nat) : Engine :=
  { m with heap := m.heap.modify (.cell flag) fun o => { o with kind := .flag true } }

/-- The functions that fulfil and reject a promise; only the first call of one of them counts. -/
def makeSettlers (m : Engine) (p : Nat) : Value × Value × Nat × Engine :=
  let (flag, m) := m.makeFlag
  let (yes, heap) := m.heap.makeBuiltin "" (.promise (.settle p flag true))
  let (no, heap) := heap.makeBuiltin "" (.promise (.settle p flag false))
  (yes, no, flag, { m with heap })

/-- Settles a promise with a value. -/
def settleBy (m : Engine) (settler : Settler) (fulfils : Bool) (v : Value) : Engine :=
  match settler, fulfils with
  | .promise p, true => m.resolve p v
  | .promise p, false => m.reject p v
  | .functions fulfil _, true => m.call fulfil .undefined [v]
  | .functions _ reject, false => m.call reject .undefined [v]

/-- Whether a value is the constructor that is asked for; nothing stands for the one of the library. -/
def isConstructor (m : Engine) (constructor : Option Value) (v : Value) : Bool :=
  match constructor with
  | none => m.heap.isBuiltin v (.promise .constructor)
  | some c => c.identical v

/-- The promise that a value is, if the constructor of the library made it, or a new one that is
resolved with the value, which nobody has yet. -/
def promiseFor (m : Engine) (v : Value) : Nat × Engine :=
  let new :=
    let (p, m) := m.makePromise
    (p, m.resolveWith p v)
  match m.heap.promise? v with
  | some (p, _) => if m.isConstructor none (m.heap.get v "constructor") then (p, m.finish) else new
  | none => new

/-- Goes on with a job, under the frames that wait. -/
def startJob (m : Engine) : Job → Engine
  | .react (.call yes no settler) fulfilled v =>
    let handler := if fulfilled then yes else no
    if m.heap.isCallable handler then (m.push (.jobResult settler)).call handler .undefined [v]
    else m.settleBy settler fulfilled v
  | .react (.resume frames) fulfilled v =>
    let m := { m with stack := frames ++ m.stack }
    if fulfilled then m.give v else m.throwValue v
  | .follow p object method =>
    let (yes, no, flag, m) := m.makeSettlers p
    (m.push (.executor p flag)).call method object [yes, no]

/-- The frames up to the end of the asynchronous function that runs, and those below. -/
def splitAsync : List Frame → Option (List Frame × List Frame)
  | [] => none
  | .asyncBody p :: rest => some ([.asyncBody p], rest)
  | f :: rest => (splitAsync rest).map fun (upper, lower) => (f :: upper, lower)

/-- Lets the asynchronous function that runs wait for a value. -/
def suspend (m : Engine) (v : Value) : Engine :=
  match splitAsync m.stack with
  | none => m.give v
  | some (upper, lower) =>
    let (p, m) := { m with stack := lower }.promiseFor v
    m.waitFor p (.resume upper)

end Engine

end HttpSuite.Script
