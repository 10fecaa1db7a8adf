/-
HttpSuite/Script/Machine.lean

The steps of a script that runs. A frame goes on with the value that it waited for; what is thrown
and what jumps takes the frames away, one at each step, up to one that catches it. When no frame is
left the next job starts.
-/
import HttpSuite.Script.Evaluate
import HttpSuite.Script.Library.Text
import HttpSuite.Script.Library.Number
import HttpSuite.Script.Library.Promise
import HttpSuite.Script.Library.Host

namespace HttpSuite.Script

namespace Engine

/-! ### Calls -/

/-- Calls a function of the library. -/
def callBuiltin (m : Engine) (b : Builtin) (this : Value) (args : List Value) :
    Engine :=
  match b with
  | .object f => m.callObject f this args
  | .array f => m.callArray f this args
  | .string f => m.callText f this args
  | .number f => m.callNumber f this args
  | .math f => m.callMath f args
  | .promise f => m.callPromise f this args
  | .other f => m.callOther f this args
  | .host f => m.callHost f args

/-- Starts a call. -/
def startCall (m : Engine) (f this : Value) (args : List Value) : Engine :=
  match f with
  | .object r =>
    match (m.heap.object r).kind with
    | .closure c => m.callClosure r c this args
    | .builtin b => m.callBuiltin b this args
    | .bound g receiver before => m.call g receiver (before ++ args)
    | _ => m.raise .type "not a function"
  | _ => m.raise .type "not a function"

/-- Starts to make an object. -/
def startConstruct (m : Engine) (f : Value) (args : List Value) (target : Value) :
    Engine :=
  match f with
  | .object r =>
    match (m.heap.object r).kind with
    | .closure c => m.constructClosure r c args target
    | .builtin (.other (.errorConstructor kind)) => m.makeErrorFor kind args target
    | .builtin (.promise .constructor) => m.constructPromise (argument args 0) target
    | .builtin (.object .constructor) =>
      match argument args 0 with
      | .object q => m.give (.object q)
      | _ =>
        m.giveNew (m.heap.make { parent := some (m.prototypeOf target Library.objects) })
    | .builtin (.array .constructor) => m.constructArray args target
    | .bound g _ before =>
      { m with control := .construct g (before ++ args) (if target = f then g else target) }
    | _ => m.notConstructor f
  | _ => m.raise .type "not a constructor"

/-! ### Ends of functions -/

/-- The receiver of the constructor that runs. -/
def receiverOf (m : Engine) (scope : Nat) : Option Value :=
  (m.activationOf scope).bind (·.2.this)

/-- Gives the constructor that runs its receiver. -/
def setReceiver (m : Engine) (scope : Nat) (v : Value) : Engine :=
  match m.activationOf scope with
  | some (i, a) =>
    { m with scopes := m.scopes.modify i fun s =>
        { s with activation := some { a with this := some v } } }
  | none => m

/-- The function that sets the fields of the objects of the class whose constructor runs. -/
def fieldSetterOf (m : Engine) (scope : Nat) : Option Value :=
  match m.activationOf scope with
  | some (_, ⟨_, some r, _⟩) =>
    match (m.heap.object r).kind with
    | .closure c => c.fields
    | _ => none
  | _ => none

/-- Takes in the object that the parent of a class made. -/
def takeMade (m : Engine) (scope : Nat) (v : Value) : Engine :=
  if (m.receiverOf scope).isSome then m.raise .reference "'this' can be initialized only once"
  else
    let m := m.setReceiver scope v
    match m.fieldSetterOf scope with
    | some set => (m.push (.give v)).call set v []
    | none => m.give v

/-- Ends a constructor that asked its parent for the object. -/
def endDerived (m : Engine) (scope : Nat) (v : Value) : Engine :=
  if v.isObject then m.give v
  else if v ≠ .undefined then
    m.raise .type "derived class constructor must return an object or undefined"
  else
    match m.receiverOf scope with
    | some o => m.give o
    | none => m.fail (unset "this")

/-- The parent of the home object of the method that runs. -/
def superObject (m : Engine) (scope : Nat) : Value :=
  match m.activationOf scope with
  | some (_, ⟨_, some r, _⟩) =>
    match (m.heap.object r).kind with
    | .closure c =>
      match c.home with
      | some h => ((m.heap.object h).parent.map Value.object).getD .null
      | none => .undefined
    | _ => .undefined
  | _ => .undefined

/-- The receiver that a method of the parent is called with. -/
def thisValue (m : Engine) (scope : Nat) : Value :=
  (m.receiverOf scope).getD .undefined

/-! ### Jumps -/

/-- Whether a jump goes on with the loop that stands over these frames. -/
def continuesHere : Option String → List Frame → Bool
  | none, _ => true
  | some label, .labeled l :: rest => l = label || continuesHere (some label) rest
  | some _, _ => false

/-- The end of a body of a loop. -/
inductive TurnEnd where
  | next
  | stop
  | leave

/-- What the end of its body means to a loop. -/
def turnEnd (m : Engine) : Completion → TurnEnd
  | .normal _ => .next
  | .jump (.breakTo none) => .stop
  | .jump (.continueTo label) => if continuesHere label m.stack then .next else .leave
  | _ => .leave

/-- Goes on after a turn. -/
def afterTurn (m : Engine) (c : Completion) (next : Engine → Engine) :
    Engine :=
  match m.turnEnd c with
  | .next => next m
  | .stop => m.finish
  | .leave => { m with control := .done c }

/-! ### Frames -/

/-- Goes on with the value that a frame waited for. -/
def resumeWith (m : Engine) (f : Frame) (v : Value) : Engine :=
  match f with
  | .template before after rest scope =>
    m.withPrimitive v (Heap.methodOrder true) f fun p =>
      let text := before ++ p.toText ++ after
      match rest with
      | [] => m.give (.string text)
      | .mk e after :: rest => m.evalFor (.template text after rest scope) e scope
  | .items done spread rest scope next =>
    if spread then
      match m.listOf v with
      | .ok l => m.evalItems ((l.map some).reverse ++ done) scope next rest
      | .error fault => m.fail fault
    else m.evalItems (some v :: done) scope next rest
  | .field r key rest scope =>
    { m with heap := m.heap.modify (.cell r) (·.put key v) }.makeMembers r scope rest
  | .memberKey r members scope => m.makeMember r scope (m.heap.key v) members
  | .memberParent r rest scope =>
    let m : Engine :=
      match v with
      | .object p => { m with heap := m.heap.modify (.cell r) fun o => { o with parent := some p } }
      | .null => { m with heap := m.heap.modify (.cell r) fun o => { o with parent := none } }
      | _ => m
    m.makeMembers r scope rest
  | .memberSpread r rest scope =>
    m.withHeap (putAll m.heap (.cell r) (m.entriesOf v)) (·.makeMembers r scope rest)
  | .classParent c scope => m.makeClass c (some v) scope
  | .methodKey c made proto methods scope =>
    match methods with
    | .mk onClass _ g :: rest =>
      (m.addMethod (if onClass then made else proto) (m.heap.key v) g scope).makeMethods c made proto
        scope rest
    | [] => m.makeMethods c made proto scope []
  | .unary op => m.operateUnary op v
  | .binaryLeft op b scope => m.evalFor (.binaryRight op v) b scope
  | .binaryRight op a => m.operate op a v
  | .operandLeft op b => m.operateRight op v b
  | .operandRight op a => m.give (Value.operate op a v)
  | .logical op b scope =>
    let stays :=
      match op with
      | .and => !v.truthy
      | .or => v.truthy
      | .orElse => !v.isNothing
    if stays then m.give v else { m with control := .eval b scope }
  | .conditional yes no scope => { m with control := .eval (if v.truthy then yes else no) scope }
  | .propertyObject key optional scope =>
    if optional && v.isNothing then m.jump .endChain
    else
      match key with
      | .string k => m.readProperty v k
      | e => m.evalFor (.propertyKey v) e scope
  | .propertyKey object => m.readProperty object (m.heap.key v)
  | .superKey scope => m.readProperty (m.superObject scope) (m.heap.key v)
  | .placeObject key use scope =>
    match key with
    | .string k => m.usePlace (.property v k) use scope
    | e => m.evalFor (.placeKey v use scope) e scope
  | .placeKey object use scope => m.usePlace (.property object (m.heap.key v)) use scope
  | .write place => m.writePlace place v
  | .writeBinary op place old => (m.push (.write place)).operate op old v
  | .writePattern p scope =>
    ((m.push (.give v)).push (.bindings .assign [(p, v)] scope)).finish
  | .calleeObject key optional args optionalCall scope =>
    if optional && v.isNothing then m.jump .endChain
    else
      match key with
      | .string k =>
        if v.isNothing then m.readProperty v k
        else m.callGathered (m.heap.get v k) v args optionalCall scope
      | e => m.evalFor (.calleeKey v args optionalCall scope) e scope
  | .calleeKey object args optionalCall scope =>
    if object.isNothing then m.readProperty object (m.heap.key v)
    else m.callGathered (m.heap.get object (m.heap.key v)) object args optionalCall scope
  | .superCalleeKey args scope =>
    m.callGathered (m.heap.get (m.superObject scope) (m.heap.key v)) (m.thisValue scope) args false
      scope
  | .callee args optionalCall scope => m.callGathered v .undefined args optionalCall scope
  | .newCallee args scope => m.evalItems [] scope (.construct v) args
  | .chainEnd => m.give v
  | .await => m.suspend v
  | .second b scope => { m with control := .eval b scope }
  | .give w => m.give w
  | .bindings mode todo scope => m.bindNext mode scope todo
  | .bindDefault mode p todo scope => m.takeApart mode p v todo scope
  | .convert rest object =>
    if v.isObject then
      match m.heap.primitive object rest with
      | .value p => m.give p
      | .call g rest => (m.push (.convert rest object)).call g object []
      | .nothing => m.raise .type "toPrimitive"
    else m.give v
  | .statements rest scope =>
    match rest with
    | [] => m.finish
    | [s] => { m with control := .exec s scope }
    | s :: rest => m.execFor (.statements rest scope) s scope
  | .declare kind .skip rest scope => m.declareNext kind scope rest
  | .declare kind p rest scope =>
    ((m.push (.declare kind .skip rest scope)).push (.bindings (modeOf kind) [(p, v)] scope)).finish
  | .ret => m.jump (.ret v)
  | .throwing => m.throwValue v
  | .branch yes no scope =>
    if v.truthy then { m with control := .exec yes scope }
    else
      match no with
      | some s => { m with control := .exec s scope }
      | none => m.finish
  | .whileTest test body scope =>
    if v.truthy then m.execFor (.whileBody test body scope) body scope else m.finish
  | .doTest body test scope =>
    if v.truthy then m.execFor (.doBody body test scope) body scope else m.finish
  | .forInit l scope => m.forTurn l scope
  | .forTest l scope =>
    if v.truthy then m.execFor (.forBody l scope) l.body scope else m.finish
  | .forUpdate l scope => m.forTurn l scope
  | .eachSource l keys =>
    match m.sourceOf v keys with
    | .ok source => m.eachTurn l source
    | .error fault => m.fail fault
  | .eachBound l rest inner => m.execFor (.eachBody l rest) l.body inner
  | .switchValue cases scope => m.startSwitch v cases scope
  | .switchTest w all rest scope =>
    if w.same v then m.runCases rest scope else m.testCases w all scope rest.tail
  | .call => m.finish
  | .constructed o => m.give o
  | .derived scope => m.endDerived scope .undefined
  | .parentMade scope => m.takeMade scope v
  | .asyncBody p => m.resolve p .undefined
  | .jobResult settler => m.settleBy settler true v
  | .executor _ _ => m.finish
  | .walk w g this array index count element done =>
    m.walked w g this array index count element done v
  | .fold g array rest => m.foldOn g array v rest
  | .sorting g array above item sorted rest => m.compared g array above item sorted rest v
  | .hostText f args place => m.withTexts f (args.set place v)
  | .textOf => m.withPrimitive v (Heap.methodOrder true) .textOf fun p => m.give (.string p.toText)
  | .promiseMade functions use => m.takePromise functions use v
  | .awaited args => m.callThen v args
  | .severalNext s index rest => m.gatherNext s index rest v
  | .several s index rest => m.gatherOn s index rest
  | .severalEnd s => m.give s.made
  | .passed constructor outcome fulfilled => m.passOn constructor outcome fulfilled v
  | .whileBody .. | .doBody .. | .forBody .. | .eachBody .. | .labeled _ | .attempt ..
  | .handling .. | .finalizing _ | .switchBody => m.give v

/-- Runs the statements at the end of a piece, whatever its end was. -/
def runFinalizer (m : Engine) (finalizer : Option (List Stmt)) (c : Completion)
    (scope : Nat) : Engine :=
  match finalizer with
  | some l => (m.push (.finalizing c)).enterBlock l scope
  | none => { m with control := .done c }

/-- Runs the handler of a thrown value. -/
def runHandler (m : Engine) (h : Handler) (v : Value) (scope : Nat) : Engine :=
  match h with
  | .mk none body => m.enterBlock body scope
  | .mk (some p) body =>
    let bindings := p.names.map fun x => (x, (⟨none, false⟩ : Binding))
    let (inner, m) := m.addScope { parent := some scope, bindings }
    let m := m.enterBlock body inner
    (m.push (.bindings .introduce [(p, v)] inner)).finish

/-- Goes on after what a frame waited for has ended in some way. -/
def resume (m : Engine) (f : Frame) (c : Completion) : Engine :=
  match f, c with
  | .whileBody test body scope, c =>
    m.afterTurn c fun m => m.evalFor (.whileTest test body scope) test scope
  | .doBody body test scope, c =>
    m.afterTurn c fun m => m.evalFor (.doTest body test scope) test scope
  | .forBody l scope, c => m.afterTurn c fun m => m.forNext l scope
  | .eachBody l rest, c => m.afterTurn c fun m => m.eachTurn l rest
  | .labeled label, .jump (.breakTo (some l)) =>
    if l = label then m.finish else m.jump (.breakTo (some l))
  | .switchBody, .jump (.breakTo none) => m.finish
  | .attempt (some h) finalizer scope, .throw v =>
    (m.push (.handling finalizer scope)).runHandler h v scope
  | .attempt _ finalizer scope, c => m.runFinalizer finalizer c scope
  | .handling finalizer scope, c => m.runFinalizer finalizer c scope
  | .finalizing before, .normal _ => { m with control := .done before }
  | .chainEnd, .jump .endChain => m.finish
  | .call, .jump (.ret v) => m.give v
  | .constructed o, .jump (.ret v) => m.give (if v.isObject then v else o)
  | .derived scope, .jump (.ret v) => m.endDerived scope v
  | .asyncBody p, .jump (.ret v) => m.resolve p v
  | .asyncBody p, .throw v => m.reject p v
  | .jobResult settler, .throw v => m.settleBy settler false v
  | .severalNext s _ _, .throw v | .several s _ _, .throw v | .severalEnd s, .throw v =>
    (m.push (.give s.made)).call s.reject .undefined [v]
  | .executor p flag, .throw v => if m.isSet flag then m.finish else (m.setFlag flag).reject p v
  | f, .normal v => m.resumeWith f v
  | _, c => { m with control := .done c }

/-! ### Steps -/

/-- One step. A script that waits for something outside, or that has nothing left to do, stays as it
is. -/
def step (m : Engine) : Engine :=
  match m.control with
  | .eval e scope => m.eval e scope
  | .exec s scope => m.exec s scope
  | .call f this args => m.startCall f this args
  | .construct f args target => m.startConstruct f args target
  | .ask _ | .test .. => m
  | .done c =>
    match m.stack with
    | f :: rest => { m with stack := rest }.resume f c
    | [] =>
      match c, m.jobs with
      | .normal _, j :: rest => { m with jobs := rest, working := true }.startJob j
      | _, _ => m

/-- What is said of a value that a script has thrown; of one that a job has thrown, nothing but that. -/
def complaint (m : Engine) (v : Value) : String :=
  if m.working then "uncaught error in promise job" else m.heap.described v

/-- How a script ended, if it did: with a thrown value or without one. -/
def outcome? (m : Engine) : Option (Option Value) :=
  match m.control, m.stack, m.jobs with
  | .done (.throw v), [], _ => some (some v)
  | .done _, [], [] => some none
  | _, _, _ => none

end Engine

end HttpSuite.Script
