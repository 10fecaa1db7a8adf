/-
HttpSuite/Script/Evaluate.lean

What expressions and statements do: each pushes the frames that wait for its parts and goes on with
the first of them.
-/
import HttpSuite.Script.Operators

namespace HttpSuite.Script

namespace Engine

/-! ### Lists, places and patterns -/

/-- Does with a list of values what it was made for. -/
def gathered (m : Engine) (l : List (Option Value)) (next : Gathered) :
    Engine :=
  let values := l.map (·.getD .undefined)
  match next with
  | .array =>
    m.giveNew (m.heap.make { parent := some Library.arrays, kind := .array l.toArray true })
  | .call f this => m.call f this values
  | .construct f => { m with control := .construct f values f }
  | .superCall scope =>
    match m.activationOf scope with
    | some (_, ⟨_, some r, target⟩) =>
      match (m.heap.object r).parent with
      | some parent =>
        { m.push (.parentMade scope) with
          control :=
            .construct (.object parent) values ((target.map Value.object).getD .undefined) }
      | none => m.raise .type "not a constructor"
    | _ => m.raise .type "not a constructor"

/-- Evaluates the items of a list. The values before them stand last first. -/
def evalItems (m : Engine) (done : List (Option Value)) (scope : Nat) (next : Gathered) :
    List Item → Engine
  | [] => m.gathered done.reverse next
  | .hole :: rest => m.evalItems (none :: done) scope next rest
  | .one e :: rest => m.evalFor (.items done false rest scope next) e scope
  | .spread e :: rest => m.evalFor (.items done true rest scope next) e scope

/-- Does something with a place. -/
def usePlace (m : Engine) (p : Place) (use : PlaceUse) (scope : Nat) :
    Engine :=
  match use with
  | .assign e => m.evalFor (.write p) e scope
  | .assignBinary op e =>
    match m.readPlace p with
    | .ok old => m.evalFor (.writeBinary op p old) e scope
    | .error f => m.fail f
  | .assignLogical op e =>
    match m.readPlace p with
    | .error f => m.fail f
    | .ok old =>
      let stays :=
        match op with
        | .and => !old.truthy
        | .or => old.truthy
        | .orElse => !old.isNothing
      if stays then m.give old else m.evalFor (.write p) e scope
  | .update step old =>
    match m.readPlace p with
    | .error f => m.fail f
    | .ok v =>
      let x := m.heap.number v
      let y := x.add (Binary64.ofInt step)
      let m := if old then m.push (.give (.number x)) else m
      m.writePlace p (.number y)
  | .delete =>
    match p with
    | .name .. => m.give (.bool true)
    | .property object key =>
      match object with
      | .object r => m.withHeap (m.heap.delete r key) (·.give (.bool true))
      | v => if v.isNothing then m.raise .type "cannot convert to object" else m.give (.bool true)
  | .put v => m.writePlace p v

/-- Finds the place of a target and does something with it. -/
def withTarget (m : Engine) (t : Target) (use : PlaceUse) (scope : Nat) :
    Engine :=
  match t, use with
  | .name x, use => m.usePlace (.name x scope) use scope
  | .property object key, use => m.evalFor (.placeObject key use scope) object scope
  | .pattern p, .assign e => m.evalFor (.writePattern p scope) e scope
  | .pattern p, .put v => (m.push (.bindings .assign [(p, v)] scope)).finish
  | .pattern _, _ => m.finish

/-- The default of a pattern. -/
def defaultOf? : Pattern → Option Expr
  | .leaf _ d | .array _ _ d | .object _ _ d => d
  | .skip => none

/-- The pattern without its default. -/
def withoutDefault : Pattern → Pattern
  | .leaf t _ => .leaf t none
  | .array items rest _ => .array items rest none
  | .object fields rest _ => .object fields rest none
  | .skip => .skip

/-- The fields of an object that have names of their own in a pattern. -/
def fieldPairs (h : Heap) (v : Value) : List PatternField → List (Pattern × Value)
  | [] => []
  | .mk key p :: rest => (p, h.get v key) :: fieldPairs h v rest

/-- The names of fields. -/
def fieldKeys : List PatternField → List String
  | [] => []
  | .mk key _ :: rest => key :: fieldKeys rest

/-- The fields of an object that a pattern does not name. -/
def otherFields (h : Heap) (v : Value) (named : List String) : List (String × Value) :=
  match v with
  | .object r =>
    ((h.object r).listedKeys.filter fun k => !named.contains k).map fun k => (k, h.get v k)
  | _ => []

/-- Takes a value apart by a pattern without a default, and goes on with the patterns behind it. -/
def takeApart (m : Engine) (mode : BindMode) (p : Pattern) (v : Value)
    (todo : List (Pattern × Value)) (scope : Nat) : Engine :=
  match p with
  | .skip => (m.push (.bindings mode todo scope)).finish
  | .leaf t _ =>
    let m := m.push (.bindings mode todo scope)
    match t, mode with
    | .name x, .introduce => m.introduceName x v scope
    | t, _ => m.withTarget t (.put v) scope
  | .array items rest _ =>
    match m.listOf v with
    | .error f => m.fail f
    | .ok l =>
      let pairs := zipPatterns items l
      match rest with
      | none => (m.push (.bindings mode (pairs ++ todo) scope)).finish
      | some r =>
        let (list, heap) := m.heap.makeArray (l.drop items.length)
        ({ m with heap }.push (.bindings mode (pairs ++ (r, list) :: todo) scope)).finish
  | .object fields rest _ =>
    if v.isNothing then
      match fieldKeys fields with
      | key :: _ => m.readProperty v key
      | [] => m.raise .type "cannot convert to object"
    else
      let pairs := fieldPairs m.heap v fields
      match rest with
      | none => (m.push (.bindings mode (pairs ++ todo) scope)).finish
      | some r =>
        let (o, heap) := m.heap.makePlain (otherFields m.heap v (fieldKeys fields))
        ({ m with heap }.push (.bindings mode (pairs ++ (r, o) :: todo) scope)).finish

/-- Gives the patterns their values, one after the other. -/
def bindNext (m : Engine) (mode : BindMode) (scope : Nat) :
    List (Pattern × Value) → Engine
  | [] => m.finish
  | (p, v) :: todo =>
    match defaultOf? p, v with
    | some e, .undefined =>
      m.evalFor (.bindDefault mode (withoutDefault p) todo scope) e scope
    | _, v => m.takeApart mode (withoutDefault p) v todo scope

/-! ### Objects and classes -/

/-- Makes the members of an object. -/
def makeMembers (m : Engine) (r scope : Nat) : List Member → Engine
  | [] => m.give (.object (.cell r))
  | .field (.string key) e :: rest => m.evalFor (.field r key rest scope) e scope
  | .method (.string key) f :: rest =>
    let (v, m) := m.makeClosure f scope (some (.cell r))
    { m with heap := m.heap.modify (.cell r) (·.put key v) }.makeMembers r scope rest
  | .parent e :: rest => m.evalFor (.memberParent r rest scope) e scope
  | .spread e :: rest => m.evalFor (.memberSpread r rest scope) e scope
  | .field key e :: rest => m.evalFor (.memberKey r (.field key e :: rest) scope) key scope
  | .method key f :: rest => m.evalFor (.memberKey r (.method key f :: rest) scope) key scope

/-- Makes the member whose key is known now. -/
def makeMember (m : Engine) (r scope : Nat) (key : String) :
    List Member → Engine
  | .field _ e :: rest => m.evalFor (.field r key rest scope) e scope
  | .method _ f :: rest =>
    let (v, m) := m.makeClosure (f.named key) scope (some (.cell r))
    { m with heap := m.heap.modify (.cell r) (·.put key v) }.makeMembers r scope rest
  | l => m.makeMembers r scope l

/-- Adds a method to a class or to the parent of its objects. -/
def addMethod (m : Engine) (home : Nat) (key : String) (f : Function) (scope : Nat) : Engine :=
  let (v, m) := m.makeClosure (f.named key) scope (some (.cell home))
  { m with heap := m.heap.putHidden (.cell home) key v }

/-- Ends a class: gives its name its value and sets its own fields. -/
def endClass (m : Engine) (c : ClassBody) (made scope : Nat) : Engine :=
  match c with
  | .mk name _ _ _ _ statics _ =>
    let m := if name = "" then m else m.bind scope name (.object (.cell made))
    match statics with
    | none => m.give (.object (.cell made))
    | some f =>
      let (set, m) := m.makeClosure f scope (some (.cell made))
      (m.push (.give (.object (.cell made)))).call set (.object (.cell made)) []

/-- Makes the methods of a class, whose objects have the parent `proto`. -/
def makeMethods (m : Engine) (c : ClassBody) (made proto scope : Nat) : List ClassMethod → Engine
  | [] => m.endClass c made scope
  | .mk onClass (.string key) f :: rest =>
    (m.addMethod (if onClass then made else proto) key f scope).makeMethods c made proto scope rest
  | .mk onClass key f :: rest =>
    m.evalFor (.methodKey c made proto (.mk onClass key f :: rest) scope) key scope

/-- Makes a class whose parent is known: nothing, no object at all, or a class. -/
def makeClass (m : Engine) (c : ClassBody) (parent : Option Value) (scope : Nat) :
    Engine :=
  match c with
  | .mk name _ constructor methods fields _ source =>
    let above : Except Fault (Option Ref × Ref) :=
      match parent with
      | none => .ok (some Library.objects, Library.functions)
      | some .null => .ok (none, Library.functions)
      | some (.object r) =>
        if (m.heap.object r).isCallable then
          match m.heap.get (.object r) "prototype" with
          | .object p => .ok (some p, r)
          | .null => .ok (none, r)
          | _ => .error (.error .type "parent prototype must be an object or null")
        else .error (.error .type "parent class must be constructor")
      | some _ => .error (.error .type "parent class must be constructor")
    match above with
    | .error f => m.fail f
    | .ok (protoParent, classParent) =>
      let f :=
        match constructor with
        | some f => f
        | none =>
          if parent.isSome then
            .mk name .derivedConstructor false [] (some (Pattern.ofName "args"))
              [.expression (.superCall [.spread (.name "args")])] source
          else .mk name .baseConstructor false [] none [] source
      let (p, heap) := m.heap.allocate { parent := protoParent }
      let (setter, m) :=
        match fields with
        | none => (none, { m with heap })
        | some g =>
          let (v, m) := { m with heap }.makeClosure g scope (some (.cell p))
          (some v, m)
      let (r, heap) := m.heap.allocate
        { parent := some classParent
          slots := [("length", ⟨.ofInt f.arity, false, false, true⟩),
            ("name", ⟨.string name, false, false, true⟩),
            ("prototype", ⟨.object (.cell p), false, false, false⟩)]
          kind := .closure
            { function := f, scope, home := some (.cell p), fields := setter } }
      let heap := heap.putHidden (.cell p) "constructor" (.object (.cell r))
      { m with heap }.makeMethods c r p scope methods

/-! ### Expressions -/

/-- Evaluates what is called. -/
def evalCallee (m : Engine) (callee : Expr) (args : List Item) (optional : Bool)
    (scope : Nat) : Engine :=
  match callee with
  | .property object key o => m.evalFor (.calleeObject key o args optional scope) object scope
  | .superProperty key => m.evalFor (.superCalleeKey args scope) key scope
  | e => m.evalFor (.callee args optional scope) e scope

/-- Calls what was evaluated, unless it is not there and may be so. -/
def callGathered (m : Engine) (f this : Value) (args : List Item) (optional : Bool)
    (scope : Nat) : Engine :=
  if optional && f.isNothing then m.jump .endChain
  else m.evalItems [] scope (.call f this) args

/-- Makes a function that an expression writes. -/
def evalFunction (m : Engine) (f : Function) (self : Bool) (scope : Nat) :
    Engine :=
  if self then
    let (inner, m) := m.addScope { parent := some scope, bindings := [(f.name, ⟨none, true⟩)] }
    let (v, m) := m.makeClosure f inner none
    (m.bind inner f.name v).give v
  else
    let (v, m) := m.makeClosure f scope none
    m.give v

/-- Evaluates an expression. -/
def eval (m : Engine) (e : Expr) (scope : Nat) : Engine :=
  match e with
  | .null => m.give .null
  | .bool b => m.give (.bool b)
  | .number x => m.give (.number x)
  | .string s => m.give (.string s)
  | .name x =>
    match m.nameValue x scope with
    | .ok v => m.give v
    | .error f => m.fail f
  | .template head [] => m.give (.string head)
  | .template head (.mk e after :: rest) => m.evalFor (.template head after rest scope) e scope
  | .array items => m.evalItems [] scope .array items
  | .object members =>
    let (r, heap) := m.heap.allocate { parent := some Library.objects }
    { m with heap }.makeMembers r scope members
  | .function f self => m.evalFunction f self scope
  | .classOf (.mk name parent constructor methods fields statics source) =>
    let c := ClassBody.mk name parent constructor methods fields statics source
    let bindings := if name = "" then [] else [(name, ⟨none, true⟩)]
    let (inner, m) := m.addScope { parent := some scope, bindings }
    match parent with
    | none => m.makeClass c none inner
    | some p => m.evalFor (.classParent c inner) p inner
  | .unary .typeOf (.name x) =>
    match m.nameValue x scope with
    | .ok v => m.give (.string (m.heap.typeOf v))
    | .error f => if f = undeclared x then m.give (.string "undefined") else m.fail f
  | .unary op e => m.evalFor (.unary op) e scope
  | .delete (.property object key _) => m.evalFor (.placeObject key .delete scope) object scope
  | .delete e => m.evalFor (.give (.bool true)) e scope
  | .update step old t => m.withTarget t (.update step old) scope
  | .binary op a b => m.evalFor (.binaryLeft op b scope) a scope
  | .logical op a b => m.evalFor (.logical op b scope) a scope
  | .conditional test yes no => m.evalFor (.conditional yes no scope) test scope
  | .assign t e => m.withTarget t (.assign e) scope
  | .assignBinary op t e => m.withTarget t (.assignBinary op e) scope
  | .assignLogical op t e => m.withTarget t (.assignLogical op e) scope
  | .property object key optional => m.evalFor (.propertyObject key optional scope) object scope
  | .superProperty key => m.evalFor (.superKey scope) key scope
  | .call callee args optional => m.evalCallee callee args optional scope
  | .superCall args => m.evalItems [] scope (.superCall scope) args
  | .new callee args => m.evalFor (.newCallee args scope) callee scope
  | .chain e => m.evalFor .chainEnd e scope
  | .await e => m.evalFor .await e scope
  | .sequence a b => m.evalFor (.second b scope) a scope

/-! ### Statements -/

/-- Declares the next of the names. -/
def declareNext (m : Engine) (kind : DeclarationKind) (scope : Nat) :
    List Declarator → Engine
  | [] => m.finish
  | .mk p (some e) :: rest => m.evalFor (.declare kind p rest scope) e scope
  | .mk p none :: rest =>
    match kind with
    | .var => m.declareNext kind scope rest
    | _ => (m.push (.declare kind p rest scope)).finish

/-- How a declaration gives its names their values. -/
def modeOf : DeclarationKind → BindMode
  | .var => .assign
  | _ => .introduce

/-- A copy of the innermost scope, for the next turn of a loop. -/
def freshScope (m : Engine) (l : ForLoop) (scope : Nat) : Nat × Engine :=
  if l.fresh.isEmpty then (scope, m)
  else
    match m.scopes[scope]? with
    | some s => m.addScope s
    | none => (scope, m)

/-- Starts a turn of a counting loop. -/
def forTurn (m : Engine) (l : ForLoop) (scope : Nat) : Engine :=
  match l.test with
  | some e => m.evalFor (.forTest l scope) e scope
  | none => m.execFor (.forBody l scope) l.body scope

/-- Ends a turn of a counting loop. -/
def forNext (m : Engine) (l : ForLoop) (scope : Nat) : Engine :=
  let (scope, m) := m.freshScope l scope
  match l.update with
  | some e => m.evalFor (.forUpdate l scope) e scope
  | none => m.forTurn l scope

/-- The next value of a loop over values. -/
def nextOf (m : Engine) : Source → Option (Value × Source)
  | .list [] => none
  | .list (v :: rest) => some (v, .list rest)
  | .live r i =>
    match (m.heap.object r).kind with
    | .array items _ =>
      match items[i]? with
      | some v => some (v.getD .undefined, .live r (i + 1))
      | none => none
    | _ => none

/-- Starts the next turn of a loop over values. -/
def eachTurn (m : Engine) (l : ForEach) (source : Source) : Engine :=
  match m.nextOf source with
  | none => m.finish
  | some (v, rest) =>
    match l.head with
    | .declare kind p =>
      let bindings : List (String × Binding) :=
        match kind with
        | .var => []
        | kind => p.names.map fun x => (x, ⟨none, kind = .const⟩)
      let (inner, m) :=
        if bindings.isEmpty then (l.scope, m)
        else m.addScope { parent := some l.scope, bindings }
      ((m.push (.eachBound l rest inner)).push
        (.bindings (modeOf kind) [(p, v)] inner)).finish
    | .assign t => (m.push (.eachBound l rest l.scope)).withTarget t (.put v) l.scope

/-- The listed keys of an object and of its parents. -/
def chainKeys (h : Heap) : (fuel : Nat) → Ref → List String
  | 0, _ => []
  | fuel + 1, r =>
    let o := h.object r
    let own := o.listedKeys
    match o.parent with
    | none => own
    | some p => own ++ (chainKeys h fuel p).filter fun k => !own.contains k

/-- What a loop goes through. -/
def sourceOf (m : Engine) (v : Value) (keys : Bool) : Except Fault Source :=
  if keys then
    match v with
    | .object r => .ok (.list ((chainKeys m.heap m.heap.size r).map .string))
    | .string s => .ok (.list ((List.range (Text.unitCount s)).map fun i => .string (toString i)))
    | _ => .ok (.list [])
  else
    match v, m.heap.items? v with
    | .object r, some _ => .ok (.live r 0)
    | v, _ => (m.listOf v).map .list

/-- Goes on with the statements of a switch from the first case that fits. -/
def runCases (m : Engine) (cases : List SwitchCase) (scope : Nat) : Engine :=
  let body := cases.flatMap fun (.mk _ l) => l
  ((m.push .switchBody).push (.statements body scope)).finish

/-- The cases from the default on. -/
def fromDefault : List SwitchCase → List SwitchCase
  | [] => []
  | .mk none l :: rest => .mk none l :: rest
  | .mk (some _) _ :: rest => fromDefault rest

/-- Tests the next case of a switch. -/
def testCases (m : Engine) (v : Value) (all : List SwitchCase) (scope : Nat) :
    List SwitchCase → Engine
  | [] => m.runCases (fromDefault all) scope
  | .mk none _ :: rest => m.testCases v all scope rest
  | .mk (some e) l :: rest =>
    m.evalFor (.switchTest v all (.mk (some e) l :: rest) scope) e scope

/-- Starts a switch in a scope for the names of its cases. -/
def startSwitch (m : Engine) (v : Value) (cases : List SwitchCase) (scope : Nat) :
    Engine :=
  let body := cases.flatMap fun (.mk _ l) => l
  match blockBindings body with
  | [] => m.testCases v cases scope cases
  | bindings =>
    let (inner, m) := m.addScope { parent := some scope, bindings }
    (m.declareFunctions inner (declaredFunctions body)).testCases v cases inner cases

/-- Runs a statement. -/
def exec (m : Engine) (s : Stmt) (scope : Nat) : Engine :=
  match s with
  | .empty | .function _ => m.finish
  | .expression e => { m with control := .eval e scope }
  | .declare kind l => m.declareNext kind scope l
  | .classDeclaration (.mk name parent constructor methods fields statics source) =>
    let c := ClassBody.mk name parent constructor methods fields statics source
    m.evalFor (.declare .letKind (Pattern.ofName name) [] scope) (.classOf c) scope
  | .ret none => m.jump (.ret .undefined)
  | .ret (some e) => m.evalFor .ret e scope
  | .branch test yes no => m.evalFor (.branch yes no scope) test scope
  | .whileLoop test body => m.evalFor (.whileTest test body scope) test scope
  | .doLoop body test => m.execFor (.doBody body test scope) body scope
  | .forLoop init test update body =>
    match init with
    | none => m.forTurn ⟨test, update, body, []⟩ scope
    | some (.expression e) => m.evalFor (.forInit ⟨test, update, body, []⟩ scope) e scope
    | some (.declare kind l) =>
      let names := l.flatMap Declarator.names
      match kind with
      | .var => (m.push (.forInit ⟨test, update, body, []⟩ scope)).declareNext .var scope l
      | kind =>
        let bindings := names.map fun x => (x, (⟨none, kind = .const⟩ : Binding))
        let (inner, m) := m.addScope { parent := some scope, bindings }
        (m.push (.forInit ⟨test, update, body, names⟩ inner)).declareNext kind inner l
    | some _ => m.forTurn ⟨test, update, body, []⟩ scope
  | .forOf head e body => m.evalFor (.eachSource ⟨head, body, scope⟩ false) e scope
  | .forIn head e body => m.evalFor (.eachSource ⟨head, body, scope⟩ true) e scope
  | .breakTo label => m.jump (.breakTo label)
  | .continueTo label => m.jump (.continueTo label)
  | .throw e => m.evalFor .throwing e scope
  | .attempt body handler finalizer =>
    (m.push (.attempt handler finalizer scope)).enterBlock body scope
  | .block body => m.enterBlock body scope
  | .switch e cases => m.evalFor (.switchValue cases scope) e scope
  | .labeled label body => m.execFor (.labeled label) body scope

end Engine

end HttpSuite.Script
