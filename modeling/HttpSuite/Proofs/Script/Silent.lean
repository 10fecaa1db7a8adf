/-
HttpSuite/Proofs/Script/Silent.lean

What a script does without a word about promises.

A machine is silent if its heap keeps the account of the promises and what is fixed in an earlier heap,
and if it asks nothing that tells of a promise.  Most functions of the machine make a silent one of a
machine with such a heap, whatever else they do: one lemma for each of them says so, in the order in
which they are defined.  A function that calls others needs no more than the lemmas on these, and
`grind` puts them together.

Main results: expressions and statements tell nothing by themselves (`silent_eval`, `silent_exec`),
and of the library only the functions on promises and tests may (`silent_callObject` and those that
follow).
-/
import HttpSuite.Proofs.Script.Account
import HttpSuite.Script.Machine

namespace HttpSuite.Script

/-- Whether what is around a script is told of a promise. -/
def Control.isNotice : Control → Bool
  | .ask (.rejected _) | .ask .handled => true
  | _ => false

theorem Control.isNotice_of_ne_ask {c : Control} (h : ∀ q, c ≠ .ask q) : c.isNotice = false := by
  cases c with
  | ask q => exact absurd rfl (h q)
  | _ => rfl

namespace Engine

variable {old : Heap} {m : Engine}

/-- A machine with a heap that keeps an earlier one, which tells nothing of its promises. -/
structure Silent (old : Heap) (m : Engine) : Prop where
  heap : old.Keeps m.heap
  quiet : m.control.isNotice = false

/-! ### Results -/

@[grind ←] theorem silent_give (v : Value) (hm : old.Keeps m.heap) : Silent old (m.give v) :=
  ⟨hm, rfl⟩

@[grind ←] theorem silent_finish (hm : old.Keeps m.heap) : Silent old m.finish :=
  ⟨hm, rfl⟩

@[grind ←] theorem silent_throwValue (v : Value) (hm : old.Keeps m.heap) :
    Silent old (m.throwValue v) :=
  ⟨hm, rfl⟩

@[grind ←] theorem silent_jump (j : Jump) (hm : old.Keeps m.heap) : Silent old (m.jump j) :=
  ⟨hm, rfl⟩

@[grind ←] theorem silent_evalFor (f : Frame) (e : Expr) (scope : Nat) (hm : old.Keeps m.heap) :
    Silent old (m.evalFor f e scope) :=
  ⟨hm, rfl⟩

@[grind ←] theorem silent_execFor (f : Frame) (s : Stmt) (scope : Nat) (hm : old.Keeps m.heap) :
    Silent old (m.execFor f s scope) :=
  ⟨hm, rfl⟩

@[grind ←] theorem silent_call (f this : Value) (args : List Value) (hm : old.Keeps m.heap) :
    Silent old (m.call f this args) :=
  ⟨hm, rfl⟩

@[grind ←] theorem silent_giveNew {made : Value × Heap} (hm : old.Keeps made.2) :
    Silent old (m.giveNew made) :=
  ⟨hm, rfl⟩

@[grind ←] theorem silent_mk {heap : Heap} (scopes : Array Scope) (jobs : List Job)
    (stack : List Frame) {control : Control} (working : Bool) (hm : old.Keeps heap)
    (hc : control.isNotice = false) : Silent old ⟨heap, scopes, jobs, stack, control, working⟩ :=
  ⟨hm, hc⟩

attribute [grind =] Control.isNotice

@[grind ←] theorem silent_raise (kind : ErrorKind) (message : String) (hm : old.Keeps m.heap) :
    Silent old (m.raise kind message) :=
  ⟨hm.makeError kind message, rfl⟩

@[grind ←] theorem silent_fail (f : Fault) (hm : old.Keeps m.heap) : Silent old (m.fail f) := by
  cases f with
  | error kind message => exact silent_raise kind message hm
  | value v => exact silent_throwValue v hm

@[grind ←] theorem silent_withHeap {r : Except Fault Heap}
    {next : Engine → Engine} (hm : old.Keeps m.heap)
    (hr : ∀ heap, r = .ok heap → old.Keeps heap)
    (hnext : ∀ m' : Engine, old.Keeps m'.heap → Silent old (next m')) :
    Silent old (m.withHeap r next) := by
  cases r with
  | ok heap => exact hnext _ (hr heap rfl)
  | error f => exact silent_fail f hm

/-! ### Scopes and names -/

@[grind =] theorem heap_push (f : Frame) : (m.push f).heap = m.heap := rfl

@[grind =] theorem heap_bind (scope : Nat) (x : String) (v : Value) :
    (m.bind scope x v).heap = m.heap :=
  rfl

@[grind =] theorem heap_addScope (s : Scope) : (m.addScope s).2.heap = m.heap := rfl

@[grind ←] theorem silent_assignName (x : String) (v : Value) (scope : Nat)
    (hm : old.Keeps m.heap) : Silent old (m.assignName x v scope) := by
  unfold assignName
  grind

@[grind ←] theorem silent_introduceName (x : String) (v : Value) (scope : Nat)
    (hm : old.Keeps m.heap) : Silent old (m.introduceName x v scope) := by
  unfold introduceName
  grind

@[grind ←] theorem silent_readProperty (v : Value) (key : String) (hm : old.Keeps m.heap) :
    Silent old (m.readProperty v key) := by
  unfold readProperty
  grind

@[grind ←] theorem silent_writeProperty (object : Value) (key : String) (v : Value)
    (hm : old.Keeps m.heap) : Silent old (m.writeProperty object key v) := by
  unfold writeProperty
  grind

@[grind ←] theorem silent_writePlace (p : Place) (v : Value) (hm : old.Keeps m.heap) :
    Silent old (m.writePlace p v) := by
  unfold writePlace
  grind

@[grind ←] theorem silent_withPrimitive {v : Value} {methods : List String} {f : Frame}
    {next : Value → Engine} (hm : old.Keeps m.heap) (hnext : ∀ p, Silent old (next p)) :
    Silent old (m.withPrimitive v methods f next) := by
  unfold withPrimitive
  grind

/-! ### Functions -/

@[grind ←] theorem keeps_makeClosure (f : Function) (scope : Nat) (home : Option Ref)
    (hm : old.Keeps m.heap) : old.Keeps (m.makeClosure f scope home).2.heap := by
  unfold makeClosure
  grind

@[grind ←] theorem keeps_declareFunctions (scope : Nat) (l : List Function)
    (hm : old.Keeps m.heap) : old.Keeps (m.declareFunctions scope l).heap := by
  induction l generalizing m with
  | nil => exact hm
  | cons f l ih =>
      rw [declareFunctions]
      exact ih (silent_introduceName _ _ _ (keeps_makeClosure f scope none hm)).heap

@[grind ←] theorem silent_enterBlock (l : List Stmt) (scope : Nat) (hm : old.Keeps m.heap) :
    Silent old (m.enterBlock l scope) := by
  unfold enterBlock
  grind

@[grind ←] theorem keeps_enterBlock (l : List Stmt) (scope : Nat) (hm : old.Keeps m.heap) :
    old.Keeps (m.enterBlock l scope).heap :=
  (silent_enterBlock l scope hm).heap

@[grind ←] theorem silent_startBody (c : Closure) (args : List Value)
    (activation : Option Activation) (hm : old.Keeps m.heap) :
    Silent old (m.startBody c args activation) := by
  unfold startBody
  grind

@[grind ←] theorem keeps_startBody (c : Closure) (args : List Value)
    (activation : Option Activation) (hm : old.Keeps m.heap) :
    old.Keeps (m.startBody c args activation).heap :=
  (silent_startBody c args activation hm).heap

@[grind ←] theorem keeps_makePromiseUnder (parent : Ref) (hm : old.Keeps m.heap) :
    old.Keeps (m.makePromiseUnder parent).2.heap :=
  hm.allocate rfl

@[grind ←] theorem keeps_makePromise (hm : old.Keeps m.heap) :
    old.Keeps m.makePromise.2.heap :=
  keeps_makePromiseUnder _ hm

@[grind ←] theorem silent_callClosure (r : Ref) (c : Closure) (this : Value) (args : List Value)
    (hm : old.Keeps m.heap) : Silent old (m.callClosure r c this args) := by
  unfold callClosure
  grind

@[grind ←] theorem silent_notConstructor (v : Value) (hm : old.Keeps m.heap) :
    Silent old (m.notConstructor v) := by
  unfold notConstructor
  grind

@[grind ←] theorem silent_constructClosure (r : Ref) (c : Closure) (args : List Value)
    (target : Value) (hm : old.Keeps m.heap) :
    Silent old (m.constructClosure r c args target) := by
  unfold constructClosure
  grind

/-! ### Operators -/

@[grind ←] theorem silent_operate (op : BinaryOp) (a b : Value) (hm : old.Keeps m.heap) :
    Silent old (m.operate op a b) := by
  unfold operate instanceOf inside operateRight
  grind

@[grind ←] theorem silent_operateRight (op : BinaryOp) (a b : Value) (hm : old.Keeps m.heap) :
    Silent old (m.operateRight op a b) := by
  unfold operateRight
  grind

@[grind ←] theorem silent_operateUnary (op : UnaryOp) (v : Value) (hm : old.Keeps m.heap) :
    Silent old (m.operateUnary op v) := by
  unfold operateUnary
  grind

/-! ### Lists, places and patterns -/

@[grind ←] theorem silent_evalItems (done : List (Option Value)) (scope : Nat) (next : Gathered)
    (l : List Item) (hm : old.Keeps m.heap) : Silent old (m.evalItems done scope next l) := by
  induction l generalizing done with
  | nil =>
      unfold evalItems gathered
      grind
  | cons item l ih =>
      unfold evalItems
      grind

@[grind ←] theorem silent_usePlace (p : Place) (use : PlaceUse) (scope : Nat)
    (hm : old.Keeps m.heap) : Silent old (m.usePlace p use scope) := by
  unfold usePlace
  grind

@[grind ←] theorem silent_withTarget (target : Target) (use : PlaceUse) (scope : Nat)
    (hm : old.Keeps m.heap) : Silent old (m.withTarget target use scope) := by
  unfold withTarget
  grind

@[grind ←] theorem silent_takeApart (mode : BindMode) (p : Pattern) (v : Value)
    (todo : List (Pattern × Value)) (scope : Nat) (hm : old.Keeps m.heap) :
    Silent old (m.takeApart mode p v todo scope) := by
  unfold takeApart
  grind

@[grind ←] theorem silent_bindNext (mode : BindMode) (scope : Nat) (l : List (Pattern × Value))
    (hm : old.Keeps m.heap) : Silent old (m.bindNext mode scope l) := by
  unfold bindNext
  grind

/-! ### Objects and classes -/

@[grind ←] theorem silent_makeMembers (r scope : Nat) (l : List Member)
    (hm : old.Keeps m.heap) : Silent old (m.makeMembers r scope l) := by
  fun_induction makeMembers m r scope l with
  | _ => grind

@[grind ←] theorem silent_makeMember (r scope : Nat) (key : String) (l : List Member)
    (hm : old.Keeps m.heap) : Silent old (m.makeMember r scope key l) := by
  unfold makeMember
  grind

@[grind ←] theorem keeps_addMethod (home : Nat) (key : String) (f : Function) (scope : Nat)
    (hm : old.Keeps m.heap) : old.Keeps (m.addMethod home key f scope).heap := by
  unfold addMethod
  grind

@[grind ←] theorem silent_endClass (c : ClassBody) (made scope : Nat)
    (hm : old.Keeps m.heap) : Silent old (m.endClass c made scope) := by
  unfold endClass
  grind

@[grind ←] theorem silent_makeMethods (c : ClassBody) (made proto scope : Nat)
    (l : List ClassMethod) (hm : old.Keeps m.heap) : Silent old (m.makeMethods c made proto scope l) := by
  fun_induction makeMethods m c made proto scope l with
  | _ => grind

@[grind ←] theorem silent_makeClass (c : ClassBody) (parent : Option Value) (scope : Nat)
    (hm : old.Keeps m.heap) : Silent old (m.makeClass c parent scope) := by
  unfold makeClass
  grind

/-! ### Expressions -/

@[grind ←] theorem silent_callGathered (f this : Value) (args : List Item) (optional : Bool)
    (scope : Nat) (hm : old.Keeps m.heap) :
    Silent old (m.callGathered f this args optional scope) := by
  unfold callGathered
  grind

/-- No expression tells anything by itself. -/
@[grind ←] theorem silent_eval (e : Expr) (scope : Nat) (hm : old.Keeps m.heap) :
    Silent old (m.eval e scope) := by
  unfold Engine.eval evalCallee evalFunction
  grind

/-! ### Statements -/

@[grind ←] theorem silent_declareNext (kind : DeclarationKind) (scope : Nat) (l : List Declarator)
    (hm : old.Keeps m.heap) : Silent old (m.declareNext kind scope l) := by
  fun_induction declareNext m kind scope l with
  | _ => grind

@[grind ←] theorem silent_forTurn (l : ForLoop) (scope : Nat) (hm : old.Keeps m.heap) :
    Silent old (m.forTurn l scope) := by
  unfold forTurn
  grind

@[grind ←] theorem silent_forNext (l : ForLoop) (scope : Nat) (hm : old.Keeps m.heap) :
    Silent old (m.forNext l scope) := by
  unfold forNext freshScope
  grind

@[grind ←] theorem silent_eachTurn (l : ForEach) (source : Source) (hm : old.Keeps m.heap) :
    Silent old (m.eachTurn l source) := by
  unfold eachTurn
  grind

@[grind ←] theorem silent_runCases (l : List SwitchCase) (scope : Nat) (hm : old.Keeps m.heap) :
    Silent old (m.runCases l scope) :=
  ⟨hm, rfl⟩

@[grind ←] theorem silent_testCases (v : Value) (all : List SwitchCase) (scope : Nat)
    (l : List SwitchCase) (hm : old.Keeps m.heap) : Silent old (m.testCases v all scope l) := by
  fun_induction testCases m v all scope l with
  | _ => grind

@[grind ←] theorem silent_startSwitch (v : Value) (cases : List SwitchCase) (scope : Nat)
    (hm : old.Keeps m.heap) : Silent old (m.startSwitch v cases scope) := by
  unfold startSwitch
  grind

/-- No statement tells anything by itself. -/
@[grind ←] theorem silent_exec (s : Stmt) (scope : Nat) (hm : old.Keeps m.heap) :
    Silent old (m.exec s scope) := by
  unfold Engine.exec
  grind

/-! ### Arrays -/

@[grind ←] theorem silent_giveArray (l : List Value) (hm : old.Keeps m.heap) :
    Silent old (m.giveArray l) := by
  unfold giveArray
  grind

@[grind ←] theorem silent_setItems {array : Value} {l : List Value} {fault : Fault}
    {result : Engine → Engine} (hm : old.Keeps m.heap)
    (hresult : ∀ m' : Engine, old.Keeps m'.heap → Silent old (result m')) :
    Silent old (m.setItems array l fault result) := by
  unfold setItems
  grind

@[grind ←] theorem silent_walkOn (w : Walk) (f this array : Value) (done : List Value)
    (count left : Nat) (hm : old.Keeps m.heap) :
    Silent old (m.walkOn w f this array done count left) := by
  fun_induction walkOn m w f this array done count left with
  | case1 =>
      unfold endWalk
      grind
  | _ => grind

@[grind ←] theorem silent_walked (w : Walk) (f this array : Value) (index count : Nat)
    (element : Value) (done : List Value) (v : Value) (hm : old.Keeps m.heap) :
    Silent old (m.walked w f this array index count element done v) := by
  unfold walked
  grind

@[grind ←] theorem silent_foldOn (f array v : Value) (l : List (Nat × Value))
    (hm : old.Keeps m.heap) : Silent old (m.foldOn f array v l) := by
  unfold foldOn
  grind

@[grind ←] theorem silent_sortOn (f : Value) (array : Ref) (sorted l : List Value)
    (hm : old.Keeps m.heap) : Silent old (m.sortOn f array sorted l) := by
  fun_induction sortOn m f array sorted l with
  | _ => grind

@[grind ←] theorem silent_compared (f : Value) (array : Ref) (above : List Value) (item : Value)
    (sorted rest : List Value) (v : Value) (hm : old.Keeps m.heap) :
    Silent old (m.compared f array above item sorted rest v) := by
  unfold compared
  grind

/-! ### Functions of the library -/

@[grind ←] theorem silent_callObject (f : ObjectFunction) (this : Value) (args : List Value)
    (hm : old.Keeps m.heap) : Silent old (m.callObject f this args) := by
  unfold callObject noObject
  cases f with
  | _ => grind

@[grind ←] theorem silent_constructArray (args : List Value) (target : Value)
    (hm : old.Keeps m.heap) : Silent old (m.constructArray args target) := by
  unfold constructArray
  -- matches on integers are opened by hand, here and below
  dsimp only
  split
  · split
    · grind
    · grind
  · grind

@[grind ←] theorem silent_callArray (f : ArrayFunction) (this : Value) (args : List Value)
    (hm : old.Keeps m.heap) : Silent old (m.callArray f this args) := by
  unfold callArray
  cases f with
  | «at» =>
      dsimp only
      split
      · grind
      · grind
  | _ => grind

@[grind ←] theorem silent_callText (f : StringFunction) (this : Value) (args : List Value)
    (hm : old.Keeps m.heap) : Silent old (m.callText f this args) := by
  unfold callText
  cases f with
  | «at» | charAt | charCodeAt | codePointAt | «repeat» =>
      dsimp only
      split
      · grind
      · grind
  | _ => grind

@[grind ←] theorem silent_callNumber (f : NumberFunction) (this : Value) (args : List Value)
    (hm : old.Keeps m.heap) : Silent old (m.callNumber f this args) := by
  unfold callNumber
  cases f with
  | toFixed =>
      dsimp only
      split
      · split
        · grind
        · grind
      · grind
  | _ => grind

@[grind ←] theorem silent_callMath (f : MathFunction) (args : List Value)
    (hm : old.Keeps m.heap) : Silent old (m.callMath f args) := by
  unfold callMath makeFlag
  cases f with
  | _ => grind

@[grind ←] theorem silent_makeErrorFor (kind : ErrorKind) (args : List Value) (target : Value)
    (hm : old.Keeps m.heap) : Silent old (m.makeErrorFor kind args target) := by
  unfold makeErrorFor
  grind

@[grind ←] theorem silent_callOther (f : OtherFunction) (this : Value) (args : List Value)
    (hm : old.Keeps m.heap) : Silent old (m.callOther f this args) := by
  unfold callOther
  cases f with
  | _ => grind

end Engine

end HttpSuite.Script
