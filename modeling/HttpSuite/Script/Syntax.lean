/-
HttpSuite/Script/Syntax.lean

The syntax trees of scripts. A tree is what the machine runs: `a.b` is already `a["b"]`, `a += b`
keeps its target once, and the fields of a class have become the body of a function that sets them.
-/
import HttpSuite.Number.Binary64

namespace HttpSuite.Script

/-- Operators with one operand. -/
inductive UnaryOp where
  | minus
  | plus
  | not
  | bitNot
  | typeOf
  | void
deriving DecidableEq, Repr, Inhabited

/-- Operators that evaluate both operands. -/
inductive BinaryOp where
  | add
  | sub
  | mul
  | div
  | rem
  | pow
  | less
  | greater
  | lessEqual
  | greaterEqual
  | equal
  | notEqual
  | same
  | notSame
  | bitAnd
  | bitOr
  | bitXor
  | shiftLeft
  | shiftRight
  | shiftRightZero
  | instanceOf
  | inside
deriving DecidableEq, Repr, Inhabited

/-- Operators that evaluate the right operand only when the left one asks for it. -/
inductive LogicalOp where
  | and
  | or
  | orElse
deriving DecidableEq, Repr, Inhabited

/-- The kinds of declarations. -/
inductive DeclarationKind where
  | var
  | letKind
  | const
deriving DecidableEq, Repr, Inhabited

/-- What a function is, apart from its parameters and its body. -/
inductive FunctionKind where
  /-- Has its own receiver and can make objects. -/
  | ordinary
  /-- Has the receiver of the function around it. -/
  | arrow
  /-- Has its own receiver and makes no objects. -/
  | method
  /-- The constructor of a class without a parent. -/
  | baseConstructor
  /-- The constructor of a class with a parent. -/
  | derivedConstructor
deriving DecidableEq, Repr, Inhabited

mutual

/-- Expressions. -/
inductive Expr where
  | null
  | bool (b : Bool)
  | number (x : Binary64)
  | string (s : String)
  /-- A variable; `this` is one, too. -/
  | name (x : String)
  /-- A text, and expressions with the texts behind them. -/
  | template (head : String) (parts : List TemplatePart)
  | array (items : List Item)
  | object (members : List Member)
  /-- A function, with whether it knows itself by its name. -/
  | function (f : Function) (self : Bool)
  | classOf (c : ClassBody)
  | unary (op : UnaryOp) (e : Expr)
  | delete (e : Expr)
  /-- Adds to a target; the value is the old number or the new one. -/
  | update (step : Int) (old : Bool) (target : Target)
  | binary (op : BinaryOp) (a b : Expr)
  | logical (op : LogicalOp) (a b : Expr)
  | conditional (test a b : Expr)
  | assign (target : Target) (e : Expr)
  | assignBinary (op : BinaryOp) (target : Target) (e : Expr)
  | assignLogical (op : LogicalOp) (target : Target) (e : Expr)
  /-- A property; an optional one ends its chain when there is no object. -/
  | property (object key : Expr) (optional : Bool)
  /-- A property of the parent of the home object, with the receiver. -/
  | superProperty (key : Expr)
  | call (callee : Expr) (arguments : List Item) (optional : Bool)
  | superCall (arguments : List Item)
  | new (callee : Expr) (arguments : List Item)
  /-- A chain of properties and calls, whole. -/
  | chain (e : Expr)
  | await (e : Expr)
  | sequence (a b : Expr)

/-- An expression in a template and the text behind it. -/
inductive TemplatePart where
  | mk (e : Expr) (after : String)

/-- An element of an array or an argument. -/
inductive Item where
  | hole
  | one (e : Expr)
  | spread (e : Expr)

/-- A member of an object in braces. -/
inductive Member where
  | field (key e : Expr)
  | method (key : Expr) (f : Function)
  /-- The field `__proto__`, which is the parent of the object. -/
  | parent (e : Expr)
  | spread (e : Expr)

/-- What a value can be given to. -/
inductive Target where
  | name (x : String)
  | property (object key : Expr)
  | pattern (p : Pattern)

/-- The shape that a value is taken apart by. -/
inductive Pattern where
  /-- A target, and what it is given instead of an undefined value. -/
  | leaf (target : Target) (default : Option Expr)
  | array (items : List Pattern) (rest : Option Pattern) (default : Option Expr)
  | object (fields : List PatternField) (rest : Option Pattern) (default : Option Expr)
  /-- A place of an array that is passed over. -/
  | skip

/-- A property of an object pattern. -/
inductive PatternField where
  | mk (key : String) (p : Pattern)

/-- A function, and how it is written. -/
inductive Function where
  | mk (name : String) (kind : FunctionKind) (async : Bool) (parameters : List Pattern)
      (rest : Option Pattern) (body : List Stmt) (source : String)

/-- A class: its parent, its constructor and the functions that set the fields of its objects and
its own fields, and how it is written. -/
inductive ClassBody where
  | mk (name : String) (parent : Option Expr) (constructor : Option Function)
      (methods : List ClassMethod) (fields statics : Option Function) (source : String)

/-- A method of a class or of its objects. -/
inductive ClassMethod where
  | mk (onClass : Bool) (key : Expr) (f : Function)

/-- A pattern with its initial value. -/
inductive Declarator where
  | mk (p : Pattern) (init : Option Expr)

/-- What a loop gives its values to. -/
inductive LoopHead where
  | declare (kind : DeclarationKind) (p : Pattern)
  | assign (t : Target)

/-- A case of a switch; without a test it is the default. -/
inductive SwitchCase where
  | mk (test : Option Expr) (body : List Stmt)

/-- Statements. -/
inductive Stmt where
  | empty
  | expression (e : Expr)
  | declare (kind : DeclarationKind) (l : List Declarator)
  | function (f : Function)
  | classDeclaration (c : ClassBody)
  | ret (e : Option Expr)
  | branch (test : Expr) (yes : Stmt) (no : Option Stmt)
  | whileLoop (test : Expr) (body : Stmt)
  | doLoop (body : Stmt) (test : Expr)
  | forLoop (init : Option Stmt) (test update : Option Expr) (body : Stmt)
  | forOf (head : LoopHead) (e : Expr) (body : Stmt)
  | forIn (head : LoopHead) (e : Expr) (body : Stmt)
  | breakTo (label : Option String)
  | continueTo (label : Option String)
  | throw (e : Expr)
  | attempt (body : List Stmt) (handler : Option Handler) (finalizer : Option (List Stmt))
  | block (body : List Stmt)
  | switch (e : Expr) (cases : List SwitchCase)
  | labeled (label : String) (body : Stmt)

/-- What happens with a thrown value. -/
inductive Handler where
  | mk (parameter : Option Pattern) (body : List Stmt)

end

instance : Inhabited Expr := ⟨.null⟩
instance : Inhabited Stmt := ⟨.empty⟩
instance : Inhabited Item := ⟨.hole⟩
instance : Inhabited Target := ⟨.name ""⟩
instance : Inhabited Pattern := ⟨.skip⟩
instance : Inhabited Function := ⟨.mk "" .ordinary false [] none [] ""⟩

namespace Function

/-- The name of a function. -/
def name : Function → String
  | mk x _ _ _ _ _ _ => x

/-- The kind of a function. -/
def kind : Function → FunctionKind
  | mk _ k _ _ _ _ _ => k

/-- Whether calls of a function give a promise. -/
def isAsync : Function → Bool
  | mk _ _ a _ _ _ _ => a

/-- The patterns of the parameters, the rest apart. -/
def parameters : Function → List Pattern
  | mk _ _ _ ps _ _ _ => ps

/-- The pattern that takes the arguments that are left over. -/
def rest : Function → Option Pattern
  | mk _ _ _ _ r _ _ => r

/-- The statements of a function. -/
def body : Function → List Stmt
  | mk _ _ _ _ _ b _ => b

/-- How a function is written. -/
def source : Function → String
  | mk _ _ _ _ _ _ s => s

/-- The function with a name, if it has none. -/
def named (x : String) : Function → Function
  | mk "" k a ps r b s => mk x k a ps r b s
  | f => f

/-- The function as it is written with more around it. -/
def writtenAs (s : String) : Function → Function
  | mk x k a ps r b _ => mk x k a ps r b s

/-- How many arguments a function asks for: the parameters before the first one with a default. -/
def arity (f : Function) : Nat :=
  (f.parameters.takeWhile fun
    | .leaf _ none | .array _ _ none | .object _ _ none => true
    | _ => false).length

end Function

/-- A function or a class gets the name of what it is given to, if it has none. -/
def Expr.named (x : String) : Expr → Expr
  | .function f self => .function (f.named x) self
  | .classOf (.mk "" parent constructor methods fields statics source) =>
    .classOf (.mk x parent constructor methods fields statics source)
  | e => e

namespace Pattern

/-- A name that is given a value. -/
def ofName (x : String) : Pattern := .leaf (.name x) none

/-- The pattern with a value in the stead of an undefined one. -/
def withDefault (e : Expr) : Pattern → Pattern
  | .leaf (.name x) _ => .leaf (.name x) (some (e.named x))
  | .leaf t _ => .leaf t (some e)
  | .array items rest _ => .array items rest (some e)
  | .object fields rest _ => .object fields rest (some e)
  | .skip => .skip

end Pattern

/-! ### Declared names -/

mutual

/-- The names that a pattern declares. -/
def Pattern.names : Pattern → List String
  | .leaf (.name x) _ => [x]
  | .leaf _ _ => []
  | .array items none _ => namesOfAll items
  | .array items (some r) _ => namesOfAll items ++ r.names
  | .object fields none _ => namesOfFields fields
  | .object fields (some r) _ => namesOfFields fields ++ r.names
  | .skip => []

/-- The names that patterns declare. -/
def namesOfAll : List Pattern → List String
  | [] => []
  | p :: rest => p.names ++ namesOfAll rest

/-- The names that the fields of a pattern declare. -/
def namesOfFields : List PatternField → List String
  | [] => []
  | .mk _ p :: rest => p.names ++ namesOfFields rest

end

/-- The names that declarators declare. -/
def Declarator.names : Declarator → List String
  | .mk p _ => p.names

mutual

/-- The names that a statement declares for the function around it. -/
def Stmt.varNames : Stmt → List String
  | .declare .var l => l.flatMap Declarator.names
  | .branch _ yes none => yes.varNames
  | .branch _ yes (some no) => yes.varNames ++ no.varNames
  | .whileLoop _ body | .doLoop body _ | .labeled _ body => body.varNames
  | .forLoop none _ _ body => body.varNames
  | .forLoop (some init) _ _ body => init.varNames ++ body.varNames
  | .forOf (.declare .var p) _ body | .forIn (.declare .var p) _ body => p.names ++ body.varNames
  | .forOf _ _ body | .forIn _ _ body => body.varNames
  | .attempt body handler finalizer =>
    varNamesOfAll body ++ varNamesOfHandler handler ++ varNamesOfFinalizer finalizer
  | .block body => varNamesOfAll body
  | .switch _ cases => varNamesOfCases cases
  | _ => []

/-- The names that statements declare for the function around them. -/
def varNamesOfAll : List Stmt → List String
  | [] => []
  | s :: rest => s.varNames ++ varNamesOfAll rest

/-- The names that a handler declares for the function around it. -/
def varNamesOfHandler : Option Handler → List String
  | none => []
  | some (.mk _ body) => varNamesOfAll body

/-- The names that a finalizer declares for the function around it. -/
def varNamesOfFinalizer : Option (List Stmt) → List String
  | none => []
  | some body => varNamesOfAll body

/-- The names that the cases of a switch declare for the function around it. -/
def varNamesOfCases : List SwitchCase → List String
  | [] => []
  | .mk _ body :: rest => varNamesOfAll body ++ varNamesOfCases rest

end

/-- The names that a statement declares for the block around it, with whether they stay as they
are. -/
def Stmt.lexicalNames : Stmt → List (String × Bool)
  | .declare .letKind l => (l.flatMap Declarator.names).map (·, false)
  | .declare .const l => (l.flatMap Declarator.names).map (·, true)
  | .classDeclaration (.mk x _ _ _ _ _ _) => [(x, false)]
  | _ => []

/-- The functions that statements declare. -/
def declaredFunctions (l : List Stmt) : List Function :=
  l.filterMap fun
    | .function f => some f
    | _ => none

end HttpSuite.Script
