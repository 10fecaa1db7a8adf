/-
HttpSuite/Script/Expression.lean

Reading expressions. A `Grammar` holds the rules of what can stand inside brackets; every rule
here is made from one, and the rules of a text are those of a grammar that is nested deeply
enough for it.
-/
import HttpSuite.Script.Grammar

namespace HttpSuite.Script

/-- The rules of what is nested in a piece. -/
structure Grammar where
  /-- An expression without a comma outside of brackets. -/
  assignment : Surroundings → Rule Expr
  /-- An operand of an arithmetic operator. -/
  power : Surroundings → Rule Expr
  /-- An operand of an operator in front. -/
  unary : Surroundings → Rule Expr
  /-- A pattern, with whether it declares its names. -/
  pattern : Surroundings → Bool → Rule Pattern
  /-- A statement, with whether it stands where a declaration cannot. -/
  statement : Surroundings → Bool → Rule Stmt

namespace Grammar

open Rule

/-- Reads nothing. -/
def empty : Grammar where
  assignment _ := noExpression
  power _ := noExpression
  unary _ := noExpression
  pattern _ _ := noExpression
  statement _ _ := noExpression

variable (g : Grammar)

/-! ### Lists -/

/-- An expression with commas. -/
def expression (around : Surroundings) : Rule Expr := do
  let first ← g.assignment around
  let more ← collect (do
    if ← optionalSign "," then return some (← g.assignment around) else pure none) ((← left) + 1)
  pure (more.foldl .sequence first)

/-- The surroundings in brackets. -/
def inner (around : Surroundings) : Surroundings := { around with noIn := false }

/-- An argument or an element of an array. -/
def item (around : Surroundings) : Rule Item := do
  if ← optionalSign "..." then return .spread (← g.assignment (inner around))
  else return .one (← g.assignment (inner around))

/-- The arguments of a call. -/
def arguments (around : Surroundings) : Rule (List Item) := do
  expect "("
  untilSign ")" (g.item around)

/-- The elements of an array. -/
def elements (around : Surroundings) : Rule (List Item) := do
  expect "["
  untilSign "]" (do if ← atSign "," then pure .hole else g.item around)

/-! ### Functions -/

/-- A pattern with its default. -/
def patternWithDefault (around : Surroundings) (binding : Bool) : Rule Pattern := do
  let p ← g.pattern around binding
  if ← optionalSign "=" then return p.withDefault (← g.assignment (inner around)) else pure p

/-- Whether a pattern starts here. -/
def atParameter : Rule Bool := do
  match (← peek).token with
  | .word _ | .sign "[" | .sign "\x7b" => pure true
  | _ => pure false

/-- The parameters of a function, in parentheses. -/
def parameters (around : Surroundings) : Rule (List Pattern × Option Pattern) := do
  expect "("
  let ps ← collect (do
    if (← atSign ")") || (← atSign "...") then pure none
    else if !(← atParameter) then throw "missing formal parameter"
    else
      let p ← g.patternWithDefault around true
      if ← atSign ")" then pure () else expect ","
      pure (some p)) ((← left) + 1)
  if ← optionalSign "..." then
    let rest ← g.pattern around true
    expect ")"
    pure (ps, some rest)
  else
    expect ")"
    pure (ps, none)

/-- The statements up to a closing brace. -/
def statements (around : Surroundings) : Rule (List Stmt) := do
  let l ← collect (do
    if ← atSign "\x7d" then pure none else return some (← g.statement around false)) ((← left) + 1)
  expect "\x7d"
  pure l

/-- Whether a list has no entry twice. -/
def distinct : List String → Bool
  | [] => true
  | x :: rest => !rest.contains x && distinct rest

/-- Stops when statements declare a name of their block twice. -/
def checkBlock (taken : List String) (l : List Stmt) : Rule Unit := do
  let lexical := (l.flatMap Stmt.lexicalNames).map (·.1)
  if !distinct lexical || lexical.any taken.contains || lexical.any (varNamesOfAll l).contains then
    throw "invalid redefinition of lexical identifier"

/-- The statements of a block in braces. -/
def block (around : Surroundings) : Rule (List Stmt) := do
  expect "\x7b"
  let l ← g.statements (inner around)
  checkBlock ((declaredFunctions l).map (·.name)) l
  pure l

/-- The surroundings in a function. -/
def inside (around : Surroundings) (async : Bool) : Surroundings :=
  { around with
    async, inFunction := true, inLoop := false, inSwitch := false, labels := [], noIn := false }

/-- The body of a function in braces. -/
def functionBody (around : Surroundings) (ps : List Pattern) (rest : Option Pattern) :
    Rule (List Stmt) := do
  expect "\x7b"
  let l ← g.statements around
  checkBlock ((declaredFunctions l).map (·.name)) l
  let declared := namesOfAll ps ++ (rest.map Pattern.names).getD []
  if ((l.flatMap Stmt.lexicalNames).map (·.1)).any declared.contains then
    throw "invalid redefinition of parameter name"
  pure l

/-- A function from its parameters on; it starts with the tokens `start`. -/
def functionRest (around : Surroundings) (start : List Lexeme) (name : String)
    (kind : FunctionKind) (async : Bool) : Rule Function := do
  let around := inside around async
  let (ps, rest) ← g.parameters around
  let body ← g.functionBody around ps rest
  return .mk name kind async ps rest body (← writtenFrom start)

/-- The surroundings in a function that is no method. -/
def plain (around : Surroundings) : Surroundings :=
  { around with superProperty := false, superCall := false }

/-- A function from its keyword on; it starts with the tokens `start`. -/
def functionExpression (around : Surroundings) (start : List Lexeme) (async : Bool) :
    Rule Expr := do
  advance
  let name ← do
    if ← atSign "(" then pure "" else nameOr "function name expected" around
  return .function (← g.functionRest (plain around) start name .ordinary async) (name ≠ "")

/-- An arrow function from its arrow on; it starts with the tokens `start`. -/
def arrowRest (around : Surroundings) (start : List Lexeme) (async : Bool) (ps : List Pattern)
    (rest : Option Pattern) : Rule Expr := do
  expect "=>"
  let around' := inside around async
  let body ← do
    if ← atSign "\x7b" then g.functionBody around' ps rest
    else pure [.ret (some (← g.assignment { around' with noIn := around.noIn }))]
  return .function (.mk "" .arrow async ps rest body (← writtenFrom start)) false

/-- An arrow function whose parameters stand in front; it starts with the tokens `start`. -/
def arrow (around : Surroundings) (start : List Lexeme) (async : Bool) : Rule Expr := do
  if ← atSign "(" then
    let (ps, rest) ← g.parameters (inside around async)
    g.arrowRest around start async ps rest
  else
    let x ← nameOr "missing formal parameter" around
    g.arrowRest around start async [.ofName x] none

/-! ### Objects and classes -/

/-- The key of a property, with the name when it can be a variable as well. -/
def propertyKey (around : Surroundings) : Rule (Expr × Option String) := do
  match (← peek).token with
  | .word s => do
    advance
    pure (.string s, some s)
  | .string s => do
    advance
    pure (.string s, none)
  | .number x => do
    advance
    pure (.number x, none)
  | .sign "[" => do
    advance
    let e ← g.assignment (inner around)
    expect "]"
    pure (e, none)
  | _ => throw "invalid property name"

/-- The name that a function gets from its key. -/
def nameOfKey : Expr → String
  | .string s => s
  | _ => ""

/-- Whether the word in front is a mark of the key behind it. -/
def marksKey (word : String) : Rule Bool := do
  if !(← atWord word) then pure false
  else
    match (← peekSecond).token with
    | .sign s => pure (s = "[")
    | .stop => pure false
    | _ => pure true

/-- A method from its parameters on; it starts with the tokens `start`. -/
def method (around : Surroundings) (start : List Lexeme) (key : Expr) (async : Bool) :
    Rule Function :=
  g.functionRest { around with superProperty := true, superCall := false } start (nameOfKey key)
    .method async

/-- A member of an object in braces. -/
def member (around : Surroundings) : Rule Member := do
  if ← optionalSign "..." then return .spread (← g.assignment around)
  let start ← get
  let async ← marksKey "async"
  if async then advance
  let computed ← atSign "["
  let (key, word) ← g.propertyKey around
  if async || (← atSign "(") then return .method key (← g.method around start key async)
  else if ← optionalSign ":" then
    let e ← g.assignment around
    if !computed && nameOfKey key = "__proto__" then return .parent e
    else return .field key (e.named (nameOfKey key))
  else
    match word with
    | some x => if isName around x then return .field key (.name x) else unexpected
    | none => unexpected

/-- An object in braces. -/
def object (around : Surroundings) : Rule Expr := do
  expect "\x7b"
  return .object (← untilSign "\x7d" (g.member (inner around)))

/-- A part of a class. -/
inductive ClassPart where
  | constructor (f : Function)
  | method (m : ClassMethod)
  | field (onClass : Bool) (s : Stmt)
  | nothing

/-- Reads a part of a class. -/
def classPart (around : Surroundings) (derived : Bool) : Rule ClassPart := do
  if ← optionalSign ";" then return .nothing
  let onClass ← marksKey "static"
  if onClass then advance
  let start ← get
  let async ← marksKey "async"
  if async then advance
  let (key, word) ← g.propertyKey around
  if (← atSign "(") && word = some "constructor" && !onClass && !async then
    let kind : FunctionKind := if derived then .derivedConstructor else .baseConstructor
    let around := { around with superProperty := true, superCall := derived }
    return .constructor (← g.functionRest around start "" kind false)
  else if async || (← atSign "(") then
    return .method (.mk onClass key (← g.method around start key async))
  else
    let value ← do
      if ← optionalSign "=" then
        g.assignment (inside { around with superProperty := true, superCall := false } false)
      else pure (.unary .void (.number .zero))
    endOfStatement
    return .field onClass
      (.expression (.assign (.property (.name "this") key) (value.named (nameOfKey key))))

/-- The function that sets fields. -/
def fieldSetter (l : List Stmt) : Option Function :=
  if l.isEmpty then none else some (.mk "" .method false [] none l "")

/-- A class from its keyword on. -/
def classBody (around : Surroundings) (needsName : Bool) : Rule ClassBody := do
  let start ← get
  advance
  let around := { inner around with superCall := false }
  let name ← do
    if (← atSign "\x7b") || (← atWord "extends") then
      if needsName then throw "class statement requires a name" else pure ""
    else nameOr "class statement requires a name" around
  let parent ← do
    if ← optionalWord "extends" then some <$> g.unary around else pure none
  expect "\x7b"
  let parts ← collect (do
    if ← atSign "\x7d" then pure none else return some (← g.classPart around parent.isSome))
    ((← left) + 1)
  expect "\x7d"
  let source ← writtenFrom start
  let constructor := parts.findSome? fun
    | .constructor f => some ((f.named name).writtenAs source)
    | _ => none
  let methods := parts.filterMap fun | .method m => some m | _ => none
  let fields := parts.filterMap fun | .field false s => some s | _ => none
  let statics := parts.filterMap fun | .field true s => some s | _ => none
  return .mk name parent constructor methods (fieldSetter fields) (fieldSetter statics) source

/-! ### Operands -/

/-- The expressions of a template that is not at its end, with the texts behind them. -/
def templateParts (around : Surroundings) : (fuel : Nat) → Rule (List TemplatePart)
  | 0 => unexpected
  | fuel + 1 => do
    let e ← g.expression (inner around)
    match (← peek).token with
    | .template false s last => do
      advance
      let more ← do if last then pure [] else templateParts around fuel
      pure (.mk e s :: more)
    | _ => unexpected

/-- A template from its first piece on. -/
def template (around : Surroundings) (head : String) (last : Bool) : Rule Expr := do
  advance
  let parts ← do if last then pure [] else g.templateParts around ((← left) + 1)
  pure (.template head parts)

/-- What stands in front of points, brackets and parentheses. -/
def primary (around : Surroundings) : Rule Expr := do
  let l ← peek
  match l.token with
  | .number x => do
    advance
    pure (.number x)
  | .string s => do
    advance
    pure (.string s)
  | .template true head last => g.template around head last
  | .sign "(" => do
    advance
    let e ← g.expression (inner around)
    expect ")"
    pure e
  | .sign "[" => return .array (← g.elements around)
  | .sign "\x7b" => g.object around
  | .word "null" => do
    advance
    pure .null
  | .word "true" => do
    advance
    pure (.bool true)
  | .word "false" => do
    advance
    pure (.bool false)
  | .word "this" => do
    advance
    pure (.name "this")
  | .word "function" => g.functionExpression around (← get) false
  | .word "class" => return .classOf (← g.classBody around false)
  | .word "super" => do
    advance
    if ← atSign "(" then
      if around.superCall then return .superCall (← g.arguments around)
      else throw "super() is only valid in a derived class constructor"
    else if !around.superProperty then throw "'super' is only valid in a method"
    else if ← optionalSign "." then
      match (← peek).token with
      | .word s => do
        advance
        pure (.superProperty (.string s))
      | _ => throw "expecting field name"
    else
      expect "["
      let e ← g.expression (inner around)
      expect "]"
      pure (.superProperty e)
  | .word "async" => do
    let next ← peekSecond
    if next.token = .word "function" ∧ !next.newLine then
      let start ← get
      advance
      g.functionExpression around start true
    else
      advance
      pure (.name "async")
  | .word s => do
    if keywords.contains s then noExpression
    else if isName around s then
      advance
      pure (.name s)
    else throw ("'" ++ s ++ "' is a reserved identifier")
  | _ => noExpression

/-- One more property or call behind an expression, with whether it is optional; none at the end
of the chain. -/
def suffix (around : Surroundings) (calls : Bool) (e : Expr) : Rule (Option (Expr × Bool)) := do
  let l ← peek
  match l.token with
  | .sign "." => do
    advance
    match (← peek).token with
    | .word s => do
      advance
      pure (some (.property e (.string s) false, false))
    | _ => throw "expecting field name"
  | .sign "[" => do
    advance
    let key ← g.expression (inner around)
    expect "]"
    pure (some (.property e key false, false))
  | .sign "(" =>
    if calls then return some (.call e (← g.arguments around) false, false) else pure none
  | .sign "?." => do
    if !calls then return none
    advance
    match (← peek).token with
    | .sign "(" => return some (.call e (← g.arguments around) true, true)
    | .sign "[" => do
      advance
      let key ← g.expression (inner around)
      expect "]"
      pure (some (.property e key true, true))
    | .word s => do
      advance
      pure (some (.property e (.string s) true, true))
    | _ => throw "expecting field name"
  | _ => pure none

/-- The properties and calls behind an expression. -/
def suffixes (around : Surroundings) (calls : Bool) :
    (fuel : Nat) → (optional : Bool) → Expr → Rule Expr
  | 0, optional, e => pure (if optional then .chain e else e)
  | fuel + 1, optional, e => do
    match ← g.suffix around calls e with
    | none => pure (if optional then .chain e else e)
    | some (e, o) => suffixes around calls fuel (optional || o) e

/-- The objects that stand behind the keyword `new`, one keyword for each. -/
def newExpression (around : Surroundings) : (fuel : Nat) → Rule Expr
  | 0 => noExpression
  | fuel + 1 => do
    advance
    let callee ← do if ← atWord "new" then newExpression around fuel else g.primary around
    let callee ← g.suffixes around false ((← left) + 1) false callee
    let args ← do if ← atSign "(" then g.arguments around else pure []
    pure (.new callee args)

/-- An expression that operators and assignments act on. -/
def leftHandSide (around : Surroundings) : Rule Expr := do
  let e ← do if ← atWord "new" then g.newExpression around ((← left) + 1) else g.primary around
  g.suffixes around true ((← left) + 1) false e

/-- What a value can be given to in an expression. -/
def targetOf? : Expr → Option Target
  | .name "this" => none
  | .name x => some (.name x)
  | .property o k false => some (.property o k)
  | _ => none

/-! ### Operators -/

/-- The operator that a token in front of its operand is. -/
def unaryOp? : Token → Option UnaryOp
  | .sign "-" => some .minus
  | .sign "+" => some .plus
  | .sign "!" => some .not
  | .sign "~" => some .bitNot
  | .word "typeof" => some .typeOf
  | .word "void" => some .void
  | _ => none

/-- The step of a token that counts. -/
def step? : Token → Option Int
  | .sign "++" => some 1
  | .sign "--" => some (-1)
  | _ => none

/-- An operand with the operators in front of it, and whether there are any. -/
def unaryExpression (around : Surroundings) : Rule (Expr × Bool) := do
  let l ← peek
  match unaryOp? l.token, step? l.token with
  | some op, _ => do
    advance
    return (.unary op (← g.unary around), true)
  | _, some n => do
    advance
    match targetOf? (← g.unary around) with
    | some t => pure (.update n false t, false)
    | none => throw "invalid increment/decrement operand"
  | _, _ =>
    if l.token = .word "delete" then
      advance
      match ← g.unary around with
      | .name x =>
        if x = "this" then pure (.delete (.name x), true)
        else throw "cannot delete a direct reference in strict mode"
      | e => pure (.delete e, true)
    else if l.token = .word "await" ∧ around.async then
      advance
      return (.await (← g.unary around), true)
    else
      let e ← g.leftHandSide around
      let next ← peek
      match step? next.token with
      | some n =>
        if next.newLine then pure (e, false)
        else
          match targetOf? e with
          | some t => do
            advance
            pure (.update n true t, false)
          | none => throw "invalid increment/decrement operand"
      | none => pure (e, false)

/-- Powers, from the right. -/
def powerExpression (around : Surroundings) : Rule Expr := do
  let (e, hasOperator) ← g.unaryExpression around
  if ← atSign "**" then
    if hasOperator then
      throw "unparenthesized unary expression can't appear on the left-hand side of '**'"
    advance
    return .binary .pow e (← g.power around)
  else pure e

/-- How an operator between two operands joins them. -/
abbrev Joint := Expr → Expr → Expr

/-- The operators between two operands, those that bind least first. -/
def levels : List (List (Token × Joint)) :=
  [[(.sign "??", .logical .orElse)], [(.sign "||", .logical .or)], [(.sign "&&", .logical .and)],
    [(.sign "|", .binary .bitOr)], [(.sign "^", .binary .bitXor)], [(.sign "&", .binary .bitAnd)],
    [(.sign "===", .binary .same), (.sign "!==", .binary .notSame), (.sign "==", .binary .equal),
      (.sign "!=", .binary .notEqual)],
    [(.sign "<", .binary .less), (.sign ">", .binary .greater), (.sign "<=", .binary .lessEqual),
      (.sign ">=", .binary .greaterEqual), (.word "instanceof", .binary .instanceOf),
      (.word "in", .binary .inside)],
    [(.sign "<<", .binary .shiftLeft), (.sign ">>", .binary .shiftRight),
      (.sign ">>>", .binary .shiftRightZero)],
    [(.sign "+", .binary .add), (.sign "-", .binary .sub)],
    [(.sign "*", .binary .mul), (.sign "/", .binary .div), (.sign "%", .binary .rem)]]

/-- Operands with the operators of these levels between them, from the left. -/
def binaryExpression (around : Surroundings) : List (List (Token × Joint)) → Rule Expr
  | [] => g.powerExpression around
  | level :: higher => do
    let first ← binaryExpression around higher
    let more ← collect (do
      let l ← peek
      if around.noIn && l.token = .word "in" then pure none
      else
        match level.find? (·.1 = l.token) with
        | none => pure none
        | some (_, join) => do
          advance
          let b ← binaryExpression around higher
          pure (some (join, b))) ((← left) + 1)
    pure (more.foldl (fun a (join, b) => join a b) first)

/-- An expression with a question mark. -/
def conditional (around : Surroundings) : Rule Expr := do
  let test ← g.binaryExpression around levels
  if ← optionalSign "?" then
    let yes ← g.assignment (inner around)
    expect ":"
    let no ← g.assignment around
    pure (.conditional test yes no)
  else pure test

/-- The operators of assignments that compute. -/
def assignmentOps : List (String × BinaryOp) :=
  [("+=", .add), ("-=", .sub), ("*=", .mul), ("/=", .div), ("%=", .rem), ("**=", .pow),
    ("<<=", .shiftLeft), (">>=", .shiftRight), (">>>=", .shiftRightZero), ("&=", .bitAnd),
    ("|=", .bitOr), ("^=", .bitXor)]

/-- The operators of assignments that may not happen. -/
def logicalAssignmentOps : List (String × LogicalOp) :=
  [("&&=", .and), ("||=", .or), ("??=", .orElse)]

/-- Whether an arrow function starts here, with whether it is asynchronous. -/
def arrowAhead : Rule (Option Bool) := do
  let arrowSign : Lexeme → Bool := fun l => l.token = .sign "=>" && !l.newLine
  let l ← peek
  let second ← peekSecond
  match l.token with
  | .sign "(" => return if arrowSign (← peekAfterBrackets) then some false else none
  | .word "async" =>
    if second.newLine then pure none
    else if arrowSign second then pure (some false)
    else
      match second.token with
      | .sign "(" =>
        return if arrowSign (← lookAhead (do advance; peekAfterBrackets)) then some true else none
      | .word _ =>
        return if arrowSign (← lookAhead (do advance; peekSecond)) then some true else none
      | _ => pure none
  | .word _ => return if arrowSign second then some false else none
  | _ => pure none

/-- Whether a pattern that is assigned to starts here. -/
def patternAhead : Rule Bool := do
  let l ← peek
  if l.token = .sign "[" ∨ l.token = .sign "\x7b" then
    return (← peekAfterBrackets).token = .sign "="
  else pure false

/-- The name that a target gives to a function. -/
def nameFor : Target → String
  | .name x => x
  | _ => ""

/-- An assignment, or what can stand in its place. -/
def assignmentExpression (around : Surroundings) : Rule Expr := do
  match ← arrowAhead with
  | some true => do
    let start ← get
    advance
    g.arrow around start true
  | some false => g.arrow around (← get) false
  | none =>
    if ← patternAhead then
      let p ← g.pattern around false
      expect "="
      return .assign (.pattern p) (← g.assignment around)
    let e ← g.conditional around
    match (← peek).token with
    | .sign s =>
      if s = "=" ∨ (assignmentOps.any (·.1 = s)) ∨ (logicalAssignmentOps.any (·.1 = s)) then
        match targetOf? e with
        | none => throw "invalid assignment left-hand side"
        | some t => do
          advance
          let value ← g.assignment around
          let named := value.named (nameFor t)
          match assignmentOps.find? (·.1 = s), logicalAssignmentOps.find? (·.1 = s) with
          | some (_, op), _ => pure (.assignBinary op t value)
          | _, some (_, op) => pure (.assignLogical op t named)
          | _, _ => pure (.assign t named)
      else pure e
    | _ => pure e

/-! ### Patterns -/

/-- The parts of an array pattern and the pattern for the rest. -/
def arrayPattern (around : Surroundings) (binding : Bool) : Rule Pattern := do
  expect "["
  let items ← collect (do
    if (← atSign "]") || (← atSign "...") then pure none
    else if ← optionalSign "," then pure (some Pattern.skip)
    else
      let p ← g.patternWithDefault around binding
      if ← atSign "]" then pure () else expect ","
      pure (some p)) ((← left) + 1)
  let rest ← do
    if ← optionalSign "..." then some <$> g.pattern around binding else pure none
  expect "]"
  pure (.array items rest none)

/-- A property of an object pattern. -/
def patternField (around : Surroundings) (binding : Bool) : Rule PatternField := do
  let (key, word) ← g.propertyKey around
  let text :=
    match key with
    | .string s => s
    | .number x => NumberStyle.plain.render x
    | _ => ""
  if ← optionalSign ":" then return .mk text (← g.patternWithDefault around binding)
  else
    match word with
    | some x =>
      if isName around x then
        let p := Pattern.ofName x
        if ← optionalSign "=" then
          return .mk text (p.withDefault (← g.assignment (inner around)))
        else return .mk text p
      else throw ("'" ++ x ++ "' is a reserved identifier")
    | none => unexpected

/-- The parts of an object pattern and the pattern for the rest. -/
def objectPattern (around : Surroundings) (binding : Bool) : Rule Pattern := do
  expect "\x7b"
  let fields ← collect (do
    if (← atSign "\x7d") || (← atSign "...") then pure none
    else
      let p ← g.patternField around binding
      if ← atSign "\x7d" then pure () else expect ","
      pure (some p)) ((← left) + 1)
  let rest ← do
    if ← optionalSign "..." then some <$> g.pattern around binding else pure none
  expect "\x7d"
  pure (.object fields rest none)

/-- A pattern without its default. -/
def patternExpression (around : Surroundings) (binding : Bool) : Rule Pattern := do
  if ← atSign "[" then g.arrayPattern around binding
  else if ← atSign "\x7b" then g.objectPattern around binding
  else if binding then return .ofName (← nameOr "variable name expected" around)
  else
    match targetOf? (← g.leftHandSide around) with
    | some t => pure (.leaf t none)
    | none => throw "invalid destructuring target"

end Grammar

end HttpSuite.Script
