/-
HttpSuite/Script/Statement.lean

Reading statements and whole scripts. A script is strict: names are declared before they are
assigned to, and a name is declared once in its block.
-/
import HttpSuite.Script.Expression

namespace HttpSuite.Script

namespace Grammar

open Rule

variable (g : Grammar)

/-! ### Declarations -/

/-- A pattern and its initial value. -/
def declarator (around : Surroundings) (kind : DeclarationKind) : Rule Declarator := do
  let p ← g.pattern around true
  if ← optionalSign "=" then
    let e ← g.assignment around
    match p with
    | .leaf (.name x) _ => return .mk p (some (e.named x))
    | _ => return .mk p (some e)
  else
    match p, kind with
    | .leaf .., .const => throw "missing initializer for const variable"
    | .leaf .., _ => return .mk p none
    | _, _ => do
      expect "="
      return .mk p none

/-- One declarator and those behind commas. -/
def declarators (around : Surroundings) (kind : DeclarationKind) : Rule (List Declarator) := do
  let first ← g.declarator around kind
  let more ← collect (do
    if ← optionalSign "," then return some (← g.declarator around kind) else pure none)
    ((← left) + 1)
  pure (first :: more)

/-- The kind of declaration that a token starts. -/
def declarationKind? : Token → Option DeclarationKind
  | .word "var" => some .var
  | .word "let" => some .letKind
  | .word "const" => some .const
  | _ => none

/-! ### Loops -/

/-- The surroundings in the body of a loop. -/
def inBody (around : Surroundings) : Surroundings := { around with inLoop := true }

/-- An expression in parentheses. -/
def condition (around : Surroundings) : Rule Expr := do
  expect "("
  let e ← g.expression around
  expect ")"
  pure e

/-- The rest of a loop over values or names, from its word on. -/
def forEachRest (around : Surroundings) (head : LoopHead) : Rule Stmt := do
  let overValues ← atWord "of"
  advance
  let e ← do if overValues then g.assignment around else g.expression around
  expect ")"
  let body ← g.statement (inBody around) true
  return if overValues then .forOf head e body else .forIn head e body

/-- The rest of a counting loop, from its first semicolon on. -/
def forRest (around : Surroundings) (init : Option Stmt) : Rule Stmt := do
  expect ";"
  let test ← do if ← atSign ";" then pure none else some <$> g.expression around
  expect ";"
  let update ← do if ← atSign ")" then pure none else some <$> g.expression around
  expect ")"
  return .forLoop init test update (← g.statement (inBody around) true)

/-- Whether a loop over values or names goes on here. -/
def atForEach : Rule Bool := return (← atWord "of") || (← atWord "in")

/-- A loop from its keyword on. -/
def forStatement (around : Surroundings) : Rule Stmt := do
  advance
  expect "("
  let head := { around with noIn := true }
  let l ← peek
  match declarationKind? l.token with
  | some kind => do
    advance
    let p ← g.pattern head true
    if ← atForEach then g.forEachRest around (.declare kind p)
    else
      let init ← do if ← optionalSign "=" then some <$> g.assignment head else pure none
      match p, kind, init with
      | .leaf .., .const, none => throw "missing initializer for const variable"
      | _, _, _ => pure ()
      let more ← collect (do
        if ← optionalSign "," then return some (← g.declarator head kind) else pure none)
        ((← left) + 1)
      g.forRest around (some (.declare kind (.mk p init :: more)))
  | none =>
    if l.token = .sign ";" then g.forRest around none
    else if (l.token = .sign "[" ∨ l.token = .sign "\x7b") ∧
        (← lookAhead do
          let next ← peekAfterBrackets
          pure (next.token = .word "of" || next.token = .word "in")) then
      let p ← g.pattern head false
      g.forEachRest around (.assign (.pattern p))
    else
      let e ← g.expression head
      if ← atForEach then
        match targetOf? e with
        | some t => g.forEachRest around (.assign t)
        | none => throw "invalid for in/of left hand-side"
      else g.forRest around (some (.expression e))

/-! ### Statements -/

/-- The label of a jump, if it stands on the same line. -/
def jumpLabel (around : Surroundings) : Rule (Option String) := do
  let l ← peek
  match l.token with
  | .word s =>
    if l.newLine ∨ !isName around s then pure none
    else if around.labels.contains s then
      advance
      pure (some s)
    else throw "break/continue label not found"
  | _ => pure none

/-- The statements of a case. -/
def caseBody (around : Surroundings) : Rule (List Stmt) := do
  expect ":"
  collect (do
    if (← atSign "\x7d") || (← atWord "case") || (← atWord "default") then pure none
    else return some (← g.statement { around with inSwitch := true } false)) ((← left) + 1)

/-- A switch from its keyword on. -/
def switchStatement (around : Surroundings) : Rule Stmt := do
  advance
  let e ← g.condition around
  expect "\x7b"
  let cases ← collect (do
    if ← optionalWord "case" then
      let test ← g.expression around
      return some (SwitchCase.mk (some test) (← g.caseBody around))
    else if ← optionalWord "default" then
      return some (SwitchCase.mk none (← g.caseBody around))
    else pure none) ((← left) + 1)
  expect "\x7d"
  let body := cases.flatMap fun (.mk _ l) => l
  checkBlock ((declaredFunctions body).map (·.name)) body
  pure (.switch e cases)

/-- The rest of a statement that catches, from its keyword on. -/
def tryStatement (around : Surroundings) : Rule Stmt := do
  advance
  let body ← g.block around
  let handler ← do
    if ← optionalWord "catch" then
      let p ← do
        if ← optionalSign "(" then
          let p ← g.pattern around true
          expect ")"
          pure (some p)
        else pure none
      pure (some (Handler.mk p (← g.block around)))
    else pure none
  let finalizer ← do
    if ← optionalWord "finally" then some <$> g.block around else pure none
  if handler.isNone && finalizer.isNone then throw "expecting catch or finally"
  pure (.attempt body handler finalizer)

/-- A declaration of a function from its keyword on; it starts with the tokens `start`. -/
def functionDeclaration (around : Surroundings) (start : List Lexeme) (async : Bool) :
    Rule Stmt := do
  advance
  let name ← nameOr "function name expected" around
  return .function (← g.functionRest (plain around) start name .ordinary async)

/-- Whether an asynchronous function is declared here. -/
def asyncFunctionAhead : Rule Bool := do
  let next ← peekSecond
  return (← atWord "async") && next.token = .word "function" && !next.newLine

/-- The message for a declaration where only a statement can stand. -/
def noDeclaration : String := "lexical declarations can't appear in single-statement context"

/-- A statement that starts with an expression or a label. -/
def expressionStatement (around : Surroundings) : Rule Stmt := do
  let l ← peek
  match l.token, (← peekSecond).token with
  | .word s, .sign ":" =>
    if isName around s then
      advance
      advance
      if around.labels.contains s then throw "duplicate label name"
      return .labeled s (← g.statement { around with labels := s :: around.labels } true)
    else noExpression
  | _, _ => do
    let e ← g.expression around
    endOfStatement
    pure (.expression e)

/-- A statement. -/
def statementExpression (around : Surroundings) (single : Bool) : Rule Stmt := do
  let l ← peek
  match l.token with
  | .sign "\x7b" => return .block (← g.block around)
  | .sign ";" => do
    advance
    pure .empty
  | .word "return" => do
    if !around.inFunction then throw "return not in a function"
    advance
    let next ← peek
    let e ← do
      if next.newLine ∨ next.token = .sign ";" ∨ next.token = .sign "\x7d" ∨ next.token = .stop then
        pure none
      else some <$> g.expression around
    endOfStatement
    pure (.ret e)
  | .word "throw" => do
    advance
    if (← peek).newLine then throw "line terminator not allowed after throw"
    let e ← g.expression around
    endOfStatement
    pure (.throw e)
  | .word "if" => do
    advance
    let test ← g.condition around
    let yes ← g.statement around true
    let no ← do if ← optionalWord "else" then some <$> g.statement around true else pure none
    pure (.branch test yes no)
  | .word "while" => do
    advance
    let test ← g.condition around
    return .whileLoop test (← g.statement (inBody around) true)
  | .word "do" => do
    advance
    let body ← g.statement (inBody around) true
    if !(← optionalWord "while") then throw "expecting 'while'"
    let test ← g.condition around
    let _ ← optionalSign ";"
    pure (.doLoop body test)
  | .word "for" => g.forStatement around
  | .word "break" => do
    advance
    let label ← jumpLabel around
    if label.isNone && !around.inLoop && !around.inSwitch then
      throw "break must be inside loop or switch"
    endOfStatement
    pure (.breakTo label)
  | .word "continue" => do
    advance
    let label ← jumpLabel around
    if !around.inLoop then throw "continue must be inside loop"
    endOfStatement
    pure (.continueTo label)
  | .word "switch" => g.switchStatement around
  | .word "try" => g.tryStatement around
  | .word "with" => throw "invalid keyword: with"
  | .word "debugger" => do
    advance
    endOfStatement
    pure .empty
  | .word "function" => do
    if single then throw noDeclaration
    g.functionDeclaration around (← get) false
  | .word "class" => do
    if single then throw noDeclaration
    return .classDeclaration (← g.classBody around true)
  | token =>
    match declarationKind? token with
    | some kind => do
      if single && kind ≠ .var then throw noDeclaration
      advance
      let l ← g.declarators around kind
      endOfStatement
      pure (.declare kind l)
    | none =>
      if ← asyncFunctionAhead then
        if single then throw noDeclaration
        let start ← get
        advance
        g.functionDeclaration around start true
      else g.expressionStatement around

/-! ### Scripts -/

/-- The grammar around another one. -/
def around (g : Grammar) : Grammar where
  assignment := g.assignmentExpression
  power := g.powerExpression
  unary s := do return (← g.unaryExpression s).1
  pattern := g.patternExpression
  statement := g.statementExpression

/-- The grammar for texts whose pieces are nested up to a depth. -/
def nested : (depth : Nat) → Grammar
  | 0 => empty
  | depth + 1 => (nested depth).around

/-- The statements up to the end. -/
def script : Rule (List Stmt) := do
  check
  let l ← collect (do
    if (← peek).token = .stop then pure none else return some (← g.statement {} false))
    ((← left) + 1)
  checkBlock ((declaredFunctions l).map (·.name)) l
  pure l

end Grammar

/-- The statements of a script, or why it is none. -/
def parse (source : String) : Except String (List Stmt) :=
  let tokens := Lexeme.ofText source
  (((Grammar.nested (tokens.length + 1)).script).run tokens).map (·.1)

end HttpSuite.Script
