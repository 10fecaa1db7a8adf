/-
HttpSuite/Script/Grammar.lean

The means of the grammar. A rule reads a list of tokens whose first one is looked at; a token that
cannot be read stops a rule when it becomes the first one.
-/
import HttpSuite.Script.Syntax
import HttpSuite.Script.Token

namespace HttpSuite.Script

/-- Reads tokens, or stops with a message. -/
abbrev Rule := StateT (List Lexeme) (Except String)

/-- What the text around a piece allows in it. -/
structure Surroundings where
  /-- In an asynchronous function. -/
  async : Bool := false
  inFunction : Bool := false
  inLoop : Bool := false
  inSwitch : Bool := false
  labels : List String := []
  /-- In the head of a loop, where the operator `in` is none. -/
  noIn : Bool := false
  /-- In a method, where the parent's properties can be read. -/
  superProperty : Bool := false
  /-- In the constructor of a class with a parent. -/
  superCall : Bool := false

namespace Rule

/-- The first token. -/
def peek : Rule Lexeme := fun l => .ok (l.head?.getD ⟨.stop, "", "", false⟩, l)

/-- The token after the first one. -/
def peekSecond : Rule Lexeme := fun l => .ok (l.tail.head?.getD ⟨.stop, "", "", false⟩, l)

/-- Stops with the message of a token that cannot be read. -/
def check : Rule Unit := do
  match (← peek).token with
  | .fault m => throw m
  | _ => pure ()

/-- Passes over the first token. -/
def advance : Rule Unit := do
  modify List.tail
  check

/-- Whether the first token is this sign. -/
def atSign (s : String) : Rule Bool := return (← peek).token = .sign s

/-- Whether the first token is this word. -/
def atWord (s : String) : Rule Bool := return (← peek).token = .word s

/-- Passes over this sign if it is the first token. -/
def optionalSign (s : String) : Rule Bool := do
  if ← atSign s then
    advance
    pure true
  else pure false

/-- Passes over this word if it is the first token. -/
def optionalWord (s : String) : Rule Bool := do
  if ← atWord s then
    advance
    pure true
  else pure false

/-- Stops because the first token is not what is expected. -/
def unexpected {α : Type} : Rule α := do
  let l ← peek
  match l.token with
  | .stop => throw "Unexpected end of input"
  | .word s => throw ("Unexpected identifier '" ++ s ++ "'")
  | .number _ => throw "Unexpected number"
  | .string _ => throw "Unexpected string"
  | .template .. => throw "Unexpected string template"
  | _ => throw ("Unexpected token '" ++ l.text ++ "'")

/-- Stops because no expression starts with the first token. -/
def noExpression {α : Type} : Rule α := do
  throw ("unexpected token in expression: '" ++ (← peek).text ++ "'")

/-- Passes over this sign, which has to be the first token. -/
def expect (s : String) : Rule Unit := do
  if ← atSign s then advance else unexpected

/-- The end of a statement: a semicolon, or nothing before a closing brace, at the end or at the
end of a line. -/
def endOfStatement : Rule Unit := do
  let l ← peek
  if l.token = .sign ";" then advance
  else if l.token = .stop ∨ l.token = .sign "\x7d" ∨ l.newLine then pure ()
  else throw "expecting ';'"

/-- The words that are no names. -/
def keywords : List String :=
  ["null", "false", "true", "if", "else", "return", "var", "this", "delete", "void", "typeof",
    "new", "in", "instanceof", "do", "while", "for", "break", "continue", "switch", "case", "default",
    "throw", "try", "catch", "finally", "function", "debugger", "with", "class", "const", "enum",
    "export", "extends", "import", "super"]

/-- The words that are names only where scripts are not strict. -/
def reservedWords : List String :=
  ["implements", "interface", "let", "package", "private", "protected", "public", "static", "yield"]

/-- Whether a word can name a variable. -/
def isName (around : Surroundings) (s : String) : Bool :=
  !keywords.contains s && !reservedWords.contains s && !(around.async && s = "await")

/-- The name in front. -/
def nameOr (message : String) (around : Surroundings) : Rule String := do
  match (← peek).token with
  | .word s =>
    if keywords.contains s then throw message
    else if isName around s then
      advance
      pure s
    else throw ("'" ++ s ++ "' is a reserved identifier")
  | _ => throw message

/-- Runs a rule without using up its tokens. -/
def lookAhead {α : Type} (p : Rule α) : Rule α := fun l => (p.run l).map fun (a, _) => (a, l)

/-- The tokens behind the bracket that closes the first one. -/
def afterBrackets : (depth : Nat) → List Lexeme → List Lexeme
  | _, [] => []
  | depth, l :: rest =>
    let opening := l.token = .sign "(" ∨ l.token = .sign "[" ∨ l.token = .sign "\x7b"
    let closing := l.token = .sign ")" ∨ l.token = .sign "]" ∨ l.token = .sign "\x7d"
    if opening then afterBrackets (depth + 1) rest
    else if closing then
      match depth with
      | 0 | 1 => rest
      | depth + 1 => afterBrackets depth rest
    else
      match l.token with
      | .template true _ false => afterBrackets (depth + 1) rest
      | .template false _ true => afterBrackets (depth - 1) rest
      | _ => if depth = 0 then l :: rest else afterBrackets depth rest

/-- The token behind the bracket that closes the first one. -/
def peekAfterBrackets : Rule Lexeme := fun l =>
  .ok ((afterBrackets 0 l).head?.getD ⟨.stop, "", "", false⟩, l)

/-- Repeats a rule as long as it gives something. -/
def collect {α : Type} (p : Rule (Option α)) : (fuel : Nat) → Rule (List α)
  | 0 => pure []
  | fuel + 1 => do
    match ← p with
    | none => pure []
    | some a => return a :: (← collect p fuel)

/-- How many tokens are left. -/
def left : Rule Nat := return (← get).length

/-- The tokens as they are written, without what stands in front of the first one. -/
def written : List Lexeme → String
  | [] => ""
  | l :: rest => l.text ++ String.join (rest.map fun m => m.gap ++ m.text)

/-- What is written from a place, where the tokens were these, up to the first token. -/
def writtenFrom (start : List Lexeme) : Rule String :=
  return written (start.take (start.length - (← left)))

/-- What rules up to a closing sign give, with commas between them. -/
def untilSign {α : Type} (closing : String) (p : Rule α) : Rule (List α) := do
  let items ← collect (do
    if ← atSign closing then pure none
    else
      let a ← p
      if ← atSign closing then pure () else expect ","
      pure (some a)) ((← left) + 1)
  expect closing
  pure items

end Rule

end HttpSuite.Script
