/-
HttpSuite/Script/Token.lean

The tokens of scripts. A text in backticks is cut where an expression starts and ends in it, so
that braces have to be counted. A token that cannot be read is a token, too: what comes before it
is parsed first, and may be wrong itself.
-/
import HttpSuite.Number.Notation
import HttpSuite.Text.Blank
import HttpSuite.Text.Search
import HttpSuite.Text.Units

namespace HttpSuite.Script

/-- A token. -/
inductive Token where
  /-- A name or a keyword. -/
  | word (s : String)
  | number (x : Binary64)
  | string (s : String)
  /-- A piece of a template, with whether it is the first and whether it is the last. -/
  | template (first : Bool) (s : String) (last : Bool)
  | sign (s : String)
  | fault (message : String)
  | stop
deriving DecidableEq, Repr, Inhabited

/-- A token in its place. -/
structure Lexeme where
  token : Token
  /-- As it is written. -/
  text : String
  /-- What stands between the token before and this one. -/
  gap : String
  /-- Whether a line ends between the token before and this one. -/
  newLine : Bool
deriving DecidableEq, Repr, Inhabited

namespace Lexeme

/-- A character between tokens. -/
def isSpace (c : Char) : Bool := Text.isBlank c || c == '\uFEFF'

/-- A character that ends a line. -/
def isLineEnd (c : Char) : Bool := c == '\n' || c == '\r' || c == '\u2028' || c == '\u2029'

/-- A character that a name can start with. -/
def startsName (c : Char) : Bool :=
  Ascii.isLetter c || c == '_' || c == '$' || (0x7F < c.toNat && !isSpace c)

/-- A character of a name. -/
def continuesName (c : Char) : Bool := startsName c || Ascii.isDigit c

/-- The signs, a longer one before those that it starts with. -/
def signs : List (List Char) :=
  [">>>=", "...", "===", "!==", "**=", "<<=", ">>=", ">>>", "&&=", "||=", "??=", "=>", "==", "!=",
    "<=", ">=", "&&", "||", "??", "?.", "++", "--", "+=", "-=", "*=", "/=", "%=", "&=", "|=", "^=",
    "<<", ">>", "**", "\x7b", "\x7d", "(", ")", "[", "]", ";", ",", "<", ">", "+", "-", "*", "/",
    "%", "&", "|", "^", "!", "~", "?", ":", "=", "."].map String.toList

/-! ### Numbers -/

/-- Digits with single low lines between them, the low lines taken out. -/
def digitsOf? (isDigit : Char → Bool) : List Char → Option (List Char)
  | [] => none
  | [c] => if isDigit c then some [c] else none
  | c :: '_' :: rest =>
    if isDigit c then (digitsOf? isDigit rest).map (c :: ·) else none
  | c :: rest => if isDigit c then (digitsOf? isDigit rest).map (c :: ·) else none

/-- The number of digits of a base. -/
def ofDigits (base : Nat) (s : List Char) : Nat :=
  s.foldl (fun n c => n * base + (Ascii.hexValue? c).getD 0) 0

/-- The digits of a base. -/
def isDigitOf (base : Nat) (c : Char) : Bool :=
  match Ascii.hexValue? c with
  | some v => v < base
  | none => false

/-- The number of a base after its mark. -/
def radixNumber? (base : Nat) (s : List Char) : Option Binary64 :=
  (digitsOf? (isDigitOf base) s).map fun ds => Binary64.ofInt (ofDigits base ds)

/-- The characters of a decimal number in front: digits, a point and an exponent. -/
def decimalLength (s : List Char) : Nat :=
  let isPart (c : Char) := Ascii.isDigit c || c == '_'
  let whole := s.takeWhile isPart
  let afterWhole := s.dropWhile isPart
  let (point, afterPoint) :=
    match afterWhole with
    | '.' :: rest => (1 + (rest.takeWhile isPart).length, rest.dropWhile isPart)
    | _ => (0, afterWhole)
  let exponent :=
    match afterPoint with
    | e :: rest =>
      if e == 'e' || e == 'E' then
        let (signLength, digits) :=
          match rest with
          | '+' :: ds | '-' :: ds => (1, ds.takeWhile isPart)
          | ds => (0, ds.takeWhile isPart)
        if digits.isEmpty then 0 else 1 + signLength + digits.length
      else 0
    | [] => 0
  whole.length + point + exponent

/-- The decimal number that a whole text writes. -/
def decimal? (s : List Char) : Option Binary64 :=
  let clean := s.filter (· != '_')
  Binary64.magnitudeOfText? false clean

/-- The number in front of a text, with its length. -/
def numberAt (s : List Char) : Option Binary64 × Nat :=
  let marked (base : Nat) (rest : List Char) :=
    let ds := rest.takeWhile fun c => Ascii.hexValue? c |>.isSome
    let ds := if base = 16 then ds else rest.takeWhile fun c => Ascii.isDigit c || c == '_'
    (radixNumber? base ds, 2 + ds.length)
  match s with
  | '0' :: 'x' :: rest | '0' :: 'X' :: rest => marked 16 rest
  | '0' :: 'o' :: rest | '0' :: 'O' :: rest => marked 8 rest
  | '0' :: 'b' :: rest | '0' :: 'B' :: rest => marked 2 rest
  | _ =>
    let n := decimalLength s
    (decimal? (s.take n), n)

/-! ### Texts -/

/-- The unit of an escape with a fixed number of digits. -/
def fixedEscape? (count : Nat) (s : List Char) : Option (Nat × List Char) :=
  let ds := s.take count
  if ds.length = count && ds.all (isDigitOf 16) then some (ofDigits 16 ds, s.drop count) else none

/-- The units of an escape, after its backslash, and what follows it. -/
def escape? : List Char → Option (List Nat × List Char)
  | [] => none
  | 'n' :: s => some ([10], s)
  | 't' :: s => some ([9], s)
  | 'r' :: s => some ([13], s)
  | 'b' :: s => some ([8], s)
  | 'f' :: s => some ([12], s)
  | 'v' :: s => some ([11], s)
  | '\r' :: '\n' :: s => some ([], s)
  | 'x' :: s => (fixedEscape? 2 s).map fun (n, rest) => ([n], rest)
  | 'u' :: '\x7b' :: s =>
    let ds := s.takeWhile (isDigitOf 16)
    match s.dropWhile (isDigitOf 16) with
    | '\x7d' :: rest =>
      let n := ofDigits 16 ds
      if ds.isEmpty || 0x10FFFF < n then none else some ([n], rest)
    | _ => none
  | 'u' :: s => (fixedEscape? 4 s).map fun (n, rest) => ([n], rest)
  | '0' :: s =>
    match s with
    | c :: _ => if Ascii.isDigit c then none else some ([0], s)
    | [] => some ([0], s)
  | c :: s =>
    if Ascii.isDigit c then none
    else if isLineEnd c then some ([], s)
    else some (Text.unitsOf c, s)

/-- The message for a text that has no end. -/
def openText : String := "unexpected end of string"

/-- The message for an escape that stands for nothing. -/
def badEscape : String := "malformed escape sequence in string literal"

/-- The units up to the quote, and what follows it. -/
def quotedUnits (quote : Char) : (fuel : Nat) → List Char → Except String (List Nat × List Char)
  | 0, _ => .error openText
  | _, [] => .error openText
  | fuel + 1, '\\' :: s =>
    match s, escape? s with
    | [], _ => .error openText
    | _, none => .error badEscape
    | _, some (us, rest) =>
      (quotedUnits quote fuel rest).map fun (more, after) => (us ++ more, after)
  | fuel + 1, c :: s =>
    if c = quote then .ok ([], s)
    else if c = '\n' || c = '\r' then .error openText
    else (quotedUnits quote fuel s).map fun (more, after) => (Text.unitsOf c ++ more, after)

/-- The units of a template up to its end or the next expression, whether it is the end, and what
follows. -/
def templateUnits : (fuel : Nat) → List Char → Except String (List Nat × Bool × List Char)
  | 0, _ => .error openText
  | _, [] => .error openText
  | _, '`' :: s => .ok ([], true, s)
  | _, '$' :: '\x7b' :: s => .ok ([], false, s)
  | fuel + 1, '\\' :: s =>
    match s, escape? s with
    | [], _ => .error openText
    | _, none => .error badEscape
    | _, some (us, rest) =>
      (templateUnits fuel rest).map fun (more, after) => (us ++ more, after)
  | fuel + 1, '\r' :: '\n' :: s =>
    (templateUnits fuel s).map fun (more, after) => (10 :: more, after)
  | fuel + 1, c :: s =>
    let us := if c = '\r' then [10] else Text.unitsOf c
    (templateUnits fuel s).map fun (more, after) => (us ++ more, after)

/-! ### Tokens -/

/-- Drops blanks and comments: whether a line ended in them and what follows; none when a comment
has no end. -/
def skipSpace : (fuel : Nat) → Bool → List Char → Option (Bool × List Char)
  | 0, line, s => some (line, s)
  | fuel + 1, line, '/' :: '/' :: s => skipSpace fuel line (s.dropWhile (!isLineEnd ·))
  | fuel + 1, line, '/' :: '*' :: s =>
    match Text.splitOnce? ['*', '/'] s with
    | none => none
    | some (inner, rest) => skipSpace fuel (line || inner.any isLineEnd) rest
  | fuel + 1, line, c :: s =>
    if isSpace c then skipSpace fuel (line || isLineEnd c) s else some (line, c :: s)
  | _, line, [] => some (line, [])

/-- The sign in front of a text. A question mark and a point before a digit are two signs. -/
def signAt? (s : List Char) : Option (List Char) :=
  match s with
  | '?' :: '.' :: c :: _ =>
    if Ascii.isDigit c then some ['?'] else signs.find? (Text.startsWith · s)
  | _ => signs.find? (Text.startsWith · s)

/-- The token in front of a text that does not start with a blank, and what follows it. -/
def tokenAt (braces : List Bool) (s : List Char) : Token × List Char :=
  let ofQuoted : Except String (List Nat × List Char) → Token × List Char
    | .ok (us, rest) => (.string (String.ofList (Text.ofUnits us)), rest)
    | .error m => (.fault m, [])
  let ofTemplate (first : Bool) : Except String (List Nat × Bool × List Char) → Token × List Char
    | .ok (us, last, rest) => (.template first (String.ofList (Text.ofUnits us)) last, rest)
    | .error m => (.fault m, [])
  let ofNumber : Token × List Char :=
    let (x, n) := numberAt s
    let rest := s.drop n
    match x, rest with
    | none, _ => (.fault "invalid number literal", [])
    | some x, c :: _ =>
      if continuesName c then (.fault "invalid number literal", []) else (.number x, rest)
    | some x, [] => (.number x, rest)
  match s with
  | [] => (.stop, [])
  | '"' :: rest => ofQuoted (quotedUnits '"' s.length rest)
  | '\'' :: rest => ofQuoted (quotedUnits '\'' s.length rest)
  | '`' :: rest => ofTemplate true (templateUnits s.length rest)
  | '\x7d' :: rest =>
    if braces.head? = some true then ofTemplate false (templateUnits s.length rest)
    else (.sign "\x7d", rest)
  | '.' :: c :: _ => if Ascii.isDigit c then ofNumber else
      match signAt? s with
      | some p => (.sign (String.ofList p), s.drop p.length)
      | none => (.sign ".", s.tail)
  | c :: rest =>
    if Ascii.isDigit c then ofNumber
    else if startsName c then
      (.word (String.ofList (s.takeWhile continuesName)), s.dropWhile continuesName)
    else
      match signAt? s with
      | some p => (.sign (String.ofList p), s.drop p.length)
      | none => (.sign (String.singleton c), rest)

/-- The open braces after a token: true for one that a template opened. -/
def bracesAfter (braces : List Bool) : Token → List Bool
  | .sign "\x7b" => false :: braces
  | .sign "\x7d" => braces.tail
  | .template true _ false => true :: braces
  | .template false _ true => braces.tail
  | _ => braces

/-- The tokens of a text; the last one is a stop or a fault. -/
def ofTextFrom : (fuel : Nat) → (braces : List Bool) → List Char → List Lexeme
  | 0, _, _ => [⟨.stop, "", "", false⟩]
  | fuel + 1, braces, s =>
    match skipSpace s.length false s with
    | none => [⟨.fault "unexpected end of comment", "", "", false⟩]
    | some (line, after) =>
      let gap := String.ofList (s.take (s.length - after.length))
      match tokenAt braces after with
      | (.stop, _) => [⟨.stop, "", gap, line⟩]
      | (.fault m, _) => [⟨.fault m, "", gap, line⟩]
      | (token, rest) =>
        let text := String.ofList (after.take (after.length - rest.length))
        ⟨token, text, gap, line⟩ :: ofTextFrom fuel (bracesAfter braces token) rest

/-- The tokens of a text. -/
def ofText (s : String) : List Lexeme := ofTextFrom (s.toList.length + 1) [] s.toList

end Lexeme

end HttpSuite.Script
