/-
HttpSuite/Toml/Reader.lean

Reading TOML documents line by line: headers, assignments and comments.
-/
import HttpSuite.Toml.Scalar

namespace HttpSuite.Toml

namespace Reader

/-! ### Blanks and comments -/

/-- Drops blanks that do not end a line. -/
def skipBlanks (s : List Char) : List Char := s.dropWhile fun c => c == ' ' || c == '\t'

/-- A character of a comment. -/
def isCommentChar (c : Char) : Bool := c == '\t' || (0x20 ≤ c.toNat && c.toNat != 0x7F)

/-- What follows the end of a line. -/
def newline? : List Char → Option (List Char)
  | '\n' :: s => some s
  | '\r' :: '\n' :: s => some s
  | _ => none

/-- What follows a comment, if there is one. -/
def skipComment : List Char → List Char
  | '#' :: s => s.dropWhile isCommentChar
  | s => s

/-- What follows the rest of a line that holds nothing more. -/
def endLine? (s : List Char) : Option (List Char) :=
  match skipComment (skipBlanks s) with
  | [] => some []
  | rest => newline? rest

/-- Drops blanks, comments and ends of lines. -/
def skipLines : (fuel : Nat) → List Char → List Char
  | 0, s => s
  | fuel + 1, s =>
    let rest := skipComment (skipBlanks s)
    match newline? rest with
    | some rest => skipLines fuel rest
    | none => rest

/-- Drops blanks, comments and ends of lines. -/
def skipAll (s : List Char) : List Char := skipLines s.length s

/-! ### Strings -/

/-- The character of so many hexadecimal digits, and the rest. -/
def codePoint? (count : Nat) (s : List Char) : Option (List Char × List Char) :=
  let digits := s.take count
  if digits.length = count && digits.all fun c => (Ascii.hexValue? c).isSome then
    let n := Scalar.natOf 16 digits
    if n < 0xD800 ∨ (0xE000 ≤ n ∧ n < 0x110000) then some ([Char.ofNat n], s.drop count) else none
  else none

/-- The character of an escape behind its backslash, and the rest. -/
def escape? : List Char → Option (List Char × List Char)
  | 'b' :: s => some (['\x08'], s)
  | 't' :: s => some (['\t'], s)
  | 'n' :: s => some (['\n'], s)
  | 'f' :: s => some (['\x0c'], s)
  | 'r' :: s => some (['\r'], s)
  | 'e' :: s => some (['\x1b'], s)
  | '"' :: s => some (['"'], s)
  | '\\' :: s => some (['\\'], s)
  | 'x' :: s => codePoint? 2 s
  | 'u' :: s => codePoint? 4 s
  | 'U' :: s => codePoint? 8 s
  | _ => none

/-- Drops blanks and ends of lines. -/
def skipSpace : List Char → List Char
  | ' ' :: s => skipSpace s
  | '\t' :: s => skipSpace s
  | '\n' :: s => skipSpace s
  | '\r' :: '\n' :: s => skipSpace s
  | s => s

/-- The text behind a backslash at the end of a line: what follows blanks and ends of lines. -/
def continued? (s : List Char) : Option (List Char) :=
  (newline? (skipBlanks s)).map skipSpace

/-- A string on one line up to its closing quote, with escapes or without. -/
def lineString (quote : Char) : (fuel : Nat) → List Char → Option (List Char × List Char)
  | 0, _ => none
  | _ + 1, [] => none
  | fuel + 1, c :: s =>
    if c = quote then some ([], s)
    else if c = '\\' ∧ quote = '"' then do
      let (char, s) ← escape? s
      let (text, s) ← lineString quote fuel s
      pure (char ++ text, s)
    else if isCommentChar c then (lineString quote fuel s).map fun (text, s) => (c :: text, s)
    else none

/-- A string on several lines up to its three closing quotes, in front of which two more may
stand. -/
def blockString (quote : Char) : (fuel : Nat) → List Char → Option (List Char × List Char)
  | 0, _ => none
  | _ + 1, [] => none
  | fuel + 1, c :: s =>
    if c = quote then
      let quotes := (c :: s).takeWhile (· = quote)
      let rest := (c :: s).drop quotes.length
      if 3 ≤ quotes.length then
        if quotes.length ≤ 5 then some (quotes.drop 3, rest) else none
      else (blockString quote fuel rest).map fun (text, s) => (quotes ++ text, s)
    else if c = '\\' ∧ quote = '"' then
      match continued? s with
      | some s => blockString quote fuel s
      | none => do
        let (char, s) ← escape? s
        let (text, s) ← blockString quote fuel s
        pure (char ++ text, s)
    else if isCommentChar c ∨ (newline? (c :: s)).isSome then
      (blockString quote fuel s).map fun (text, s) => (c :: text, s)
    else none

/-- A string, if the text starts with one. -/
def string? (s : List Char) : Option (Option (List Char × List Char)) :=
  match s with
  | c :: rest =>
    if c = '"' ∨ c = '\'' then
      match rest with
      | d :: e :: more =>
        if d = c ∧ e = c then
          let more := (newline? more).getD more
          some (blockString c (more.length + 1) more)
        else some (lineString c (rest.length + 1) rest)
      | _ => some (lineString c (rest.length + 1) rest)
    else none
  | [] => none

/-! ### Keys -/

/-- A character of a key without quotes. -/
def isKeyChar (c : Char) : Bool := Ascii.isLetter c || Ascii.isDigit c || c == '_' || c == '-'

/-- A key. -/
def key? (s : List Char) : Option (String × List Char) :=
  match s with
  | c :: rest =>
    if c = '"' ∨ c = '\'' then
      (lineString c (rest.length + 1) rest).map fun (text, s) => (String.ofList text, s)
    else
      let name := s.takeWhile isKeyChar
      if name.isEmpty then none else some (String.ofList name, s.drop name.length)
  | [] => none

/-- Keys with points between them, and the rest behind blanks. -/
def path? : (fuel : Nat) → List Char → Option (List String × List Char)
  | 0, _ => none
  | fuel + 1, s => do
    let (key, s) ← key? (skipBlanks s)
    match skipBlanks s with
    | '.' :: s =>
      let (path, s) ← path? fuel s
      pure (key :: path, s)
    | s => pure ([key], s)

/-- Keys with points between them and the sign behind them. -/
def assignedPath? (s : List Char) : Option (List String × List Char) := do
  match ← path? s.length s with
  | (path, '=' :: s) => pure (path, skipBlanks s)
  | _ => none

/-! ### Values -/

mutual

/-- A value. -/
def value? : (fuel : Nat) → List Char → Option (Toml × List Char)
  | 0, _ => none
  | fuel + 1, s =>
    match string? s with
    | some r => r.map fun (text, s) => (.string (String.ofList text), s)
    | none =>
      match s with
      | '[' :: s => (items? fuel (skipAll s)).map fun (l, s) => (.array l, s)
      | '\x7b' :: s => (pairs? fuel (skipAll s) []).map fun (l, s) => (.table (ofNodes l), s)
      | s =>
        let (word, rest) := Scalar.splitWord s
        (Scalar.ofWord? word).map fun v => (v, rest)

/-- The items of an array up to its end. -/
def items? : (fuel : Nat) → List Char → Option (List Toml × List Char)
  | 0, _ => none
  | _ + 1, ']' :: s => some ([], s)
  | fuel + 1, s => do
    let (v, s) ← value? fuel s
    match skipAll s with
    | ',' :: s =>
      let (l, s) ← items? fuel (skipAll s)
      pure (v :: l, s)
    | ']' :: s => pure ([v], s)
    | _ => none

/-- The assignments of a table in braces up to its end. -/
def pairs? : (fuel : Nat) → List Char → Nodes → Option (Nodes × List Char)
  | 0, _, _ => none
  | _ + 1, '\x7d' :: s, l => some (l, s)
  | fuel + 1, s, l => do
    let (path, s) ← assignedPath? s
    let (v, s) ← value? fuel s
    let l ← assign v path l
    match skipAll s with
    | ',' :: s => pairs? fuel (skipAll s) l
    | '\x7d' :: s => pure (l, s)
    | _ => none

end

/-! ### Documents -/

/-- A document that is read, and the path of its open table. -/
structure Reading where
  root : Nodes := []
  current : List String := []

/-- Opens what a header names. -/
def openHeader (change : String → Nodes → Option Nodes) (r : Reading) (path : List String) :
    Option Reading := do
  let key ← path.getLast?
  let root ← within (change key) path.dropLast r.root
  pure { root, current := path }

/-- Reads a header or an assignment. -/
def statement (r : Reading) (s : List Char) : Option (Reading × List Char) :=
  match s with
  | '[' :: '[' :: s =>
    match path? s.length s with
    | some (path, ']' :: ']' :: s) => (openHeader openNext r path).map (·, s)
    | _ => none
  | '[' :: s =>
    match path? s.length s with
    | some (path, ']' :: s) => (openHeader openTable r path).map (·, s)
    | _ => none
  | s => do
    let (path, s) ← assignedPath? s
    let (v, s) ← value? (2 * s.length + 2) s
    let root ← within (assign v path) r.current r.root
    pure ({ r with root }, s)

/-- Reads the lines of a document. -/
def document : (fuel : Nat) → Reading → List Char → Option Reading
  | 0, _, _ => none
  | fuel + 1, r, s =>
    match skipAll s with
    | [] => some r
    | s => do
      let (r, s) ← statement r s
      document fuel r (← endLine? s)

/-- The byte order mark that may stand in front of a document. -/
def orderMark : Char := '\ufeff'

end Reader

/-- The table that a document writes. -/
def parse? (s : List Char) : Option Toml :=
  let s := if s.head? = some Reader.orderMark then s.tail else s
  (Reader.document (s.length + 1) {} s).map fun r => .table (ofNodes r.root)

end HttpSuite.Toml
