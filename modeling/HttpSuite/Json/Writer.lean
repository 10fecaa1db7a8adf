/-
HttpSuite/Json/Writer.lean

JSON texts. `compact` leaves out every blank; `pretty` puts each item and member on a line of its
own, two blanks deeper than its container. In strings a quote, a backslash and the control
characters are escaped and nothing else is.
-/
import HttpSuite.Json.Basic
import HttpSuite.Number.Notation

namespace HttpSuite.Json

/-- The written form of a character in a string. -/
def escapeChar (c : Char) : List Char :=
  if c = '"' then ['\\', '"']
  else if c = '\\' then ['\\', '\\']
  else if c = '\n' then ['\\', 'n']
  else if c = '\r' then ['\\', 'r']
  else if c = '\t' then ['\\', 't']
  else if c.toNat = 8 then ['\\', 'b']
  else if c.toNat = 12 then ['\\', 'f']
  else if c.toNat < 32 then
    ['\\', 'u', '0', '0', Ascii.lowerChar (Ascii.hexDigit (c.toNat / 16)),
      Ascii.lowerChar (Ascii.hexDigit (c.toNat % 16))]
  else [c]

/-- A string between quotes. -/
def quote (s : String) : List Char :=
  '"' :: (s.toList.flatMap escapeChar ++ ['"'])

/-- The text of a number. -/
def numberText : JsonNumber → List Char
  | .whole n => (toString n).toList
  | .real x => (NumberStyle.json.render x).toList

mutual

/-- The text of a value without blanks, as characters. -/
def compactChars : Json → List Char
  | null => ['n', 'u', 'l', 'l']
  | bool true => ['t', 'r', 'u', 'e']
  | bool false => ['f', 'a', 'l', 's', 'e']
  | number n => numberText n
  | string s => quote s
  | array items => '[' :: (compactItems items ++ [']'])
  | object members => '\x7b' :: (compactMembers members ++ ['\x7d'])

/-- The items of an array, commas between them. -/
def compactItems : List Json → List Char
  | [] => []
  | [v] => compactChars v
  | v :: w :: rest => compactChars v ++ ',' :: compactItems (w :: rest)

/-- The members of an object, commas between them. -/
def compactMembers : List (String × Json) → List Char
  | [] => []
  | [(k, v)] => quote k ++ ':' :: compactChars v
  | (k, v) :: m :: rest => quote k ++ ':' :: (compactChars v ++ ',' :: compactMembers (m :: rest))

end

/-- The text of a value without blanks. -/
def compact (v : Json) : String := String.ofList (compactChars v)

/-- A new line, `depth` levels deep. -/
def newLine (depth : Nat) : List Char := '\n' :: List.replicate (2 * depth) ' '

mutual

/-- The text of a value that stands `depth` levels deep, a line for each part. -/
def prettyChars (depth : Nat) : Json → List Char
  | array [] => ['[', ']']
  | array (v :: rest) => '[' :: (prettyItems (depth + 1) (v :: rest) ++ newLine depth ++ [']'])
  | object [] => ['\x7b', '\x7d']
  | object (m :: rest) =>
    '\x7b' :: (prettyMembers (depth + 1) (m :: rest) ++ newLine depth ++ ['\x7d'])
  | v => compactChars v

/-- The items of an array, each on its line. -/
def prettyItems (depth : Nat) : List Json → List Char
  | [] => []
  | [v] => newLine depth ++ prettyChars depth v
  | v :: w :: rest => newLine depth ++ prettyChars depth v ++ ',' :: prettyItems depth (w :: rest)

/-- The members of an object, each on its line. -/
def prettyMembers (depth : Nat) : List (String × Json) → List Char
  | [] => []
  | [(k, v)] => newLine depth ++ quote k ++ [':', ' '] ++ prettyChars depth v
  | (k, v) :: m :: rest =>
    newLine depth ++ quote k ++ [':', ' '] ++ prettyChars depth v ++
      ',' :: prettyMembers depth (m :: rest)

end

/-- The text of a value with a line for each part. -/
def pretty (v : Json) : String := String.ofList (prettyChars 0 v)

/-- The text that a value contributes to other texts: a string itself, anything else its JSON
text. -/
def render : Json → String
  | string s => s
  | v => v.compact

end HttpSuite.Json
