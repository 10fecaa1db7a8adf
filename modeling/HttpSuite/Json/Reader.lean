/-
HttpSuite/Json/Reader.lean

Reading JSON texts, strictly: no blank but the four of JSON, no unescaped control character in a
string, no surrogate that is not paired, no container 128 levels deep and no number beyond the
binary64 format. Whole numbers that fit in 64 bits are kept; a number with a point, an exponent or
too many digits is rounded twice, once as the whole number of its digits and once more when it is
scaled by a rounded power of ten.
-/
import HttpSuite.Json.Basic
import HttpSuite.Text.Ascii
import HttpSuite.Text.Search

namespace HttpSuite.Json.Reader

/-- A blank of JSON. -/
def isSpace (c : Char) : Bool := c == ' ' || c == '\n' || c == '\t' || c == '\r'

/-- Drops the blanks in front. -/
def skipSpace (s : List Char) : List Char := s.dropWhile isSpace

/-! ### Numbers -/

/-- The greatest whole number of 64 bits. -/
def maxSignificand : Nat := 2 ^ 64 - 1

/-- A power of ten, rounded. -/
def powerOfTen (n : Nat) : Binary64 := Binary64.ofDecimal false 1 n

/-- A rounded whole number times a rounded power of ten; none beyond the format. Powers below the
format are taken in two steps. -/
def scaleByTen (x : Binary64) (exponent : Int) : Option Binary64 :=
  if 308 < exponent then if x.isZero then some x else none
  else if 0 ≤ exponent then
    match x.mul (powerOfTen exponent.toNat) with
    | .infinite _ => none
    | y => some y
  else if -308 ≤ exponent then some (x.div (powerOfTen (-exponent).toNat))
  else
    let y := x.div (powerOfTen 308)
    let rest := -exponent - 308
    if rest ≤ 308 then some (y.div (powerOfTen rest.toNat)) else some .zero

/-- The number of a significand and an exponent. -/
def ofParts (negative : Bool) (significand : Nat) (exponent : Int) : Option JsonNumber :=
  (scaleByTen (Binary64.round false significand 1) exponent).map fun x =>
    .real (if negative then x.neg else x)

/-- Takes digits into a significand as long as it stays in 64 bits: the significand, how many
digits it took, and the digits left over. -/
def takeDigits (significand : Nat) : List Char → Nat × Nat × List Char
  | [] => (significand, 0, [])
  | c :: rest =>
    let next := significand * 10 + (c.toNat - '0'.toNat)
    if maxSignificand < next then (significand, 0, c :: rest)
    else
      let (s, n, left) := takeDigits next rest
      (s, n + 1, left)

/-- The number with a significand, after the exponent mark. -/
def readExponent (negative : Bool) (significand : Nat) (start : Int) (s : List Char) :
    Option (JsonNumber × List Char) :=
  let (negativeExponent, s) :=
    match s with
    | '+' :: s => (false, s)
    | '-' :: s => (true, s)
    | s => (false, s)
  let digits := s.takeWhile Ascii.isDigit
  let rest := s.dropWhile Ascii.isDigit
  match Ascii.natOfDigits? digits with
  | none => none
  | some n =>
    if 2 ^ 31 ≤ n then
      if significand ≠ 0 && !negativeExponent then none
      else some (.real (Binary64.signedZero negative), rest)
    else
      let exponent := if negativeExponent then start - n else start + n
      (ofParts negative significand exponent).map (·, rest)

/-- The number with a significand, after its digits. -/
def finish (negative : Bool) (significand : Nat) (exponent : Int) :
    List Char → Option (JsonNumber × List Char)
  | 'e' :: s => readExponent negative significand exponent s
  | 'E' :: s => readExponent negative significand exponent s
  | s => (ofParts negative significand exponent).map (·, s)

/-- The number with a significand, after the point; digits that no longer fit are left out. -/
def readFraction (negative : Bool) (significand : Nat) (exponent : Int) (s : List Char) :
    Option (JsonNumber × List Char) :=
  let digits := s.takeWhile Ascii.isDigit
  let rest := s.dropWhile Ascii.isDigit
  if digits.isEmpty then none
  else
    let (significand, taken, _) := takeDigits significand digits
    finish negative significand (exponent - taken) rest

/-- A whole number, kept when it fits in 64 bits with its sign. -/
def wholeNumber (negative : Bool) (n : Nat) : JsonNumber :=
  if !negative then .whole n
  else if n = 0 || 2 ^ 63 < n then .real (Binary64.round true n 1)
  else .whole (-(n : Int))

/-- A number without its sign. -/
def readMagnitude (negative : Bool) (s : List Char) : Option (JsonNumber × List Char) :=
  let digits := s.takeWhile Ascii.isDigit
  let rest := s.dropWhile Ascii.isDigit
  if digits.isEmpty || (digits.head? = some '0' && 1 < digits.length) then none
  else
    let (significand, _, left) := takeDigits 0 digits
    match rest with
    | '.' :: fraction => readFraction negative significand left.length fraction
    | 'e' :: s => readExponent negative significand left.length s
    | 'E' :: s => readExponent negative significand left.length s
    | s =>
      if left.isEmpty then some (wholeNumber negative significand, s)
      else (ofParts negative significand left.length).map (·, s)

/-- A number. -/
def readNumber : List Char → Option (JsonNumber × List Char)
  | '-' :: s => readMagnitude true s
  | s => readMagnitude false s

/-! ### Strings -/

/-- The unit of four hexadecimal digits. -/
def readUnit : List Char → Option (Nat × List Char)
  | a :: b :: c :: d :: rest => do
    let a ← Ascii.hexValue? a
    let b ← Ascii.hexValue? b
    let c ← Ascii.hexValue? c
    let d ← Ascii.hexValue? d
    pure (((a * 16 + b) * 16 + c) * 16 + d, rest)
  | _ => none

/-- The character of an escape, after its backslash. -/
def readEscape : List Char → Option (Char × List Char)
  | '"' :: s => some ('"', s)
  | '\\' :: s => some ('\\', s)
  | '/' :: s => some ('/', s)
  | 'b' :: s => some ('\x08', s)
  | 'f' :: s => some ('\x0c', s)
  | 'n' :: s => some ('\n', s)
  | 'r' :: s => some ('\r', s)
  | 't' :: s => some ('\t', s)
  | 'u' :: s =>
    match readUnit s with
    | none => none
    | some (high, rest) =>
      if 0xD800 ≤ high && high < 0xDC00 then
        match rest with
        | '\\' :: 'u' :: more =>
          match readUnit more with
          | some (low, rest) =>
            if 0xDC00 ≤ low && low < 0xE000 then
              some (Char.ofNat (0x10000 + (high - 0xD800) * 0x400 + (low - 0xDC00)), rest)
            else none
          | none => none
        | _ => none
      else if 0xDC00 ≤ high && high < 0xE000 then none
      else some (Char.ofNat high, rest)
  | _ => none

/-- The characters of a string up to its closing quote, for a text of at most `fuel` characters. -/
def readChars : (fuel : Nat) → List Char → Option (List Char × List Char)
  | 0, _ => none
  | _ + 1, [] => none
  | _ + 1, '"' :: rest => some ([], rest)
  | fuel + 1, '\\' :: s =>
    match readEscape s with
    | none => none
    | some (c, rest) => (readChars fuel rest).map fun (cs, rest) => (c :: cs, rest)
  | fuel + 1, c :: s =>
    if c.toNat < 32 then none
    else (readChars fuel s).map fun (cs, rest) => (c :: cs, rest)

/-- A string, after its opening quote. -/
def readString (s : List Char) : Option (String × List Char) :=
  (readChars (s.length + 1) s).map fun (cs, rest) => (String.ofList cs, rest)

/-! ### Values -/

mutual

/-- A value, blanks in front allowed, in a container that may be `depth` levels deep. -/
def readValue : (fuel depth : Nat) → List Char → Option (Json × List Char)
  | 0, _, _ => none
  | fuel + 1, depth, s =>
    match skipSpace s with
    | 'n' :: 'u' :: 'l' :: 'l' :: rest => some (null, rest)
    | 't' :: 'r' :: 'u' :: 'e' :: rest => some (bool true, rest)
    | 'f' :: 'a' :: 'l' :: 's' :: 'e' :: rest => some (bool false, rest)
    | '"' :: rest => (readString rest).map fun (s, rest) => (string s, rest)
    | '[' :: rest =>
      if depth ≤ 1 then none
      else
        match skipSpace rest with
        | ']' :: rest => some (array [], rest)
        | rest => (readItems fuel (depth - 1) rest).map fun (items, rest) => (array items, rest)
    | '\x7b' :: rest =>
      if depth ≤ 1 then none
      else
        match skipSpace rest with
        | '\x7d' :: rest => some (object [], rest)
        | rest =>
          (readMembers fuel (depth - 1) rest).map fun (members, rest) => (ofMembers members, rest)
    | s => (readNumber s).map fun (n, rest) => (number n, rest)

/-- The items of an array up to its end. -/
def readItems : (fuel depth : Nat) → List Char → Option (List Json × List Char)
  | 0, _, _ => none
  | fuel + 1, depth, s =>
    match readValue fuel depth s with
    | none => none
    | some (v, rest) =>
      match skipSpace rest with
      | ',' :: rest => (readItems fuel depth rest).map fun (vs, rest) => (v :: vs, rest)
      | ']' :: rest => some ([v], rest)
      | _ => none

/-- The members of an object up to its end. -/
def readMembers : (fuel depth : Nat) → List Char → Option (List (String × Json) × List Char)
  | 0, _, _ => none
  | fuel + 1, depth, s =>
    match skipSpace s with
    | '"' :: s =>
      match readString s with
      | none => none
      | some (key, rest) =>
        match skipSpace rest with
        | ':' :: rest =>
          match readValue fuel depth rest with
          | none => none
          | some (v, rest) =>
            match skipSpace rest with
            | ',' :: rest =>
              (readMembers fuel depth rest).map fun (ms, rest) => ((key, v) :: ms, rest)
            | '\x7d' :: rest => some ([(key, v)], rest)
            | _ => none
        | _ => none
    | _ => none

end

end Reader

/-- The value of a JSON text, if it is one. -/
def parse? (s : List Char) : Option Json :=
  match Reader.readValue (2 * s.length + 2) 128 s with
  | some (v, rest) => if (Reader.skipSpace rest).isEmpty then some v else none
  | none => none

end HttpSuite.Json
