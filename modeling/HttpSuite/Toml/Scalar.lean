/-
HttpSuite/Toml/Scalar.lean

Numbers, truth values and moments of TOML documents: what is written without quotes and brackets.
-/
import HttpSuite.Calendar
import HttpSuite.Number.Notation
import HttpSuite.Text.Search
import HttpSuite.Toml.Basic

namespace HttpSuite.Toml.Scalar

/-! ### Numbers -/

/-- Digits without the underscores between them. -/
def plainDigits? (isDigit : Char → Bool) (s : List Char) : Option (List Char) :=
  let groups := s.splitOn '_'
  if groups.all fun g => !g.isEmpty && g.all isDigit then some groups.flatten else none

/-- The number of digits to a base. -/
def natOf (base : Nat) (digits : List Char) : Nat :=
  digits.foldl (fun n c => n * base + (Ascii.hexValue? c).getD 0) 0

/-- Whether a character is a digit to a base. -/
def isDigitTo (base : Nat) (c : Char) : Bool :=
  match Ascii.hexValue? c with
  | some d => d < base
  | none => false

/-- A whole number to a base. -/
def based? (base : Nat) (s : List Char) : Option Int :=
  (plainDigits? (isDigitTo base) s).map fun digits => (natOf base digits : Int)

/-- Decimal digits without needless zeros in front. -/
def decimal? (s : List Char) : Option (List Char) :=
  (plainDigits? Ascii.isDigit s).filter fun digits =>
    digits.length = 1 || digits.head? ≠ some '0'

/-- The sign in front of a number, and the rest. -/
def splitSign : List Char → Bool × List Char
  | '-' :: s => (true, s)
  | '+' :: s => (false, s)
  | s => (false, s)

/-- A whole number. -/
def integer? : List Char → Option Int
  | '0' :: 'x' :: s => based? 16 s
  | '0' :: 'o' :: s => based? 8 s
  | '0' :: 'b' :: s => based? 2 s
  | s =>
    let (negative, s) := splitSign s
    (decimal? s).map fun digits =>
      let n : Int := natOf 10 digits
      if negative then -n else n

/-- Whether a text is an exponent behind its mark. -/
def isExponent (s : List Char) : Bool := (plainDigits? Ascii.isDigit (splitSign s).2).isSome

/-- Whether a text is a magnitude with a fraction or an exponent. -/
def isReal (s : List Char) : Bool :=
  let whole := s.takeWhile fun c => Ascii.isDigit c || c == '_'
  (decimal? whole).isSome &&
    match s.drop whole.length with
    | '.' :: rest =>
      let fraction := rest.takeWhile fun c => Ascii.isDigit c || c == '_'
      (plainDigits? Ascii.isDigit fraction).isSome &&
        match rest.drop fraction.length with
        | [] => true
        | c :: exponent => (c == 'e' || c == 'E') && isExponent exponent
    | c :: exponent => (c == 'e' || c == 'E') && isExponent exponent
    | [] => false

/-- A number with a fraction or an exponent, or one that is not finite. -/
def float? (s : List Char) : Option Binary64 :=
  let (negative, magnitude) := splitSign s
  if magnitude = "inf".toList then some (.infinite negative)
  else if magnitude = "nan".toList then some .nan
  else if isReal magnitude then Binary64.ofText? (s.filter (· ≠ '_'))
  else none

/-! ### Moments -/

/-- The number of the digits between two places. -/
def field? (s : List Char) (first count : Nat) : Option Nat :=
  let digits := (s.drop first).take count
  if digits.length = count then Ascii.natOfDigits? digits else none

/-- Whether a text is a date. -/
def isDate (s : List Char) : Bool :=
  match field? s 0 4, field? s 5 2, field? s 8 2 with
  | some year, some month, some day =>
    s.length = 10 && s[4]? = some '-' && s[7]? = some '-' && 1 ≤ month && month ≤ 12 && 1 ≤ day &&
      day ≤ Calendar.daysInMonth year month
  | _, _, _ => false

/-- Whether a text is an hour and a minute. -/
def isClock (s : List Char) : Bool :=
  match field? s 0 2, field? s 3 2 with
  | some hour, some minute => s.length = 5 && s[2]? = some ':' && hour ≤ 23 && minute ≤ 59
  | _, _ => false

/-- Whether a text is what follows the minute: seconds, perhaps with a fraction. -/
def isSeconds (s : List Char) : Bool :=
  match s with
  | [] => true
  | ':' :: s =>
    (field? s 0 2).any (· ≤ 60) &&
      match s.drop 2 with
      | [] => true
      | '.' :: fraction => !fraction.isEmpty && fraction.all Ascii.isDigit
      | _ => false
  | _ => false

/-- Whether a text is a time of day. -/
def isTime (s : List Char) : Bool := isClock (s.take 5) && isSeconds (s.drop 5)

/-- Whether a text is a time of day and the distance from universal time. -/
def isZonedTime (s : List Char) : Bool :=
  isTime s ||
    match s.getLast? with
    | some 'Z' | some 'z' => isTime s.dropLast
    | _ =>
      let sign := s[s.length - 6]?
      6 ≤ s.length && (sign = some '+' || sign = some '-') && isClock (s.drop (s.length - 5)) &&
        isTime (s.take (s.length - 6))

/-- Whether a text is a moment. -/
def isMoment (s : List Char) : Bool :=
  isDate s || isTime s ||
    (isDate (s.take 10) && (s[10]?).any ['T', 't', ' '].contains && isZonedTime (s.drop 11))

/-! ### Scalars -/

/-- The value of a word. -/
def ofWord? (s : List Char) : Option Toml :=
  if s = "true".toList then some (.bool true)
  else if s = "false".toList then some (.bool false)
  else
    match integer? s, float? s with
    | some n, _ => some (.integer n)
    | none, some x => some (.float x)
    | none, none => if isMoment s then some (.moment (String.ofList s)) else none

/-- A character of a word. -/
def isWordChar (c : Char) : Bool :=
  Ascii.isLetter c || Ascii.isDigit c || ['+', '-', '_', '.', ':'].contains c

/-- The word in front of a text, and the rest. A date takes the time behind a space with it. -/
def splitWord (s : List Char) : List Char × List Char :=
  let word := s.takeWhile isWordChar
  match s.drop word.length with
  | ' ' :: c :: rest =>
    if isDate word && Ascii.isDigit c then
      let time := (c :: rest).takeWhile isWordChar
      (word ++ ' ' :: time, (c :: rest).drop time.length)
    else (word, ' ' :: c :: rest)
  | rest => (word, rest)

end HttpSuite.Toml.Scalar
