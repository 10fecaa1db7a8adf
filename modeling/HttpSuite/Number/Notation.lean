/-
HttpSuite/Number/Notation.lean

Written forms of numbers. A `NumberStyle` fixes what a format decides: which numbers are written
without an exponent, whether a whole number gets `.0`, the sign of a positive exponent, and the
texts of what is no finite number. The digits are always the shortest that read back.
-/
import HttpSuite.Number.Shortest
import HttpSuite.Text.Ascii

namespace HttpSuite

/-- How a format writes numbers. -/
structure NumberStyle where
  /-- The least exponent of the first digit that is written without an exponent. -/
  positionalFrom : Int
  /-- The greatest one. -/
  positionalTo : Int
  /-- Written after a whole number that has no exponent. -/
  wholeTail : String
  /-- Written before a positive exponent. -/
  plus : String
  nanText : String
  infinityText : String
  /-- Whether the negative zero keeps its sign. -/
  signedZero : Bool

namespace NumberStyle

/-- The digits of a decimal with `point` of them before the point. -/
def positional (style : NumberStyle) (digits : List Char) (point : Int) : List Char :=
  if point ≤ 0 then
    '0' :: '.' :: (List.replicate (-point).toNat '0' ++ digits)
  else
    let n := point.toNat
    if digits.length ≤ n then
      digits ++ List.replicate (n - digits.length) '0' ++ style.wholeTail.toList
    else digits.take n ++ '.' :: digits.drop n

/-- One digit, the rest behind a point, and the exponent. -/
def scientific (style : NumberStyle) (digits : List Char) (exponent : Int) : List Char :=
  let mantissa :=
    match digits with
    | d :: e :: rest => d :: '.' :: e :: rest
    | ds => ds
  let sign := if exponent < 0 then ['-'] else style.plus.toList
  mantissa ++ 'e' :: sign ++ (toString exponent.natAbs).toList

/-- The text of a number without its sign. -/
def magnitude (style : NumberStyle) (d : Binary64.Decimal) : List Char :=
  if d.digits = 0 then '0' :: style.wholeTail.toList
  else
    let digits := (toString d.digits).toList
    let leading : Int := digits.length - 1 + d.exponent
    if style.positionalFrom ≤ leading ∧ leading ≤ style.positionalTo then
      style.positional digits (leading + 1)
    else style.scientific digits leading

/-- The text of a number. -/
def render (style : NumberStyle) : Binary64 → String
  | .nan => style.nanText
  | .infinite negative => (if negative then "-" else "") ++ style.infinityText
  | .finite negative m e =>
    let text := String.ofList (style.magnitude (Binary64.shortest m e))
    if negative && (m ≠ 0 || style.signedZero) then "-" ++ text else text

/-- Never an exponent, and no `.0` on a whole number. -/
def plain : NumberStyle where
  positionalFrom := -400
  positionalTo := 400
  wholeTail := ""
  plus := ""
  nanText := "NaN"
  infinityText := "inf"
  signedZero := true

/-- The form of numbers in JSON texts: an exponent from `1e+16` upwards and below `1e-5`. -/
def json : NumberStyle where
  positionalFrom := -5
  positionalTo := 15
  wholeTail := ".0"
  plus := "+"
  nanText := "null"
  infinityText := "null"
  signedZero := true

/-- The form of numbers in scripts: an exponent from `1e+21` upwards and below `1e-6`. -/
def script : NumberStyle where
  positionalFrom := -6
  positionalTo := 20
  wholeTail := ""
  plus := "+"
  nanText := "NaN"
  infinityText := "Infinity"
  signedZero := false

/-- The form that keeps apart whole numbers and numbers with a point. -/
def pointed : NumberStyle where
  positionalFrom := -4
  positionalTo := 15
  wholeTail := ".0"
  plus := ""
  nanText := "NaN"
  infinityText := "inf"
  signedZero := true

end NumberStyle

namespace Binary64

/-- Digits of a decimal fraction: what comes before and after an optional point. -/
def fractionOfDigits? (s : List Char) : Option (Nat × Int) :=
  let whole := s.takeWhile Ascii.isDigit
  match s.dropWhile Ascii.isDigit with
  | [] => (Ascii.natOfDigits? whole).map fun n => (n, 0)
  | '.' :: fraction =>
    if fraction.all Ascii.isDigit then
      (Ascii.natOfDigits? (whole ++ fraction)).map fun n => (n, -(fraction.length : Int))
    else none
  | _ => none

/-- An unsigned decimal with an optional point and an optional exponent. -/
def magnitudeOfText? (negative : Bool) (s : List Char) : Option Binary64 :=
  let mantissa := s.takeWhile fun c => c != 'e' && c != 'E'
  match s.dropWhile (fun c => c != 'e' && c != 'E') with
  | [] => (fractionOfDigits? mantissa).map fun (n, k) => ofDecimal negative n k
  | _ :: exponent => do
    let (n, k) ← fractionOfDigits? mantissa
    let x ← Ascii.intOfDigits? exponent
    pure (ofDecimal negative n (k + x))

/-- The number that a text writes: an optional sign, then digits with an optional point and
exponent, or one of the words for what is no finite number, in any case of letters. -/
def ofText? (s : List Char) : Option Binary64 :=
  let (negative, rest) :=
    match s with
    | '-' :: rest => (true, rest)
    | '+' :: rest => (false, rest)
    | rest => (false, rest)
  let word := String.ofList (Ascii.lower rest)
  if word = "inf" || word = "infinity" then some (infinite negative)
  else if word = "nan" then some nan
  else magnitudeOfText? negative rest

end Binary64

end HttpSuite
