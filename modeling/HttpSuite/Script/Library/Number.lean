/-
HttpSuite/Script/Library/Number.lean

The functions on numbers and truth values, and those of mathematics.
-/
import HttpSuite.Script.Library.Array

namespace HttpSuite.Script

/-- The number in front of a text, whatever follows it. -/
def leadingNumber (s : String) : Binary64 :=
  let signed (negative : Bool) (t : List Char) : Binary64 :=
    if Text.startsWith "Infinity".toList t then .infinite negative
    else
      let digits := (t.take (Lexeme.decimalLength t)).takeWhile (· != '_')
      (Binary64.magnitudeOfText? negative digits).getD .nan
  match Value.trimmed s with
  | '-' :: t => signed true t
  | '+' :: t => signed false t
  | t => signed false t

/-- The whole number of a base in front of a text. -/
def leadingWhole (s : String) (base : Int) : Binary64 :=
  let (negative, t) :=
    match Value.trimmed s with
    | '-' :: t => (true, t)
    | '+' :: t => (false, t)
    | t => (false, t)
  let hexMark (t : List Char) : Option (List Char) :=
    match t with
    | '0' :: 'x' :: rest | '0' :: 'X' :: rest => some rest
    | _ => none
  let (base, t) :=
    if base = 0 then
      match hexMark t with
      | some rest => (16, rest)
      | none => (10, t)
    else if base = 16 then (16, (hexMark t).getD t)
    else (base, t)
  let digit? (c : Char) : Option Nat :=
    if Ascii.isDigit c then some (c.toNat - '0'.toNat)
    else if Ascii.isLetter c then some ((Ascii.lowerChar c).toNat - 'a'.toNat + 10)
    else none
  if base < 2 ∨ 36 < base then .nan
  else
    let isDigit (c : Char) : Bool :=
      match digit? c with
      | some d => (d : Int) < base
      | none => false
    let digits := t.takeWhile isDigit
    if digits.isEmpty then .nan
    else
      let n := digits.foldl (fun n c => n * base.toNat + (digit? c).getD 0) 0
      Binary64.ofIntSigned negative (if negative then -(n : Int) else n)

/-- The text of a number with a fixed count of digits behind the point, a half rounded up. -/
def fixedText (x : Binary64) (places : Nat) : String :=
  match x with
  | .finite negative mantissa exponent =>
    let num := mantissa * 10 ^ places * 2 ^ exponent.toNat
    let den := 2 ^ (-exponent).toNat
    let n := (2 * num + den) / (2 * den)
    let digits := (toString n).toList
    let digits := List.replicate (places + 1 - digits.length) '0' ++ digits
    let whole := digits.take (digits.length - places)
    let fraction := digits.drop (digits.length - places)
    let sign := if negative && mantissa ≠ 0 then "-" else ""
    sign ++ String.ofList (if places = 0 then whole else whole ++ '.' :: fraction)
  | x => Value.textOfNumber x

/-- The digits of a whole number in a base. -/
def digitsIn (base : Nat) : (fuel : Nat) → Nat → List Char
  | 0, _ => []
  | fuel + 1, n =>
    let d := n % base
    let c := if d < 10 then Char.ofNat ('0'.toNat + d) else Char.ofNat ('a'.toNat + d - 10)
    if n < base then [c] else digitsIn base fuel (n / base) ++ [c]

/-- The digits of a fraction `num / den` in a base. -/
def fractionDigits (base den : Nat) : (fuel : Nat) → (num : Nat) → List Char
  | 0, _ => []
  | fuel + 1, num =>
    if num = 0 then []
    else digitsIn base 1 (num * base / den) ++ fractionDigits base den fuel (num * base % den)

/-- The text of a number in a base. -/
def radixText (x : Binary64) (base : Nat) : String :=
  if base = 10 then Value.textOfNumber x
  else
    match x with
    | .finite negative mantissa exponent =>
      let num := mantissa * 2 ^ exponent.toNat
      let den := 2 ^ (-exponent).toNat
      let whole := digitsIn base 1100 (num / den)
      let fraction := fractionDigits base den 52 (num % den)
      let sign := if negative && mantissa ≠ 0 then "-" else ""
      sign ++ String.ofList (if fraction.isEmpty then whole else whole ++ '.' :: fraction)
    | x => Value.textOfNumber x

/-- The greatest whole number up to which all are kept. -/
def maxSafe : Nat := 2 ^ 53 - 1

namespace Engine

/-- Calls a function on numbers or truth values. -/
def callNumber (m : Engine) (f : NumberFunction) (this : Value) (args : List Value) :
    Engine :=
  let first := argument args 0
  let isFinite (x : Binary64) : Bool := match x with | .finite .. => true | _ => false
  let onNumber (p : Binary64 → Bool) : Engine :=
    match first with
    | .number x => m.give (.bool (p x))
    | _ => m.give (.bool false)
  let receiver (next : Binary64 → Engine) : Engine :=
    match this with
    | .number x => next x
    | _ => m.raise .type "not a number"
  match f with
  | .constructor =>
    match args with
    | [] => m.give (.number .zero)
    | v :: _ =>
      m.withPrimitive v (Heap.methodOrder false) (.unary .plus) fun p => m.give (.number p.toNumber)
  | .isFinite => onNumber isFinite
  | .isInteger => onNumber fun x => x.toInt?.isSome
  | .isNaN => onNumber (· == .nan)
  | .isSafeInteger => onNumber fun x => x.toInt?.any fun n => n.natAbs ≤ maxSafe
  | .globalIsFinite => m.give (.bool (isFinite (m.heap.number first)))
  | .globalIsNaN => m.give (.bool (m.heap.number first == .nan))
  | .parseFloat => m.give (.number (leadingNumber (m.heap.text first)))
  | .parseInt =>
    m.give (.number (leadingWhole (m.heap.text first) (argument args 1).toInt32))
  | .toFixed =>
    receiver fun x =>
      match first.toWhole with
      | .ofNat places =>
        if 100 < places then m.raise .range "invalid number of digits"
        else if Binary64.below x.abs (Binary64.ofInt (10 ^ 21)) then
          m.give (.string (fixedText x places))
        else m.give (.string (Value.textOfNumber x))
      | _ => m.raise .range "invalid number of digits"
  | .toText =>
    receiver fun x =>
      let base : Int := match first with | .undefined => 10 | v => v.toWhole
      if base < 2 ∨ 36 < base then m.raise .range "radix must be between 2 and 36"
      else m.give (.string (radixText x base.toNat))
  | .valueOf => m.give this
  | .boolean => m.give (.bool first.truthy)
  | .booleanToText => m.give (.string (m.heap.text this))

/-- The greater of two numbers, or the less. -/
def extreme (greater : Bool) (x y : Binary64) : Binary64 :=
  match Binary64.compare? x y with
  | none => .nan
  | some .eq => if greater then (if x.isNegative then y else x) else (if x.isNegative then x else y)
  | some .gt => if greater then x else y
  | some .lt => if greater then y else x

/-- A number from zero to one that changes with the count of objects. -/
def drawn (m : Engine) : Binary64 :=
  let z : UInt64 := (m.heap.size + m.scopes.size).toUInt64 * 0x9E3779B97F4A7C15
  let z := (z ^^^ (z >>> 30)) * 0xBF58476D1CE4E5B9
  let z := (z ^^^ (z >>> 27)) * 0x94D049BB133111EB
  Binary64.round false (z >>> 11).toNat (2 ^ 53)

/-- Calls a function of mathematics. -/
def callMath (m : Engine) (f : MathFunction) (args : List Value) : Engine :=
  let x := m.heap.number (argument args 0)
  let y := m.heap.number (argument args 1)
  let one (g : Binary64 → Binary64) : Engine := m.give (.number (g x))
  match f with
  | .abs => one Binary64.abs
  | .ceil => one Binary64.ceil
  | .floor => one Binary64.floor
  | .round => one Binary64.roundHalfUp
  | .trunc => one Binary64.truncate
  | .sqrt => one Binary64.sqrt
  | .sign =>
    one fun x =>
      match x with
      | .nan => .nan
      | x => if x.isZero then x else Binary64.ofInt (if x.isNegative then -1 else 1)
  | .pow => m.give (.number (x.pow y))
  | .max =>
    m.give (.number (args.foldl (fun a v => extreme true a (m.heap.number v)) (.infinite true)))
  | .min =>
    m.give (.number (args.foldl (fun a v => extreme false a (m.heap.number v)) (.infinite false)))
  | .random => (m.makeFlag).2.give (.number m.drawn)

end Engine

end HttpSuite.Script
