/-
HttpSuite/Number/Shortest.lean

The fewest decimal digits that read back as the same number. The numbers that round to a given one
form an interval; for one digit, two digits and so on up to seventeen, the two decimals of that
many digits around the number are tried, and the first that lies in the interval is taken, of two
the nearer one.
-/
import HttpSuite.Number.Binary64

namespace HttpSuite.Binary64

/-- A decimal `digits * 10 ^ exponent`. -/
structure Decimal where
  digits : Nat
  exponent : Int
deriving DecidableEq, Repr, Inhabited

/-- Moves zeros at the end of the digits into the exponent. -/
def Decimal.strip : (fuel : Nat) → Decimal → Decimal
  | 0, d => d
  | fuel + 1, d =>
    if d.digits ≠ 0 ∧ d.digits % 10 = 0 then strip fuel ⟨d.digits / 10, d.exponent + 1⟩ else d

/-- A positive interval around a number, all three in units of `1 / den`. -/
structure Interval where
  low : Nat
  value : Nat
  high : Nat
  den : Nat
  /-- Whether the ends belong to the interval. -/
  closed : Bool

/-- The interval of the reals that round to `m * 2 ^ e`. -/
def intervalOf (m : Nat) (e : Int) : Interval :=
  let low := if m = 2 ^ 52 ∧ minExponent < e then 4 * m - 1 else 4 * m - 2
  let k := e - 2
  let up := 2 ^ k.toNat
  ⟨low * up, 4 * m * up, (4 * m + 2) * up, 2 ^ (-k).toNat, m % 2 = 0⟩

/-- Whether `count * 10 ^ exponent` lies in the interval. -/
def Interval.holds (i : Interval) (count : Nat) (exponent : Int) : Bool :=
  let n := count * 10 ^ exponent.toNat * i.den
  let scale := 10 ^ (-exponent).toNat
  if i.closed then i.low * scale ≤ n && n ≤ i.high * scale
  else i.low * scale < n && n < i.high * scale

/-- The decimals of one grid around the value that lie in the interval, the nearer one first. -/
def Interval.onGrid (i : Interval) (exponent : Int) : Option Decimal :=
  let num := i.value * 10 ^ (-exponent).toNat
  let den := i.den * 10 ^ exponent.toNat
  let q := num / den
  let r := num % den
  let upFirst := den < 2 * r || (den = 2 * r && q % 2 = 1)
  let (first, second) := if upFirst then (q + 1, q) else (q, q + 1)
  if i.holds first exponent then some ⟨first, exponent⟩
  else if i.holds second exponent then some ⟨second, exponent⟩
  else none

/-- The first grid from `exponent` downwards that has a decimal in the interval. -/
def Interval.firstHit (i : Interval) : (fuel : Nat) → (exponent : Int) → Decimal
  | 0, exponent => ⟨i.value * 10 ^ (-exponent).toNat / (i.den * 10 ^ exponent.toNat), exponent⟩
  | fuel + 1, exponent =>
    match i.onGrid exponent with
    | some d => d
    | none => i.firstHit fuel (exponent - 1)

/-- The exponent of the first decimal digit of `num / den`. -/
def leadingExponent (num den : Nat) : Int :=
  if den ≤ num then ((toString (num / den)).length : Int) - 1
  else
    let guess : Int := (toString num).length - (toString den).length
    if num * 10 ^ (-guess).toNat < den then guess - 1 else guess

/-- The shortest decimal that reads back as `m * 2 ^ e`, without zeros at its end. -/
def shortest (m : Nat) (e : Int) : Decimal :=
  if m = 0 then ⟨0, 0⟩
  else
    let i := intervalOf m e
    (i.firstHit 18 (leadingExponent i.value i.den)).strip 400

end HttpSuite.Binary64
