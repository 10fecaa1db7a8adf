/-
HttpSuite/Number/Binary64.lean

Numbers of the IEEE binary64 format, exactly. A finite number is a sign, a mantissa and a power of
two; `round` takes any quotient of natural numbers to the nearest such number, a tie to the even
mantissa, and every operation is the exact result followed by one `round`. A number is written in
one way only (`mantissa < 2 ^ 53`, and `2 ^ 52 ≤ mantissa` unless the exponent is the least), so
that equal numbers are equal values, the two zeros apart.
-/
import HttpSuite.Number.Power

namespace HttpSuite

/-- A number of the binary64 format. -/
inductive Binary64 where
  | nan
  | infinite (negative : Bool)
  /-- The number `± mantissa * 2 ^ exponent`. -/
  | finite (negative : Bool) (mantissa : Nat) (exponent : Int)
deriving DecidableEq, Repr, Inhabited

namespace Binary64

/-- The least exponent of a finite number. -/
def minExponent : Int := -1074

/-- The greatest exponent of a finite number. -/
def maxExponent : Int := 971

/-- Zero with a sign. -/
def signedZero (negative : Bool) : Binary64 := finite negative 0 minExponent

/-- The zero without a sign. -/
def zero : Binary64 := signedZero false

/-- A numerator and a denominator scaled so that their quotient counts units of `2 ^ e`. -/
def scale (num den : Nat) (e : Int) : Nat × Nat :=
  if 0 ≤ e then (num, den * 2 ^ e.toNat) else (num * 2 ^ (-e).toNat, den)

/-- The quotient to the nearest whole number, a tie to the even one. -/
def divNearestEven (num den : Nat) : Nat :=
  let q := num / den
  let r := num % den
  if 2 * r < den then q else if den < 2 * r then q + 1 else if q % 2 = 0 then q else q + 1

/-- The exponent with which `num / den` has 53 binary digits, and no less than the least one. -/
def exponentOf (num den : Nat) : Int :=
  let guess : Int := (Nat.log2 num : Int) - Nat.log2 den - 52
  let (n, d) := scale num den guess
  max minExponent (if n / d < 2 ^ 52 then guess - 1 else guess)

/-- The number nearest to `± num / den`; past the greatest one it is infinite. -/
def round (negative : Bool) (num den : Nat) : Binary64 :=
  if num = 0 then signedZero negative
  else
    let e := exponentOf num den
    let (n, d) := scale num den e
    let m := divNearestEven n d
    let (m, e) := if m = 2 ^ 53 then (2 ^ 52, e + 1) else (m, e)
    if maxExponent < e then infinite negative else finite negative m e

/-- The number nearest to `± num / den * 2 ^ e`. -/
def roundScaled (negative : Bool) (num : Nat) (e : Int) : Binary64 :=
  if 0 ≤ e then round negative (num * 2 ^ e.toNat) 1 else round negative num (2 ^ (-e).toNat)

/-- The number nearest to a whole number. -/
def ofInt (n : Int) : Binary64 := round (n < 0) n.natAbs 1

/-- The number nearest to `± digits * 10 ^ exponent`. Powers far outside the format are decided
by the count of digits, without being computed. -/
def ofDecimal (negative : Bool) (digits : Nat) (exponent : Int) : Binary64 :=
  if digits = 0 then signedZero negative
  else
    let magnitude : Int := (toString digits).length + exponent
    if 400 < magnitude then infinite negative
    else if magnitude < -400 then signedZero negative
    else if 0 ≤ exponent then round negative (digits * 10 ^ exponent.toNat) 1
    else round negative digits (10 ^ (-exponent).toNat)

/-! ### Order -/

/-- A finite number as a count of units of `2 ^ target`, for `target` at most its exponent. -/
def unitsOf (negative : Bool) (m : Nat) (e target : Int) : Int :=
  let n : Int := (m * 2 ^ (e - target).toNat : Nat)
  if negative then -n else n

/-- The order of two numbers; what is not a number has none. -/
def compare? : Binary64 → Binary64 → Option Ordering
  | nan, _ => none
  | _, nan => none
  | infinite s, infinite t => some (compare t s)
  | infinite s, finite .. => some (if s then .lt else .gt)
  | finite .., infinite t => some (if t then .gt else .lt)
  | finite s m e, finite t n f => some (compare (unitsOf s m e (min e f)) (unitsOf t n f (min e f)))

/-- Numerical equality: the zeros are equal, and what is not a number equals nothing. -/
def equal (x y : Binary64) : Bool := compare? x y == some .eq

/-- Whether `x` is below `y`. -/
def below (x y : Binary64) : Bool := compare? x y == some .lt

/-! ### Arithmetic -/

/-- The number with the other sign. -/
def neg : Binary64 → Binary64
  | nan => nan
  | infinite s => infinite !s
  | finite s m e => finite (!s) m e

/-- The number without its sign. -/
def abs : Binary64 → Binary64
  | nan => nan
  | infinite _ => infinite false
  | finite _ m e => finite false m e

/-- The number nearest to a whole count of units of `2 ^ e`; zero gets the given sign. -/
def ofUnits (zeroNegative : Bool) (n : Int) (e : Int) : Binary64 :=
  if n = 0 then signedZero zeroNegative else roundScaled (n < 0) n.natAbs e

/-- The sum. -/
def add : Binary64 → Binary64 → Binary64
  | nan, _ => nan
  | _, nan => nan
  | infinite s, infinite t => if s = t then infinite s else nan
  | infinite s, finite .. => infinite s
  | finite .., infinite t => infinite t
  | finite s m e, finite t n f =>
    let k := min e f
    ofUnits (s && t) (unitsOf s m e k + unitsOf t n f k) k

/-- The difference. -/
def sub (x y : Binary64) : Binary64 := add x (neg y)

/-- The product. -/
def mul : Binary64 → Binary64 → Binary64
  | nan, _ => nan
  | _, nan => nan
  | infinite s, infinite t => infinite (s != t)
  | infinite s, finite t m _ => if m = 0 then nan else infinite (s != t)
  | finite s m _, infinite t => if m = 0 then nan else infinite (s != t)
  | finite s m e, finite t n f =>
    if m = 0 || n = 0 then signedZero (s != t) else roundScaled (s != t) (m * n) (e + f)

/-- The quotient. -/
def div : Binary64 → Binary64 → Binary64
  | nan, _ => nan
  | _, nan => nan
  | infinite _, infinite _ => nan
  | infinite s, finite t _ _ => infinite (s != t)
  | finite s _ _, infinite t => signedZero (s != t)
  | finite s m e, finite t n f =>
    if n = 0 then (if m = 0 then nan else infinite (s != t))
    else if e < f then round (s != t) m (n * 2 ^ (f - e).toNat)
    else round (s != t) (m * 2 ^ (e - f).toNat) n

/-- The remainder of the quotient cut toward zero, with the sign of the first number. -/
def rem : Binary64 → Binary64 → Binary64
  | nan, _ => nan
  | _, nan => nan
  | infinite _, _ => nan
  | finite s m e, infinite _ => finite s m e
  | finite s m e, finite _ n f =>
    if n = 0 then nan
    else
      let k := min e f
      let r := m * 2 ^ (e - k).toNat % (n * 2 ^ (f - k).toNat)
      if r = 0 then signedZero s else roundScaled s r k

/-- The whole number that a finite number is cut to, toward zero. -/
def truncate? : Binary64 → Option Int
  | finite s m e =>
    let n : Int := if 0 ≤ e then (m * 2 ^ e.toNat : Nat) else (m / 2 ^ (-e).toNat : Nat)
    some (if s then -n else n)
  | _ => none

/-- The whole number that a finite number is. -/
def toInt? (x : Binary64) : Option Int :=
  match truncate? x with
  | some n => if equal (ofInt n) x then some n else none
  | none => none

/-- Whether the number carries a minus sign. -/
def isNegative : Binary64 → Bool
  | nan => false
  | infinite s => s
  | finite s _ _ => s

/-- Whether the number is one of the zeros. -/
def isZero : Binary64 → Bool
  | finite _ m _ => m = 0
  | _ => false

end Binary64

end HttpSuite
