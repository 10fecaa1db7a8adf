/-
HttpSuite/Variables/Offset.lean

Offsets of time such as `-1 hour`, `2 days` or `+30m`: a whole number of 64 bits and a unit. Units
of fixed length add a length of time; months and years move along the calendar. The case of a unit
does not count, but a lone `M` is a month and a lone `m` a minute. Where an amount is multiplied,
made positive or narrowed, the result is checked to fit, and an offset that does not fit leads
nowhere.
-/
import HttpSuite.Calendar
import HttpSuite.Text.Ascii
import HttpSuite.Text.Blank

namespace HttpSuite

/-! ### Lengths of time -/

/-- A length of time in milliseconds, either way. -/
structure TimeSpan where
  millis : Int
  bounded : millis.natAbs ≤ 2 ^ 63 - 1

namespace TimeSpan

/-- A count of milliseconds; the least number of 64 bits has no length. -/
def ofMillis? (n : Int64) : Option TimeSpan :=
  if h : -(2 ^ 63 - 1) ≤ n.toInt then
    some ⟨n.toInt, by have := n.toInt_lt; omega⟩
  else none

/-- A count of seconds. -/
def ofSeconds? (n : Int64) : Option TimeSpan :=
  if h : n.toInt.natAbs ≤ (2 ^ 63 - 1) / 1000 then some ⟨n.toInt * 1000, by omega⟩ else none

/-- The instant after a length of time, if the calendar reaches it. -/
def after? (span : TimeSpan) (instant : Int) : Option Int :=
  Calendar.within? (instant + span.millis)

end TimeSpan

/-! ### Numbers of fixed width -/

namespace Word

/-- The product of two numbers, if it has 64 bits. -/
def product? (a b : Int64) : Option Int64 :=
  let exact := a.toInt * b.toInt
  if -2 ^ 63 ≤ exact ∧ exact < 2 ^ 63 then some (a * b) else none

/-- The absolute value of a number, which has 64 bits without a sign. -/
def magnitude (a : Int64) : UInt64 := if a < 0 then -a.toUInt64 else a.toUInt64

/-- A number in 32 bits, if it fits. -/
def narrow? (n : UInt64) : Option UInt32 := if n.toNat < 2 ^ 32 then some n.toUInt32 else none

end Word

/-! ### Units -/

/-- A unit of time. -/
inductive TimeUnit where
  | millisecond
  /-- A unit of so many seconds. -/
  | seconds (count : Int64)
  /-- A unit of so many months. -/
  | months (count : Int64)
deriving DecidableEq, Repr

namespace TimeUnit

/-- The units by their names in small letters. -/
def named : List (List String × TimeUnit) :=
  [(["ms", "millisecond", "milliseconds"], millisecond),
    (["s", "sec", "second", "seconds"], seconds 1),
    (["min", "minute", "minutes"], seconds 60),
    (["h", "hour", "hours"], seconds 3600),
    (["d", "day", "days"], seconds 86400),
    (["w", "week", "weeks"], seconds 604800),
    (["month", "months"], months 1),
    (["y", "year", "years"], months 12)]

/-- The unit of a name. -/
def ofName? (name : List Char) : Option TimeUnit :=
  if name = ['M'] then some (months 1)
  else if name = ['m'] then some (seconds 60)
  else
    let small := String.ofList (Ascii.lower name)
    (named.find? fun entry => entry.1.contains small).map (·.2)

end TimeUnit

/-! ### Offsets -/

/-- An amount of a unit of time. -/
structure TimeOffset where
  amount : Int64
  unit : TimeUnit
deriving DecidableEq, Repr

namespace TimeOffset

/-- The instant so many months later or, for a negative amount, earlier. -/
def shiftMonths? (instant : Int) (amount : Int64) : Option Int :=
  (Word.narrow? (Word.magnitude amount)).bind fun months =>
    if amount < 0 then Calendar.shiftMonths? instant (-(months.toNat : Int))
    else Calendar.shiftMonths? instant months.toNat

/-- The instant at an offset, if the calendar reaches it. -/
def shift? (offset : TimeOffset) (instant : Int) : Option Int :=
  match offset.unit with
  | .millisecond => (TimeSpan.ofMillis? offset.amount).bind (·.after? instant)
  | .seconds count =>
    ((Word.product? offset.amount count).bind TimeSpan.ofSeconds?).bind (·.after? instant)
  | .months count => (Word.product? offset.amount count).bind (shiftMonths? instant)

/-- Whether a character is a sign. -/
def isSign (c : Char) : Bool := c == '+' || c == '-'

/-- The offset that a trimmed text writes. -/
def ofText? (s : List Char) : Option TimeOffset :=
  let sign := s.takeWhile isSign
  let digits := (s.dropWhile isSign).takeWhile Ascii.isDigit
  let rest := ((s.dropWhile isSign).dropWhile Ascii.isDigit).dropWhile Text.isBlank
  if !rest.isEmpty && rest.all Ascii.isLetter then
    match Ascii.int64OfDigits? (sign ++ digits), TimeUnit.ofName? rest with
    | some amount, some unit => some ⟨Int64.ofInt amount, unit⟩
    | _, _ => none
  else none

end TimeOffset

end HttpSuite
