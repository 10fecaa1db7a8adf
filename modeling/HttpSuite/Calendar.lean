/-
HttpSuite/Calendar.lean

Instants and the proleptic Gregorian calendar. An instant is a count of milliseconds from the start
of 1970; days are counted from there too. `civil` gives the year, month and day of a day and
`dayOf` counts back. The calendar reaches from the year -262143 to the year 262142, and nothing is
added that leads out of it.
-/

namespace HttpSuite.Calendar

/-- A day of the calendar. -/
structure Date where
  year : Int
  month : Nat
  day : Nat
deriving DecidableEq, Repr

/-- The first year of the calendar. -/
def minYear : Int := -262143

/-- The last year of the calendar. -/
def maxYear : Int := 262142

/-- Whether a year has a 29th of February. -/
def isLeap (year : Int) : Bool :=
  Int.fmod year 4 = 0 && (Int.fmod year 100 ≠ 0 || Int.fmod year 400 = 0)

/-- The number of days of a month. -/
def daysInMonth (year : Int) (month : Nat) : Nat :=
  if month = 2 then if isLeap year then 29 else 28
  else if month = 4 ∨ month = 6 ∨ month = 9 ∨ month = 11 then 30
  else 31

/-- The day number of a date. Years are counted from March, so that a leap day ends its year. -/
def dayOf (d : Date) : Int :=
  let y := if d.month ≤ 2 then d.year - 1 else d.year
  let era := Int.fdiv y 400
  let yearOfEra := y - era * 400
  let monthFromMarch : Int := if 2 < d.month then (d.month : Int) - 3 else (d.month : Int) + 9
  let dayOfYear := Int.fdiv (153 * monthFromMarch + 2) 5 + d.day - 1
  let dayOfEra := yearOfEra * 365 + Int.fdiv yearOfEra 4 - Int.fdiv yearOfEra 100 + dayOfYear
  era * 146097 + dayOfEra - 719468

/-- The date of a day number. -/
def civil (day : Int) : Date :=
  let z := day + 719468
  let era := Int.fdiv z 146097
  let dayOfEra := z - era * 146097
  let yearOfEra := Int.fdiv (dayOfEra - Int.fdiv dayOfEra 1460 + Int.fdiv dayOfEra 36524 -
    Int.fdiv dayOfEra 146096) 365
  let dayOfYear := dayOfEra - (365 * yearOfEra + Int.fdiv yearOfEra 4 - Int.fdiv yearOfEra 100)
  let monthFromMarch := Int.fdiv (5 * dayOfYear + 2) 153
  let month := if monthFromMarch < 10 then monthFromMarch + 3 else monthFromMarch - 9
  { year := yearOfEra + era * 400 + (if month ≤ 2 then 1 else 0)
    month := month.toNat
    day := (dayOfYear - Int.fdiv (153 * monthFromMarch + 2) 5 + 1).toNat }

/-- The milliseconds of a day. -/
def dayLength : Int := 86400000

/-- The first instant of the calendar. -/
def minInstant : Int := dayOf ⟨minYear, 1, 1⟩ * dayLength

/-- The instant at which the calendar has ended. -/
def endInstant : Int := (dayOf ⟨maxYear, 12, 31⟩ + 1) * dayLength

/-- The instant, if the calendar reaches it. -/
def within? (instant : Int) : Option Int :=
  if minInstant ≤ instant ∧ instant < endInstant then some instant else none

/-- The instant a number of months later, at the same time of day; a day that the month does not
have becomes its last one. -/
def shiftMonths? (instant months : Int) : Option Int :=
  let day := Int.fdiv instant dayLength
  let date := civil day
  let count := date.year * 12 + ((date.month : Int) - 1) + months
  let year := Int.fdiv count 12
  let month := (Int.fmod count 12).toNat + 1
  if year < minYear ∨ maxYear < year then none
  else
    let shifted : Date := ⟨year, month, min date.day (daysInMonth year month)⟩
    some (dayOf shifted * dayLength + (instant - day * dayLength))

/-! ### Written forms -/

/-- The digits of a number, zeros in front up to a width. -/
def padded (width n : Nat) : String :=
  let digits := toString n
  String.ofList (List.replicate (width - digits.length) '0') ++ digits

/-- A year in at least four places, a minus sign taking one of them. -/
def yearField (year : Int) : String :=
  if year < 0 then "-" ++ padded 3 year.natAbs else padded 4 year.natAbs

/-- A year in four digits, with a sign if it does not lie between 0 and 9999. -/
def signedYear (year : Int) : String :=
  if 0 ≤ year ∧ year ≤ 9999 then padded 4 year.natAbs
  else (if year < 0 then "-" else "+") ++ padded 4 year.natAbs

/-- An instant as a clock shows it, `offset` seconds east. -/
structure Reading where
  date : Date
  weekday : Nat
  hour : Nat
  minute : Nat
  second : Nat
  milli : Nat
  offset : Int

/-- What a clock `offset` seconds east shows at an instant. -/
def read (instant offset : Int) : Reading :=
  let shown := instant + offset * 1000
  let day := Int.fdiv shown dayLength
  let rest := (shown - day * dayLength).toNat
  { date := civil day
    weekday := (Int.fmod (day + 4) 7).toNat
    hour := rest / 3600000
    minute := rest / 60000 % 60
    second := rest / 1000 % 60
    milli := rest % 1000
    offset }

/-- The name of a day of the week, from Sunday. -/
def weekdayName (n : Nat) : String :=
  (["Sun", "Mon", "Tue", "Wed", "Thu", "Fri", "Sat"][n]?).getD ""

/-- The name of a month, from one. -/
def monthName (n : Nat) : String :=
  let names :=
    ["Jan", "Feb", "Mar", "Apr", "May", "Jun", "Jul", "Aug", "Sep", "Oct", "Nov", "Dec"]
  (names[n - 1]?).getD ""

/-- Hours and minutes of an offset, with a sign. -/
def offsetText (separator : String) (offset : Int) : String :=
  let minutes := offset.natAbs / 60
  (if offset < 0 then "-" else "+") ++ padded 2 (minutes / 60) ++ separator ++
    padded 2 (minutes % 60)

/-- Hours, minutes and seconds. -/
def Reading.timeText (r : Reading) : String :=
  padded 2 r.hour ++ ":" ++ padded 2 r.minute ++ ":" ++ padded 2 r.second

/-- The form `2024-03-15T10:30:45.123Z`, with an offset in the stead of `Z` on a local clock. -/
def Reading.iso (r : Reading) (utc : Bool) : String :=
  signedYear r.date.year ++ "-" ++ padded 2 r.date.month ++ "-" ++ padded 2 r.date.day ++ "T" ++
    r.timeText ++ "." ++ padded 3 r.milli ++ (if utc then "Z" else offsetText ":" r.offset)

/-- The form `Fri, 15 Mar 2024 10:30:45 GMT`, with an offset in the stead of `GMT` on a local
clock. -/
def Reading.rfc1123 (r : Reading) (utc : Bool) : String :=
  weekdayName r.weekday ++ ", " ++ padded 2 r.date.day ++ " " ++ monthName r.date.month ++ " " ++
    signedYear r.date.year ++ " " ++ r.timeText ++ " " ++
    (if utc then "GMT" else offsetText "" r.offset)

end HttpSuite.Calendar
