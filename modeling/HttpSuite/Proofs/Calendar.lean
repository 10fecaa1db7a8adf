/-
HttpSuite/Proofs/Calendar.lean

Days, dates and months.  Days are counted from the first of March of a year, so that a leap day is
the last one of its year and the months before it have the same lengths in all years.  With the days
before a year and the days before a month,

    daysBefore y = 365 y + y / 4 - y / 100 + y / 400        monthStart m = (153 m + 2) / 5

the day of a date is a sum of both.  Back from a day, the year is found among 400, whose days are
told apart by centuries, by four years and by years (`exists_year`); only the last of each may be a
day longer.  So `civil` and `dayOf` are inverse to each other, on all days and on all dates that
there are (`dayOf_civil`, `civil_dayOf`).

Months are counted through the years, and a date is moved along its month, not along its days.  What
it is moved to is told by month, day and time of day alone (`MonthsLater`).

Main result: an instant is moved to the one that lies so many months later, and to none if the
calendar does not reach it (`shiftMonths?_eq_some_iff`).
-/
import HttpSuite.Calendar
import Mathlib.Tactic.IntervalCases

namespace HttpSuite.Calendar

/-! ### Years from March on -/

/-- The days before the first of March of a year, from that of the year zero on. -/
def daysBefore (y : Int) : Int := 365 * y + y / 4 - y / 100 + y / 400

/-- A year has 365 days or, if the February at its end has 29 days, 366. -/
theorem daysBefore_succ (y : Int) :
    daysBefore (y + 1) = daysBefore y + if isLeap (y + 1) then 366 else 365 := by
  have hleap : isLeap (y + 1) = true ↔
      (y + 1) % 4 = 0 ∧ ((y + 1) % 100 ≠ 0 ∨ (y + 1) % 400 = 0) := by
    simp (disch := decide) only [isLeap, Int.fmod_eq_emod_of_nonneg]
    simp
  unfold daysBefore
  split
  · rename_i h
    have := hleap.mp h
    omega
  · rename_i h
    have := mt hleap.mpr h
    omega

/-- The year that a day of 400 years lies in. -/
def yearOf (day : Int) : Int := (day - day / 1460 + day / 36524 - day / 146096) / 365

/-- Of the days that end a century, the last one of 400 years is not counted. -/
theorem century_eq {c day : Int} (hc : 0 ≤ c ∧ c ≤ 3) (hlow : 36524 * c ≤ day)
    (hless : day < 36524 * (c + 1)) : day / 36524 - day / 146096 = c := by
  omega

/-- The days of 400 years are told apart by centuries, by four years and by years. The last year of
four has a day more, but where it ends a century, only in the last one of four. -/
theorem yearOf_eq {c a b day : Int} (hc : 0 ≤ c ∧ c ≤ 3) (ha : 0 ≤ a ∧ a ≤ 24)
    (hb : 0 ≤ b ∧ b ≤ 3) (hday : 0 ≤ day)
    (hlast : day ≤ 364 ∨ day = 365 ∧ b = 3 ∧ (a = 24 → c = 3)) :
    yearOf (36524 * c + 1461 * a + 365 * b + day) = 100 * c + 4 * a + b := by
  obtain ⟨t, ht⟩ : ∃ t, t = 24 * c + a + 365 * b + day := ⟨_, rfl⟩
  obtain ⟨d, hd⟩ : ∃ d, d = 36524 * c + 1461 * a + 365 * b + day := ⟨_, rfl⟩
  -- of the days that are left out, one goes with each four years, and not with each century
  have hcentury : d / 36524 - d / 146096 = c := by
    have hlow : 36524 * c ≤ d := by omega
    rcases (by omega : d < 36524 * (c + 1) ∨ d = 146096 ∧ c = 3) with hless | ⟨hend, rfl⟩
    · exact century_eq hc hlow hless
    · rw [hend]
      rfl
  have hfour : d / 1460 = 25 * c + a + t / 1460 := by omega
  have hyear : 365 * (4 * a + b) ≤ 1461 * a + 365 * b + day - (a + t / 1460) ∧
      1461 * a + 365 * b + day - (a + t / 1460) < 365 * (4 * a + b) + 365 := by omega
  rw [← hd, yearOf]
  omega

/-- The day of a year of 400 years, counted from their start. -/
theorem yearOf_daysBefore {y day : Int} (hy : 0 ≤ y ∧ y < 400) (hday : 0 ≤ day)
    (hlast : day < daysBefore (y + 1) - daysBefore y) : yearOf (daysBefore y + day) = y := by
  have hsplit : daysBefore y + day =
      36524 * (y / 100) + 1461 * (y % 100 / 4) + 365 * (y % 4) + day := by
    unfold daysBefore
    omega
  rw [hsplit, yearOf_eq]
  · omega
  · omega
  · omega
  · omega
  · exact hday
  · unfold daysBefore at hlast
    omega

theorem daysBefore_eq {c a b : Int} (hc : 0 ≤ c ∧ c ≤ 3) (ha : 0 ≤ a ∧ a ≤ 24)
    (hb : 0 ≤ b ∧ b ≤ 3) : daysBefore (100 * c + 4 * a + b) = 36524 * c + 1461 * a + 365 * b := by
  unfold daysBefore
  omega

/-- Each day of 400 years is one of a year. -/
theorem exists_year {day : Int} (hday : 0 ≤ day ∧ day < 146097) :
    ∃ y, (0 ≤ y ∧ y < 400) ∧ daysBefore y ≤ day ∧ day < daysBefore (y + 1) := by
  -- the last day of four centuries and that of four years do not start another one
  obtain ⟨c, w, hc, hw, rfl⟩ : ∃ c w, (0 ≤ c ∧ c ≤ 3) ∧
      (0 ≤ w ∧ (w < 36524 ∨ w = 36524 ∧ c = 3)) ∧ day = 36524 * c + w :=
    ⟨min (day / 36524) 3, day - 36524 * min (day / 36524) 3, by omega, by omega, by omega⟩
  obtain ⟨a, v, ha, hv, rfl⟩ : ∃ a v, (0 ≤ a ∧ a ≤ 24) ∧ (0 ≤ v ∧ v < 1461 ∧
      (a = 24 → c ≤ 2 → v < 1460)) ∧ w = 1461 * a + v :=
    ⟨w / 1461, w % 1461, by omega, by omega, by omega⟩
  obtain ⟨b, u, hb, hu, rfl⟩ : ∃ b u, (0 ≤ b ∧ b ≤ 3) ∧
      (0 ≤ u ∧ (u < 365 ∨ u = 365 ∧ b = 3)) ∧ v = 365 * b + u :=
    ⟨min (v / 365) 3, v - 365 * min (v / 365) 3, by omega, by omega, by omega⟩
  refine ⟨100 * c + 4 * a + b, by omega, ?_, ?_⟩
  · rw [daysBefore_eq hc ha hb]
    omega
  · -- the next year is one of the same four, or starts four others, or another century
    rcases (by omega : b < 3 ∨ b = 3 ∧ a < 24 ∨ b = 3 ∧ a = 24 ∧ c < 3 ∨ b = 3 ∧ a = 24 ∧ c = 3)
      with hless | ⟨rfl, hless⟩ | ⟨rfl, rfl, hless⟩ | ⟨rfl, rfl, rfl⟩
    · have hnext := daysBefore_eq hc ha (by omega : 0 ≤ b + 1 ∧ b + 1 ≤ 3)
      rw [Int.add_assoc, hnext]
      omega
    · have hnext := daysBefore_eq hc (by omega : 0 ≤ a + 1 ∧ a + 1 ≤ 24) (b := 0) (by decide)
      rw [show 100 * c + 4 * a + 3 + 1 = 100 * c + 4 * (a + 1) + 0 by omega, hnext]
      omega
    · have hnext := daysBefore_eq (by omega : 0 ≤ c + 1 ∧ c + 1 ≤ 3) (a := 0) (by decide) (b := 0)
        (by decide)
      rw [show 100 * c + 4 * 24 + 3 + 1 = 100 * (c + 1) + 4 * 0 + 0 by omega, hnext]
      omega
    · rw [show daysBefore (100 * 3 + 4 * 24 + 3 + 1) = 146097 from rfl]
      omega

/-! ### Dates -/

/-- A date of the calendar. -/
structure Date.Valid (d : Date) : Prop where
  month : 1 ≤ d.month ∧ d.month ≤ 12
  day : 1 ≤ d.day ∧ d.day ≤ daysInMonth d.year d.month

/-- The year of a date, counted from March on. -/
def Date.marchYear (d : Date) : Int := if d.month ≤ 2 then d.year - 1 else d.year

/-- The month of a date, counted from March on. -/
def Date.marchMonth (d : Date) : Int :=
  if 2 < d.month then (d.month : Int) - 3 else (d.month : Int) + 9

/-- The days of a year in front of a month, both counted from March on. -/
def monthStart (month : Int) : Int := (153 * month + 2) / 5

/-- The day of a date in its year, from March on. -/
def Date.dayOfYear (d : Date) : Int := monthStart d.marchMonth + d.day - 1

/-- The days from the first of March of the year zero to the start of 1970. -/
def epochDay : Int := 719468

theorem dayOf_eq (d : Date) : dayOf d = daysBefore d.marchYear + d.dayOfYear - epochDay := by
  simp (disch := decide) only [dayOf, Int.fdiv_eq_ediv_of_nonneg]
  simp only [daysBefore, Date.marchYear, Date.dayOfYear, monthStart, Date.marchMonth, epochDay]
  omega

/-- The date of a day of a year, from March on. -/
def dateOf (year day : Int) : Date :=
  let marchMonth := (5 * day + 2) / 153
  let month := if marchMonth < 10 then marchMonth + 3 else marchMonth - 9
  ⟨year + if month ≤ 2 then 1 else 0, month.toNat, (day - monthStart marchMonth + 1).toNat⟩

theorem civil_eq {y day : Int} (hday : 0 ≤ day) (hlast : day < daysBefore (y + 1) - daysBefore y) :
    civil (daysBefore y + day - epochDay) = dateOf y day := by
  -- of the days since the year zero, those of 400 years are taken off, again and again
  obtain ⟨era, r, hr, hy⟩ : ∃ era r, (0 ≤ r ∧ r < 400) ∧ y = 400 * era + r :=
    ⟨y / 400, y % 400, by omega, by omega⟩
  have hbefore : ∀ k, daysBefore (400 * era + k) = 146097 * era + daysBefore k := by
    intro k
    unfold daysBefore
    omega
  rw [hy, Int.add_assoc, hbefore, hbefore] at hlast
  have hlast' : day < daysBefore (r + 1) - daysBefore r := by omega
  have hrange : 0 ≤ daysBefore r + day ∧ daysBefore r + day < 146097 := by
    have hfirst : 0 ≤ daysBefore r := by
      unfold daysBefore
      omega
    have hend : daysBefore (r + 1) ≤ 146097 := by
      unfold daysBefore
      omega
    omega
  have hz : daysBefore y + day - epochDay + 719468 = 146097 * era + (daysBefore r + day) := by
    rw [hy, hbefore, epochDay]
    omega
  have hera : (146097 * era + (daysBefore r + day)) / 146097 = era := by omega
  have hyear := yearOf_daysBefore hr hday hlast'
  have hdays : daysBefore r + day - (365 * r + r / 4 - r / 100) = day := by
    unfold daysBefore
    omega
  have hrest : 146097 * era + (daysBefore r + day) - era * 146097 = daysBefore r + day := by omega
  rw [yearOf] at hyear
  simp (disch := decide) only [civil, Int.fdiv_eq_ediv_of_nonneg, hz, hera, hrest, hyear, hdays]
  rw [hy, dateOf, monthStart, Int.mul_comm era, Int.add_comm r]

/-- Each day is one of a year that is counted from March on. -/
theorem exists_dayOfYear (z : Int) : ∃ y day, z = daysBefore y + day - epochDay ∧ 0 ≤ day ∧
    day < daysBefore (y + 1) - daysBefore y := by
  have hr : 0 ≤ (z + epochDay) % 146097 ∧ (z + epochDay) % 146097 < 146097 := by omega
  obtain ⟨r, -, hlow, hhigh⟩ := exists_year hr
  have hbefore : ∀ k, daysBefore (400 * ((z + epochDay) / 146097) + k) =
      146097 * ((z + epochDay) / 146097) + daysBefore k := by
    intro k
    unfold daysBefore
    omega
  refine ⟨400 * ((z + epochDay) / 146097) + r, (z + epochDay) % 146097 - daysBefore r, ?_, ?_, ?_⟩
  · rw [hbefore]
    omega
  · omega
  · rw [Int.add_assoc, hbefore, hbefore]
    omega

/-- The date of a day of a year is one of the calendar, and lies where it should. -/
theorem dateOf_spec {y day : Int} (hday : 0 ≤ day)
    (hlast : day < daysBefore (y + 1) - daysBefore y) :
    (dateOf y day).Valid ∧ (dateOf y day).marchYear = y ∧ (dateOf y day).dayOfYear = day := by
  have hlength : day ≤ 364 ∨ day = 365 ∧ isLeap (y + 1) = true := by
    rw [daysBefore_succ] at hlast
    split at hlast
    · rename_i h
      rcases (by omega : day ≤ 364 ∨ day = 365) with hle | heq
      · exact .inl hle
      · exact .inr ⟨heq, h⟩
    · exact .inl (by omega)
  -- the month, counted from March: all that follows is about these twelve
  obtain ⟨m, hm, hrange⟩ : ∃ m : Nat, (5 * day + 2) / 153 = m ∧ m ≤ 11 :=
    ⟨((5 * day + 2) / 153).toNat, by omega, by omega⟩
  have hstart : 0 ≤ day - monthStart m ∧ (day - monthStart m ≤ 30) := by
    unfold monthStart
    omega
  refine ⟨⟨?_, ?_⟩, ?_, ?_⟩
  · simp only [dateOf, hm]
    omega
  · simp only [dateOf, hm]
    interval_cases m
    all_goals simp [daysInMonth, monthStart]
    all_goals grind
  · simp only [dateOf, Date.marchYear, hm]
    split
    · omega
    · omega
  · have hmonth : (dateOf y day).marchMonth = m := by
      simp only [dateOf, Date.marchMonth, hm]
      split
      · omega
      · omega
    rw [Date.dayOfYear, hmonth]
    simp only [dateOf, hm]
    omega

/-- The date of a day is one of the calendar, and that of no other day. -/
theorem dayOf_civil (z : Int) : (civil z).Valid ∧ dayOf (civil z) = z := by
  obtain ⟨y, day, rfl, hday, hlast⟩ := exists_dayOfYear z
  obtain ⟨hvalid, hyear, hdayOfYear⟩ := dateOf_spec hday hlast
  rw [civil_eq hday hlast]
  refine ⟨hvalid, ?_⟩
  rw [dayOf_eq, hyear, hdayOfYear]

/-- A month ends where the next one starts, and February where the year does. -/
theorem monthStart_add_daysInMonth {d : Date} (hmonth : 1 ≤ d.month ∧ d.month ≤ 12) :
    monthStart d.marchMonth + daysInMonth d.year d.month =
      if d.month = 2 then (if isLeap d.year then 366 else 365)
      else monthStart (d.marchMonth + 1) := by
  obtain ⟨year, month, day⟩ := d
  obtain ⟨hlow, hhigh⟩ : 1 ≤ month ∧ month ≤ 12 := hmonth
  interval_cases month
  all_goals simp [Date.marchMonth, daysInMonth, monthStart]
  split
  · rfl
  · rfl

/-- A date of the calendar lies in its year, and is the one of its day there. -/
theorem dateOf_dayOfYear {d : Date} (hd : d.Valid) : 0 ≤ d.dayOfYear ∧
    d.dayOfYear < daysBefore (d.marchYear + 1) - daysBefore d.marchYear ∧
    dateOf d.marchYear d.dayOfYear = d := by
  obtain ⟨hmonth, hday, hday'⟩ := hd
  have hlength := monthStart_add_daysInMonth hmonth
  obtain ⟨m, hm⟩ : ∃ m, m = d.marchMonth := ⟨_, rfl⟩
  have hrange : 0 ≤ m ∧ m ≤ 11 ∧ (m = 11 ↔ d.month = 2) ∧
      (d.month : Int) = if m < 10 then m + 3 else m - 9 := by
    rw [hm, Date.marchMonth]
    split
    · split
      · omega
      · omega
    · split
      · omega
      · omega
  have hdayOfYear : d.dayOfYear = monthStart m + d.day - 1 := by rw [Date.dayOfYear, hm]
  rw [← hm] at hlength
  have hwithin : monthStart m ≤ d.dayOfYear ∧
      (d.dayOfYear < monthStart (m + 1) ∧ m ≤ 10 ∨
        m = 11 ∧ d.dayOfYear < if isLeap d.year then 366 else 365) := by
    split at hlength
    · split at hlength
      · rw [if_pos ‹_›]
        omega
      · rw [if_neg ‹_›]
        omega
    · omega
  -- the day lies in its month, so it leads back to it
  have hback : (5 * d.dayOfYear + 2) / 153 = m := by
    unfold monthStart at hwithin
    split at hwithin
    · omega
    · omega
  refine ⟨?_, ?_, ?_⟩
  · unfold monthStart at hwithin
    omega
  · rw [daysBefore_succ]
    rcases hwithin.2 with ⟨hless, hle⟩ | ⟨heleven, hless⟩
    · unfold monthStart at hless
      split
      · omega
      · omega
    · have hyear : d.marchYear + 1 = d.year := by
        rw [Date.marchYear, if_pos (by omega)]
        omega
      rw [hyear]
      omega
  · have hshown : d.dayOfYear - monthStart m + 1 = d.day := by omega
    simp only [dateOf, hback, ← hrange.2.2.2, hshown]
    obtain ⟨year, month, day⟩ := d
    simp only [Date.marchYear, Date.mk.injEq]
    refine ⟨?_, Int.toNat_natCast month, Int.toNat_natCast day⟩
    split
    · omega
    · omega

/-- The day of a date of the calendar has this date. -/
theorem civil_dayOf {d : Date} (hd : d.Valid) : civil (dayOf d) = d := by
  obtain ⟨hday, hlast, hdate⟩ := dateOf_dayOfYear hd
  rw [dayOf_eq, civil_eq hday hlast, hdate]

/-! ### Months later -/

/-- The date of an instant. -/
def dateAt (instant : Int) : Date := civil (instant / dayLength)

/-- The months from the start of the year zero to a date. -/
def Date.monthCount (d : Date) : Int := d.year * 12 + (d.month - 1)

/-- `MonthsLater instant months later`: an instant lies so many months after another one, at the
same time of day, and on the same day of the month or the last one if the month is too short. -/
structure MonthsLater (instant months later : Int) : Prop where
  month : (dateAt later).monthCount = (dateAt instant).monthCount + months
  day : (dateAt later).day =
    min (dateAt instant).day (daysInMonth (dateAt later).year (dateAt later).month)
  time : later % dayLength = instant % dayLength

theorem one_le_daysInMonth (year : Int) (month : Nat) : 1 ≤ daysInMonth year month := by
  unfold daysInMonth
  grind

theorem dayOf_newYear (y : Int) : dayOf ⟨y, 1, 1⟩ = daysBefore (y - 1) + 306 - epochDay := by
  rw [dayOf_eq]
  simp [Date.marchYear, Date.dayOfYear, Date.marchMonth, monthStart]

/-- The days of a year lie between its start and that of the next one. -/
theorem dayOf_bounds {d : Date} (hd : d.Valid) :
    dayOf ⟨d.year, 1, 1⟩ ≤ dayOf d ∧ dayOf d < dayOf ⟨d.year + 1, 1, 1⟩ := by
  obtain ⟨hfirst, hlast, -⟩ := dateOf_dayOfYear hd
  obtain ⟨hmonth, hday, hday'⟩ := hd
  have hlength := monthStart_add_daysInMonth hmonth
  have hyear := daysBefore_succ (d.year - 1)
  rw [dayOf_newYear, dayOf_newYear, dayOf_eq]
  by_cases hmarch : 2 < d.month
  · -- the days from March on are fewer than those up to the end of the year
    have hmarchYear : d.marchYear = d.year := if_neg (by omega)
    have hmarchMonth : d.marchMonth = d.month - 3 := if_pos hmarch
    rw [if_neg (by omega)] at hlength
    have hbefore : d.dayOfYear < 306 := by
      rw [Date.dayOfYear]
      rw [hmarchMonth] at hlength ⊢
      unfold monthStart at *
      omega
    rw [hmarchYear, Int.add_sub_cancel]
    rw [Int.sub_add_cancel] at hyear
    split at hyear
    · omega
    · omega
  · have hmarchYear : d.marchYear = d.year - 1 := if_pos (by omega)
    have hmarchMonth : d.marchMonth = d.month + 9 := if_neg hmarch
    have hbehind : 306 ≤ d.dayOfYear := by
      rw [Date.dayOfYear, hmarchMonth, monthStart]
      omega
    rw [hmarchYear] at hlast ⊢
    rw [Int.sub_add_cancel] at hlast
    rw [Int.add_sub_cancel]
    omega

theorem daysBefore_le {x y : Int} (h : x ≤ y) : daysBefore x ≤ daysBefore y := by
  unfold daysBefore
  omega

/-- The years of the calendar are its range. -/
theorem within_iff (instant : Int) : minInstant ≤ instant ∧ instant < endInstant ↔
    minYear ≤ (dateAt instant).year ∧ (dateAt instant).year ≤ maxYear := by
  obtain ⟨hvalid, hdayOf⟩ := dayOf_civil (instant / dayLength)
  have hbounds := dayOf_bounds hvalid
  rw [hdayOf, dayOf_newYear, dayOf_newYear, Int.add_sub_cancel] at hbounds
  have hmin : minInstant = (daysBefore (minYear - 1) + 306 - epochDay) * dayLength := by decide
  have hend : endInstant = (daysBefore maxYear + 306 - epochDay) * dayLength := by decide
  rw [hmin, hend, dateAt]
  generalize (civil (instant / dayLength)).year = y at hbounds ⊢
  constructor
  · rintro ⟨hlow, hhigh⟩
    rw [dayLength] at *
    refine ⟨Int.not_lt.mp fun hless => ?_, Int.not_lt.mp fun hless => ?_⟩
    · have hlast := daysBefore_le (by omega : y ≤ minYear - 1)
      omega
    · have hfirst := daysBefore_le (by omega : maxYear ≤ y - 1)
      omega
  · rintro ⟨hlow, hhigh⟩
    have hfirst := daysBefore_le (by omega : minYear - 1 ≤ y - 1)
    have hlast := daysBefore_le hhigh
    rw [dayLength] at *
    omega

theorem Date.year_eq {d : Date} (hd : d.Valid) : d.monthCount / 12 = d.year := by
  obtain ⟨hmonth, -⟩ := hd
  unfold monthCount
  omega

theorem Date.month_eq {d : Date} (hd : d.Valid) : (d.monthCount % 12).toNat + 1 = d.month := by
  obtain ⟨hmonth, -⟩ := hd
  unfold monthCount
  omega

/-- An instant is the time of day on its date. -/
theorem dayOf_dateAt (instant : Int) :
    dayOf (dateAt instant) * dayLength + instant % dayLength = instant := by
  rw [dateAt, (dayOf_civil _).2, Int.mul_comm]
  exact Int.mul_ediv_add_emod instant dayLength

/-- The instant of a time of day on a date. -/
theorem dateAt_dayOf {d : Date} (hd : d.Valid) {time : Int} (htime : 0 ≤ time ∧ time < dayLength) :
    dateAt (dayOf d * dayLength + time) = d ∧ (dayOf d * dayLength + time) % dayLength = time := by
  rw [dayLength] at htime
  have hday : (dayOf d * dayLength + time) / dayLength = dayOf d := by
    rw [dayLength]
    omega
  refine ⟨?_, ?_⟩
  · rw [dateAt, hday, civil_dayOf hd]
  · rw [dayLength]
    omega

/-- The date so many months after another one, the day cut down to those of its month. -/
def laterDate (d : Date) (months : Int) : Date :=
  let count := d.monthCount + months
  let month := (count % 12).toNat + 1
  ⟨count / 12, month, min d.day (daysInMonth (count / 12) month)⟩

theorem valid_laterDate {d : Date} (hd : d.Valid) (months : Int) : (laterDate d months).Valid := by
  obtain ⟨-, hday, -⟩ := hd
  refine ⟨?_, ?_⟩
  · simp only [laterDate]
    omega
  · simp only [laterDate]
    have hone := one_le_daysInMonth ((d.monthCount + months) / 12)
      (((d.monthCount + months) % 12).toNat + 1)
    omega

theorem monthCount_laterDate (d : Date) (months : Int) :
    (laterDate d months).monthCount = d.monthCount + months := by
  simp only [laterDate, Date.monthCount]
  omega

theorem shiftMonths?_eq (instant months : Int) : shiftMonths? instant months =
    let shifted := laterDate (dateAt instant) months
    if minYear ≤ shifted.year ∧ shifted.year ≤ maxYear then
      some (dayOf shifted * dayLength + instant % dayLength)
    else none := by
  have htime : instant - instant / dayLength * dayLength = instant % dayLength := by
    rw [dayLength]
    omega
  simp (disch := decide) only [shiftMonths?, Int.fdiv_eq_ediv_of_nonneg,
    Int.fmod_eq_emod_of_nonneg, htime]
  show (if (laterDate (dateAt instant) months).year < minYear ∨
      maxYear < (laterDate (dateAt instant) months).year then none
    else some (dayOf (laterDate (dateAt instant) months) * dayLength + instant % dayLength)) = _
  by_cases hyear : minYear ≤ (laterDate (dateAt instant) months).year ∧
      (laterDate (dateAt instant) months).year ≤ maxYear
  · rw [if_pos hyear, if_neg (by omega)]
  · rw [if_neg hyear, if_pos (by omega)]

/-- **Months are added along the calendar**: a number of months leads to the instant that lies so
many months later, if the calendar reaches it. -/
theorem shiftMonths?_eq_some_iff {instant months later : Int} :
    shiftMonths? instant months = some later ↔
      MonthsLater instant months later ∧ minInstant ≤ later ∧ later < endInstant := by
  have hvalid : (laterDate (dateAt instant) months).Valid :=
    valid_laterDate (dayOf_civil (instant / dayLength)).1 months
  have htime : 0 ≤ instant % dayLength ∧ instant % dayLength < dayLength := by
    rw [dayLength]
    omega
  rw [shiftMonths?_eq, within_iff]
  constructor
  · intro h
    simp only [Option.ite_none_right_eq_some, Option.some.injEq] at h
    obtain ⟨hyear, rfl⟩ := h
    obtain ⟨hdate, htime'⟩ := dateAt_dayOf hvalid htime
    refine ⟨⟨?_, ?_, htime'⟩, ?_⟩
    · rw [hdate, monthCount_laterDate]
    · rw [hdate]
      rfl
    · rw [hdate]
      exact hyear
  · rintro ⟨⟨hmonth, hday, htime'⟩, hyear⟩
    -- the date is determined by its month and its day
    have hlater := (dayOf_civil (later / dayLength)).1
    have hyear' := Date.year_eq hlater
    have hmonth' := Date.month_eq hlater
    rw [← dateAt] at hlater hyear' hmonth'
    have hdate : dateAt later = laterDate (dateAt instant) months := by
      rw [hmonth] at hyear' hmonth'
      rw [laterDate, hyear', hmonth', ← hday]
    rw [← hdate, if_pos hyear, ← htime', dayOf_dateAt]

end HttpSuite.Calendar
