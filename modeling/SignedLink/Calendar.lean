/-!
# SignedLink — calendar

Moments of the proleptic Gregorian calendar in universal time, and the seconds
since the start of 1970 that they stand for. Years are counted from March, so
that a leap day is the last day of a year, and grouped into cycles of 400
years, which all have the same number of days.

* `toSeconds_ofSeconds`: the conversion to a moment and back loses nothing.
-/

namespace SignedLink

/-- A second of the calendar. -/
structure Moment where
  year : Int
  month : Int
  day : Int
  hour : Int
  minute : Int
  second : Int
deriving DecidableEq

namespace Moment

/-- The days of a cycle of 400 years. -/
def cycleDays : Int := 146097

/-- The days from the first of March of the year 0 to the start of 1970. -/
def epochOffset : Int := 719468

/-- The days of the cycle before the given year of it. -/
def daysBeforeYear (year : Int) : Int :=
  365 * year + year / 4 - year / 100

/-- The year of a cycle that a day of it falls into: the century, of which the last is a day
longer, the group of four years in it, and the year of the group, of which the last is a day
longer. -/
def yearOfCycle (day : Int) : Int :=
  let century := min 3 (day / 36524)
  let dayOfCentury := day - 36524 * century
  let group := dayOfCentury / 1461
  let dayOfGroup := dayOfCentury - 1461 * group
  100 * century + 4 * group + min 3 (dayOfGroup / 365)

/-- The days before a month, counted from March as 0. -/
def daysBeforeMonth (month : Int) : Int :=
  (153 * month + 2) / 5

/-- The month, counted from March as 0, that a day of a year falls into. -/
def monthOfYear (day : Int) : Int :=
  (5 * day + 2) / 153

/-- The moment of a number of seconds since the start of 1970. -/
def ofSeconds (t : Int) : Moment :=
  let days := t / 86400 + epochOffset
  let rest := t % 86400
  let cycle := days / cycleDays
  let dayOfCycle := days % cycleDays
  let year := yearOfCycle dayOfCycle
  let dayOfYear := dayOfCycle - daysBeforeYear year
  let month := monthOfYear dayOfYear
  { year := year + 400 * cycle + (if month < 10 then 0 else 1)
    month := if month < 10 then month + 3 else month - 9
    day := dayOfYear - daysBeforeMonth month + 1
    hour := rest / 3600
    minute := rest % 3600 / 60
    second := rest % 60 }

/-- The days from the start of 1970 to a day. -/
def toDays (year month day : Int) : Int :=
  let year := if month < 3 then year - 1 else year
  let month := if month < 3 then month + 9 else month - 3
  let cycle := year / 400
  cycle * cycleDays + daysBeforeYear (year % 400) + daysBeforeMonth month + (day - 1) - epochOffset

/-- The seconds since the start of 1970 that a moment stands for. -/
def toSeconds (m : Moment) : Int :=
  toDays m.year m.month m.day * 86400 + m.hour * 3600 + m.minute * 60 + m.second

/-! ## The conversion loses nothing -/

/-- A day of a cycle falls into one of its 400 years, and into one of the days of that year. -/
theorem yearOfCycle_bounds {day : Int} (low : 0 ≤ day) (high : day < cycleDays) :
    0 ≤ yearOfCycle day ∧ yearOfCycle day < 400 ∧
      0 ≤ day - daysBeforeYear (yearOfCycle day) ∧
      day - daysBeforeYear (yearOfCycle day) ≤ 365 := by
  simp only [yearOfCycle, daysBeforeYear, cycleDays] at *
  have century : 0 ≤ min 3 (day / 36524) ∧ min 3 (day / 36524) ≤ 3 ∧
      0 ≤ day - 36524 * min 3 (day / 36524) ∧ day - 36524 * min 3 (day / 36524) ≤ 36524 := by
    omega
  generalize min 3 (day / 36524) = c at *
  generalize hr : day - 36524 * c = r at *
  have group : 0 ≤ r / 1461 ∧ r / 1461 ≤ 24 ∧ 0 ≤ r - 1461 * (r / 1461) ∧
      r - 1461 * (r / 1461) ≤ 1460 := by
    omega
  generalize r / 1461 = g at *
  generalize hs : r - 1461 * g = s at *
  have year : 0 ≤ min 3 (s / 365) ∧ min 3 (s / 365) ≤ 3 ∧ 0 ≤ s - 365 * min 3 (s / 365) ∧
      s - 365 * min 3 (s / 365) ≤ 365 := by
    omega
  generalize min 3 (s / 365) = a at *
  have quarters : (100 * c + 4 * g + a) / 4 = 25 * c + g := by omega
  have centuries : (100 * c + 4 * g + a) / 100 = c := by omega
  rw [quarters, centuries]
  omega

/-- A day of a year falls into one of its twelve months. -/
private theorem monthOfYear_bounds {day : Int} (low : 0 ≤ day) (high : day ≤ 365) :
    0 ≤ monthOfYear day ∧ monthOfYear day < 12 := by
  unfold monthOfYear
  omega

/-- The days of a moment in terms of the cycle, the year of the cycle, the month from March and
the day of the month. -/
private theorem toDays_parts {cycle year month : Int} (day : Int) (hy : 0 ≤ year ∧ year < 400)
    (hm : 0 ≤ month ∧ month < 12) :
    toDays (year + 400 * cycle + (if month < 10 then 0 else 1))
        (if month < 10 then month + 3 else month - 9) day =
      cycle * cycleDays + daysBeforeYear year + daysBeforeMonth month + (day - 1) -
        epochOffset := by
  have quotient : (year + 400 * cycle) / 400 = cycle := by omega
  have remainder : (year + 400 * cycle) % 400 = year := by omega
  unfold toDays
  by_cases early : month < 10
  · have late : ¬ month + 3 < 3 := by omega
    simp [early, late, quotient, remainder]
  · have start : month - 9 < 3 := by omega
    simp [early, start, quotient, remainder]

/-- The conversion to a moment and back loses nothing. -/
theorem toSeconds_ofSeconds (t : Int) : (ofSeconds t).toSeconds = t := by
  have low : 0 ≤ (t / 86400 + epochOffset) % cycleDays := Int.emod_nonneg _ (by decide)
  have high : (t / 86400 + epochOffset) % cycleDays < cycleDays := Int.emod_lt_of_pos _ (by decide)
  obtain ⟨yearLow, yearHigh, dayLow, dayHigh⟩ := yearOfCycle_bounds low high
  have months := monthOfYear_bounds dayLow dayHigh
  have whole := Int.mul_ediv_add_emod (t / 86400 + epochOffset) cycleDays
  simp only [ofSeconds, toSeconds]
  rw [toDays_parts _ ⟨yearLow, yearHigh⟩ months]
  have regroup := Int.mul_comm cycleDays ((t / 86400 + epochOffset) / cycleDays)
  omega

end Moment

end SignedLink
