import SignedLink.Signing.Policy
/-!
# SignedLink — the range of expiry times

Which times pass through the calendar: those between its first and its last
second, and they come out as they went in. The year of a second is found from
the day it falls on, counted from the first of March of the year 0; the two
lemmas on days place the ends of the calendar among the days.

* `one_le_year_iff`, `year_le_iff`: the year against its first and last day.
* `expiry_eq_ok_iff`: exactly the times of the calendar are taken.
-/

namespace SignedLink

namespace Moment

/-- The day a second falls on, from the first of March of the year 0. -/
def dayNumber (t : Int) : Int :=
  t / 86400 + epochOffset

/-- The day of the first of January of the year 1. -/
def firstDay : Int := 306

/-- The day of the last of December of the year 9999. -/
def lastDay : Int := 3652364

/-- What the year of a second is made of: the cycle, the year of it and the day of that year. -/
theorem year_ofSeconds (t : Int) :
    ∃ cycle year day : Int, 0 ≤ year ∧ year < 400 ∧ 0 ≤ day ∧ day ≤ 365 ∧
      dayNumber t = cycleDays * cycle + daysBeforeYear year + day ∧
      (ofSeconds t).year = year + 400 * cycle + (if day < 306 then 0 else 1) := by
  have low : 0 ≤ dayNumber t % cycleDays := Int.emod_nonneg _ (by decide)
  have high : dayNumber t % cycleDays < cycleDays := Int.emod_lt_of_pos _ (by decide)
  obtain ⟨yearLow, yearHigh, dayLow, dayHigh⟩ := yearOfCycle_bounds low high
  have whole := Int.mul_ediv_add_emod (dayNumber t) cycleDays
  refine ⟨dayNumber t / cycleDays, yearOfCycle (dayNumber t % cycleDays), _, yearLow, yearHigh,
    dayLow, dayHigh, by omega, ?_⟩
  -- the tenth month from March, January, starts with the day 306
  have january (day : Int) : monthOfYear day < 10 ↔ day < 306 := by
    unfold monthOfYear
    omega
  exact congrArg (yearOfCycle (dayNumber t % cycleDays) + 400 * (dayNumber t / cycleDays) + ·)
    (ite_congr (propext (january _)) (fun _ => rfl) fun _ => rfl)

theorem one_le_year_iff (t : Int) : 1 ≤ (ofSeconds t).year ↔ firstDay ≤ dayNumber t := by
  obtain ⟨cycle, year, day, yearLow, yearHigh, dayLow, dayHigh, number, equal⟩ := year_ofSeconds t
  rw [equal, number]
  simp only [cycleDays, daysBeforeYear, firstDay]
  split <;> omega

theorem year_le_iff (t : Int) : (ofSeconds t).year ≤ 9999 ↔ dayNumber t ≤ lastDay := by
  obtain ⟨cycle, year, day, yearLow, yearHigh, dayLow, dayHigh, number, equal⟩ := year_ofSeconds t
  rw [equal, number]
  simp only [cycleDays, daysBeforeYear, lastDay]
  split <;> omega

end Moment

namespace Policy

/-- Whether a time lies in the calendar. -/
def InCalendar (expiresAt : Int) : Prop :=
  earliest ≤ expiresAt ∧ expiresAt ≤ latest

instance (expiresAt : Int) : Decidable (InCalendar expiresAt) :=
  inferInstanceAs (Decidable (_ ∧ _))

/-- A time lies in the calendar exactly when its year is one of the years 1 to 9999. -/
theorem inCalendar_iff_year (expiresAt : Int) :
    InCalendar expiresAt ↔
      1 ≤ (Moment.ofSeconds expiresAt).year ∧ (Moment.ofSeconds expiresAt).year ≤ 9999 := by
  rw [Moment.one_le_year_iff, Moment.year_le_iff]
  simp only [InCalendar, earliest, latest, Moment.firstDay, Moment.lastDay, Moment.dayNumber,
    Moment.epochOffset]
  omega

/-- Exactly the times of the calendar are taken, and they come out as they went in. -/
theorem expiry_eq_ok_iff {expiresAt t : Int} :
    expiry expiresAt = .ok t ↔ InCalendar expiresAt ∧ t = expiresAt := by
  constructor
  · intro taken
    refine ⟨?_, expiry_eq taken⟩
    unfold expiry moment at taken
    split at taken
    · simp [Except.map] at taken
    · dsimp only at taken
      split at taken
      · simp [Except.map] at taken
      · split at taken
        · next years => exact (inCalendar_iff_year expiresAt).mpr years
        · simp [Except.map] at taken
  · rintro ⟨inside, rfl⟩
    have years := (inCalendar_iff_year t).mp inside
    -- a time of the calendar is far from the ends of the machine's words
    have word : fitsWord64 t = true := by
      simp only [InCalendar, earliest, latest] at inside
      simp only [fitsWord64, Bool.and_eq_true, decide_eq_true_eq]
      omega
    have machineYear : fitsWord32 ((Moment.ofSeconds t).year - 1900) = true := by
      simp only [fitsWord32, Bool.and_eq_true, decide_eq_true_eq]
      omega
    rw [expiry, moment, word]
    simp [machineYear, years, Except.map, Moment.toSeconds_ofSeconds]

end Policy

end SignedLink
