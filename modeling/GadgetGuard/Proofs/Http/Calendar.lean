import Mathlib.Tactic.IntervalCases
import GadgetGuard.Http.Date
/-!
# The calendar

Days are counted here as the calendar has them: by the lengths of years and months, with a leap
year every four years except for three of four full centuries.  The date that `CivilDate.ofDays`
works out for a day is the one that this count takes back to the day.
-/

namespace GadgetGuard.CivilDate

variable {year : Int} {fromMarch day : Nat}

def IsLeap (year : Int) : Prop :=
  year % 4 = 0 ∧ (year % 100 ≠ 0 ∨ year % 400 = 0)

instance (year : Int) : Decidable (IsLeap year) :=
  inferInstanceAs (Decidable (_ ∧ _))

def yearLength (year : Int) : Nat :=
  if IsLeap year then 366 else 365

def monthLength (year : Int) (month : Nat) : Nat :=
  if month = 2 then if IsLeap year then 29 else 28
  else if month ∈ [4, 6, 9, 11] then 30
  else 31

structure IsValid (date : CivilDate) : Prop where
  one_le_month : 1 ≤ date.month
  month_le : date.month ≤ 12
  one_le_day : 1 ≤ date.day
  day_le : date.day ≤ monthLength date.year date.month

instance (date : CivilDate) : Decidable date.IsValid :=
  decidable_of_iff (1 ≤ date.month ∧ date.month ≤ 12 ∧ 1 ≤ date.day ∧
      date.day ≤ monthLength date.year date.month)
    ⟨fun ⟨hlow, hhigh, hfirst, hlast⟩ => ⟨hlow, hhigh, hfirst, hlast⟩,
      fun ⟨hlow, hhigh, hfirst, hlast⟩ => ⟨hlow, hhigh, hfirst, hlast⟩⟩

/-- How many leap years the calendar has from its first year up to the one before. -/
def leapYearsBefore (year : Int) : Int :=
  (year - 1) / 4 - (year - 1) / 100 + (year - 1) / 400

/-- The first day of a year, counted from that of 1970. -/
def daysBeforeYear (year : Int) : Int :=
  365 * (year - 1970) + (leapYearsBefore year - leapYearsBefore 1970)

def daysBeforeMonth (year : Int) (month : Nat) : Nat :=
  ((List.range (month - 1)).map fun earlier => monthLength year (earlier + 1)).sum

/-- How many days a date is after the first of January 1970. -/
def toDays (date : CivilDate) : Int :=
  daysBeforeYear date.year + daysBeforeMonth date.year date.month + (date.day - 1)

/-! ## Years and months -/

/-- The count of days starts with the year 1970. -/
theorem daysBeforeYear_1970 : daysBeforeYear 1970 = 0 := rfl

/-- From one year to the next the count goes on by the length of the year. -/
theorem daysBeforeYear_succ (year : Int) :
    daysBeforeYear (year + 1) = daysBeforeYear year + yearLength year := by
  simp only [daysBeforeYear, leapYearsBefore, yearLength]
  by_cases hleap : IsLeap year
  · rw [if_pos hleap]
    rw [IsLeap] at hleap
    omega
  · rw [if_neg hleap]
    rw [IsLeap] at hleap
    omega

/-- All months together are the year. -/
theorem daysBeforeMonth_thirteen (year : Int) : daysBeforeMonth year 13 = yearLength year := by
  rw [daysBeforeMonth, yearLength]
  by_cases hleap : IsLeap year
  · simp [List.range_succ, monthLength, hleap]
  · simp [List.range_succ, monthLength, hleap]

/-- From March on any five months have 153 days together, which sets where each begins. -/
theorem daysBeforeMonth_add_three (year : Int) (hmonth : fromMarch < 10) :
    daysBeforeMonth year (fromMarch + 3) + 306 =
      yearLength year + (153 * fromMarch + 2) / 5 := by
  rw [daysBeforeMonth, yearLength]
  by_cases hleap : IsLeap year
  · interval_cases fromMarch <;> simp [List.range_succ, monthLength, hleap]
  · interval_cases fromMarch <;> simp [List.range_succ, monthLength, hleap]

theorem monthLength_add_three (year : Int) (hmonth : fromMarch < 10) :
    (153 * fromMarch + 2) / 5 + monthLength year (fromMarch + 3) =
      (153 * (fromMarch + 1) + 2) / 5 := by
  interval_cases fromMarch <;> simp [monthLength]

theorem monthLength_le (year : Int) (month : Nat) : monthLength year month ≤ 31 := by
  rw [monthLength]
  split_ifs <;> decide

/-! ## Years from March on -/

theorem ofMarchYear_of_lt (hday : (5 * day + 2) / 153 = fromMarch) (hmonth : fromMarch < 10) :
    ofMarchYear year day = ⟨year, fromMarch + 3, day - (153 * fromMarch + 2) / 5 + 1⟩ := by
  rw [ofMarchYear, hday, if_pos hmonth, if_neg (by omega), add_zero]

theorem ofMarchYear_of_le (hday : (5 * day + 2) / 153 = fromMarch) (hlow : 10 ≤ fromMarch)
    (hhigh : fromMarch ≤ 11) :
    ofMarchYear year day = ⟨year + 1, fromMarch - 9, day - (153 * fromMarch + 2) / 5 + 1⟩ := by
  rw [ofMarchYear, hday, if_neg (Nat.not_lt.2 hlow), if_pos (by omega)]

/-- A day of a year from March on is a day of the calendar. -/
theorem ofMarchYear_isValid (hday : day ≤ 365) (hleap : day = 365 → IsLeap (year + 1)) :
    (ofMarchYear year day).IsValid := by
  obtain ⟨fromMarch, hmonth⟩ : ∃ fromMarch, (5 * day + 2) / 153 = fromMarch := ⟨_, rfl⟩
  by_cases hlt : fromMarch < 10
  · have hlength := monthLength_add_three year hlt
    rw [ofMarchYear_of_lt hmonth hlt]
    refine ⟨Nat.le_add_left 1 _, Nat.add_le_add_right (Nat.le_of_lt_succ hlt) 3,
      Nat.le_add_left 1 _, ?_⟩
    simp only
    omega
  · have hle : fromMarch ≤ 11 := by omega
    rw [ofMarchYear_of_le hmonth (Nat.le_of_not_lt hlt) hle]
    obtain rfl | rfl : fromMarch = 10 ∨ fromMarch = 11 := by omega
    · have hlength : monthLength (year + 1) 1 = 31 := rfl
      refine ⟨Nat.le_refl 1, Nat.le_add_left 1 11, Nat.le_add_left 1 _, ?_⟩
      simp only [hlength]
      omega
    · have hlength : monthLength (year + 1) 2 = if IsLeap (year + 1) then 29 else 28 := rfl
      refine ⟨Nat.le_add_left 1 1, Nat.le_add_left 2 10, Nat.le_add_left 1 _, ?_⟩
      simp only [hlength]
      split
      next => omega
      next hcommon =>
        have hne : day ≠ 365 := fun heq => hcommon (hleap heq)
        omega

theorem toDays_ofMarchYear (hday : day ≤ 365) :
    toDays (ofMarchYear year day) = daysBeforeYear (year + 1) - 306 + day := by
  obtain ⟨fromMarch, hmonth⟩ : ∃ fromMarch, (5 * day + 2) / 153 = fromMarch := ⟨_, rfl⟩
  by_cases hlt : fromMarch < 10
  · have hbefore := daysBeforeMonth_add_three year hlt
    have hyear := daysBeforeYear_succ year
    rw [ofMarchYear_of_lt hmonth hlt, toDays]
    simp only
    omega
  · have hle : fromMarch ≤ 11 := by omega
    rw [ofMarchYear_of_le hmonth (Nat.le_of_not_lt hlt) hle, toDays]
    obtain rfl | rfl : fromMarch = 10 ∨ fromMarch = 11 := by omega
    · have hbefore : daysBeforeMonth (year + 1) 1 = 0 := rfl
      simp only [hbefore]
      omega
    · have hbefore : daysBeforeMonth (year + 1) 2 = 31 := rfl
      simp only [hbefore]
      omega

/-! ## Cycles of 400 years -/

/-- The place of a day in a cycle of 400 years: its century, the four years of the century that it
belongs to, the year of these and the day of this year, all from zero.  A year has a last odd day
only if it is the last one of four, and of a century only in the last century. -/
structure IsPlace (dayOfEra century quadrennium yearOfFour day : Nat) : Prop where
  century_lt : century < 4
  quadrennium_lt : quadrennium < 25
  yearOfFour_lt : yearOfFour < 4
  day_le : day ≤ 365
  odd : day = 365 → yearOfFour = 3 ∧ (quadrennium = 24 → century = 3)
  eq_sum : dayOfEra = 36524 * century + 1461 * quadrennium + 365 * yearOfFour + day

variable {dayOfEra century quadrennium yearOfFour : Nat}

theorem exists_place (hday : dayOfEra < 146097) :
    ∃ century quadrennium yearOfFour day,
      IsPlace dayOfEra century quadrennium yearOfFour day := by
  obtain ⟨century, rest, hcentury, rfl, hrest⟩ : ∃ century rest, century < 4 ∧
      dayOfEra = 36524 * century + rest ∧ (rest < 36524 ∨ century = 3 ∧ rest = 36524) :=
    ⟨min (dayOfEra / 36524) 3, dayOfEra - 36524 * min (dayOfEra / 36524) 3,
      by omega, by omega, by omega⟩
  obtain ⟨yearOfFour, day, hyear, hrest', hday'⟩ : ∃ yearOfFour day, yearOfFour < 4 ∧
      rest % 1461 = 365 * yearOfFour + day ∧ (day < 365 ∨ day = 365 ∧ yearOfFour = 3) :=
    ⟨min (rest % 1461 / 365) 3, rest % 1461 - 365 * min (rest % 1461 / 365) 3,
      by omega, by omega, by omega⟩
  exact ⟨century, rest / 1461, yearOfFour, day, hcentury, by omega, hyear, by omega, by omega,
    by omega⟩

theorem IsPlace.yearOfEra_eq
    (hplace : IsPlace dayOfEra century quadrennium yearOfFour day) :
    yearOfEra dayOfEra = 100 * century + 4 * quadrennium + yearOfFour := by
  obtain ⟨hcentury, hquadrennium, hyear, hday, hodd, hsum⟩ := hplace
  -- how often an odd day was left out, of four years, of a century, and of all
  have hcenturies : dayOfEra / 36524 = century + dayOfEra / 146096 := by
    obtain rfl | rfl | rfl | rfl : century = 0 ∨ century = 1 ∨ century = 2 ∨ century = 3 := by
      omega
    all_goals omega
  have hquadrennia : dayOfEra / 1460 = 25 * century + quadrennium +
      (24 * century + quadrennium + 365 * yearOfFour + day) / 1460 := by
    omega
  have hlast : 1 ≤ (24 * century + quadrennium + 365 * yearOfFour + day) / 1460 →
      yearOfFour = 3 := by
    omega
  rw [yearOfEra]
  omega

theorem IsPlace.isLeap (hplace : IsPlace dayOfEra century quadrennium yearOfFour 365) (era : Int) :
    IsLeap (era * 400 + (100 * century + 4 * quadrennium + yearOfFour : Nat) + 1) := by
  obtain ⟨hcentury, hquadrennium, -, -, hodd, -⟩ := hplace
  obtain ⟨rfl, hlast⟩ := hodd rfl
  rw [IsLeap]
  omega

theorem IsPlace.leapYearsBefore_eq (hplace : IsPlace dayOfEra century quadrennium yearOfFour day)
    (era : Int) :
    leapYearsBefore (era * 400 + (100 * century + 4 * quadrennium + yearOfFour : Nat) + 1) =
      97 * era + 24 * century + quadrennium := by
  obtain ⟨hcentury, hquadrennium, hyear, -, -, -⟩ := hplace
  have hfours : (era * 400 + (100 * century + 4 * quadrennium + yearOfFour : Nat) + 1 - 1) / 4 =
      100 * era + 25 * century + quadrennium := by omega
  have hcenturies : (era * 400 + (100 * century + 4 * quadrennium + yearOfFour : Nat) + 1 - 1) /
      100 = 4 * era + century := by omega
  have heras : (era * 400 + (100 * century + 4 * quadrennium + yearOfFour : Nat) + 1 - 1) / 400 =
      era := by omega
  rw [leapYearsBefore, hfours, hcenturies, heras]
  omega

/-- What a day is as a date is a year from March on and a day of it. -/
theorem exists_ofDays_eq (days : Int) :
    ∃ year day, ofDays days = ofMarchYear year day ∧ day ≤ 365 ∧
      (day = 365 → IsLeap (year + 1)) ∧ daysBeforeYear (year + 1) - 306 + day = days := by
  obtain ⟨era, hera⟩ : ∃ era, (days + 719468) / 146097 = era := ⟨_, rfl⟩
  obtain ⟨dayOfEra, hday⟩ : ∃ dayOfEra, ((days + 719468) % 146097).toNat = dayOfEra := ⟨_, rfl⟩
  have hlt : dayOfEra < 146097 := by omega
  obtain ⟨century, quadrennium, yearOfFour, day, hplace⟩ := exists_place hlt
  have hyear := hplace.yearOfEra_eq
  have hbefore : dayOfEra - (365 * yearOfEra dayOfEra + yearOfEra dayOfEra / 4 -
      yearOfEra dayOfEra / 100) = day := by
    obtain ⟨-, hquadrennium, hfour, -, -, hsum⟩ := hplace
    have hfours : yearOfEra dayOfEra / 4 = 25 * century + quadrennium := by omega
    have hcenturies : yearOfEra dayOfEra / 100 = century := by omega
    rw [hfours, hcenturies, hyear, hsum]
    omega
  refine ⟨era * 400 + yearOfEra dayOfEra, day, ?_, hplace.day_le, ?_, ?_⟩
  · rw [ofDays, hera, hday, hbefore]
  · rintro rfl
    rw [hyear]
    exact hplace.isLeap era
  · have hleaps : leapYearsBefore 1970 = 477 := rfl
    have hsum := hplace.eq_sum
    rw [daysBeforeYear, hyear, hplace.leapYearsBefore_eq, hleaps]
    omega

theorem ofDays_isValid (days : Int) : (ofDays days).IsValid := by
  obtain ⟨year, day, hdate, hday, hleap, -⟩ := exists_ofDays_eq days
  rw [hdate]
  exact ofMarchYear_isValid hday hleap

/-- The date of a day is the one from which the calendar counts back to the day. -/
theorem toDays_ofDays (days : Int) : toDays (ofDays days) = days := by
  obtain ⟨year, day, hdate, hday, -, hdays⟩ := exists_ofDays_eq days
  rw [hdate, toDays_ofMarchYear hday, hdays]

end GadgetGuard.CivilDate
