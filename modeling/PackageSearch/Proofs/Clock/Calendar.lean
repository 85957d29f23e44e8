import Mathlib.Algebra.BigOperators.Intervals
import Mathlib.Algebra.Order.BigOperators.Group.Finset
import Mathlib.Data.Nat.ModEq
import Mathlib.Tactic.IntervalCases
import PackageSearch.Toml.Moment

/-!
# Calendar dates

The number of a date counts the days of the years and months before it, from the start of 1970 on.
The date of a day is the date with that number.
-/

namespace PackageSearch.Clock

open Toml (isLeapYear daysInMonth)

/-! ### The number of a date -/

def daysInYear (year : Nat) : Nat :=
  if isLeapYear year then 366 else 365

/-- The days from the start of 1970 to the start of a year. -/
def daysBeforeYear (year : Nat) : Nat :=
  ∑ earlier ∈ Finset.Ico 1970 year, daysInYear earlier

/-- The days from the start of a year to the start of one of its months. -/
def daysBeforeMonth (year month : Nat) : Nat :=
  ∑ earlier ∈ Finset.Ico 1 month, daysInMonth year earlier

namespace Date

/-- A date that the calendar has. -/
structure IsProper (date : Date) : Prop where
  month : 1 ≤ date.month ∧ date.month ≤ 12
  day : 1 ≤ date.day ∧ date.day ≤ daysInMonth date.year date.month

/-- The days from the start of 1970 to a date. -/
def dayNumber (date : Date) : Nat :=
  daysBeforeYear date.year + daysBeforeMonth date.year date.month + (date.day - 1)

end Date

/-! ### Years that begin in March -/

/-- The days from the first of March of year zero to the first of March of a year. -/
def daysBeforeMarch (year : Nat) : Nat :=
  365 * year + year / 4 - year / 100 + year / 400

theorem isLeapYear_iff (year : Nat) :
    isLeapYear year = true ↔ 4 ∣ year ∧ (¬ 100 ∣ year ∨ 400 ∣ year) := by
  simp [isLeapYear, Nat.dvd_iff_mod_eq_zero]

theorem daysInYear_eq (year : Nat) :
    daysInYear year + (if 100 ∣ year then 1 else 0) =
      365 + (if 4 ∣ year then 1 else 0) + (if 400 ∣ year then 1 else 0) := by
  unfold daysInYear
  have leap := isLeapYear_iff year
  by_cases four : 4 ∣ year
  · by_cases hundred : 100 ∣ year
    · by_cases fourHundred : 400 ∣ year <;> simp [leap, four, hundred, fourHundred]
    · have fourHundred : ¬ 400 ∣ year :=
        fun divides => hundred ((by decide : 100 ∣ 400).trans divides)
      simp [leap, four, hundred, fourHundred]
  · have hundred : ¬ 100 ∣ year := fun divides => four ((by decide : 4 ∣ 100).trans divides)
    have fourHundred : ¬ 400 ∣ year := fun divides => four ((by decide : 4 ∣ 400).trans divides)
    simp [leap, four, hundred, fourHundred]

theorem daysBeforeMarch_succ (year : Nat) :
    daysBeforeMarch (year + 1) = daysBeforeMarch year + daysInYear (year + 1) := by
  have days := daysInYear_eq (year + 1)
  have atMost : (if 100 ∣ year + 1 then 1 else 0) ≤ 1 := by split <;> decide
  unfold daysBeforeMarch
  rw [Nat.succ_div, Nat.succ_div, Nat.succ_div]
  omega

/-- January begins 306 days after March. -/
theorem daysBeforeYear_add (year : Nat) (recent : 1970 ≤ year) :
    daysBeforeYear year + daysBeforeEpoch = daysBeforeMarch (year - 1) + 306 := by
  induction year, recent using Nat.le_induction with
  | base => simp [daysBeforeYear, daysBeforeMarch, daysBeforeEpoch]
  | succ year recent inductionHypothesis =>
      have next := daysBeforeMarch_succ (year - 1)
      rw [Nat.sub_add_cancel (by omega)] at next
      rw [daysBeforeYear, Finset.sum_Ico_succ_top recent, ← daysBeforeYear, Nat.add_sub_cancel]
      omega

/-- The days from the start of March to the start of a month that comes so many months later. -/
def daysAfterMarch (months : Nat) : Nat :=
  (153 * months + 2) / 5

/-- From March on the days before a month are those up to March and those since. -/
theorem daysBeforeMonth_of_march_le (year month : Nat) (least : 3 ≤ month) (most : month ≤ 12) :
    daysBeforeMonth year month + 306 = daysInYear year + daysAfterMarch (month - 3) := by
  unfold daysBeforeMonth daysInYear
  interval_cases month <;>
    simp [Finset.sum_Ico_succ_top, daysInMonth, daysAfterMarch] <;> split_ifs <;> rfl

theorem daysBeforeMonth_of_lt_march (year month : Nat) (least : 1 ≤ month) (most : month < 3) :
    daysBeforeMonth year month + 306 = daysAfterMarch (month + 9) := by
  interval_cases month <;> rfl

namespace Date

/-- The year that begins in March and has the date in it. -/
def marchYear (date : Date) : Nat :=
  if date.month ≤ 2 then date.year - 1 else date.year

def monthsFromMarch (date : Date) : Nat :=
  if date.month ≤ 2 then date.month + 9 else date.month - 3

theorem dayNumber_add {date : Date} (proper : date.IsProper) (recent : 1970 ≤ date.year) :
    date.dayNumber + daysBeforeEpoch =
      daysBeforeMarch date.marchYear + daysAfterMarch date.monthsFromMarch + (date.day - 1) := by
  have year := daysBeforeYear_add date.year recent
  unfold dayNumber marchYear monthsFromMarch
  split_ifs with early
  · have month := daysBeforeMonth_of_lt_march date.year date.month proper.month.1 (by omega)
    omega
  · have month :=
      daysBeforeMonth_of_march_le date.year date.month (by omega) proper.month.2
    have next := daysBeforeMarch_succ (date.year - 1)
    rw [Nat.sub_add_cancel (by omega)] at next
    omega

end Date

/-! ### The date of a day -/

/-- A place in an era: a century, a group of four years in it, a year of the group and a day of the
year. Years have 365 days; only a leap year has one more, as its last. -/
structure EraPlace where
  century : Nat
  group : Nat
  year : Nat
  rest : Nat
  century_le : century ≤ 3
  group_le : group ≤ 24
  year_le : year ≤ 3
  rest_le : rest ≤ 365
  leap : rest = 365 → year = 3 ∧ (group = 24 → century = 3)

namespace EraPlace

def day (place : EraPlace) : Nat :=
  36524 * place.century + 1461 * place.group + 365 * place.year + place.rest

def yearOfEra (place : EraPlace) : Nat :=
  100 * place.century + 4 * place.group + place.year

theorem exists_day_eq {day : Nat} (within : day < daysPerEra) :
    ∃ place : EraPlace, place.day = day := by
  unfold daysPerEra at within
  obtain ⟨century, dayOfCentury, century_le, dayOfCentury_le, inLast, rfl⟩ :
      ∃ century dayOfCentury, century ≤ 3 ∧ dayOfCentury ≤ 36524 ∧
        (dayOfCentury = 36524 → century = 3) ∧ 36524 * century + dayOfCentury = day := by
    by_cases last : day = 146096
    · exact ⟨3, 36524, by omega⟩
    · exact ⟨day / 36524, day % 36524, by omega⟩
  obtain ⟨group, dayOfGroup, group_le, dayOfGroup_lt, rfl⟩ : ∃ group dayOfGroup, group ≤ 24 ∧
      dayOfGroup < 1461 ∧ 1461 * group + dayOfGroup = dayOfCentury :=
    ⟨dayOfCentury / 1461, dayOfCentury % 1461, by omega⟩
  by_cases last : dayOfGroup = 1460
  · have full : group = 24 → century = 3 := fun isLast => inLast (by omega)
    exact ⟨⟨century, group, 3, 365, century_le, group_le, by decide, by decide,
      fun _ => ⟨rfl, full⟩⟩, by simp only [EraPlace.day]; omega⟩
  · exact ⟨⟨century, group, dayOfGroup / 365, dayOfGroup % 365, century_le, group_le, by omega,
      by omega, by omega⟩, by simp only [EraPlace.day]; omega⟩

variable (place : EraPlace)

theorem yearOfEra_le : place.yearOfEra ≤ 399 := by
  have century_le := place.century_le
  have group_le := place.group_le
  have year_le := place.year_le
  unfold yearOfEra
  omega

/-- The quotients take away the days that leap years have more. -/
theorem yearOfEra_eq :
    (place.day - place.day / 1460 + place.day / 36524 - place.day / 146096) / 365 =
      place.yearOfEra := by
  obtain ⟨century, group, year, rest, century_le, group_le, year_le, rest_le, leap⟩ := place
  simp only [day, yearOfEra]
  generalize same : 36524 * century + 1461 * group + 365 * year + rest = day
  obtain ⟨extra, groups, within⟩ : ∃ extra, day / 1460 = 25 * century + group + extra ∧
      1460 * extra ≤ 24 * century + group + 365 * year + rest ∧
      24 * century + group + 365 * year + rest < 1460 * extra + 1460 :=
    ⟨(24 * century + group + 365 * year + rest) / 1460, by omega, by omega, by omega⟩
  by_cases last : day = 146096
  · have lastYear : 100 * century + 4 * group + year = 399 := by omega
    rw [last, lastYear]
  · have centuries : day / 36524 = century := by omega
    have notLast : day / 146096 = 0 := by omega
    rw [groups, centuries, notLast]
    omega

theorem daysBeforeMarch_yearOfEra :
    daysBeforeMarch place.yearOfEra + place.rest = place.day := by
  obtain ⟨century, group, year, rest, century_le, group_le, year_le, rest_le, leap⟩ := place
  simp only [day, yearOfEra, daysBeforeMarch]
  omega

/-- The month of the place, counted from March. -/
def months : Nat :=
  (5 * place.rest + 2) / 153

theorem months_le : place.months ≤ 11 := by
  have least := place.rest_le
  unfold months
  omega

theorem daysAfterMarch_months_le : daysAfterMarch place.months ≤ place.rest := by
  unfold months daysAfterMarch
  omega

/-- The date of the place in an era. -/
def date (era : Nat) : Date :=
  let month := if place.months < 10 then place.months + 3 else place.months - 9
  { year := place.yearOfEra + era * 400 + (if month ≤ 2 then 1 else 0)
    month
    day := place.rest - daysAfterMarch place.months + 1 }

variable (era : Nat)

theorem date_month : 1 ≤ (place.date era).month ∧ (place.date era).month ≤ 12 := by
  have most := place.months_le
  simp only [date]
  split_ifs <;> omega

theorem date_monthsFromMarch : (place.date era).monthsFromMarch = place.months := by
  have most := place.months_le
  simp only [date, Date.monthsFromMarch]
  split_ifs <;> omega

theorem date_marchYear : (place.date era).marchYear = place.yearOfEra + era * 400 := by
  simp only [date, Date.marchYear]
  split_ifs <;> omega

/-- The day before the first of March is the last one of a leap year. -/
theorem isLeapYear_of_rest_eq (isLast : place.rest = 365) :
    isLeapYear (place.yearOfEra + era * 400 + 1) = true := by
  obtain ⟨lastOfGroup, lastOfCentury⟩ := place.leap isLast
  have group_le := place.group_le
  rw [isLeapYear_iff, yearOfEra]
  omega

theorem date_day : (place.date era).day ≤
    daysInMonth (place.date era).year (place.date era).month := by
  have rest_le := place.rest_le
  have most := place.months_le
  have isMonth : place.months = (5 * place.rest + 2) / 153 := rfl
  simp only [date]
  by_cases february : place.months = 11
  · simp only [february, daysAfterMarch, daysInMonth, Nat.reduceLT, Nat.reduceSub, if_true,
      if_false, Nat.reduceLeDiff]
    by_cases isLast : place.rest = 365
    · rw [place.isLeapYear_of_rest_eq era isLast, isLast]
      decide
    · split_ifs <;> omega
  · generalize place.months = months at *
    interval_cases months <;> simp [daysInMonth, daysAfterMarch] <;> omega

theorem date_isProper : (place.date era).IsProper where
  month := place.date_month era
  day := ⟨Nat.le_add_left 1 _, place.date_day era⟩

end EraPlace

/-- Eras are alike. -/
theorem daysBeforeMarch_add_era (year era : Nat) :
    daysBeforeMarch (year + era * 400) = daysBeforeMarch year + era * daysPerEra := by
  unfold daysBeforeMarch daysPerEra
  omega

theorem exists_dateOfDay_eq (day : Nat) : ∃ era, ∃ place : EraPlace,
    dateOfDay day = place.date era ∧ era * daysPerEra + place.day = day + daysBeforeEpoch := by
  obtain ⟨place, same⟩ := EraPlace.exists_day_eq
    (Nat.mod_lt (day + daysBeforeEpoch) (by decide : 0 < daysPerEra))
  refine ⟨(day + daysBeforeEpoch) / daysPerEra, place, ?_, ?_⟩
  · have year := place.yearOfEra_eq
    have rest : place.day -
        (365 * place.yearOfEra + place.yearOfEra / 4 - place.yearOfEra / 100) = place.rest := by
      have start := place.daysBeforeMarch_yearOfEra
      have inEra := place.yearOfEra_le
      rw [daysBeforeMarch] at start
      omega
    rw [same] at year rest
    simp only [dateOfDay, year, rest]
    rfl
  · rw [same, Nat.mul_comm]
    exact Nat.div_add_mod _ _

theorem dateOfDay_isProper (day : Nat) : (dateOfDay day).IsProper := by
  obtain ⟨era, place, isDate, -⟩ := exists_dateOfDay_eq day
  rw [isDate]
  exact place.date_isProper era

theorem daysBeforeMarch_monotone : Monotone daysBeforeMarch :=
  monotone_nat_of_le_succ fun year => by
    rw [daysBeforeMarch_succ]
    exact Nat.le_add_right _ _

theorem le_dateOfDay_year (day : Nat) : 1970 ≤ (dateOfDay day).year := by
  obtain ⟨era, place, isDate, same⟩ := exists_dateOfDay_eq day
  have start := place.daysBeforeMarch_yearOfEra
  have rest_le := place.rest_le
  have isMonth : place.months = (5 * place.rest + 2) / 153 := rfl
  have sum := daysBeforeMarch_add_era place.yearOfEra era
  rw [isDate]
  by_contra early
  simp only [EraPlace.date] at early
  unfold daysBeforeEpoch at same
  by_cases behind : place.months < 10
  · have bound : daysBeforeMarch (place.yearOfEra + era * 400) ≤ daysBeforeMarch 1969 :=
      daysBeforeMarch_monotone (by omega)
    have value : daysBeforeMarch 1969 = 719162 := rfl
    omega
  · have bound : daysBeforeMarch (place.yearOfEra + era * 400) ≤ daysBeforeMarch 1968 :=
      daysBeforeMarch_monotone (by split_ifs at early <;> omega)
    have value : daysBeforeMarch 1968 = 718797 := rfl
    omega

/-- The date of a day is the one with its number. -/
theorem dayNumber_dateOfDay (day : Nat) : (dateOfDay day).dayNumber = day := by
  have split := Date.dayNumber_add (dateOfDay_isProper day) (le_dateOfDay_year day)
  obtain ⟨era, place, isDate, same⟩ := exists_dateOfDay_eq day
  have start := place.daysBeforeMarch_yearOfEra
  have months := place.daysAfterMarch_months_le
  rw [isDate, place.date_marchYear, place.date_monthsFromMarch, daysBeforeMarch_add_era] at split
  rw [isDate]
  simp only [EraPlace.date, Nat.add_sub_cancel] at split ⊢
  omega

/-- A day before the year 10000 has a year of four digits. -/
theorem dateOfDay_year_le {day : Nat} (within : day < daysBeforeYear 10000) :
    (dateOfDay day).year ≤ 9999 := by
  by_contra later
  have more : daysBeforeYear 10000 ≤ daysBeforeYear (dateOfDay day).year :=
    Finset.sum_le_sum_of_subset (Finset.Ico_subset_Ico_right (by omega))
  have number := dayNumber_dateOfDay day
  unfold Date.dayNumber at number
  omega

end PackageSearch.Clock
