/-!
Dates of the Gregorian calendar and the RFC 3339 text of a time in UTC.

Days are counted from the start of 1970. For the arithmetic a year begins in March, so that a leap
day is the last day of its year, and years are grouped into eras of 400.
-/

namespace PackageSearch.Clock

structure Date where
  year : Nat
  month : Nat
  day : Nat
  deriving DecidableEq, Repr

/-- The days from the first of March of year zero to the start of 1970. -/
def daysBeforeEpoch : Nat := 719468

def daysPerEra : Nat := 146097

def dateOfDay (day : Nat) : Date :=
  let shifted := day + daysBeforeEpoch
  let era := shifted / daysPerEra
  let dayOfEra := shifted % daysPerEra
  let yearOfEra := (dayOfEra - dayOfEra / 1460 + dayOfEra / 36524 - dayOfEra / 146096) / 365
  let dayOfYear := dayOfEra - (365 * yearOfEra + yearOfEra / 4 - yearOfEra / 100)
  let monthFromMarch := (5 * dayOfYear + 2) / 153
  let month := if monthFromMarch < 10 then monthFromMarch + 3 else monthFromMarch - 9
  { year := yearOfEra + era * 400 + (if month ≤ 2 then 1 else 0)
    month
    day := dayOfYear - (153 * monthFromMarch + 2) / 5 + 1 }

def millisecondsPerDay : Nat := 86400000

def padded (width value : Nat) : List Char :=
  let digits := (toString value).toList
  List.replicate (width - digits.length) '0' ++ digits

/-- A year with four digits, or with a sign when it needs more. -/
def yearText (year : Nat) : List Char :=
  if year ≤ 9999 then padded 4 year else '+' :: padded 4 year

/-- The fraction of a second, left out when it is zero. -/
def fractionText (milliseconds : Nat) : List Char :=
  if milliseconds = 0 then [] else '.' :: padded 3 milliseconds

/-- A time in milliseconds since the start of 1970 as date and time of day in UTC. -/
def rfc3339 (time : Nat) : List Char :=
  let date := dateOfDay (time / millisecondsPerDay)
  let rest := time % millisecondsPerDay
  yearText date.year ++ '-' :: padded 2 date.month ++ '-' :: padded 2 date.day ++
    'T' :: padded 2 (rest / 3600000) ++ ':' :: padded 2 (rest / 60000 % 60) ++
    ':' :: padded 2 (rest / 1000 % 60) ++ fractionText (rest % 1000) ++ "+00:00".toList

end PackageSearch.Clock
