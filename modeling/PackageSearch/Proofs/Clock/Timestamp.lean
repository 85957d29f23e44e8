import PackageSearch.Proofs.Clock.Calendar
import PackageSearch.Proofs.Text.Blank

/-!
# Times as text

A time that is written for RFC 3339 and read back gives the same time. The reader is the one for
TOML, which writes its dates and times in the same way.
-/

namespace PackageSearch

variable {rest : List Char}

/-! ### The time of a moment -/

namespace Toml

/-- The milliseconds of a fraction of a second that is no finer. -/
def fractionMilliseconds? (fraction : List Char) : Option Nat :=
  if fraction.length ≤ 3 then
    some (Nat.ofDigitChars 10 (fraction ++ List.replicate (3 - fraction.length) '0') 0)
  else none

def TimeOfDay.milliseconds? (time : TimeOfDay) : Option Nat :=
  (fractionMilliseconds? time.fraction).map fun fraction =>
    time.hour * 3600000 + time.minute * 60000 + time.second * 1000 + fraction

/-- The milliseconds from the start of 1970 in UTC to a date and time that says how far it is ahead
of UTC. -/
def Moment.instant? : Moment → Option Int
  | .both day clock (some offset) =>
      clock.milliseconds?.map fun milliseconds =>
        day.dayNumber * 86400000 + milliseconds - offset * 60000
  | _ => none

theorem Moment.instant?_both_utc (date : Clock.Date) {clock : TimeOfDay} {milliseconds : Nat}
    (same : clock.milliseconds? = some milliseconds) :
    (Moment.both date clock (some 0)).instant? =
      some ((date.dayNumber * Clock.millisecondsPerDay + milliseconds : Nat) : Int) := by
  simp [Moment.instant?, same, Clock.millisecondsPerDay]

/-- The time that a text says, if it is a date and time and nothing else. -/
def instantOf? (text : List Char) : Option Int :=
  match readMoment text with
  | some (moment, []) => moment.instant?
  | _ => none

/-! ### Padded numbers -/

theorem readFixed_eq_ofDigitChars {width : Nat} {digits : List Char}
    (length : digits.length = width) (areDigits : ∀ digit ∈ digits, digit.isDigit = true) :
    readFixed width (digits ++ rest) = some (Nat.ofDigitChars 10 digits 0, rest) := by
  subst length
  have all : digits.all Char.isDigit = true := List.all_eq_true.mpr areDigits
  simp [readFixed, all, Nat.ofDigitChars, Nat.mul_comm]

end Toml

namespace Clock

theorem padded_eq (width value : Nat) : padded width value =
    List.replicate (width - (Nat.toDigits 10 value).length) '0' ++ Nat.toDigits 10 value := by
  simp [padded]

variable {width value : Nat}

theorem length_padded (positive : 0 < width) (fits : value < 10 ^ width) :
    (padded width value).length = width := by
  have short := (Nat.length_toDigits_le_iff (by decide) positive).mpr fits
  rw [padded_eq, List.length_append, List.length_replicate]
  omega

theorem isDigit_of_mem_padded : ∀ digit ∈ padded width value, digit.isDigit = true := by
  intro digit membership
  rw [padded_eq] at membership
  rcases List.mem_append.mp membership with zero | inNumber
  · rw [List.eq_of_mem_replicate zero]
    rfl
  · exact Nat.isDigit_of_mem_toDigits (by decide) (by decide) inNumber

theorem ofDigitChars_padded : Nat.ofDigitChars 10 (padded width value) 0 = value := by
  have zeros : ∀ count, Nat.ofDigitChars 10 (List.replicate count '0') 0 = 0 := by
    intro count
    induction count with
    | zero => rfl
    | succ count inductionHypothesis => exact inductionHypothesis
  rw [padded_eq, Nat.ofDigitChars_append, zeros, Nat.ofDigitChars_ten_toDigits]

theorem readFixed_padded (positive : 0 < width) (fits : value < 10 ^ width) :
    Toml.readFixed width (padded width value ++ rest) = some (value, rest) := by
  rw [Toml.readFixed_eq_ofDigitChars (length_padded positive fits) isDigit_of_mem_padded,
    ofDigitChars_padded]

theorem readPair_padded {least most : Nat} (above : least ≤ value) (below : value ≤ most)
    (fits : value < 100) :
    Toml.readPair least most (padded 2 value ++ rest) = some (value, rest) := by
  rw [Toml.readPair, readFixed_padded (by decide) fits]
  simp [above, below]

/-! ### The parts of a time -/

def dateText (date : Date) : List Char :=
  yearText date.year ++ '-' :: padded 2 date.month ++ '-' :: padded 2 date.day

/-- A time of day, in milliseconds after midnight. -/
def clockText (time : Nat) : List Char :=
  padded 2 (time / 3600000) ++ ':' :: padded 2 (time / 60000 % 60) ++
    ':' :: padded 2 (time / 1000 % 60) ++ fractionText (time % 1000)

/-- A date and a time of day in UTC. -/
def momentText (date : Date) (time : Nat) : List Char :=
  dateText date ++ 'T' :: (clockText time ++ "+00:00".toList)

theorem momentText_eq (date : Date) (time : Nat) : momentText date time =
    yearText date.year ++ '-' :: padded 2 date.month ++ '-' :: padded 2 date.day ++
      'T' :: padded 2 (time / 3600000) ++ ':' :: padded 2 (time / 60000 % 60) ++
      ':' :: padded 2 (time / 1000 % 60) ++ fractionText (time % 1000) ++ "+00:00".toList := by
  unfold momentText dateText clockText
  simp only [List.append_assoc, List.cons_append]

theorem rfc3339_eq (time : Nat) : rfc3339 time =
    momentText (dateOfDay (time / millisecondsPerDay)) (time % millisecondsPerDay) := by
  unfold rfc3339
  exact (momentText_eq _ _).symm

theorem readDate_of_isProper {date : Date} (proper : date.IsProper) (fits : date.year ≤ 9999) :
    Toml.readDate (dateText date ++ rest) = some (date, rest) := by
  obtain ⟨⟨leastMonth, mostMonth⟩, leastDay, mostDay⟩ := proper
  have month : date.month < 100 := by omega
  have day : date.day < 100 := by
    unfold Toml.daysInMonth at mostDay
    split_ifs at mostDay <;> omega
  rw [dateText, yearText, if_pos fits]
  simp only [List.append_assoc, List.cons_append, Toml.readDate, Option.bind_eq_bind]
  rw [readFixed_padded (by decide) (by omega), Option.bind_some, Toml.expect, if_pos rfl,
    Option.bind_some, readPair_padded leastMonth mostMonth month, Option.bind_some, Toml.expect,
    if_pos rfl, Option.bind_some, readPair_padded leastDay mostDay day]
  rfl

/-- Nothing that could be a digit of the fraction or its point. -/
def EndsSecond (rest : List Char) : Prop :=
  ∀ first ∈ rest.head?, first ≠ '.' ∧ first.isDigit = false

theorem readSecondFraction_fractionText {milliseconds : Nat} (within : milliseconds < 1000)
    (ends : EndsSecond rest) :
    ∃ fraction, Toml.readSecondFraction (fractionText milliseconds ++ rest) = (fraction, rest) ∧
      Toml.fractionMilliseconds? fraction = some milliseconds := by
  unfold fractionText
  split_ifs with isWhole
  · refine ⟨[], ?_, congrArg some isWhole.symm⟩
    rw [List.nil_append]
    unfold Toml.readSecondFraction
    split
    · exact absurd rfl (ends '.' rfl).1
    · rfl
  · have length := length_padded (by decide : 0 < 3) within
    have stops : ∀ first ∈ rest.head?, first.isDigit = false :=
      fun first isFirst => (ends first isFirst).2
    have taken := Text.takeWhile_append_of_head?
      (isDigit_of_mem_padded : ∀ digit ∈ padded 3 milliseconds, _) stops
    have dropped := Text.dropWhile_append_of_head?
      (isDigit_of_mem_padded : ∀ digit ∈ padded 3 milliseconds, _) stops
    have nonempty : (padded 3 milliseconds).isEmpty = false := by
      rw [List.isEmpty_eq_false_iff, ← List.length_pos_iff, length]
      decide
    refine ⟨padded 3 milliseconds, ?_, ?_⟩
    · simp only [List.cons_append, Toml.readSecondFraction, taken, dropped, nonempty,
        Bool.false_eq_true, if_false]
    · rw [Toml.fractionMilliseconds?, length, if_pos (Nat.le_refl 3), Nat.sub_self,
        List.replicate_zero, List.append_nil, ofDigitChars_padded]

theorem exists_readTime {time : Nat} (within : time < millisecondsPerDay)
    (ends : EndsSecond rest) :
    ∃ clock, Toml.readTime (clockText time ++ rest) = some (clock, rest) ∧
      clock.milliseconds? = some time := by
  unfold millisecondsPerDay at within
  obtain ⟨fraction, read, isRest⟩ :=
    readSecondFraction_fractionText (Nat.mod_lt time (by decide : 0 < 1000)) ends
  refine ⟨⟨time / 3600000, time / 60000 % 60, time / 1000 % 60, fraction⟩, ?_, ?_⟩
  · simp only [clockText, List.append_assoc, List.cons_append, Toml.readTime, Option.bind_eq_bind]
    rw [readPair_padded (Nat.zero_le _) (by omega) (by omega), Option.bind_some, Toml.expect,
      if_pos rfl, Option.bind_some, readPair_padded (Nat.zero_le _) (by omega) (by omega),
      Option.bind_some, Toml.expect, if_pos rfl, Option.bind_some,
      readPair_padded (Nat.zero_le _) (by omega) (by omega), Option.bind_some, read]
    rfl
  · simp only [Toml.TimeOfDay.milliseconds?, isRest, Option.map_some, Option.some.injEq]
    omega

theorem exists_readMoment {date : Date} {time : Nat} (proper : date.IsProper)
    (fits : date.year ≤ 9999) (within : time < millisecondsPerDay) :
    ∃ clock, Toml.readMoment (momentText date time) = some (.both date clock (some 0), []) ∧
      clock.milliseconds? = some time := by
  have ends : EndsSecond "+00:00".toList := by
    rintro first ⟨⟩
    decide
  have inUtc : Toml.readOffset "+00:00".toList = some (some 0, []) := rfl
  obtain ⟨clock, isClock, milliseconds⟩ := exists_readTime within ends
  refine ⟨clock, ?_, milliseconds⟩
  rw [momentText, Toml.readMoment, readDate_of_isProper proper fits]
  simp only [Toml.readTimeAfterDate, isClock, inUtc, Option.map_some]

/-- What is written for a time says exactly this time, in UTC. -/
theorem instantOf?_rfc3339 {time : Nat} (early : time < daysBeforeYear 10000 * millisecondsPerDay) :
    Toml.instantOf? (rfc3339 time) = some (time : Int) := by
  have fits := dateOfDay_year_le (Nat.div_lt_of_lt_mul (Nat.mul_comm _ _ ▸ early))
  have number := dayNumber_dateOfDay (time / millisecondsPerDay)
  obtain ⟨clock, read, milliseconds⟩ := exists_readMoment
    (dateOfDay_isProper (time / millisecondsPerDay)) fits
    (Nat.mod_lt time (by decide : 0 < millisecondsPerDay))
  have parts : time / millisecondsPerDay * millisecondsPerDay + time % millisecondsPerDay = time :=
    Nat.div_add_mod' time millisecondsPerDay
  rw [rfc3339_eq, Toml.instantOf?, read]
  simp only
  rw [Toml.Moment.instant?_both_utc _ milliseconds, number, parts]

end Clock

end PackageSearch
