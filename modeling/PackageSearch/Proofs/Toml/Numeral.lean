import PackageSearch.Proofs.Json.Numeral
import PackageSearch.Toml.Moment
import PackageSearch.Toml.Numeral

/-!
# Decimal integers

A decimal integer that stands as a value is read as neither a date nor a floating point number, and
as an integer only if it fits into 64 bits.
-/

namespace PackageSearch.Toml

variable {digits rest after : List Char} {mark : Char} {width value : Nat}

/-- How a decimal integer may be written. -/
inductive WritesInteger : List Char → Int → Prop where
  | unsigned (value : Nat) : WritesInteger (Nat.toDigits 10 value) value
  | positive (value : Nat) : WritesInteger ('+' :: Nat.toDigits 10 value) value
  | negative (value : Nat) : WritesInteger ('-' :: Nat.toDigits 10 value) (-value)

/-- The integers that fit into 64 bits. -/
def FitsInteger (value : Int) : Prop :=
  -0x8000000000000000 ≤ value ∧ value < 0x8000000000000000

/-- A space, the mark of a comment, and the ends of a line. -/
def valueEnds : List Char :=
  [' ', '\t', '#', '\n', '\r']

/-- What follows a value goes on with a space, a comment or the end of the line. -/
def EndsValue (rest : List Char) : Prop :=
  ∀ first ∈ rest.head?, first ∈ valueEnds

theorem EndsValue.ne (ends : EndsValue rest) {first : Char} (isFirst : first ∈ rest.head?)
    {other : Char} (different : other ∉ valueEnds) : first ≠ other := by
  rintro rfl
  exact different (ends first isFirst)

theorem EndsValue.isDigit_eq_false (ends : EndsValue rest) {first : Char}
    (isFirst : first ∈ rest.head?) : first.isDigit = false := by
  have checked : valueEnds.all (fun first => !first.isDigit) = true := rfl
  simpa using List.all_eq_true.mp checked first (ends first isFirst)

/-! ### Neither a date nor a time -/

theorem readFixed_of_not_isDigit {first : Char} (notDigit : first.isDigit = false) :
    readFixed (width + 1) (first :: rest) = none := by
  simp [readFixed, notDigit]

theorem expect_eq_none (other : ∀ first ∈ rest.head?, first ≠ mark) : expect mark rest = none := by
  cases rest with
  | nil => rfl
  | cons first rest => exact if_neg (other first rfl)

/-- As many digits as are read together are not followed by a mark. -/
theorem expect_of_readFixed (areDigits : ∀ digit ∈ digits, digit.isDigit = true)
    (notDigit : mark.isDigit = false)
    (ends : ∀ first ∈ rest.head?, first.isDigit = false ∧ first ≠ mark)
    (read : readFixed width (digits ++ rest) = some (value, after)) : expect mark after = none := by
  simp only [readFixed, Option.ite_none_right_eq_some, Bool.and_eq_true, decide_eq_true_eq,
    Option.some.injEq, Prod.mk.injEq, List.all_eq_true] at read
  obtain ⟨⟨length, allDigits⟩, -, rfl⟩ := read
  have short : width ≤ digits.length := by
    refine Nat.le_of_not_lt fun long => ?_
    rw [List.take_append, List.length_append, List.take_of_length_le (Nat.le_of_lt long)] at length
    cases rest with
    | nil =>
        rw [List.take_nil, List.length_nil] at length
        omega
    | cons first rest =>
        obtain ⟨more, sum⟩ := Nat.exists_eq_add_of_lt long
        have isDigit := allDigits first (by
          rw [sum, Nat.add_assoc, List.take_length_add_append]
          exact List.mem_append_right _ List.mem_cons_self)
        rw [(ends first rfl).1] at isDigit
        contradiction
  rw [List.drop_append_of_le_length short]
  apply expect_eq_none
  cases left : digits.drop width with
  | nil => exact fun first isFirst => (ends first isFirst).2
  | cons digit others =>
      rintro first ⟨⟩ rfl
      have isDigit := areDigits digit (List.mem_of_mem_drop (left ▸ List.mem_cons_self))
      rw [notDigit] at isDigit
      contradiction

/-! ### Digits -/

def digitValues (digits : List Char) : List Nat :=
  digits.map fun digit => digit.toNat - 48

theorem valueOf_digitValues (digits : List Char) :
    valueOf 10 (digitValues digits) = Nat.ofDigitChars 10 digits 0 := by
  simp [valueOf, digitValues, Nat.ofDigitChars, List.foldl_map, Nat.mul_comm]

theorem digitOf?_of_isDigit {digit : Char} (isDigit : digit.isDigit = true) :
    digitOf? 10 digit = some (digit.toNat - 48) := by
  have bounds : 48 ≤ digit.toNat ∧ digit.toNat ≤ 57 := by
    simpa [Char.isDigit, UInt32.le_iff_toNat_le] using isDigit
  have small : digit.toNat - 48 < 10 := by omega
  simp [digitOf?, Text.hexValue?, bounds, small]

theorem EndsValue.digitOf?_eq_none (ends : EndsValue rest) {first : Char}
    (isFirst : first ∈ rest.head?) : digitOf? 10 first = none := by
  have checked : valueEnds.all (fun first => (digitOf? 10 first).isNone) = true := rfl
  simpa using List.all_eq_true.mp checked first (ends first isFirst)

theorem readMoreDigits_cons {base : Nat} {done : List Nat} {first : Char} (notScore : first ≠ '_') :
    readMoreDigits base done (first :: rest) =
      match digitOf? base first with
      | none => (done.reverse, first :: rest)
      | some digit => readMoreDigits base (digit :: done) rest := by
  rw [readMoreDigits.eq_def]
  split
  · contradiction
  · rename_i same
    exact absurd (List.cons.inj same).1 notScore
  · rename_i same
    cases same
    rfl

theorem readMoreDigits_append (areDigits : ∀ digit ∈ digits, digit.isDigit = true)
    (ends : EndsValue rest) (done : List Nat) :
    readMoreDigits 10 done (digits ++ rest) = (done.reverse ++ digitValues digits, rest) := by
  induction digits generalizing done with
  | nil =>
      rw [List.nil_append, digitValues, List.map_nil, List.append_nil]
      cases rest with
      | nil => rfl
      | cons first rest =>
          rw [readMoreDigits_cons (ends.ne rfl (by decide)), ends.digitOf?_eq_none rfl]
  | cons digit digits inductionHypothesis =>
      obtain ⟨isDigit, areDigits⟩ := List.forall_mem_cons.mp areDigits
      rw [List.cons_append, readMoreDigits_cons (Json.ne_of_isDigit isDigit rfl),
        digitOf?_of_isDigit isDigit]
      simp only
      rw [inductionHypothesis areDigits, List.reverse_cons, List.append_assoc]
      rfl

/-- All digits of a number are read. -/
theorem readWhole_toDigits (ends : EndsValue rest) (value : Nat) :
    readWhole (Nat.toDigits 10 value ++ rest) =
      some (digitValues (Nat.toDigits 10 value), rest) := by
  rcases Nat.eq_zero_or_pos value with rfl | positive
  · rfl
  · obtain ⟨first, others, digits, areDigits⟩ := Json.exists_toDigits_eq_cons value
    have leading : first ≠ '0' := by
      apply Json.head?_toDigits positive
      rw [digits]
      rfl
    obtain ⟨isDigit, areDigits⟩ := List.forall_mem_cons.mp areDigits
    rw [digits, List.cons_append, readWhole]
    · rw [readDigits, digitOf?_of_isDigit isDigit, Option.map_some,
        readMoreDigits_append areDigits ends]
      rfl
    · exact fun _ same => leading (List.cons.inj same).1

theorem readPlaces_of_endsValue (ends : EndsValue rest) : readPlaces rest = some ([], rest) := by
  unfold readPlaces
  split
  · exact absurd rfl (ends.ne rfl (by decide))
  · rfl

theorem readExponent_of_endsValue (ends : EndsValue rest) :
    readExponent rest = some (none, rest) := by
  cases rest with
  | nil => rfl
  | cons first rest =>
      have notSmall : first ≠ 'e' := ends.ne rfl (by decide)
      have notCapital : first ≠ 'E' := ends.ne rfl (by decide)
      simp [readExponent, notSmall, notCapital]

/-! ### Values -/

theorem le_foldl_digits (value : Nat) (digits : List Nat) :
    value ≤ digits.foldl (fun value digit => value * 10 + digit) value := by
  induction digits generalizing value with
  | nil => exact Nat.le_refl value
  | cons digit digits inductionHypothesis =>
      have more := inductionHypothesis (value * 10 + digit)
      rw [List.foldl_cons]
      omega

/-- A number is above a limit if one of its beginnings is. -/
theorem valueWithin?_eq (limit : Nat) (digits : List Nat) : valueWithin? limit 10 digits =
    if valueOf 10 digits ≤ limit then some (valueOf 10 digits) else none := by
  suffices step : ∀ value, value ≤ limit →
      digits.foldlM (fun value digit =>
        let next := value * 10 + digit
        if next ≤ limit then some next else none) value =
      if digits.foldl (fun value digit => value * 10 + digit) value ≤ limit then
        some (digits.foldl (fun value digit => value * 10 + digit) value) else none from
    step 0 (Nat.zero_le limit)
  induction digits with
  | nil =>
      intro value within
      simp [within]
  | cons digit digits inductionHypothesis =>
      intro value within
      rw [List.foldlM_cons, List.foldl_cons]
      by_cases next : value * 10 + digit ≤ limit
      · simp only [next, if_true, Option.bind_eq_bind, Option.bind_some]
        exact inductionHypothesis _ next
      · have more := le_foldl_digits (value * 10 + digit) digits
        have above : ¬ digits.foldl (fun value digit => value * 10 + digit) (value * 10 + digit) ≤
            limit := by
          omega
        rw [if_neg above]
        simp [next]

theorem valueWithin?_toDigits (limit value : Nat) :
    valueWithin? limit 10 (digitValues (Nat.toDigits 10 value)) =
      if value ≤ limit then some value else none := by
  rw [valueWithin?_eq, valueOf_digitValues, Nat.ofDigitChars_ten_toDigits]

/-! ### Integers -/

instance (value : Int) : Decidable (FitsInteger value) :=
  inferInstanceAs (Decidable (_ ∧ _))

variable {text : List Char} {number : Int}

/-- A sign, if there is one, stands before the digits of a number. -/
theorem WritesInteger.exists_magnitude (writes : WritesInteger text number) :
    ∃ negative magnitude, number = (if negative then -(magnitude : Int) else magnitude) ∧
      ∀ rest, readSign (text ++ rest) = (negative, Nat.toDigits 10 magnitude ++ rest) := by
  cases writes with
  | unsigned value =>
      refine ⟨false, value, rfl, fun rest => ?_⟩
      obtain ⟨first, others, digits, areDigits⟩ := Json.exists_toDigits_eq_cons value
      have isDigit := areDigits first List.mem_cons_self
      rw [digits, List.cons_append, readSign]
      · exact fun _ same => Json.ne_of_isDigit isDigit rfl (List.cons.inj same).1
      · exact fun _ same => Json.ne_of_isDigit isDigit rfl (List.cons.inj same).1
  | positive value => exact ⟨false, value, rfl, fun _ => rfl⟩
  | negative value => exact ⟨true, value, rfl, fun _ => rfl⟩

/-- An integer begins with a digit or a sign. -/
theorem WritesInteger.exists_cons (writes : WritesInteger text number) :
    ∃ first others, text = first :: others ∧
      ∀ other : Char, other.isDigit = false → other ∉ ['+', '-'] → first ≠ other := by
  cases writes with
  | unsigned value =>
      obtain ⟨first, others, digits, areDigits⟩ := Json.exists_toDigits_eq_cons value
      have isDigit := areDigits first List.mem_cons_self
      exact ⟨first, others, digits, fun _ notDigit _ => Json.ne_of_isDigit isDigit notDigit⟩
  | positive value => exact ⟨'+', _, rfl, fun _ _ noSign same => noSign (by simp [← same])⟩
  | negative value => exact ⟨'-', _, rfl, fun _ _ noSign same => noSign (by simp [← same])⟩

theorem expect_of_readFixed_toDigits {number found : Nat} (ends : EndsValue rest)
    (notDigit : mark.isDigit = false) (isNoEnd : mark ∉ valueEnds)
    (read : readFixed width (Nat.toDigits 10 number ++ rest) = some (found, after)) :
    expect mark after = none :=
  expect_of_readFixed (fun _ => Nat.isDigit_of_mem_toDigits (by decide) (by decide)) notDigit
    (fun _ isFirst => ⟨ends.isDigit_eq_false isFirst, ends.ne isFirst isNoEnd⟩) read

theorem readDate_of_writesInteger (writes : WritesInteger text number) (ends : EndsValue rest) :
    readDate (text ++ rest) = none := by
  cases writes with
  | unsigned value =>
      cases read : readFixed 4 (Nat.toDigits 10 value ++ rest) with
      | none => simp [readDate, read]
      | some found =>
          have noMark : expect '-' found.2 = none :=
            expect_of_readFixed_toDigits ends rfl (by decide) read
          simp [readDate, read, noMark]
  | positive value => simp [readDate, readFixed_of_not_isDigit]
  | negative value => simp [readDate, readFixed_of_not_isDigit]

theorem readTime_of_writesInteger (writes : WritesInteger text number) (ends : EndsValue rest) :
    readTime (text ++ rest) = none := by
  cases writes with
  | unsigned value =>
      cases read : readPair 0 23 (Nat.toDigits 10 value ++ rest) with
      | none => simp [readTime, read]
      | some found =>
          have noMark : expect ':' found.2 = none :=
            expect_of_readFixed_toDigits ends rfl (by decide) (Option.filter_eq_some_iff.mp read).1
          simp [readTime, read, noMark]
  | positive value => simp [readTime, readPair, readFixed_of_not_isDigit]
  | negative value => simp [readTime, readPair, readFixed_of_not_isDigit]

theorem readMoment_of_writesInteger (writes : WritesInteger text number) (ends : EndsValue rest) :
    readMoment (text ++ rest) = none := by
  rw [readMoment, readDate_of_writesInteger writes ends, readTime_of_writesInteger writes ends]
  rfl

theorem readFloat_of_writesInteger (writes : WritesInteger text number) (ends : EndsValue rest) :
    readFloat (text ++ rest) = none := by
  obtain ⟨negative, magnitude, -, sign⟩ := writes.exists_magnitude
  have unchecked : readUncheckedFloat (text ++ rest) = readDecimalFloat (text ++ rest) := by
    obtain ⟨first, others, digits, areDigits⟩ := Json.exists_toDigits_eq_cons magnitude
    have isDigit := areDigits first List.mem_cons_self
    rw [readUncheckedFloat, sign, digits]
    split
    · rename_i same
      exact absurd (List.cons.inj (Prod.mk.inj same).2).1 (Json.ne_of_isDigit isDigit rfl)
    · rename_i same
      exact absurd (List.cons.inj (Prod.mk.inj same).2).1 (Json.ne_of_isDigit isDigit rfl)
    · rfl
  have noFloat : readDecimalFloat (text ++ rest) = none := by
    simp [readDecimalFloat, sign, readWhole_toDigits ends, readPlaces_of_endsValue ends,
      readExponent_of_endsValue ends]
  rw [readFloat, unchecked, noFloat]
  rfl

/-- No letter after a zero says that the base is another one. -/
theorem WritesInteger.ne_zero_letter (writes : WritesInteger text number) (ends : EndsValue rest)
    {letter : Char} (isNoEnd : letter ∉ valueEnds) (others : List Char) :
    text ++ rest ≠ '0' :: letter :: others := by
  intro same
  cases writes with
  | unsigned value =>
      rcases Nat.eq_zero_or_pos value with rfl | positive
      · obtain rfl : rest = letter :: others := (List.cons.inj same).2
        exact ends.ne rfl isNoEnd rfl
      · obtain ⟨first, more, digits, -⟩ := Json.exists_toDigits_eq_cons value
        have leading := Json.head?_toDigits positive
        rw [digits] at leading same
        exact leading first rfl (List.cons.inj same).1
  | positive value => exact absurd (List.cons.inj same).1 (by decide)
  | negative value => exact absurd (List.cons.inj same).1 (by decide)

theorem readInteger_eq_readDecimalInteger (writes : WritesInteger text number)
    (ends : EndsValue rest) : readInteger (text ++ rest) = readDecimalInteger (text ++ rest) := by
  unfold readInteger
  split
  · exact absurd ‹_› (writes.ne_zero_letter ends (by decide) _)
  · exact absurd ‹_› (writes.ne_zero_letter ends (by decide) _)
  · exact absurd ‹_› (writes.ne_zero_letter ends (by decide) _)
  · rfl

theorem fitsInteger_natCast (magnitude : Nat) :
    FitsInteger (magnitude : Int) ↔ magnitude ≤ largestInteger := by
  unfold FitsInteger largestInteger
  omega

theorem fitsInteger_neg (magnitude : Nat) :
    FitsInteger (-(magnitude : Int)) ↔ magnitude ≤ largestInteger + 1 := by
  unfold FitsInteger largestInteger
  omega

theorem integerOf?_toDigits (negative : Bool) (magnitude : Nat)
    (same : number = if negative then -(magnitude : Int) else magnitude) :
    integerOf? negative 10 (digitValues (Nat.toDigits 10 magnitude)) =
      if FitsInteger number then some number else none := by
  subst same
  cases negative with
  | false =>
      have fits := fitsInteger_natCast magnitude
      by_cases within : magnitude ≤ largestInteger <;>
        simp [integerOf?, valueWithin?_toDigits, fits, within]
  | true =>
      have fits := fitsInteger_neg magnitude
      by_cases within : magnitude ≤ largestInteger + 1 <;>
        simp [integerOf?, valueWithin?_toDigits, fits, within]

/-- An integer is read if it fits into 64 bits. -/
theorem readInteger_of_writesInteger (writes : WritesInteger text number) (ends : EndsValue rest) :
    readInteger (text ++ rest) = if FitsInteger number then some (number, rest) else none := by
  obtain ⟨negative, magnitude, same, sign⟩ := writes.exists_magnitude
  rw [readInteger_eq_readDecimalInteger writes ends]
  simp only [readDecimalInteger, sign, readWhole_toDigits ends, Option.bind_eq_bind,
    Option.bind_some, integerOf?_toDigits negative magnitude same]
  by_cases fits : FitsInteger number <;> simp [fits]

end PackageSearch.Toml
