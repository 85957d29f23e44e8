import PackageSearch.Json.Parser
import PackageSearch.Json.Printer

/-!
# Integers are read back

An integer is printed with its digits in base ten, of which the first is zero only if it is the only
one. The digits are read as the integer as long as nothing follows that would continue a numeral.
-/

namespace PackageSearch.Json

variable {rest : List Char} {fuel depth : Nat}

/-- What follows does not continue a numeral. -/
def EndsNumeral (rest : List Char) : Prop :=
  ∀ character ∈ rest.head?, character.isDigit = false ∧ character ∉ ['.', 'e', 'E']

theorem endsNumeral_nil : EndsNumeral [] :=
  fun _ first => nomatch first

theorem le_ofDigitChars (digits : List Char) (value : Nat) :
    value ≤ Nat.ofDigitChars 10 digits value := by
  rw [Nat.ofDigitChars_eq_ofDigitChars_zero]
  exact Nat.le_add_right_of_le (Nat.le_mul_of_pos_left _ (Nat.pow_pos (by decide)))

/-- Reading goes on as long as there are digits, since the number only grows with each of them. -/
theorem readDigits_append {digits : List Char} {value : Nat} (count : Nat)
    (areDigits : ∀ digit ∈ digits, digit.isDigit = true) (ends : EndsNumeral rest)
    (fits : Nat.ofDigitChars 10 digits value ≤ largest) :
    readDigits value count (digits ++ rest) =
      (Nat.ofDigitChars 10 digits value, count + digits.length, rest) := by
  induction digits generalizing value count with
  | nil =>
      cases rest with
      | nil => rfl
      | cons first rest =>
          have notDigit := (ends first rfl).1
          simp [readDigits, notDigit]
  | cons digit digits inductionHypothesis =>
      obtain ⟨isDigit, areDigits⟩ := List.forall_mem_cons.mp areDigits
      have next : 10 * value + (digit.toNat - '0'.toNat) = value * 10 + digitValue digit :=
        congrArg (· + digitValue digit) (Nat.mul_comm 10 value)
      rw [Nat.ofDigitChars_cons, next] at fits ⊢
      have below : value * 10 + digitValue digit ≤ largest :=
        Nat.le_trans (le_ofDigitChars digits _) fits
      have goesOn : (digit.isDigit && decide (value * 10 + digitValue digit ≤ largest)) = true := by
        rw [isDigit, decide_eq_true below, Bool.and_self]
      rw [List.cons_append, readDigits, if_pos goesOn,
        inductionHypothesis (count + 1) areDigits fits, List.length_cons, Nat.add_right_comm]
      rfl

theorem ne_of_isDigit {digit other : Char} (isDigit : digit.isDigit = true)
    (notDigit : other.isDigit = false) : digit ≠ other := by
  rintro rfl
  rw [notDigit] at isDigit
  contradiction

/-- A number has at least one digit. -/
theorem exists_toDigits_eq_cons (value : Nat) : ∃ first others,
    Nat.toDigits 10 value = first :: others ∧ ∀ digit ∈ first :: others, digit.isDigit = true := by
  cases digits : Nat.toDigits 10 value with
  | nil => exact absurd digits Nat.toDigits_ne_nil
  | cons first others =>
      refine ⟨first, others, rfl, ?_⟩
      intro digit membership
      rw [← digits] at membership
      exact Nat.isDigit_of_mem_toDigits (by decide) (by decide) membership

/-- The digits of a number do not begin with zero, unless it is zero. -/
theorem head?_toDigits {value : Nat} (positive : 0 < value) :
    ∀ digit ∈ (Nat.toDigits 10 value).head?, digit ≠ '0' := by
  induction value using Nat.strongRecOn with
  | ind value inductionHypothesis =>
      by_cases small : value < 10
      · rw [Nat.toDigits_of_lt_base small]
        rintro digit first rfl
        have checked : ∀ value : Fin 10, 0 < value.val → Nat.digitChar value ≠ '0' := by decide
        exact checked ⟨value, small⟩ positive (Option.some.inj first)
      · have shorter : 0 < value / 10 := Nat.div_pos (Nat.le_of_not_lt small) (by decide)
        have leading := inductionHypothesis _ (Nat.div_lt_self positive (by decide)) shorter
        obtain ⟨first, others, digits, -⟩ := exists_toDigits_eq_cons (value / 10)
        rw [Nat.toDigits_of_base_le (by decide) (Nat.le_of_not_lt small), digits]
        rw [digits] at leading
        exact leading

/-- All digits belong to the numeral. -/
theorem readNumber_toDigits (positive : Bool) {value : Nat} (fits : value ≤ largest)
    (ends : EndsNumeral rest) :
    readNumber positive (Nat.toDigits 10 value ++ rest) = finishNumber positive value 0 rest := by
  have none : rest.takeWhile Char.isDigit = [] := by
    cases rest with
    | nil => rfl
    | cons first rest =>
        apply List.takeWhile_cons_of_neg
        rw [(ends first rfl).1]
        exact Bool.false_ne_true
  rcases Nat.eq_zero_or_pos value with rfl | nonzero
  · rw [Nat.toDigits_zero, List.singleton_append]
    cases rest with
    | nil => rfl
    | cons first rest =>
        have notDigit : ¬first.isDigit = true := by simp [(ends first rfl).1]
        exact if_neg notDigit
  · obtain ⟨first, others, digits, areDigits⟩ := exists_toDigits_eq_cons value
    obtain ⟨isDigit, areDigits⟩ := List.forall_mem_cons.mp areDigits
    have leading : first ≠ '0' := by
      apply head?_toDigits nonzero
      rw [digits]
      rfl
    have sameValue : Nat.ofDigitChars 10 others (digitValue first) = value := by
      have whole := @Nat.ofDigitChars_ten_toDigits value
      rw [digits, Nat.ofDigitChars_cons] at whole
      rwa [Nat.mul_zero, Nat.zero_add] at whole
    have read := readDigits_append 1 areDigits ends (sameValue ▸ fits)
    rw [sameValue] at read
    rw [digits, List.cons_append, readNumber.eq_def]
    split
    · contradiction
    · rename_i same
      exact absurd (List.cons.inj same).1 leading
    · rename_i character following _ same
      obtain ⟨rfl, rfl⟩ := List.cons.inj same
      simp only [isDigit, if_true, read, none, List.length_nil, List.drop_zero]

theorem finishNumber_of_ends (positive : Bool) (value : Nat) (ends : EndsNumeral rest) :
    finishNumber positive value 0 rest =
      if positive then .ok (.integer value, rest)
      else if value = 0 || largestNegated < value then finishFloat false value 0 rest
      else .ok (.integer (-value), rest) := by
  unfold finishNumber
  split
  · exact absurd (ends _ rfl).2 (by decide)
  · exact absurd (ends _ rfl).2 (by decide)
  · exact absurd (ends _ rfl).2 (by decide)
  · rfl

/-! ### Integers -/

/-- An integer is printed as the digits of its magnitude, with a sign if it is negative. -/
theorem print_integer_cases (value : Int) :
    (∃ magnitude : Nat, value = magnitude ∧
      (Number.integer value).print = Nat.toDigits 10 magnitude) ∨
    ∃ magnitude : Nat, magnitude ≠ 0 ∧ value = -magnitude ∧
      (Number.integer value).print = '-' :: Nat.toDigits 10 magnitude := by
  rw [Number.print, Int.toString_eq_repr, Int.repr_eq_if]
  by_cases sign : 0 ≤ value
  · obtain ⟨magnitude, rfl⟩ := Int.eq_ofNat_of_zero_le sign
    refine .inl ⟨magnitude, rfl, ?_⟩
    rw [if_pos sign, Int.toNat_natCast, Nat.toList_repr]
  · obtain ⟨magnitude, rfl, nonzero⟩ : ∃ magnitude : Nat, value = -magnitude ∧ magnitude ≠ 0 :=
      ⟨value.natAbs, by omega, by omega⟩
    refine .inr ⟨magnitude, nonzero, rfl, ?_⟩
    rw [if_neg sign, Int.neg_neg, Int.toNat_natCast, String.toList_append, Nat.toList_repr]
    rfl

theorem skipBlanks_cons {character : Char} (notBlank : isBlank character = false) :
    skipBlanks (character :: rest) = character :: rest := by
  apply List.dropWhile_cons_of_neg
  rw [notBlank]
  exact Bool.false_ne_true

theorem isBlank_eq_false_of_isDigit {digit : Char} (isDigit : digit.isDigit = true) :
    isBlank digit = false := by
  have notSpace : digit ≠ ' ' := ne_of_isDigit isDigit (by decide)
  have notFeed : digit ≠ '\n' := ne_of_isDigit isDigit (by decide)
  have notTab : digit ≠ '\t' := ne_of_isDigit isDigit (by decide)
  have notReturn : digit ≠ '\r' := ne_of_isDigit isDigit (by decide)
  simp [isBlank, notSpace, notFeed, notTab, notReturn]

theorem readValue_cons_of_isDigit {digit : Char} (isDigit : digit.isDigit = true) :
    readValue fuel (depth + 1) (digit :: rest) =
      (readNumber true (digit :: rest)).map fun (value, rest) => (.number value, rest) := by
  rw [readValue, skipBlanks_cons (isBlank_eq_false_of_isDigit isDigit)]
  split
  · contradiction
  iterate 7
    · rename_i same
      exact absurd (List.cons.inj same).1 (ne_of_isDigit isDigit (by decide))
  · rename_i same
    obtain ⟨rfl, rfl⟩ := List.cons.inj same
    rw [if_pos isDigit]

theorem readValue_minus :
    readValue fuel (depth + 1) ('-' :: rest) =
      (readNumber false rest).map fun (value, rest) => (.number value, rest) := by
  rfl

/-- The integers that are kept in 64 bits. -/
def IsKept (value : Int) : Prop :=
  -0x8000000000000000 ≤ value ∧ value ≤ 0xFFFFFFFFFFFFFFFF

instance (value : Int) : Decidable (IsKept value) :=
  inferInstanceAs (Decidable (_ ∧ _))

theorem readNumber_positive {magnitude : Nat} (fits : magnitude ≤ largest)
    (ends : EndsNumeral rest) :
    readNumber true (Nat.toDigits 10 magnitude ++ rest) = .ok (.integer magnitude, rest) := by
  rw [readNumber_toDigits true fits ends, finishNumber_of_ends true magnitude ends, if_pos rfl]

theorem readNumber_negative {magnitude : Nat} (nonzero : magnitude ≠ 0)
    (fits : magnitude ≤ largestNegated) (ends : EndsNumeral rest) :
    readNumber false (Nat.toDigits 10 magnitude ++ rest) = .ok (.integer (-magnitude), rest) := by
  have small : magnitude ≤ largest := Nat.le_trans fits (by decide)
  have isKept : (decide (magnitude = 0) || decide (largestNegated < magnitude)) = false := by
    simp [nonzero, fits]
  rw [readNumber_toDigits false small ends, finishNumber_of_ends false magnitude ends,
    if_neg Bool.false_ne_true, isKept, if_neg Bool.false_ne_true]

theorem readValue_integer {value : Int} (kept : IsKept value) (ends : EndsNumeral rest) :
    readValue fuel (depth + 1) ((Number.integer value).print ++ rest) =
      .ok (.number (.integer value), rest) := by
  obtain ⟨lower, upper⟩ := kept
  rcases print_integer_cases value with ⟨magnitude, rfl, printed⟩ |
    ⟨magnitude, nonzero, rfl, printed⟩
  · have fits : magnitude ≤ largest := by
      unfold largest
      omega
    have read := readNumber_positive fits ends
    obtain ⟨first, others, digits, areDigits⟩ := exists_toDigits_eq_cons magnitude
    have isDigit := areDigits first List.mem_cons_self
    rw [digits] at read
    rw [printed, digits, List.cons_append, readValue_cons_of_isDigit isDigit, ← List.cons_append,
      read]
    rfl
  · have fits : magnitude ≤ largestNegated := by
      unfold largestNegated
      omega
    rw [printed, List.cons_append, readValue_minus, readNumber_negative nonzero fits ends]
    rfl

end PackageSearch.Json
