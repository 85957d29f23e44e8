import PackageSearch.Proofs.Json.RoundTrip

/-!
# Printed values hold no control characters

Strings may hold any characters, but the control characters among them are escaped, and nothing else
that is printed holds one. So a printed value takes a single line, whatever is in it.
-/

namespace PackageSearch

/-! ### Texts without control characters -/

namespace Text

variable {text other : List Char} {character : Char}

/-- No character has a code below that of the space. -/
def FreeOfControls (text : List Char) : Prop :=
  ∀ character ∈ text, 0x20 ≤ character.toNat

instance (text : List Char) : Decidable (FreeOfControls text) :=
  decidable_of_iff (text.all fun character => 0x20 ≤ character.toNat) (by simp [FreeOfControls])

@[simp]
theorem freeOfControls_nil : FreeOfControls [] :=
  fun _ membership => absurd membership List.not_mem_nil

@[simp]
theorem freeOfControls_cons_iff :
    FreeOfControls (character :: text) ↔ 0x20 ≤ character.toNat ∧ FreeOfControls text :=
  List.forall_mem_cons

@[simp]
theorem freeOfControls_append_iff :
    FreeOfControls (text ++ other) ↔ FreeOfControls text ∧ FreeOfControls other :=
  List.forall_mem_append

theorem FreeOfControls.of_subset (free : FreeOfControls text) (included : other ⊆ text) :
    FreeOfControls other :=
  fun character membership => free character (included membership)

theorem freeOfControls_flatMap {Entry : Type} {write : Entry → List Char} {entries : List Entry}
    (free : ∀ entry ∈ entries, FreeOfControls (write entry)) :
    FreeOfControls (entries.flatMap write) := by
  intro character membership
  obtain ⟨entry, isEntry, written⟩ := List.mem_flatMap.mp membership
  exact free entry isEntry character written

theorem freeOfControls_replicate {count : Nat} (free : 0x20 ≤ character.toNat) :
    FreeOfControls (List.replicate count character) := by
  intro found membership
  rwa [List.eq_of_mem_replicate membership]

theorem le_toNat_hexDigit {value : Nat} (small : value < 16) :
    0x20 ≤ (hexDigit value).toNat := by
  have checked : ∀ digit : Fin 16, 0x20 ≤ (hexDigit digit).toNat := by decide
  exact checked ⟨value, small⟩

theorem freeOfControls_toDigits (value : Nat) : FreeOfControls (Nat.toDigits 10 value) := by
  intro digit membership
  have isDigit := Nat.isDigit_of_mem_toDigits (by decide) (by decide) membership
  simp only [Char.isDigit, Bool.and_eq_true, decide_eq_true_eq] at isDigit
  exact Nat.le_trans (by decide) isDigit.1

end Text

open Text

/-! ### Numbers -/

namespace Number

theorem freeOfControls_exponentText (exponent : Int) : FreeOfControls (exponentText exponent) := by
  unfold exponentText
  split <;> simp [freeOfControls_toDigits]

/-- The cases are the forms in which a decimal is written. -/
theorem freeOfControls_decimalText (value : Nat) (place : Int) :
    FreeOfControls (decimalText value place) := by
  have exponents := freeOfControls_exponentText
  have zeros (count : Nat) : FreeOfControls (List.replicate count '0') :=
    freeOfControls_replicate (by decide)
  have free : FreeOfControls (toString value).toList := by
    rw [Nat.toString_eq_repr, Nat.toList_repr]
    exact freeOfControls_toDigits value
  unfold decimalText
  generalize (toString value).toList = digits at free ⊢
  have taken (count : Nat) := free.of_subset (List.take_subset count digits)
  have dropped (count : Nat) := free.of_subset (List.drop_subset count digits)
  have rest := free.of_subset (List.tail_sublist digits).subset
  dsimp only
  split_ifs
  · simp [free, zeros]
  · simp [taken, dropped]
  · simp [zeros, free]
  · simp [taken, exponents]
  · simp [taken, rest, exponents]

theorem freeOfControls_floatText (value : Float) : FreeOfControls (floatText value) := by
  have decimals := freeOfControls_decimalText
  unfold floatText
  dsimp only
  split_ifs
  · decide
  · decide
  · simp [decimals]
  · decide
  · exact decimals _ _

theorem freeOfControls_print (value : Number) : FreeOfControls value.print := by
  cases value with
  | integer value =>
      rcases Json.print_integer_cases value with
        ⟨magnitude, -, printed⟩ | ⟨magnitude, -, -, printed⟩
      · rw [printed]
        exact freeOfControls_toDigits magnitude
      · rw [printed]
        simp [freeOfControls_toDigits]
  | float value => exact freeOfControls_floatText value

end Number

/-! ### Strings, lists and objects -/

namespace Json

theorem freeOfControls_escapeCharacter (character : Char) :
    FreeOfControls (escapeCharacter character) := by
  unfold escapeCharacter
  split_ifs with quote backslash backspace formFeed newline carriageReturn tab control
  iterate 7
    · decide
  · have high := @le_toNat_hexDigit (character.toNat / 16) (by omega)
    have low := @le_toNat_hexDigit (character.toNat % 16) (by omega)
    simp [high, low]
  · simp [Nat.le_of_not_lt control]

theorem freeOfControls_printString (text : String) : FreeOfControls (printString text) := by
  have escaped : FreeOfControls (text.toList.flatMap escapeCharacter) :=
    freeOfControls_flatMap fun character _ => freeOfControls_escapeCharacter character
  simp [printString, escaped]

theorem freeOfControls_separated {Entry : Type} {write : Entry → List Char} {entries : List Entry}
    (free : ∀ entry ∈ entries, FreeOfControls (write entry)) :
    FreeOfControls (separated write entries) := by
  cases entries with
  | nil => exact freeOfControls_nil
  | cons first others =>
      obtain ⟨freeFirst, freeOthers⟩ := List.forall_mem_cons.mp free
      refine freeOfControls_append_iff.mpr ⟨freeFirst, freeOfControls_flatMap ?_⟩
      intro entry membership
      simp [freeOthers entry membership]

theorem freeOfControls_printMember {key : String} {value : Json}
    (free : FreeOfControls value.print) : FreeOfControls (printMember (key, value)) := by
  simp [printMember, freeOfControls_printString, free]

mutual

theorem freeOfControls_print : (value : Json) → FreeOfControls value.print
  | .null => by decide
  | .boolean true => by decide
  | .boolean false => by decide
  | .number value => value.freeOfControls_print
  | .string text => freeOfControls_printString text
  | .array items => by
      have inside := freeOfControls_separated (freeOfControls_items items)
      simp [print, printItems_eq, inside]
  | .object members => by
      have inside := freeOfControls_separated (freeOfControls_members members)
      simp [print, printMembers_eq, inside]

theorem freeOfControls_items : (items : List Json) → ∀ item ∈ items, FreeOfControls item.print
  | [] => fun _ membership => absurd membership List.not_mem_nil
  | first :: others => List.forall_mem_cons.mpr
      ⟨freeOfControls_print first, freeOfControls_items others⟩

theorem freeOfControls_members : (members : List (String × Json)) →
    ∀ member ∈ members, FreeOfControls (printMember member)
  | [] => fun _ membership => absurd membership List.not_mem_nil
  | (_, value) :: others => List.forall_mem_cons.mpr
      ⟨freeOfControls_printMember (freeOfControls_print value), freeOfControls_members others⟩

end

end Json

end PackageSearch
