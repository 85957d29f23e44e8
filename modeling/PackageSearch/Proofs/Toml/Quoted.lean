import PackageSearch.Toml.Numeral
import PackageSearch.Toml.Quoted

/-!
# Basic strings

A string can be written between two `"` marks in many ways, since any of its characters can be
escaped. Every one of them is read as the string.
-/

namespace PackageSearch.Toml

variable {character : Char} {characters shown text rest : List Char}

/-! ### How a string may be written -/

/-- The characters that a backslash and a letter stand for. -/
def shortEscapes : List (Char × Char) :=
  [('"', '"'), ('\\', '\\'), ('b', '\x08'), ('f', '\x0c'), ('n', '\n'), ('r', '\r'), ('t', '\t')]

/-- The marks of escapes by code, and how many digits follow them. -/
def codeMarks : List (Char × Nat) :=
  [('u', 4), ('U', 8)]

/-- How one character of a basic string may be written. -/
inductive WritesCharacter : List Char → Char → Prop where
  | plain {character : Char} : isPlain character = true → character ≠ '"' → character ≠ '\\' →
      WritesCharacter [character] character
  | escaped {letter character : Char} : (letter, character) ∈ shortEscapes →
      WritesCharacter ['\\', letter] character
  | coded {mark character : Char} {digits : List Char} {values : List Nat} :
      (mark, digits.length) ∈ codeMarks → digits.mapM Text.hexValue? = some values →
      valueOf 16 values = character.toNat →
      WritesCharacter ('\\' :: mark :: digits) character

/-- What may stand between the marks for the characters of a string. -/
inductive WritesCharacters : List Char → List Char → Prop where
  | nil : WritesCharacters [] []
  | cons {shown text characters : List Char} {character : Char} :
      WritesCharacter shown character → WritesCharacters text characters →
      WritesCharacters (shown ++ text) (character :: characters)

/-- A basic string with its marks. -/
def IsBasic (text : List Char) (value : String) : Prop :=
  ∃ inside, text = '"' :: inside ++ ['"'] ∧ WritesCharacters inside value.toList

/-- A mark inside is escaped. -/
theorem WritesCharacters.ne_mark (writes : WritesCharacters text characters) :
    ∀ first ∈ text.head?, first ≠ '"' := by
  cases writes with
  | nil => exact fun _ isFirst => nomatch isFirst
  | cons writes _ =>
      cases writes with
      | plain _ notMark _ =>
          rintro first ⟨⟩
          exact notMark
      | escaped =>
          rintro first ⟨⟩
          decide
      | coded =>
          rintro first ⟨⟩
          decide

/-! ### Every string can be written -/

/-- The control characters have codes of two digits. -/
theorem exists_writesCharacter (character : Char) : ∃ shown, WritesCharacter shown character := by
  by_cases isQuote : character = '"'
  · have listed : ('"', character) ∈ shortEscapes := by simp [isQuote, shortEscapes]
    exact ⟨_, .escaped listed⟩
  by_cases isBackslash : character = '\\'
  · have listed : ('\\', character) ∈ shortEscapes := by simp [isBackslash, shortEscapes]
    exact ⟨_, .escaped listed⟩
  by_cases plain : isPlain character = true
  · exact ⟨_, .plain plain isQuote isBackslash⟩
  have small : character.toNat < 128 := by
    refine Nat.lt_of_not_le fun large => plain ?_
    simp only [isPlain, Bool.or_eq_true, Bool.and_eq_true, decide_eq_true_eq, bne_iff_ne]
    omega
  have high : Text.hexValue? (Text.hexDigit (character.toNat / 16)) = some (character.toNat / 16) :=
    Text.hexValue?_hexDigit (by omega)
  have low : Text.hexValue? (Text.hexDigit (character.toNat % 16)) = some (character.toNat % 16) :=
    Text.hexValue?_hexDigit (Nat.mod_lt _ (by decide))
  have zero : Text.hexValue? '0' = some 0 := rfl
  let digits : List Char :=
    ['0', '0', Text.hexDigit (character.toNat / 16), Text.hexDigit (character.toNat % 16)]
  have marked : ('u', digits.length) ∈ codeMarks := List.mem_cons_self
  have read : digits.mapM Text.hexValue? =
      some [0, 0, character.toNat / 16, character.toNat % 16] := by
    simp [digits, zero, high, low]
  refine ⟨_, .coded marked read ?_⟩
  simp only [valueOf, List.foldl_cons, List.foldl_nil]
  omega

theorem exists_isBasic (value : String) : ∃ text, IsBasic text value := by
  suffices every : ∀ characters, ∃ text, WritesCharacters text characters by
    obtain ⟨inside, writes⟩ := every value.toList
    exact ⟨_, inside, rfl, writes⟩
  intro characters
  induction characters with
  | nil => exact ⟨[], .nil⟩
  | cons character characters inductionHypothesis =>
      obtain ⟨shown, writes⟩ := exists_writesCharacter character
      obtain ⟨text, writesRest⟩ := inductionHypothesis
      exact ⟨_, .cons writes writesRest⟩

/-! ### Reading -/

theorem readCode_eq {digits : List Char} {values : List Nat}
    (read : digits.mapM Text.hexValue? = some values)
    (same : valueOf 16 values = character.toNat) :
    readCode digits.length (digits ++ rest) = some (character, rest) := by
  have valid : character.toNat.isValidChar := character.valid
  have found : characterOf? digits = some character := by
    simp only [characterOf?, read]
    rw [show values.foldl (fun code value => code * 16 + value) 0 = character.toNat from same,
      if_pos valid, Char.ofNat_toNat]
  simp [readCode, found]

/-- A backslash and what follows it stand for the character. -/
theorem readEscape_eq_of_writesCharacter
    (writes : WritesCharacter ('\\' :: shown) character) :
    readEscape (shown ++ rest) = some (character, rest) := by
  cases writes with
  | plain _ _ notBackslash => exact absurd rfl notBackslash
  | @escaped letter _ listed =>
      simp only [shortEscapes, List.mem_cons, List.not_mem_nil, or_false, Prod.mk.injEq] at listed
      rcases listed with ⟨rfl, rfl⟩ | ⟨rfl, rfl⟩ | ⟨rfl, rfl⟩ | ⟨rfl, rfl⟩ | ⟨rfl, rfl⟩ |
        ⟨rfl, rfl⟩ | ⟨rfl, rfl⟩ <;> rfl
  | @coded mark _ digits values marked read same =>
      have code : readCode digits.length (digits ++ rest) = some (character, rest) :=
        readCode_eq read same
      simp only [codeMarks, List.mem_cons, List.not_mem_nil, or_false, Prod.mk.injEq] at marked
      rcases marked with ⟨rfl, length⟩ | ⟨rfl, length⟩
      · rw [length] at code
        exact code
      · rw [length] at code
        exact code

theorem readBasic_writesCharacter (writes : WritesCharacter shown character) (done : List Char) :
    readBasic done (shown ++ rest) = readBasic (character :: done) rest := by
  have escape : ∀ inside, shown = '\\' :: inside →
      readBasic done ('\\' :: inside ++ rest) = readBasic (character :: done) rest := by
    rintro inside rfl
    have read : readEscape (inside ++ rest) = some (character, rest) :=
      readEscape_eq_of_writesCharacter writes
    rw [List.cons_append, readBasic]
    split
    · rename_i failed
      rw [read] at failed
      contradiction
    · rename_i found remaining succeeded
      rw [read] at succeeded
      cases succeeded
      rfl
  cases writes with
  | plain plain notQuote notBackslash =>
      rw [List.singleton_append, readBasic]
      · rw [if_pos plain]
      · exact notQuote
      · exact notBackslash
  | escaped => exact escape _ rfl
  | coded => exact escape _ rfl

theorem readBasic_append (writes : WritesCharacters text characters) (done : List Char) :
    readBasic done (text ++ '"' :: rest) =
      some (String.ofList (done.reverse ++ characters), rest) := by
  induction writes generalizing done with
  | nil =>
      rw [List.nil_append, readBasic, List.append_nil]
  | cons writes _ inductionHypothesis =>
      rw [List.append_assoc, readBasic_writesCharacter writes, inductionHypothesis,
        List.reverse_cons, List.append_assoc, List.singleton_append]

end PackageSearch.Toml
