import PackageSearch.Proofs.Text.Blank
import PackageSearch.Search.Assembly

/-!
# What is left of a description

A cleaned description is the start of the words of a text with single spaces between them. All
white space in it is single spaces, so cleaning it again only cuts it further, and removes the space
at its end where the first cut left one.
-/

namespace PackageSearch

open Text

variable {limit shorter : Nat} {text cleaned : List Char} {words : List (List Char)}

/-- What is left of a text with these words. -/
structure IsCleaned (limit : Nat) (words : List (List Char)) (cleaned : List Char) : Prop where
  taken : cleaned = ([' '].intercalate words).take limit
  length_le : cleaned.length ≤ limit
  singleSpaced : IsSingleSpaced cleaned
  start : ∀ character ∈ cleaned.head?, isBlank character = false
  /-- White space is at the end only if the words are cut there. -/
  finish : ∀ character ∈ cleaned.getLast?, isBlank character = true →
    cleaned.length = limit ∧ limit < ([' '].intercalate words).length

theorem isCleaned_take (areWords : ∀ word ∈ words, IsWord word) (limit : Nat) :
    IsCleaned limit words (([' '].intercalate words).take limit) := by
  obtain ⟨trimmed, singleSpaced⟩ := isTrimmed_and_isSingleSpaced_intercalate areWords
  refine ⟨rfl, List.length_take_le limit _,
    singleSpaced.of_infix (List.take_prefix limit _).isInfix, ?_, ?_⟩
  · intro character first
    rw [List.head?_take] at first
    split at first
    · contradiction
    · exact trimmed.start character first
  · intro character last blank
    have cut : limit < ([' '].intercalate words).length := by
      by_contra whole
      rw [List.take_of_length_le (Nat.not_lt.mp whole)] at last
      rw [trimmed.finish character last] at blank
      contradiction
    exact ⟨List.length_take_of_le (Nat.le_of_lt cut), cut⟩

theorem isCleaned_cleanDescription (spaced : Spaced words text) (limit : Nat) :
    IsCleaned limit words (cleanDescription text limit) := by
  rw [cleanDescription, spaced.words_eq]
  exact isCleaned_take spaced.areWords limit

/-! ### Cleaning again -/

theorem cleanDescription_of_isSingleSpaced (singleSpaced : IsSingleSpaced text) (limit : Nat) :
    cleanDescription text limit = (trim text).take limit := by
  rw [cleanDescription, (spaced_words text).intercalate_eq_trim singleSpaced]

namespace IsCleaned

variable (isCleaned : IsCleaned limit words cleaned)

include isCleaned

theorem trim_cases :
    trim cleaned = cleaned ∨ trim cleaned ++ [' '] = cleaned ∧ cleaned.length = limit := by
  have started : trimStart cleaned = cleaned := trimStart_eq_self isCleaned.start
  obtain ⟨after, blank, same⟩ := exists_eq_trimEnd_append cleaned
  have atEnd : after <:+: cleaned := by
    rw [same]
    exact (List.suffix_append _ after).isInfix
  rw [trim, started]
  rcases (isCleaned.singleSpaced.of_infix atEnd).eq_nil_or_eq_space blank with rfl | rfl
  · left
    rw [List.append_nil] at same
    exact same.symm
  · right
    have last : ' ' ∈ cleaned.getLast? := by
      rw [same]
      exact List.getLast?_concat
    exact ⟨same.symm, (isCleaned.finish ' ' last rfl).1⟩

theorem take_trim (isShorter : shorter < limit) :
    (trim cleaned).take shorter = cleaned.take shorter := by
  rcases isCleaned.trim_cases with same | ⟨same, length⟩
  · rw [same]
  · have withSpace := congrArg List.length same
    rw [List.length_append, List.length_singleton, length] at withSpace
    calc (trim cleaned).take shorter
      _ = (trim cleaned ++ [' ']).take shorter :=
          (List.take_append_of_le_length (by omega)).symm
      _ = cleaned.take shorter := by rw [same]

theorem cleanDescription_eq_trim : cleanDescription cleaned limit = trim cleaned := by
  rw [cleanDescription_of_isSingleSpaced isCleaned.singleSpaced]
  apply List.take_of_length_le
  rcases isCleaned.trim_cases with same | ⟨same, length⟩
  · rw [same]
    exact isCleaned.length_le
  · have withSpace := congrArg List.length same
    rw [List.length_append, length] at withSpace
    omega

end IsCleaned

/-- A limit that is below the first one leaves no trace of it. -/
theorem cleanDescription_cleanDescription (isShorter : shorter < limit) (text : List Char) :
    cleanDescription (cleanDescription text limit) shorter = cleanDescription text shorter := by
  have isCleaned := isCleaned_cleanDescription (spaced_words text) limit
  have minimum : min shorter limit = shorter := Nat.min_eq_left (Nat.le_of_lt isShorter)
  calc cleanDescription (cleanDescription text limit) shorter
    _ = (trim (cleanDescription text limit)).take shorter :=
        cleanDescription_of_isSingleSpaced isCleaned.singleSpaced shorter
    _ = (cleanDescription text limit).take shorter := isCleaned.take_trim isShorter
    _ = cleanDescription text shorter := by
        rw [cleanDescription, cleanDescription, List.take_take, minimum]

/-- A text has one sequence of words, and a cleaned description is the start of these words with
single spaces between them. To clean it again with a smaller limit is to clean the text with that
one; with the same limit it is to trim it, which at most removes the space where the text was cut. -/
theorem cleanDescription_joins_words (text : List Char) (limit : Nat) :
    (∃! words, Spaced words text) ∧
    (∀ words, Spaced words text →
      IsCleaned limit words (cleanDescription text limit) ∧
      ∀ other, Spaced words other → cleanDescription other limit = cleanDescription text limit) ∧
    (∀ shorter < limit,
      cleanDescription (cleanDescription text limit) shorter = cleanDescription text shorter) ∧
    cleanDescription (cleanDescription text limit) limit = trim (cleanDescription text limit) ∧
    (cleanDescription (cleanDescription text limit) limit = cleanDescription text limit ∨
      cleanDescription (cleanDescription text limit) limit ++ [' '] =
        cleanDescription text limit) := by
  have isCleaned := isCleaned_cleanDescription (spaced_words text) limit
  refine ⟨⟨_, spaced_words text, fun words isSpaced => (spaced_iff.mp isSpaced).symm⟩, ?_, ?_,
    isCleaned.cleanDescription_eq_trim, ?_⟩
  · intro words isSpaced
    refine ⟨isCleaned_cleanDescription isSpaced limit, fun other isSpacedOther => ?_⟩
    rw [(isCleaned_cleanDescription isSpacedOther limit).taken,
      (isCleaned_cleanDescription isSpaced limit).taken]
  · exact fun shorter isShorter => cleanDescription_cleanDescription isShorter text
  · rw [isCleaned.cleanDescription_eq_trim]
    exact isCleaned.trim_cases.imp_right And.left

/-- White space of two kinds between two words. -/
def twoWords : List Char := "软件包\u3000\n管理器".toList

/-- The cut is behind the space between the words, so that a space is left at the end. -/
theorem twoWords_joined :
    Spaced ["软件包".toList, "管理器".toList] twoWords ∧
      cleanDescription twoWords 4 = "软件包 ".toList ∧
      IsCleaned 4 ["软件包".toList, "管理器".toList] (cleanDescription twoWords 4) ∧
      cleanDescription "软件包 管理器".toList 4 = cleanDescription twoWords 4 ∧
      cleanDescription (cleanDescription twoWords 4) 3 = cleanDescription twoWords 3 := by
  have spaced : Spaced ["软件包".toList, "管理器".toList] twoWords := spaced_iff.mpr (by decide)
  have spacedOther : Spaced ["软件包".toList, "管理器".toList] "软件包 管理器".toList :=
    spaced_iff.mpr (by decide)
  obtain ⟨-, joined, further, -, -⟩ := cleanDescription_joins_words twoWords 4
  obtain ⟨isCleaned, same⟩ := joined _ spaced
  exact ⟨spaced, by decide, isCleaned, same _ spacedOther, further 3 (by decide)⟩

end PackageSearch
