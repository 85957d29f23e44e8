import Mathlib.Data.List.Chain
import Mathlib.Data.List.TakeWhile
import PackageSearch.Text.Blank

/-!
# White space around and between words

A text consists of a core that white space neither begins nor ends, and of the white space around
it; trimming leaves the core. It also consists of its words and of the white space between and
around them. Where all of that is single spaces, the core is the words joined by them.
-/

namespace PackageSearch.Text

variable {text before core after gap word : List Char} {character : Char}

/-- There is nothing but white space in the text. -/
def AllBlank (text : List Char) : Prop :=
  ∀ character ∈ text, isBlank character = true

instance (text : List Char) : Decidable (AllBlank text) :=
  List.decidableBAll (fun character => isBlank character = true) text

theorem allBlank_nil : AllBlank [] :=
  fun _ membership => absurd membership List.not_mem_nil

theorem allBlank_cons_iff :
    AllBlank (character :: text) ↔ isBlank character = true ∧ AllBlank text :=
  List.forall_mem_cons

theorem allBlank_append_iff {other : List Char} :
    AllBlank (text ++ other) ↔ AllBlank text ∧ AllBlank other :=
  List.forall_mem_append

/-! ### Where a front ends -/

section Front

variable {holds : Char → Bool}

theorem takeWhile_append_of_head? (goesOn : ∀ character ∈ before, holds character = true)
    (stops : ∀ character ∈ after.head?, holds character = false) :
    (before ++ after).takeWhile holds = before := by
  rw [List.takeWhile_append_of_pos goesOn]
  cases after with
  | nil => exact List.append_nil before
  | cons first rest => simp [stops first rfl]

theorem dropWhile_append_of_head? (goesOn : ∀ character ∈ before, holds character = true)
    (stops : ∀ character ∈ after.head?, holds character = false) :
    (before ++ after).dropWhile holds = after := by
  rw [List.dropWhile_append_of_pos goesOn]
  cases after with
  | nil => rfl
  | cons first rest => simp [stops first rfl]

end Front

/-! ### Trimming -/

/-- White space neither begins nor ends the text. -/
structure IsTrimmed (text : List Char) : Prop where
  start : ∀ character ∈ text.head?, isBlank character = false
  finish : ∀ character ∈ text.getLast?, isBlank character = false

theorem trimStart_append (blank : AllBlank before) : trimStart (before ++ text) = trimStart text :=
  List.dropWhile_append_of_pos blank

theorem trimStart_eq_self (starts : ∀ character ∈ text.head?, isBlank character = false) :
    trimStart text = text :=
  dropWhile_append_of_head? allBlank_nil starts

theorem trimEnd_append (blank : AllBlank after) : trimEnd (text ++ after) = trimEnd text := by
  have blankReversed : ∀ character ∈ after.reverse, isBlank character = true :=
    fun character membership => blank character (List.mem_reverse.mp membership)
  rw [trimEnd, List.reverse_append, List.dropWhile_append_of_pos blankReversed, trimEnd]

theorem trimEnd_eq_self (ends : ∀ character ∈ text.getLast?, isBlank character = false) :
    trimEnd text = text := by
  have starts : ∀ character ∈ text.reverse.head?, isBlank character = false := by
    rwa [List.head?_reverse]
  change (trimStart text.reverse).reverse = text
  rw [trimStart_eq_self starts, List.reverse_reverse]

/-- Trimming removes the white space around the core. -/
theorem trim_eq (blankBefore : AllBlank before) (trimmed : IsTrimmed core)
    (blankAfter : AllBlank after) : trim (before ++ core ++ after) = core := by
  rw [trim, List.append_assoc, trimStart_append blankBefore]
  cases core with
  | nil =>
      rw [List.nil_append, trimStart, List.dropWhile_eq_nil_iff.mpr blankAfter]
      rfl
  | cons first rest =>
      have starts : ∀ character ∈ ((first :: rest) ++ after).head?, isBlank character = false :=
        trimmed.start
      rw [trimStart_eq_self starts, trimEnd_append blankAfter, trimEnd_eq_self trimmed.finish]

theorem exists_eq_append_trimStart (text : List Char) :
    ∃ before, AllBlank before ∧ text = before ++ trimStart text :=
  ⟨text.takeWhile isBlank, fun _ => List.mem_takeWhile_imp,
    List.takeWhile_append_dropWhile.symm⟩

theorem exists_eq_trimEnd_append (text : List Char) :
    ∃ after, AllBlank after ∧ text = trimEnd text ++ after := by
  obtain ⟨after, blank, same⟩ := exists_eq_append_trimStart text.reverse
  refine ⟨after.reverse, ?_, ?_⟩
  · exact fun character membership => blank character (List.mem_reverse.mp membership)
  · calc text = text.reverse.reverse := (List.reverse_reverse text).symm
      _ = (after ++ trimStart text.reverse).reverse := by rw [← same]
      _ = trimEnd text ++ after.reverse := List.reverse_append

theorem start_of_trimStart_eq_self (same : trimStart text = text) :
    ∀ character ∈ text.head?, isBlank character = false := by
  intro character first
  have notBlank := List.head?_dropWhile_not isBlank text
  rw [show text.dropWhile isBlank = text from same, Option.mem_def.mp first] at notBlank
  simpa using notBlank

theorem isTrimmed_of_plain (plain : ∀ character ∈ text, isBlank character = false) :
    IsTrimmed text :=
  ⟨fun character first => plain character (List.mem_of_head? first),
    fun character last => plain character (List.mem_of_getLast? last)⟩

theorem IsTrimmed.append_append (trimmed : IsTrimmed text) (trimmedAfter : IsTrimmed after)
    (inhabited : text ≠ []) (inhabitedAfter : after ≠ []) : IsTrimmed (text ++ gap ++ after) := by
  constructor
  · rw [List.append_assoc, List.head?_append_of_ne_nil text inhabited]
    exact trimmed.start
  · rw [List.getLast?_append_of_ne_nil (text ++ gap) inhabitedAfter]
    exact trimmedAfter.finish

theorem isTrimmed_trim (text : List Char) : IsTrimmed (trim text) := by
  refine ⟨start_of_trimStart_eq_self (trimStart_trim text), ?_⟩
  rw [← List.head?_reverse]
  apply start_of_trimStart_eq_self
  have same : (trimStart (trim text).reverse).reverse = trim text := trimEnd_trimEnd _
  rw [← List.reverse_reverse (trimStart _), same]

theorem exists_eq_append_trim_append (text : List Char) :
    ∃ before after, AllBlank before ∧ AllBlank after ∧ text = before ++ trim text ++ after := by
  obtain ⟨before, blankBefore, started⟩ := exists_eq_append_trimStart text
  obtain ⟨after, blankAfter, ended⟩ := exists_eq_trimEnd_append (trimStart text)
  refine ⟨before, after, blankBefore, blankAfter, ?_⟩
  rw [List.append_assoc]
  exact started.trans (congrArg (before ++ ·) ended)

theorem isEmpty_trim_iff :
    (trim text).isEmpty = true ↔ ∀ character ∈ text, isBlank character = true := by
  have kept : (trim text).isEmpty = true ↔
      ∀ character ∈ text.dropWhile isBlank, isBlank character = true := by
    simp only [trim, trimEnd, trimStart, List.isEmpty_reverse, List.isEmpty_iff,
      List.dropWhile_eq_nil_iff, List.mem_reverse]
  rw [kept]
  constructor
  · intro blank character membership
    rw [← @List.takeWhile_append_dropWhile _ isBlank text] at membership
    rcases List.mem_append.mp membership with skipped | rest
    · exact List.mem_takeWhile_imp skipped
    · exact blank character rest
  · exact fun blank character rest => blank character ((List.dropWhile_sublist _).subset rest)

/-- White space at the end makes no difference to what trimming leaves. -/
theorem trim_append (blank : AllBlank after) : trim (text ++ after) = trim text := by
  obtain ⟨before, rest, blankBefore, blankRest, same⟩ := exists_eq_append_trim_append text
  have longer : text ++ after = before ++ trim text ++ (rest ++ after) := by
    rw [← List.append_assoc, ← same]
  rw [longer, trim_eq blankBefore (isTrimmed_trim text)
    (allBlank_append_iff.mpr ⟨blankRest, blank⟩)]

/-! ### Words -/

/-- A word is not empty and holds no white space. -/
structure IsWord (word : List Char) : Prop where
  notEmpty : word ≠ []
  plain : ∀ character ∈ word, isBlank character = false

theorem plain_of_all (plain : text.all (fun character => !isBlank character) = true) :
    ∀ character ∈ text, isBlank character = false := by
  simpa using plain

/-- The text consists of the words in their order, of white space between any two of them, and
perhaps of white space around them. -/
inductive Spaced : List (List Char) → List Char → Prop where
  | blank {text : List Char} : AllBlank text → Spaced [] text
  | word {words : List (List Char)} {gap word text : List Char} :
      AllBlank gap → IsWord word → (∀ character ∈ text.head?, isBlank character = true) →
        Spaced words text → Spaced (word :: words) (gap ++ word ++ text)

theorem words_append_cons (blank : isBlank character = true) :
    words (text ++ character :: after) = words text ++ words after := by
  rw [words, List.splitOnP_append_cons _ _ blank, List.filter_append, words, words]

theorem words_cons (blank : isBlank character = true) :
    words (character :: text) = words text := by
  calc words (character :: text) = words ([] ++ character :: text) := rfl
    _ = words [] ++ words text := words_append_cons blank
    _ = words text := by simp [words]

theorem words_append (blank : AllBlank gap) : words (gap ++ text) = words text := by
  induction gap with
  | nil => rfl
  | cons character gap inductionHypothesis =>
      obtain ⟨blankFirst, blankRest⟩ := allBlank_cons_iff.mp blank
      rw [List.cons_append, words_cons blankFirst, inductionHypothesis blankRest]

theorem words_of_isWord (isWord : IsWord word) : words word = [word] := by
  rw [words, List.splitOnP_eq_singleton isWord.plain]
  simp [isWord.notEmpty]

/-- The induction is on the words. -/
theorem Spaced.words_eq {tokens : List (List Char)} (spaced : Spaced tokens text) :
    words text = tokens := by
  induction spaced with
  | @blank text blank =>
      have none : words (text ++ []) = [] := words_append blank
      rwa [List.append_nil] at none
  | @word tokens gap word text blank isWord separated spaced inductionHypothesis =>
      rw [List.append_assoc, words_append blank, ← inductionHypothesis]
      cases text with
      | nil =>
          rw [List.append_nil, words_of_isWord isWord]
          rfl
      | cons first rest =>
          have blankFirst := separated first rfl
          rw [words_append_cons blankFirst, words_of_isWord isWord, words_cons blankFirst]
          rfl

/-- A character before a text begins a word of its own, lengthens the first word, or belongs to no
word. -/
theorem Spaced.exists_cons {tokens : List (List Char)} (spaced : Spaced tokens text)
    (character : Char) : ∃ tokens, Spaced tokens (character :: text) := by
  by_cases blank : isBlank character = true
  · cases spaced with
    | blank blankText => exact ⟨[], .blank (allBlank_cons_iff.mpr ⟨blank, blankText⟩)⟩
    | word blankGap isWord separated spaced =>
        exact ⟨_, .word (allBlank_cons_iff.mpr ⟨blank, blankGap⟩) isWord separated spaced⟩
  · have plain : isBlank character = false := Bool.eq_false_iff.mpr blank
    have alone : IsWord [character] := ⟨List.cons_ne_nil _ _, by simpa using plain⟩
    cases spaced with
    | blank blankText =>
        refine ⟨_, .word allBlank_nil alone ?_ (.blank blankText)⟩
        exact fun first starts => blankText first (List.mem_of_head? starts)
    | @word tokens gap word rest blankGap isWord separated spaced =>
        cases gap with
        | nil =>
            have longer : IsWord (character :: word) :=
              ⟨List.cons_ne_nil _ _, List.forall_mem_cons.mpr ⟨plain, isWord.plain⟩⟩
            exact ⟨_, .word allBlank_nil longer separated spaced⟩
        | cons first gap =>
            refine ⟨_, .word allBlank_nil alone ?_ (.word blankGap isWord separated spaced)⟩
            intro other starts
            obtain rfl : first = other := Option.some.inj starts
            exact (allBlank_cons_iff.mp blankGap).1

theorem spaced_iff {tokens : List (List Char)} : Spaced tokens text ↔ words text = tokens := by
  refine ⟨Spaced.words_eq, ?_⟩
  rintro rfl
  obtain ⟨tokens, spaced⟩ : ∃ tokens, Spaced tokens text := by
    induction text with
    | nil => exact ⟨[], .blank allBlank_nil⟩
    | cons character text inductionHypothesis =>
        obtain ⟨tokens, spaced⟩ := inductionHypothesis
        exact spaced.exists_cons character
  rwa [spaced.words_eq]

theorem spaced_words (text : List Char) : Spaced (words text) text :=
  spaced_iff.mpr rfl

theorem Spaced.areWords {tokens : List (List Char)} (spaced : Spaced tokens text) :
    ∀ word ∈ tokens, IsWord word := by
  induction spaced with
  | blank blank => exact fun _ absent => absurd absent List.not_mem_nil
  | word blankGap isWord separated spaced inductionHypothesis =>
      exact List.forall_mem_cons.mpr ⟨isWord, inductionHypothesis⟩

/-! ### Single spaces -/

/-- The white space in the text is spaces, no two of them next to each other. -/
structure IsSingleSpaced (text : List Char) : Prop where
  space : ∀ character ∈ text, isBlank character = true → character = ' '
  single : text.IsChain fun character next => isBlank character = false ∨ isBlank next = false

namespace IsSingleSpaced

theorem of_infix (singleSpaced : IsSingleSpaced text) (inside : core <:+: text) :
    IsSingleSpaced core :=
  ⟨fun character membership => singleSpaced.space character (inside.subset membership),
    singleSpaced.single.infix inside⟩

theorem of_plain (plain : ∀ character ∈ text, isBlank character = false) :
    IsSingleSpaced text := by
  constructor
  · intro character membership blank
    rw [plain character membership] at blank
    contradiction
  · apply List.Pairwise.isChain
    apply List.pairwise_of_forall_mem_list
    exact fun character membership _ _ => .inl (plain character membership)

theorem append_space_append (singleSpaced : IsSingleSpaced text) (ends : IsTrimmed text)
    (singleSpacedAfter : IsSingleSpaced after) (starts : IsTrimmed after) :
    IsSingleSpaced (text ++ [' '] ++ after) := by
  constructor
  · intro character membership blank
    rcases List.mem_append.mp membership with inFront | inAfter
    · rcases List.mem_append.mp inFront with inText | isSpace
      · exact singleSpaced.space character inText blank
      · exact List.mem_singleton.mp isSpace
    · exact singleSpacedAfter.space character inAfter blank
  · rw [List.append_assoc, List.isChain_append, List.singleton_append, List.isChain_cons]
    refine ⟨singleSpaced.single, ⟨?_, singleSpacedAfter.single⟩, ?_⟩
    · exact fun first isFirst => .inr (starts.start first isFirst)
    · exact fun last isLast _ _ => .inl (ends.finish last isLast)

theorem eq_nil_or_eq_space (singleSpaced : IsSingleSpaced gap) (blank : AllBlank gap) :
    gap = [] ∨ gap = [' '] := by
  cases gap with
  | nil => exact .inl rfl
  | cons first rest =>
      obtain ⟨blankFirst, blankRest⟩ := allBlank_cons_iff.mp blank
      cases rest with
      | nil => exact .inr (by rw [singleSpaced.space first List.mem_cons_self blankFirst])
      | cons second rest =>
          have blankSecond := (allBlank_cons_iff.mp blankRest).1
          have notBoth := (List.isChain_cons_cons.mp singleSpaced.single).1
          simp [blankFirst, blankSecond] at notBoth

end IsSingleSpaced

section Joined

variable {tokens : List (List Char)}

theorem intercalate_ne_nil (areWords : ∀ word ∈ tokens, IsWord word) (inhabited : tokens ≠ []) :
    [' '].intercalate tokens ≠ [] := by
  cases tokens with
  | nil => contradiction
  | cons word rest =>
      have notEmpty := (areWords word List.mem_cons_self).notEmpty
      cases rest with
      | nil => rwa [List.intercalate_singleton]
      | cons next rest =>
          rw [List.intercalate_cons_cons, List.append_assoc]
          exact List.append_ne_nil_of_left_ne_nil notEmpty _

/-- What is joined has white space between the words only. -/
theorem isTrimmed_and_isSingleSpaced_intercalate (areWords : ∀ word ∈ tokens, IsWord word) :
    IsTrimmed ([' '].intercalate tokens) ∧ IsSingleSpaced ([' '].intercalate tokens) := by
  induction tokens with
  | nil =>
      have plain : ∀ character ∈ [' '].intercalate [], isBlank character = false :=
        fun _ absent => absurd absent List.not_mem_nil
      exact ⟨isTrimmed_of_plain plain, .of_plain plain⟩
  | cons word rest inductionHypothesis =>
      obtain ⟨isWord, areWordsRest⟩ := List.forall_mem_cons.mp areWords
      have trimmed := isTrimmed_of_plain isWord.plain
      have singleSpaced := IsSingleSpaced.of_plain isWord.plain
      obtain ⟨trimmedRest, singleSpacedRest⟩ := inductionHypothesis areWordsRest
      by_cases last : rest = []
      · subst last
        rw [List.intercalate_singleton]
        exact ⟨trimmed, singleSpaced⟩
      · rw [List.intercalate_cons_of_ne_nil last]
        exact ⟨trimmed.append_append trimmedRest isWord.notEmpty
            (intercalate_ne_nil areWordsRest last),
          singleSpaced.append_space_append trimmed singleSpacedRest trimmedRest⟩

/-- White space between a word and words that are joined is one space, if it is single. -/
theorem eq_space_of_separated (areWords : ∀ word ∈ tokens, IsWord word) (inhabited : tokens ≠ [])
    (blank : AllBlank gap) (singleSpaced : IsSingleSpaced gap)
    (separated : ∀ character ∈ (gap ++ [' '].intercalate tokens).head?,
      isBlank character = true) : gap = [' '] := by
  rcases singleSpaced.eq_nil_or_eq_space blank with rfl | isSpace
  · obtain ⟨first, rest, joined⟩ :=
      List.exists_cons_of_ne_nil (intercalate_ne_nil areWords inhabited)
    have trimmed := (isTrimmed_and_isSingleSpaced_intercalate areWords).1
    rw [joined] at trimmed separated
    have notBlank := trimmed.start first rfl
    rw [separated first rfl] at notBlank
    contradiction
  · exact isSpace

/-- The induction is on the words: what separates two of them is one space. -/
theorem Spaced.exists_eq_append_intercalate_append (spaced : Spaced tokens text)
    (singleSpaced : IsSingleSpaced text) :
    ∃ before after, AllBlank before ∧ AllBlank after ∧
      text = before ++ [' '].intercalate tokens ++ after := by
  induction spaced with
  | @blank text blank => exact ⟨text, [], blank, allBlank_nil, by simp⟩
  | @word tokens gap word text blankGap isWord separated spaced inductionHypothesis =>
      have singleSpacedText := singleSpaced.of_infix (List.suffix_append (gap ++ word) text).isInfix
      obtain ⟨before, after, blankBefore, blankAfter, same⟩ := inductionHypothesis singleSpacedText
      by_cases last : tokens = []
      · subst last
        cases spaced with
        | blank blankText =>
            exact ⟨gap, text, blankGap, blankText, by rw [List.intercalate_singleton]⟩
      · refine ⟨gap, after, blankGap, blankAfter, ?_⟩
        have singleSpacedBefore : IsSingleSpaced before := by
          apply singleSpacedText.of_infix
          rw [same, List.append_assoc]
          exact (List.prefix_append before _).isInfix
        have oneSpace : before = [' '] := by
          apply eq_space_of_separated spaced.areWords last blankBefore singleSpacedBefore
          intro first isFirst
          apply separated first
          rw [same, List.head?_append, isFirst]
          rfl
        rw [List.intercalate_cons_of_ne_nil last, same, oneSpace]
        simp only [List.append_assoc]

/-- In a text with single spaces nothing but the ends differs from the words that are joined. -/
theorem Spaced.intercalate_eq_trim (spaced : Spaced tokens text)
    (singleSpaced : IsSingleSpaced text) : [' '].intercalate tokens = trim text := by
  obtain ⟨before, after, blankBefore, blankAfter, same⟩ :=
    spaced.exists_eq_append_intercalate_append singleSpaced
  have trimmed := (isTrimmed_and_isSingleSpaced_intercalate spaced.areWords).1
  rw [same, trim_eq blankBefore trimmed blankAfter]

end Joined

end PackageSearch.Text
