/-!
White space as the Unicode property `White_Space` has it, and the trimming and word splitting that
rest on it.
-/

namespace PackageSearch.Text

/-- The characters with the Unicode property `White_Space`. -/
def isBlank (character : Char) : Bool :=
  let code := character.toNat
  (9 ≤ code && code ≤ 13) || code == 0x20 || code == 0x85 || code == 0xA0 || code == 0x1680 ||
    (0x2000 ≤ code && code ≤ 0x200A) || code == 0x2028 || code == 0x2029 || code == 0x202F ||
    code == 0x205F || code == 0x3000

def trimStart (text : List Char) : List Char :=
  text.dropWhile isBlank

def trimEnd (text : List Char) : List Char :=
  (text.reverse.dropWhile isBlank).reverse

def trim (text : List Char) : List Char :=
  trimEnd (trimStart text)

theorem trimEnd_cons (first : Char) (rest : List Char) :
    trimEnd (first :: rest) =
      if (trimEnd rest).isEmpty && isBlank first then [] else first :: trimEnd rest := by
  simp only [trimEnd, List.reverse_cons, List.dropWhile_append, List.isEmpty_reverse]
  by_cases restBlank : (rest.reverse.dropWhile isBlank).isEmpty = true
  · rw [if_pos restBlank, List.isEmpty_iff.mp restBlank]
    by_cases blank : isBlank first = true <;> simp [blank]
  · simp [restBlank]

theorem trimEnd_trimEnd (text : List Char) : trimEnd (trimEnd text) = trimEnd text := by
  induction text with
  | nil => rfl
  | cons first rest inductionHypothesis =>
      rw [trimEnd_cons]
      split
      · rfl
      · rename_i notBlank
        rw [trimEnd_cons, inductionHypothesis, if_neg notBlank]

/-- What does not start with white space does not do so either when its end is trimmed. -/
theorem trimStart_trim (text : List Char) : trimStart (trim text) = trim text := by
  unfold trim
  induction text with
  | nil => rfl
  | cons first rest inductionHypothesis =>
      by_cases blank : isBlank first = true
      · have skipped : trimStart (first :: rest) = trimStart rest := by simp [trimStart, blank]
        rw [skipped, inductionHypothesis]
      · have kept : trimStart (first :: rest) = first :: rest := by simp [trimStart, blank]
        rw [kept, trimEnd_cons]
        simp [trimStart, blank]

theorem trim_trim (text : List Char) : trim (trim text) = trim text := by
  have started := trimStart_trim text
  calc trim (trim text) = trimEnd (trimStart (trim text)) := rfl
    _ = trimEnd (trim text) := by rw [started]
    _ = trim text := trimEnd_trimEnd _

/-- The maximal runs of characters that are not white space, in order. -/
def words (text : List Char) : List (List Char) :=
  (text.splitOnP isBlank).filter fun word => !word.isEmpty

end PackageSearch.Text
