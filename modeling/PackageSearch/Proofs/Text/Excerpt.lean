import PackageSearch.Proofs.Text.Blank
import PackageSearch.Proofs.Text.Utf8
import PackageSearch.Text.Excerpt

/-!
# Excerpts

An excerpt is the core of a text when that is short enough, and otherwise the start of the core with
a mark behind it. It is its own excerpt, and cutting the bytes of the core where a character begins
gives the same.
-/

namespace PackageSearch.Text

variable {limit : Nat} {text shown : List Char}

/-- What is shown of a text that may have as many characters as the limit. -/
inductive IsExcerpt (limit : Nat) : List Char → List Char → Prop where
  | whole {before core after : List Char} :
      AllBlank before → AllBlank after → IsTrimmed core → core.length ≤ limit →
        IsExcerpt limit (before ++ core ++ after) core
  | cut {before kept dropped after : List Char} :
      AllBlank before → AllBlank after → IsTrimmed (kept ++ dropped) → kept.length = limit →
        dropped ≠ [] → IsExcerpt limit (before ++ (kept ++ dropped) ++ after) (kept ++ ['…'])

theorem excerpt_eq_trim (short : (trim text).length ≤ limit) : excerpt text limit = trim text :=
  if_neg (Nat.not_lt.mpr short)

theorem excerpt_eq_take (long : limit < (trim text).length) :
    excerpt text limit = (trim text).take limit ++ ['…'] :=
  if_pos long

theorem isExcerpt_excerpt (text : List Char) (limit : Nat) :
    IsExcerpt limit text (excerpt text limit) := by
  obtain ⟨before, after, blankBefore, blankAfter, same⟩ := exists_eq_append_trim_append text
  have trimmed := isTrimmed_trim text
  rcases Nat.lt_or_ge limit (trim text).length with long | short
  · have whole : (trim text).take limit ++ (trim text).drop limit = trim text :=
      List.take_append_drop limit _
    have dropsSome : (trim text).drop limit ≠ [] := by
      simpa [List.drop_eq_nil_iff] using long
    have length : ((trim text).take limit).length = limit :=
      List.length_take_of_le (Nat.le_of_lt long)
    have cut := IsExcerpt.cut blankBefore blankAfter (whole.symm ▸ trimmed) length dropsSome
    rwa [whole, ← same, ← excerpt_eq_take long] at cut
  · have isWhole := IsExcerpt.whole blankBefore blankAfter trimmed short
    rwa [← same, ← excerpt_eq_trim short] at isWhole

theorem IsExcerpt.excerpt_eq (isExcerpt : IsExcerpt limit text shown) :
    excerpt text limit = shown := by
  cases isExcerpt with
  | whole blankBefore blankAfter trimmed short =>
      have core := trim_eq blankBefore trimmed blankAfter
      rw [excerpt_eq_trim (core.symm ▸ short), core]
  | cut blankBefore blankAfter trimmed length dropsSome =>
      have core := trim_eq blankBefore trimmed blankAfter
      have long := List.length_pos_iff.mpr dropsSome
      rw [excerpt_eq_take, core, ← length, List.take_left]
      rw [core, List.length_append]
      omega

/-- The rules for excerpts leave nothing open. -/
theorem isExcerpt_iff : IsExcerpt limit text shown ↔ excerpt text limit = shown :=
  ⟨IsExcerpt.excerpt_eq, fun same => same ▸ isExcerpt_excerpt text limit⟩

/-! ### Excerpts of excerpts -/

theorem isBlank_mark : isBlank '…' = false := rfl

namespace IsExcerpt

theorem length_le (isExcerpt : IsExcerpt limit text shown) : shown.length ≤ limit + 1 := by
  cases isExcerpt with
  | whole _ _ _ short => exact Nat.le_succ_of_le short
  | cut _ _ _ length _ => rw [List.length_append, List.length_singleton, length]

theorem isTrimmed (isExcerpt : IsExcerpt limit text shown) : IsTrimmed shown := by
  cases isExcerpt with
  | whole _ _ trimmed _ => exact trimmed
  | @cut before kept dropped after _ _ trimmed _ _ =>
      constructor
      · cases kept with
        | nil =>
            intro character first
            obtain rfl : '…' = character := Option.some.inj first
            exact isBlank_mark
        | cons first rest => exact trimmed.start
      · intro character last
        rw [List.getLast?_concat] at last
        obtain rfl : '…' = character := Option.some.inj last
        exact isBlank_mark

/-- The mark is the one character beyond the limit, so it is what is cut off and put back. -/
theorem again (isExcerpt : IsExcerpt limit text shown) : IsExcerpt limit shown shown := by
  have trimmed := isExcerpt.isTrimmed
  cases isExcerpt with
  | whole _ _ _ short =>
      have isWhole := IsExcerpt.whole allBlank_nil allBlank_nil trimmed short
      rwa [List.nil_append, List.append_nil] at isWhole
  | cut _ _ _ length _ =>
      have isCut := IsExcerpt.cut allBlank_nil allBlank_nil trimmed length (List.cons_ne_nil _ _)
      rwa [List.nil_append, List.append_nil] at isCut

end IsExcerpt

/-! ### Cutting bytes -/

/-- Where in the bytes of a text each of its characters begins. -/
def offsets : List Char → List Nat
  | [] => []
  | first :: rest => 0 :: (offsets rest).map (first.utf8Size + ·)

/-- The bytes of a text as far as the character begins that has the number of the limit, and a mark
behind them; all bytes if there is no such character. -/
def cutBytes (text : List Char) (limit : Nat) : List UInt8 :=
  match (offsets text)[limit]? with
  | some offset => (encode text).take offset ++ encode ['…']
  | none => encode text

theorem getElem?_offsets (text : List Char) (number : Nat) :
    (offsets text)[number]? =
      if number < text.length then some (encode (text.take number)).length else none := by
  induction text generalizing number with
  | nil => rfl
  | cons first rest inductionHypothesis =>
      cases number with
      | zero => rfl
      | succ number =>
          rw [offsets, List.getElem?_cons_succ, List.getElem?_map, inductionHypothesis,
            List.take_succ_cons, encode_cons, List.length_append, String.length_utf8EncodeChar]
          simp only [List.length_cons, Nat.succ_lt_succ_iff]
          split <;> rfl

theorem take_length_encode_take (text : List Char) (number : Nat) :
    (encode text).take (encode (text.take number)).length = encode (text.take number) := by
  have whole : encode (text.take number) ++ encode (text.drop number) = encode text := by
    rw [← encode_append, List.take_append_drop]
  rw [← whole, List.take_left]

theorem cutBytes_trim (text : List Char) (limit : Nat) :
    cutBytes (trim text) limit = encode (excerpt text limit) := by
  rcases Nat.lt_or_ge limit (trim text).length with long | short
  · rw [cutBytes, getElem?_offsets, if_pos long, excerpt_eq_take long, encode_append]
    dsimp only
    rw [take_length_encode_take]
  · rw [cutBytes, getElem?_offsets, if_neg (Nat.not_lt.mpr short), excerpt_eq_trim short]

/-- An excerpt is what the rules say and nothing else. It has at most one character more than the
limit, no white space at its ends, and is its own excerpt. No character is cut apart: the bytes that
are cut where the first dropped character begins are those of a text, and this is the excerpt. -/
theorem excerpt_is_its_own_excerpt (text : List Char) (limit : Nat) :
    (∀ shown, IsExcerpt limit text shown ↔ excerpt text limit = shown) ∧
    (excerpt text limit).length ≤ limit + 1 ∧
    IsTrimmed (excerpt text limit) ∧
    excerpt (excerpt text limit) limit = excerpt text limit ∧
    decode? (cutBytes (trim text) limit) = some (excerpt text limit) := by
  have isExcerpt := isExcerpt_excerpt text limit
  refine ⟨fun _ => isExcerpt_iff, isExcerpt.length_le, isExcerpt.isTrimmed,
    isExcerpt.again.excerpt_eq, ?_⟩
  rw [cutBytes_trim, decode?_encode]

example : excerpt "错误 at".toList 3 = "错误 …".toList := by decide

end PackageSearch.Text
