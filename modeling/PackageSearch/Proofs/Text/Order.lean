import Mathlib.Data.String.Basic
import Mathlib.Tactic.SplitIfs
import PackageSearch.Proofs.Text.Utf8

/-!
# The order of texts

Texts are ordered as their bytes are. A character with more bytes begins with a larger byte, and
among characters with equally many bytes the first byte that differs decides, as digits do.
-/

namespace PackageSearch.Text

variable {front back : List UInt8} {text other : List Char}

theorem cons_ofNat_lt_cons_iff {first second : Nat} (small : first < 256)
    (smallToo : second < 256) :
    UInt8.ofNat first :: front < UInt8.ofNat second :: back ↔
      first < second ∨ first = second ∧ front < back := by
  have sameByte : UInt8.ofNat first = UInt8.ofNat second ↔ first = second := by
    rw [← UInt8.toNat_inj, UInt8.toNat_ofNat', UInt8.toNat_ofNat', Nat.mod_eq_of_lt small,
      Nat.mod_eq_of_lt smallToo]
  rw [List.cons_lt_cons_iff, UInt8.ofNat_lt_iff_lt small smallToo, sameByte]

/-! ### Characters -/

/-- The first digit that differs decides which of two numbers in base 64 is the smaller one. -/
theorem digits_lt {a b c d a' b' c' d' : Nat}
    (below : ((a * 64 + b) * 64 + c) * 64 + d < ((a' * 64 + b') * 64 + c') * 64 + d')
    (small : b < 64 ∧ c < 64 ∧ d < 64) (smallToo : b' < 64 ∧ c' < 64 ∧ d' < 64) :
    a < a' ∨ a = a' ∧ (b < b' ∨ b = b' ∧ (c < c' ∨ c = c' ∧ d < d')) := by
  omega

theorem utf8EncodeChar_of_four {character : Char} (four : 0xffff < character.toNat) :
    String.utf8EncodeChar character =
      [UInt8.ofNat (character.toNat / 262144 % 8 + 240),
        UInt8.ofNat (character.toNat / 4096 % 64 + 128),
        UInt8.ofNat (character.toNat / 64 % 64 + 128),
        UInt8.ofNat (character.toNat % 64 + 128)] := by
  unfold String.utf8EncodeChar
  simp only [Char.toNat_val]
  rw [if_neg (by omega), if_neg (by omega), if_neg (by omega)]

theorem utf8EncodeChar_append_lt_of_four {first second : Char} (below : first < second)
    (four : 0xffff < first.toNat) (front back : List UInt8) :
    String.utf8EncodeChar first ++ front < String.utf8EncodeChar second ++ back := by
  have less : first.toNat < second.toNat := below
  have valid : second.toNat < 0xd800 ∨ 0xdfff < second.toNat ∧ second.toNat < 0x110000 :=
    second.valid
  have digits (value : Nat) (bounded : value < 0x110000) :
      ((value / 262144 % 8 * 64 + value / 4096 % 64) * 64 + value / 64 % 64) * 64 + value % 64 =
        value := by
    omega
  have digitwise := less
  rw [← digits first.toNat (by omega), ← digits second.toNat (by omega)]
    at digitwise
  have decided := digits_lt digitwise (by omega) (by omega)
  rw [utf8EncodeChar_of_four four, utf8EncodeChar_of_four (Nat.lt_trans four less)]
  simp (disch := omega) only [List.cons_append, List.nil_append, cons_ofNat_lt_cons_iff,
    Nat.add_lt_add_iff_right, Nat.add_right_cancel_iff]
  grind

/-- Whatever follows, the bytes of the smaller character come first. The cases are the numbers of
bytes that two characters can have. -/
theorem utf8EncodeChar_append_lt {first second : Char} (below : first < second)
    (front back : List UInt8) :
    String.utf8EncodeChar first ++ front < String.utf8EncodeChar second ++ back := by
  rcases Nat.lt_or_ge 0xffff first.toNat with four | fewer
  · exact utf8EncodeChar_append_lt_of_four below four front back
  · have less : first.toNat < second.toNat := below
    have valid : second.toNat < 0xd800 ∨ 0xdfff < second.toNat ∧ second.toNat < 0x110000 :=
      second.valid
    unfold String.utf8EncodeChar
    simp only [Char.toNat_val]
    split_ifs
    all_goals
      simp (disch := omega) only [List.cons_append, List.nil_append, cons_ofNat_lt_cons_iff]
      omega

theorem utf8EncodeChar_ne_nil (character : Char) : String.utf8EncodeChar character ≠ [] := by
  rw [← List.length_pos_iff, String.length_utf8EncodeChar]
  exact character.utf8Size_pos

/-! ### Texts -/

theorem encode_lt_of_lt (below : text < other) : encode text < encode other := by
  induction below with
  | @nil character other =>
      obtain ⟨first, rest, bytes⟩ := List.exists_cons_of_ne_nil (utf8EncodeChar_ne_nil character)
      rw [encode_cons, bytes]
      exact List.Lex.nil
  | rel below =>
      rw [encode_cons, encode_cons]
      exact utf8EncodeChar_append_lt below _ _
  | cons _ inductionHypothesis =>
      rw [encode_cons, encode_cons]
      exact List.append_left_lt inductionHypothesis

theorem encode_lt_encode_iff : encode text < encode other ↔ text < other := by
  refine ⟨fun below => ?_, encode_lt_of_lt⟩
  rcases lt_trichotomy text other with less | rfl | greater
  · exact less
  · exact absurd below (List.lt_irrefl _)
  · exact absurd below (List.lt_asymm (encode_lt_of_lt greater))

end PackageSearch.Text
