import PackageSearch.Http.Form
import PackageSearch.Proofs.Text.Utf8
import PackageSearch.Text.Blank

/-!
# Form encoded pairs are read back

There are many ways to write a pair: each character of its key and of its value may be escaped byte
by byte, and many may stand for themselves. Whichever is chosen, the pairs that are read are the
pairs that were written.
-/

namespace PackageSearch.Http.Form

open Text

variable {reserved text written query : List Char} {character : Char} {bytes rest : List UInt8}

/-! ### Ways of writing -/

/-- The digit stands for the value, in either case. -/
def IsHexDigit (value : Nat) (digit : Char) : Prop :=
  value < 16 ∧ (digit = hexDigit value ∨ digit = (hexDigit value).toUpper)

instance (value : Nat) (digit : Char) : Decidable (IsHexDigit value digit) :=
  inferInstanceAs (Decidable (_ ∧ (_ ∨ _)))

/-- Each byte is written as `%` with its two digits. -/
inductive Escaped : List UInt8 → List Char → Prop where
  | nil : Escaped [] []
  | cons {byte : UInt8} {bytes : List UInt8} {high low : Char} {written : List Char} :
      IsHexDigit (byte.toNat / 16) high → IsHexDigit (byte.toNat % 16) low →
        Escaped bytes written → Escaped (byte :: bytes) ('%' :: high :: low :: written)

/-- The ways of writing a text: a character stands for itself unless it is reserved or white space,
a space may be written as `+`, and the bytes of any character may be escaped. -/
inductive WritesText (reserved : List Char) : List Char → List Char → Prop where
  | nil : WritesText reserved [] []
  | escaped {character : Char} {code text written : List Char} :
      Escaped (String.utf8EncodeChar character) code → WritesText reserved text written →
        WritesText reserved (character :: text) (code ++ written)
  | space {text written : List Char} :
      WritesText reserved text written → WritesText reserved (' ' :: text) ('+' :: written)
  | plain {character : Char} {text written : List Char} :
      isBlank character = false → character ∉ reserved → WritesText reserved text written →
        WritesText reserved (character :: text) (character :: written)

def reservedInValue : List Char := ['&', '+', '%']

def reservedInKey : List Char := '=' :: reservedInValue

/-- The ways of writing one pair. -/
inductive WritesPair : String × String → List Char → Prop where
  | mk {key value : String} {left right : List Char} :
      WritesText reservedInKey key.toList left → WritesText reservedInValue value.toList right →
        WritesPair (key, value) (left ++ '=' :: right)

/-- The ways of writing pairs in their order, with `&` between any two of them. There may be more
of these than needed. -/
inductive WritesPairs : List (String × String) → List Char → Prop where
  | nothing : WritesPairs [] []
  | ampersand {pairs : List (String × String)} {query : List Char} :
      WritesPairs pairs query → WritesPairs pairs ('&' :: query)
  | last {pair : String × String} {segment : List Char} :
      WritesPair pair segment → WritesPairs [pair] segment
  | pair {pair : String × String} {pairs : List (String × String)} {segment query : List Char} :
      WritesPair pair segment → WritesPairs pairs query →
        WritesPairs (pair :: pairs) (segment ++ '&' :: query)

/-! ### Digits -/

/-- What there is to know about the sixteen digits in both cases. -/
theorem IsHexDigit.properties {value : Nat} {digit : Char} (isDigit : IsHexDigit value digit) :
    digit.toNat < 0x80 ∧ Text.hexValue? digit = some value ∧ isBlank digit = false ∧
      digit ∉ reservedInKey := by
  have lower : ∀ value : Fin 16, (hexDigit value).toNat < 0x80 ∧
      Text.hexValue? (hexDigit value) = some value.val ∧ isBlank (hexDigit value) = false ∧
        hexDigit value ∉ reservedInKey := by decide
  have upper : ∀ value : Fin 16, (hexDigit value).toUpper.toNat < 0x80 ∧
      Text.hexValue? (hexDigit value).toUpper = some value.val ∧
        isBlank (hexDigit value).toUpper = false ∧
          (hexDigit value).toUpper ∉ reservedInKey := by decide
  obtain ⟨small, rfl | rfl⟩ := isDigit
  · exact lower ⟨value, small⟩
  · exact upper ⟨value, small⟩

theorem Escaped.mem (escaped : Escaped bytes written) (membership : character ∈ written) :
    character = '%' ∨ ∃ value, IsHexDigit value character := by
  induction escaped with
  | nil => cases membership
  | cons isHigh isLow escaped inductionHypothesis =>
      rcases List.mem_cons.mp membership with rfl | later
      · exact .inl rfl
      rcases List.mem_cons.mp later with rfl | later
      · exact .inr ⟨_, isHigh⟩
      rcases List.mem_cons.mp later with rfl | later
      · exact .inr ⟨_, isLow⟩
      · exact inductionHypothesis later

/-! ### Characters that are not written -/

/-- Each character that is written is `%`, a digit, `+`, or stands for itself. -/
theorem WritesText.mem (writes : WritesText reserved text written)
    (membership : character ∈ written) :
    character = '%' ∨ (∃ value, IsHexDigit value character) ∨ character = '+' ∨
      isBlank character = false ∧ character ∉ reserved := by
  induction writes with
  | nil => cases membership
  | escaped escaped writes inductionHypothesis =>
      rcases List.mem_append.mp membership with inside | later
      · exact (escaped.mem inside).imp_right .inl
      · exact inductionHypothesis later
  | space writes inductionHypothesis =>
      rcases List.mem_cons.mp membership with rfl | later
      · exact .inr (.inr (.inl rfl))
      · exact inductionHypothesis later
  | plain notBlank notReserved writes inductionHypothesis =>
      rcases List.mem_cons.mp membership with rfl | later
      · exact .inr (.inr (.inr ⟨notBlank, notReserved⟩))
      · exact inductionHypothesis later

theorem WritesText.isBlank_eq_false (writes : WritesText reserved text written) :
    ∀ character ∈ written, isBlank character = false := by
  intro character membership
  rcases writes.mem membership with rfl | ⟨value, isDigit⟩ | rfl | ⟨notBlank, -⟩
  · rfl
  · exact isDigit.properties.2.2.1
  · rfl
  · exact notBlank

/-- The characters that separate keys, values and pairs are not written inside them. -/
theorem WritesText.not_mem (writes : WritesText reserved text written)
    (separates : character ∈ ['=', '&']) (isReserved : character ∈ reserved) :
    character ∉ written := by
  intro membership
  have inKey : character ∈ reservedInKey := by
    rcases List.mem_cons.mp separates with rfl | later
    · decide
    · obtain rfl := List.mem_singleton.mp later
      decide
  rcases writes.mem membership with rfl | ⟨value, isDigit⟩ | rfl | ⟨-, notReserved⟩
  · exact absurd separates (by decide)
  · exact isDigit.properties.2.2.2 inKey
  · exact absurd separates (by decide)
  · exact notReserved isReserved

theorem WritesPair.isBlank_eq_false {pair : String × String} (writes : WritesPair pair written) :
    ∀ character ∈ written, isBlank character = false := by
  cases writes with
  | mk writesKey writesValue =>
      refine List.forall_mem_append.mpr ⟨writesKey.isBlank_eq_false, ?_⟩
      exact List.forall_mem_cons.mpr ⟨rfl, writesValue.isBlank_eq_false⟩

theorem WritesPairs.isBlank_eq_false {pairs : List (String × String)}
    (writes : WritesPairs pairs query) : ∀ character ∈ query, isBlank character = false := by
  induction writes with
  | nothing => exact fun _ membership => absurd membership List.not_mem_nil
  | ampersand writes inductionHypothesis =>
      exact List.forall_mem_cons.mpr ⟨rfl, inductionHypothesis⟩
  | last writes => exact writes.isBlank_eq_false
  | pair writes others inductionHypothesis =>
      refine List.forall_mem_append.mpr ⟨writes.isBlank_eq_false, ?_⟩
      exact List.forall_mem_cons.mpr ⟨rfl, inductionHypothesis⟩

/-! ### Reading a text back -/

theorem hexValue?_ofNat {value : Nat} {digit : Char} (isDigit : IsHexDigit value digit) :
    hexValue? (plusToSpace (UInt8.ofNat digit.toNat)) = some value := by
  obtain ⟨small, read, -, notReserved⟩ := isDigit.properties
  have sameCode : (UInt8.ofNat digit.toNat).toNat = digit.toNat := by
    rw [UInt8.toNat_ofNat', Nat.mod_eq_of_lt (by omega)]
  have notPlus : UInt8.ofNat digit.toNat ≠ 0x2B := by
    intro same
    have plus : digit.toNat = '+'.toNat := sameCode.symm.trans (congrArg UInt8.toNat same)
    rw [Char.toNat_inj.mp plus] at notReserved
    exact notReserved (by decide)
  rw [plusToSpace, if_neg notPlus, hexValue?, sameCode, Char.ofNat_toNat, read]

theorem utf8EncodeChar_of_lt (small : character.toNat < 0x80) :
    String.utf8EncodeChar character = [UInt8.ofNat character.toNat] := by
  have short : character.val.toNat ≤ 0x7f := Nat.le_of_lt_succ small
  simp only [String.utf8EncodeChar, short, if_true]
  rfl

theorem percentDecode_cons {byte : UInt8} (notEscape : byte ≠ 0x25) :
    percentDecode (byte :: rest) = byte :: percentDecode rest := by
  rw [percentDecode.eq_def]
  split
  · contradiction
  · rename_i high low more same
    exact absurd (List.cons.inj same).1 notEscape
  · rename_i first more notEscaped same
    obtain ⟨rfl, rfl⟩ := List.cons.inj same
    rfl

/-- Escaped bytes are read back, whatever comes after them. -/
theorem Escaped.percentDecode_eq (escaped : Escaped bytes written) (rest : List UInt8) :
    percentDecode ((encode written).map plusToSpace ++ rest) = bytes ++ percentDecode rest := by
  induction escaped with
  | nil => rfl
  | @cons byte bytes high low written isHigh isLow escaped inductionHypothesis =>
      have percent : String.utf8EncodeChar '%' = [0x25] := rfl
      have sameByte : UInt8.ofNat (byte.toNat / 16 * 16 + byte.toNat % 16) = byte := by
        rw [show byte.toNat / 16 * 16 + byte.toNat % 16 = byte.toNat by omega, UInt8.ofNat_toNat]
      rw [encode_cons, encode_cons, encode_cons, percent,
        utf8EncodeChar_of_lt isHigh.properties.1, utf8EncodeChar_of_lt isLow.properties.1]
      simp only [List.map_cons, List.cons_append, List.nil_append]
      rw [show plusToSpace 0x25 = 0x25 from rfl, percentDecode, hexValue?_ofNat isHigh,
        hexValue?_ofNat isLow, inductionHypothesis]
      simp only [sameByte]

/-- Bytes that are neither `+` nor `%` stand for themselves. -/
theorem percentDecode_append (plain : ∀ byte ∈ bytes, byte ≠ 0x25 ∧ byte ≠ 0x2B) :
    percentDecode (bytes.map plusToSpace ++ rest) = bytes ++ percentDecode rest := by
  induction bytes with
  | nil => rfl
  | cons byte bytes inductionHypothesis =>
      obtain ⟨⟨notEscape, notPlus⟩, plainRest⟩ := List.forall_mem_cons.mp plain
      rw [List.map_cons, plusToSpace, if_neg notPlus, List.cons_append,
        percentDecode_cons notEscape, inductionHypothesis plainRest, List.cons_append]

theorem ne_of_mem_utf8EncodeChar {other : Char} (small : other.toNat < 0x80)
    (different : character ≠ other) :
    ∀ byte ∈ String.utf8EncodeChar character, byte ≠ UInt8.ofNat other.toNat := by
  rintro byte membership rfl
  have sameByte : (UInt8.ofNat other.toNat).toNat = other.toNat := by
    rw [UInt8.toNat_ofNat', Nat.mod_eq_of_lt (by omega)]
  have sameCode := toNat_eq_of_mem_utf8EncodeChar membership (by omega)
  exact different (Char.toNat_inj.mp (sameCode.trans sameByte))

theorem WritesText.percentDecode_eq (writes : WritesText reserved text written)
    (plus : '+' ∈ reserved) (percent : '%' ∈ reserved) :
    percentDecode ((encode written).map plusToSpace) = encode text := by
  induction writes with
  | nil => rfl
  | escaped escaped writes inductionHypothesis =>
      rw [encode_append, List.map_append, escaped.percentDecode_eq, inductionHypothesis,
        encode_cons]
  | space writes inductionHypothesis =>
      have notEscape : (0x20 : UInt8) ≠ 0x25 := by decide
      rw [encode_cons, encode_cons, List.map_append, ← inductionHypothesis]
      exact percentDecode_cons notEscape
  | @plain character text written notBlank notReserved writes inductionHypothesis =>
      have notPlus : character ≠ '+' := fun same => notReserved (same ▸ plus)
      have notPercent : character ≠ '%' := fun same => notReserved (same ▸ percent)
      have standsForItself : ∀ byte ∈ String.utf8EncodeChar character,
          byte ≠ 0x25 ∧ byte ≠ 0x2B := fun byte membership =>
        ⟨ne_of_mem_utf8EncodeChar (by decide) notPercent byte membership,
          ne_of_mem_utf8EncodeChar (by decide) notPlus byte membership⟩
      rw [encode_cons, List.map_append, percentDecode_append standsForItself, inductionHypothesis,
        encode_cons]

theorem WritesText.decodeText_eq {value : String}
    (writes : WritesText reserved value.toList written) (plus : '+' ∈ reserved)
    (percent : '%' ∈ reserved) : decodeText (encode written) = value := by
  rw [decodeText, writes.percentDecode_eq plus percent, decodeLossy_encode, String.ofList_toList]

/-! ### Reading pairs back -/

theorem WritesPair.decodePair_eq {pair : String × String} {segment : List Char}
    (writes : WritesPair pair segment) : decodePair (encode segment) = pair := by
  cases writes with
  | @mk key value left right writesKey writesValue =>
      have equals : encode ('=' :: right) = 0x3D :: encode right := rfl
      have noEquals : ∀ byte ∈ encode left, (byte != 0x3D) = true := by
        intro byte membership
        apply bne_iff_ne.mpr
        rintro rfl
        have inside : '=' ∈ left := mem_of_ofNat_mem_encode (by decide) membership
        exact writesKey.not_mem (by decide) (by decide) inside
      have front : (0x3D :: encode right).takeWhile (· != 0x3D) = [] := rfl
      have back : (0x3D :: encode right).dropWhile (· != 0x3D) = 0x3D :: encode right := rfl
      rw [decodePair, encode_append, equals, List.takeWhile_append_of_pos noEquals,
        List.dropWhile_append_of_pos noEquals, front, back, List.append_nil, List.drop_succ_cons,
        List.drop_zero, writesKey.decodeText_eq (by decide) (by decide),
        writesValue.decodeText_eq (by decide) (by decide)]

/-- A segment is not empty and holds no `&`, so it is one piece of a query. -/
theorem WritesPair.pieces {pair : String × String} {segment : List Char}
    (writes : WritesPair pair segment) :
    ((encode segment).splitOnP (· == 0x26)).filter (fun piece => !piece.isEmpty) =
      [encode segment] := by
  cases writes with
  | @mk key value left right writesKey writesValue =>
      have noAmpersand : ∀ byte ∈ encode (left ++ '=' :: right), (byte == 0x26) = false := by
        intro byte membership
        apply beq_eq_false_iff_ne.mpr
        rintro rfl
        have inside : '&' ∈ left ++ '=' :: right := mem_of_ofNat_mem_encode (by decide) membership
        rcases List.mem_append.mp inside with inKey | later
        · exact writesKey.not_mem (by decide) (by decide) inKey
        · rcases List.mem_cons.mp later with same | inValue
          · exact absurd same (by decide)
          · exact writesValue.not_mem (by decide) (by decide) inValue
      have notEmpty : encode (left ++ '=' :: right) ≠ [] := by
        rw [encode_append]
        exact List.append_ne_nil_of_right_ne_nil _ (List.cons_ne_nil _ _)
      rw [List.splitOnP_eq_singleton noAmpersand]
      simp [notEmpty]

theorem decode_append (front back : List UInt8) :
    decode (front ++ 0x26 :: back) = decode front ++ decode back := by
  rw [decode, List.splitOnP_append_cons front back (by decide), List.filter_append,
    List.map_append, decode, decode]

/-- However pairs are written, they are read back in their order. -/
theorem WritesPairs.decode_eq {pairs : List (String × String)} (writes : WritesPairs pairs query) :
    decode (encode query) = pairs := by
  have one {pair : String × String} {segment : List Char} (writes : WritesPair pair segment) :
      decode (encode segment) = [pair] := by
    rw [decode, writes.pieces, List.map_singleton, writes.decodePair_eq]
  have ampersand (query : List Char) : encode ('&' :: query) = 0x26 :: encode query := rfl
  induction writes with
  | nothing => rfl
  | @ampersand pairs query writes inductionHypothesis =>
      have nothing : decode [] = [] := rfl
      have split := decode_append [] (encode query)
      rw [List.nil_append, nothing, List.nil_append] at split
      rw [ampersand, split, inductionHypothesis]
  | last writes => exact one writes
  | pair writes others inductionHypothesis =>
      rw [encode_append, ampersand, decode_append, one writes, inductionHypothesis,
        List.singleton_append]

end PackageSearch.Http.Form
