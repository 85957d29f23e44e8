import PackageSearch.Text.Utf8

/-!
# Reading what was written

The bytes of a character take a reader from the start of a character to the start of the next
one, and complete this character and no other. So what is read from the bytes of a text is the
text.
-/

namespace PackageSearch.Text

variable {completed : List Char}

/-! ### One byte -/

theorem readByte_ofNat {state after : ReadingState} {byte : Nat} {now : List Char}
    (small : byte < 256) (next : state.next byte = (after, now)) :
    readByte (state, completed) (UInt8.ofNat byte) = (after, now.reverseAux completed) := by
  have same : (UInt8.ofNat byte).toNat = byte := by
    rw [UInt8.toNat_ofNat']
    exact Nat.mod_eq_of_lt small
  simp only [readByte, same, next]

namespace ReadingState

/-- The next byte adds six bits, and others are still to come. -/
theorem next_inside_succ {missing low high value bits : Nat} (small : bits < 64)
    (notBelow : low ≤ bits + 128) (notAbove : bits + 128 ≤ high) :
    (inside (missing + 1) low high value).next (bits + 128) =
      (.inside missing 0x80 0xBF (value * 64 + bits), []) := by
  have same : (bits + 128) % 64 = bits := by omega
  simp only [next, notBelow, notAbove, decide_true, Bool.and_self, if_true, same]

/-- The last byte adds six bits and completes the character. -/
theorem next_inside_zero {low high value bits : Nat} (small : bits < 64)
    (notBelow : low ≤ bits + 128) (notAbove : bits + 128 ≤ high) :
    (inside 0 low high value).next (bits + 128) =
      (.start, [Char.ofNat (value * 64 + bits)]) := by
  have same : (bits + 128) % 64 = bits := by omega
  simp only [next, notBelow, notAbove, decide_true, Bool.and_self, if_true, same]

/-- The first of two bytes. -/
theorem next_start_of_two {value : Nat} (notShorter : 0x80 ≤ value) (notLonger : value ≤ 0x7ff) :
    start.next (value / 64 + 192) = (.inside 0 0x80 0xBF (value / 64), []) := by
  have bits : (value / 64 + 192) % 32 = value / 64 := by omega
  simp only [next, ofFirst, Bool.and_eq_true, decide_eq_true_eq, beq_iff_eq, bits]
  rw [if_neg (by omega), if_pos (by omega)]

/-- The first of three bytes. The second is restricted, so that what could be written shorter and
what stands for half a character is not read. -/
theorem next_start_of_three {value : Nat} (notShorter : 0x800 ≤ value) (notLonger : value ≤ 0xffff)
    (notHalf : value < 0xd800 ∨ 0xdfff < value) :
    ∃ low high, start.next (value / 4096 + 224) = (.inside 1 low high (value / 4096), []) ∧
      low ≤ value / 64 % 64 + 128 ∧ value / 64 % 64 + 128 ≤ high := by
  have bits : (value / 4096 + 224) % 16 = value / 4096 := by omega
  simp only [next, ofFirst, Bool.and_eq_true, decide_eq_true_eq, beq_iff_eq, bits]
  rw [if_neg (by omega), if_neg (by omega)]
  by_cases least : value / 4096 = 0
  · exact ⟨0xA0, 0xBF, by simp [least], by omega, by omega⟩
  by_cases beforeHalves : value / 4096 = 13
  · exact ⟨0x80, 0x9F, by simp [beforeHalves], by omega, by omega⟩
  refine ⟨0x80, 0xBF, ?_, by omega, by omega⟩
  rw [if_neg (by omega), if_neg (by omega), if_pos (by omega)]

/-- The first of four bytes. -/
theorem next_start_of_four {value : Nat} (notShorter : 0x10000 ≤ value)
    (notLonger : value < 0x110000) :
    ∃ low high, start.next (value / 262144 + 240) = (.inside 2 low high (value / 262144), []) ∧
      low ≤ value / 4096 % 64 + 128 ∧ value / 4096 % 64 + 128 ≤ high := by
  have bits : (value / 262144 + 240) % 8 = value / 262144 := by omega
  simp only [next, ofFirst, Bool.and_eq_true, decide_eq_true_eq, beq_iff_eq, bits]
  rw [if_neg (by omega), if_neg (by omega), if_neg (by omega),
    if_neg (by omega), if_neg (by omega)]
  by_cases least : value / 262144 = 0
  · exact ⟨0x90, 0xBF, by simp [least], by omega, by omega⟩
  by_cases greatest : value / 262144 = 4
  · exact ⟨0x80, 0x8F, by simp [greatest], by omega, by omega⟩
  refine ⟨0x80, 0xBF, ?_, by omega, by omega⟩
  rw [if_neg (by omega), if_neg (by omega), if_pos (by omega)]

end ReadingState

/-! ### One character -/

theorem foldl_readByte_two {value : Nat} (notShorter : 0x80 ≤ value) (notLonger : value ≤ 0x7ff) :
    [UInt8.ofNat (value / 64 + 192), UInt8.ofNat (value % 64 + 128)].foldl readByte
        (.start, completed) = (.start, Char.ofNat value :: completed) := by
  have whole : value / 64 * 64 + value % 64 = value := by omega
  simp only [List.foldl_cons, List.foldl_nil]
  rw [readByte_ofNat (by omega) (ReadingState.next_start_of_two notShorter notLonger),
    readByte_ofNat (by omega)
      (ReadingState.next_inside_zero (by omega) (by omega) (by omega)), whole]
  rfl

theorem foldl_readByte_three {value : Nat} (notShorter : 0x800 ≤ value) (notLonger : value ≤ 0xffff)
    (notHalf : value < 0xd800 ∨ 0xdfff < value) :
    [UInt8.ofNat (value / 4096 + 224), UInt8.ofNat (value / 64 % 64 + 128),
        UInt8.ofNat (value % 64 + 128)].foldl readByte (.start, completed) =
      (.start, Char.ofNat value :: completed) := by
  obtain ⟨low, high, first, notBelow, notAbove⟩ :=
    ReadingState.next_start_of_three notShorter notLonger notHalf
  have whole : (value / 4096 * 64 + value / 64 % 64) * 64 + value % 64 = value := by omega
  simp only [List.foldl_cons, List.foldl_nil]
  rw [readByte_ofNat (by omega) first,
    readByte_ofNat (by omega) (ReadingState.next_inside_succ (by omega) notBelow notAbove),
    readByte_ofNat (by omega)
      (ReadingState.next_inside_zero (by omega) (by omega) (by omega)), whole]
  rfl

theorem foldl_readByte_four {value : Nat} (notShorter : 0x10000 ≤ value)
    (notLonger : value < 0x110000) :
    [UInt8.ofNat (value / 262144 + 240), UInt8.ofNat (value / 4096 % 64 + 128),
        UInt8.ofNat (value / 64 % 64 + 128), UInt8.ofNat (value % 64 + 128)].foldl readByte
        (.start, completed) = (.start, Char.ofNat value :: completed) := by
  obtain ⟨low, high, first, notBelow, notAbove⟩ :=
    ReadingState.next_start_of_four notShorter notLonger
  have whole : ((value / 262144 * 64 + value / 4096 % 64) * 64 + value / 64 % 64) * 64 +
      value % 64 = value := by omega
  simp only [List.foldl_cons, List.foldl_nil]
  rw [readByte_ofNat (by omega) first,
    readByte_ofNat (by omega) (ReadingState.next_inside_succ (by omega) notBelow notAbove),
    readByte_ofNat (by omega)
      (ReadingState.next_inside_succ (by omega) (by omega) (by omega)),
    readByte_ofNat (by omega)
      (ReadingState.next_inside_zero (by omega) (by omega) (by omega)), whole]
  rfl

/-- The cases are the four lengths in which a character is written. -/
theorem foldl_readByte_utf8EncodeChar (character : Char) :
    (String.utf8EncodeChar character).foldl readByte (.start, completed) =
      (.start, character :: completed) := by
  have valid : character.toNat < 0xd800 ∨ 0xdfff < character.toNat ∧ character.toNat < 0x110000 :=
    character.valid
  have same : Char.ofNat character.toNat = character := Char.ofNat_toNat character
  unfold String.utf8EncodeChar
  simp only [Char.toNat_val]
  split
  · rename_i one
    have first : ReadingState.start.next character.toNat = (.start, [character]) := by
      simp only [ReadingState.next, ReadingState.ofFirst]
      rw [if_pos (by omega), same]
    simp only [List.foldl_cons, List.foldl_nil]
    rw [readByte_ofNat (by omega) first]
    rfl
  split
  · rename_i notOne two
    have bits : character.toNat / 64 % 32 = character.toNat / 64 := by omega
    rw [bits, foldl_readByte_two (by omega) two, same]
  split
  · rename_i notTwo three
    have bits : character.toNat / 4096 % 16 = character.toNat / 4096 := by omega
    rw [bits, foldl_readByte_three (by omega) three (by omega), same]
  · rename_i notThree
    have bits : character.toNat / 262144 % 8 = character.toNat / 262144 := by omega
    rw [bits, foldl_readByte_four (by omega) (by omega), same]

/-! ### A whole text -/

theorem foldl_readByte_encode (text : List Char) :
    (encode text).foldl readByte (.start, completed) = (.start, text.reverse ++ completed) := by
  induction text generalizing completed with
  | nil => rfl
  | cons character rest inductionHypothesis =>
      rw [encode, List.flatMap_cons, List.foldl_append, foldl_readByte_utf8EncodeChar]
      change (encode rest).foldl readByte (.start, character :: completed) = _
      rw [inductionHypothesis, List.reverse_cons, List.append_assoc, List.singleton_append]

theorem decodeLossy_encode (text : List Char) : decodeLossy (encode text) = text := by
  rw [decodeLossy, foldl_readByte_encode]
  simp [ReadingState.atEnd]

theorem decode?_encode (text : List Char) : decode? (encode text) = some text := by
  rw [decode?, decodeLossy_encode]
  exact if_pos rfl

/-! ### Characters of one byte -/

theorem encode_cons (character : Char) (text : List Char) :
    encode (character :: text) = String.utf8EncodeChar character ++ encode text :=
  List.flatMap_cons

theorem encode_append (front back : List Char) :
    encode (front ++ back) = encode front ++ encode back :=
  List.flatMap_append

theorem length_encode (text : List Char) : (encode text).length = byteCount text := by
  suffices counted : ∀ count, text.foldl (fun count character => count + character.utf8Size) count =
      count + (encode text).length by
    simpa [byteCount] using (counted 0).symm
  induction text with
  | nil => exact fun _ => rfl
  | cons character text inductionHypothesis =>
      intro count
      rw [List.foldl_cons, inductionHypothesis, encode_cons, List.length_append,
        String.length_utf8EncodeChar, Nat.add_assoc]

/-- A byte below 128 is a character of its own, and no part of another one. -/
theorem toNat_eq_of_mem_utf8EncodeChar {character : Char} {byte : UInt8}
    (membership : byte ∈ String.utf8EncodeChar character) (small : byte.toNat < 0x80) :
    character.toNat = byte.toNat := by
  have large {bits start : Nat} (notBelow : 0x80 ≤ start) (notAbove : bits + start < 256) :
      byte ≠ UInt8.ofNat (bits + start) := by
    rintro rfl
    rw [UInt8.toNat_ofNat'] at small
    omega
  unfold String.utf8EncodeChar at membership
  simp only [Char.toNat_val] at membership
  split at membership
  · rename_i one
    obtain rfl := List.mem_singleton.mp membership
    rw [UInt8.toNat_ofNat', Nat.mod_eq_of_lt (by omega)]
  split at membership
  · simp only [List.mem_cons, List.not_mem_nil, or_false] at membership
    rcases membership with same | same
    all_goals exact absurd same (large (by omega) (by omega))
  split at membership
  · simp only [List.mem_cons, List.not_mem_nil, or_false] at membership
    rcases membership with same | same | same
    all_goals exact absurd same (large (by omega) (by omega))
  · simp only [List.mem_cons, List.not_mem_nil, or_false] at membership
    rcases membership with same | same | same | same
    all_goals exact absurd same (large (by omega) (by omega))

/-- A character of one byte is in a text if that byte is among the bytes of the text. -/
theorem mem_of_ofNat_mem_encode {text : List Char} {character : Char}
    (small : character.toNat < 0x80) (membership : UInt8.ofNat character.toNat ∈ encode text) :
    character ∈ text := by
  obtain ⟨found, inside, byte⟩ := List.mem_flatMap.mp membership
  have sameByte : (UInt8.ofNat character.toNat).toNat = character.toNat := by
    rw [UInt8.toNat_ofNat', Nat.mod_eq_of_lt (by omega)]
  have sameCode := toNat_eq_of_mem_utf8EncodeChar byte (by omega)
  rw [sameByte] at sameCode
  rwa [Char.toNat_inj.mp sameCode] at inside

example : decodeLossy (encode ['a', 'é', '€', '😀']) = ['a', 'é', '€', '😀'] := by decide +kernel

end PackageSearch.Text
