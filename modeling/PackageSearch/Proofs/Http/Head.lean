import PackageSearch.Http.Head

/-!
# What is received as the head of a request

However the bytes of a request come in, what is received as its head is what stands before their
first empty line. A head that is not too long is always received.
-/

namespace PackageSearch.Http

variable {bytes head : List UInt8} {reads : List Read}

def emptyLine : List UInt8 := [13, 10, 13, 10]

/-- The bytes begin with the head and an empty line, and not with a shorter head and an empty
line. -/
structure HasHead (bytes head : List UInt8) : Prop where
  complete : head ++ emptyLine <+: bytes
  first : ∀ shorter, shorter ++ emptyLine <+: bytes → head.length ≤ shorter.length

namespace HasHead

theorem length_le (hasHead : HasHead bytes head) :
    head.length + emptyLine.length ≤ bytes.length := by
  simpa using hasHead.complete.length_le

theorem nil_iff : HasHead bytes [] ↔ emptyLine <+: bytes :=
  ⟨fun hasHead => hasHead.complete, fun starts => ⟨starts, fun _ _ => Nat.zero_le _⟩⟩

theorem cons_iff {byte first : UInt8} (later : ¬emptyLine <+: byte :: bytes) :
    HasHead (byte :: bytes) (first :: head) ↔ first = byte ∧ HasHead bytes head := by
  constructor
  · rintro ⟨complete, shortest⟩
    obtain ⟨rfl, rest⟩ := List.cons_prefix_cons.mp complete
    refine ⟨rfl, rest, ?_⟩
    intro shorter starts
    exact Nat.le_of_succ_le_succ
      (shortest (first :: shorter) (List.cons_prefix_cons.mpr ⟨rfl, starts⟩))
  · rintro ⟨rfl, complete, shortest⟩
    refine ⟨List.cons_prefix_cons.mpr ⟨rfl, complete⟩, ?_⟩
    intro shorter starts
    cases shorter with
    | nil => exact absurd starts later
    | cons byte shorter =>
        exact Nat.succ_le_succ (shortest shorter (List.cons_prefix_cons.mp starts).2)

/-- Bytes that come later do not change the head. -/
theorem append_iff {more : List UInt8} (inside : head.length + emptyLine.length ≤ bytes.length) :
    HasHead (bytes ++ more) head ↔ HasHead bytes head := by
  have within : ∀ shorter : List UInt8, shorter.length ≤ head.length →
      (shorter ++ emptyLine <+: bytes ++ more ↔ shorter ++ emptyLine <+: bytes) := by
    intro shorter short
    refine ⟨fun starts => ?_, fun starts => starts.trans (List.prefix_append _ _)⟩
    apply List.prefix_of_prefix_length_le starts (List.prefix_append _ _)
    rw [List.length_append]
    exact Nat.le_trans (Nat.add_le_add_right short _) inside
  constructor
  · rintro ⟨complete, shortest⟩
    refine ⟨(within head (Nat.le_refl _)).mp complete, ?_⟩
    intro shorter starts
    exact shortest shorter (starts.trans (List.prefix_append _ _))
  · rintro ⟨complete, shortest⟩
    refine ⟨(within head (Nat.le_refl _)).mpr complete, ?_⟩
    intro shorter starts
    rcases Nat.le_total head.length shorter.length with long | short
    · exact long
    · exact shortest shorter ((within shorter short).mp starts)

end HasHead

theorem beforeEmptyLine?_of_starts (starts : emptyLine <+: bytes) :
    beforeEmptyLine? bytes = some [] := by
  obtain ⟨rest, rfl⟩ := starts
  rfl

theorem beforeEmptyLine?_cons {byte : UInt8} (later : ¬emptyLine <+: byte :: bytes) :
    beforeEmptyLine? (byte :: bytes) = (beforeEmptyLine? bytes).map (byte :: ·) := by
  rw [beforeEmptyLine?]
  · cases beforeEmptyLine? bytes <;> rfl
  · rintro rest rfl rfl
    exact later ⟨rest, rfl⟩

/-- The induction is on the bytes: either they begin with an empty line, or the head goes on. -/
theorem beforeEmptyLine?_eq_some_iff : beforeEmptyLine? bytes = some head ↔ HasHead bytes head := by
  induction bytes generalizing head with
  | nil =>
      refine ⟨fun found => ?_, fun hasHead => ?_⟩
      · cases found
      · exact absurd hasHead.length_le (by simp [emptyLine])
  | cons byte rest inductionHypothesis =>
      by_cases starts : emptyLine <+: byte :: rest
      · rw [beforeEmptyLine?_of_starts starts, Option.some.injEq]
        constructor
        · rintro rfl
          exact HasHead.nil_iff.mpr starts
        · intro hasHead
          exact (List.eq_nil_of_length_eq_zero
            (Nat.le_zero.mp (hasHead.first [] starts))).symm
      · rw [beforeEmptyLine?_cons starts]
        cases head with
        | nil => simp [HasHead.nil_iff, starts]
        | cons first head =>
            rw [HasHead.cons_iff starts, ← inductionHypothesis, Option.map_eq_some_iff]
            constructor
            · rintro ⟨front, found, same⟩
              cases same
              exact ⟨rfl, found⟩
            · rintro ⟨rfl, found⟩
              exact ⟨head, found, rfl⟩

/-! ### Reads -/

/-- The reads bring the bytes, as many at a time as they like, and then the end of the
connection. -/
inductive Delivers : List Read → List UInt8 → Prop where
  | ended : Delivers [] []
  | closed {reads : List Read} : Delivers (.bytes [] :: reads) []
  | more {chunk bytes : List UInt8} {reads : List Read} :
      chunk ≠ [] → Delivers reads bytes → Delivers (.bytes chunk :: reads) (chunk ++ bytes)

/-- No head is found in bytes that are received at a time when a head is still waited for. -/
theorem HasHead.length_lt {more : List UInt8} (absent : beforeEmptyLine? bytes = none)
    (hasHead : HasHead (bytes ++ more) head) : bytes.length < head.length + emptyLine.length := by
  apply Nat.lt_of_not_le
  intro inside
  have found := beforeEmptyLine?_eq_some_iff.mpr ((append_iff inside).mp hasHead)
  cases absent.symm.trans found

end PackageSearch.Http
