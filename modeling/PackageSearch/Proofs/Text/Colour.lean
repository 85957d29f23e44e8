import PackageSearch.Text.Colour

/-!
# Removing colours undoes colouring

The character that opens a colour sequence does not occur again inside it, so two sequences never
overlap, and a sequence that begins in the text ends before the next one that was inserted. Hence
reading from the front finds exactly what was inserted.
-/

namespace PackageSearch.Text

variable {text coloured sequence rest : List Char} {character : Char}

def AreParameters (text : List Char) : Prop :=
  ∀ character ∈ text, character.isDigit = true ∨ character = ';'

/-- The complete colour sequences: one of two openings, digits and semicolons, and `m`. -/
inductive IsColour : List Char → Prop where
  | escaped {parameters : List Char} :
      AreParameters parameters → IsColour ('\x1b' :: '[' :: (parameters ++ ['m']))
  | written {parameters : List Char} :
      AreParameters parameters →
        IsColour ('\\' :: '0' :: '3' :: '3' :: '[' :: (parameters ++ ['m']))

/-- There is a complete colour sequence somewhere in the text. -/
def HoldsColour (text : List Char) : Prop :=
  ∃ sequence, IsColour sequence ∧ sequence <:+: text

/-- The second text is the first one with complete colour sequences inserted, any number of them
before, between and after its characters. -/
inductive Coloured : List Char → List Char → Prop where
  | nil : Coloured [] []
  | keep {text coloured : List Char} (character : Char) :
      Coloured text coloured → Coloured (character :: text) (character :: coloured)
  | insert {text coloured sequence : List Char} :
      IsColour sequence → Coloured text coloured → Coloured text (sequence ++ coloured)

/-! ### One sequence -/

theorem isColourParameter_iff :
    isColourParameter character = true ↔ character.isDigit = true ∨ character = ';' := by
  simp [isColourParameter]

theorem afterOpening?_eq_some_iff {body : List Char} :
    afterOpening? text = some body ↔
      text = '\x1b' :: '[' :: body ∨ text = '\\' :: '0' :: '3' :: '3' :: '[' :: body := by
  constructor
  · intro opened
    unfold afterOpening? at opened
    split at opened
    · exact .inl (by rw [Option.some.inj opened])
    · exact .inr (by rw [Option.some.inj opened])
    · cases opened
  · rintro (rfl | rfl) <;> rfl

/-- The parameters of a sequence are all that stands before its end. -/
theorem dropWhile_isColourParameter_eq_iff {body : List Char} :
    body.dropWhile isColourParameter = 'm' :: rest ↔
      ∃ parameters, AreParameters parameters ∧ body = parameters ++ 'm' :: rest := by
  constructor
  · intro ended
    refine ⟨body.takeWhile isColourParameter, ?_, ?_⟩
    · intro parameter membership
      apply isColourParameter_iff.mp
      exact List.all_eq_true.mp List.all_takeWhile parameter membership
    · rw [← ended, List.takeWhile_append_dropWhile]
  · rintro ⟨parameters, allowed, rfl⟩
    rw [List.dropWhile_append_of_pos fun parameter membership =>
      isColourParameter_iff.mpr (allowed parameter membership)]
    exact List.dropWhile_cons_of_neg (by decide)

theorem afterColour?_eq_some_iff :
    afterColour? text = some rest ↔ ∃ sequence, IsColour sequence ∧ text = sequence ++ rest := by
  constructor
  · intro complete
    unfold afterColour? at complete
    split at complete
    · cases complete
    · rename_i body opened
      split at complete
      · rename_i remaining ended
        obtain rfl := Option.some.inj complete
        obtain ⟨parameters, allowed, rfl⟩ := dropWhile_isColourParameter_eq_iff.mp ended
        rcases afterOpening?_eq_some_iff.mp opened with rfl | rfl
        · exact ⟨_, .escaped allowed, by simp⟩
        · exact ⟨_, .written allowed, by simp⟩
      · cases complete
  · rintro ⟨sequence, isColour, rfl⟩
    cases isColour with
    | @escaped parameters allowed | @written parameters allowed =>
        have ended : (parameters ++ 'm' :: rest).dropWhile isColourParameter = 'm' :: rest :=
          dropWhile_isColourParameter_eq_iff.mpr ⟨parameters, allowed, rfl⟩
        simp only [List.cons_append, List.append_assoc, List.nil_append, afterColour?,
          afterOpening?, ended]

theorem afterColour?_eq_none_iff :
    afterColour? text = none ↔ ∀ sequence, IsColour sequence → ¬sequence <+: text := by
  rw [Option.eq_none_iff_forall_ne_some]
  constructor
  · rintro incomplete sequence isColour ⟨rest, rfl⟩
    exact incomplete rest (afterColour?_eq_some_iff.mpr ⟨sequence, isColour, rfl⟩)
  · intro incomplete rest complete
    obtain ⟨sequence, isColour, rfl⟩ := afterColour?_eq_some_iff.mp complete
    exact incomplete sequence isColour (List.prefix_append _ _)

/-! ### Reading from the front -/

theorem stripColour_append (isColour : IsColour sequence) :
    stripColour (sequence ++ rest) = stripColour rest := by
  have complete : afterColour? (sequence ++ rest) = some rest :=
    afterColour?_eq_some_iff.mpr ⟨sequence, isColour, rfl⟩
  cases begun : sequence ++ rest with
  | nil =>
      rw [begun] at complete
      cases complete
  | cons character following =>
      rw [begun] at complete
      rw [stripColour]
      split
      · rename_i remaining found
        obtain rfl := Option.some.inj (found.symm.trans complete)
        rfl
      · rename_i absent
        cases absent.symm.trans complete

theorem stripColour_cons (incomplete : afterColour? (character :: text) = none) :
    stripColour (character :: text) = character :: stripColour text := by
  rw [stripColour]
  split
  · rename_i remaining found
    cases found.symm.trans incomplete
  · rfl

/-- Nothing but complete sequences is removed. -/
theorem coloured_stripColour (text : List Char) : Coloured (stripColour text) text := by
  induction text using stripColour.induct with
  | case1 =>
      rw [stripColour]
      exact .nil
  | case2 character following rest complete inductionHypothesis =>
      obtain ⟨sequence, isColour, same⟩ := afterColour?_eq_some_iff.mp complete
      rw [same, stripColour_append isColour]
      exact .insert isColour inductionHypothesis
  | case3 character following incomplete inductionHypothesis =>
      rw [stripColour_cons incomplete]
      exact .keep character inductionHypothesis

/-! ### Sequences do not overlap -/

/-- The characters that open a sequence. -/
def opensColour (character : Char) : Prop :=
  character = '\x1b' ∨ character = '\\'

/-- Nothing opens a sequence after its first bracket. -/
theorem AreParameters.not_opensColour {parameters : List Char} (allowed : AreParameters parameters)
    (membership : character ∈ '[' :: (parameters ++ ['m'])) : ¬opensColour character := by
  rcases List.mem_cons.mp membership with rfl | later
  · simp [opensColour]
  · rcases List.mem_append.mp later with inside | last
    · rintro (rfl | rfl)
      · exact absurd (allowed _ inside) (by decide)
      · exact absurd (allowed _ inside) (by decide)
    · rw [List.mem_singleton.mp last]
      simp [opensColour]

/-- A sequence begins with a character that opens it, and has no other. -/
theorem IsColour.exists_cons (isColour : IsColour sequence) :
    ∃ first tail, sequence = first :: tail ∧ opensColour first ∧
      ∀ character ∈ tail, ¬opensColour character := by
  cases isColour with
  | escaped allowed => exact ⟨_, _, rfl, .inl rfl, fun _ => allowed.not_opensColour⟩
  | @written parameters allowed =>
      have digits : ∀ character ∈ ['0', '3', '3'], ¬opensColour character := by
        simp [opensColour]
      refine ⟨_, _, rfl, .inr rfl, ?_⟩
      intro character membership
      have split : character ∈ ['0', '3', '3'] ++ '[' :: (parameters ++ ['m']) := membership
      rcases List.mem_append.mp split with early | late
      · exact digits character early
      · exact allowed.not_opensColour late

/-- A run of characters that open nothing is not interrupted by an insertion. -/
theorem Coloured.prefix_of_plain {front : List Char} (made : Coloured text coloured)
    (plain : ∀ character ∈ front, ¬opensColour character) (begins : front <+: coloured) :
    front <+: text := by
  induction made generalizing front with
  | nil => exact begins
  | keep character made inductionHypothesis =>
      cases front with
      | nil => exact List.nil_prefix
      | cons first front =>
          obtain ⟨rfl, further⟩ := List.cons_prefix_cons.mp begins
          have later := inductionHypothesis
            (fun character membership => plain character (List.mem_cons_of_mem _ membership))
            further
          exact List.cons_prefix_cons.mpr ⟨rfl, later⟩
  | insert isColour made inductionHypothesis =>
      cases front with
      | nil => exact List.nil_prefix
      | cons first front =>
          obtain ⟨opening, tail, rfl, opens, -⟩ := isColour.exists_cons
          obtain ⟨rfl, -⟩ := List.cons_prefix_cons.mp begins
          exact absurd opens (plain first List.mem_cons_self)

/-- A sequence that begins with a character of the text is one of the text. -/
theorem Coloured.prefix_of_isColour (made : Coloured text coloured) (isColour : IsColour sequence)
    (begins : sequence <+: character :: coloured) : sequence <+: character :: text := by
  obtain ⟨first, tail, rfl, -, plain⟩ := isColour.exists_cons
  obtain ⟨rfl, further⟩ := List.cons_prefix_cons.mp begins
  exact List.cons_prefix_cons.mpr ⟨rfl, made.prefix_of_plain plain further⟩

theorem not_holdsColour_cons_iff :
    ¬HoldsColour (character :: text) ↔
      afterColour? (character :: text) = none ∧ ¬HoldsColour text := by
  rw [afterColour?_eq_none_iff]
  constructor
  · intro plain
    constructor
    · intro sequence isColour begins
      exact plain ⟨sequence, isColour, begins.isInfix⟩
    · rintro ⟨sequence, isColour, inside⟩
      exact plain ⟨sequence, isColour, List.infix_cons inside⟩
  · rintro ⟨notFirst, notLater⟩ ⟨sequence, isColour, inside⟩
    rcases List.infix_cons_iff.mp inside with begins | later
    · exact notFirst sequence isColour begins
    · exact notLater ⟨sequence, isColour, later⟩

theorem not_holdsColour_nil : ¬HoldsColour [] := by
  rintro ⟨sequence, isColour, inside⟩
  obtain ⟨first, tail, rfl, -⟩ := isColour.exists_cons
  exact List.cons_ne_nil _ _ (List.infix_nil.mp inside)

/-! ### Characters that no sequence has -/

/-- The character is no part of any complete colour sequence, so it keeps what stands before it from
what stands after it. -/
def IsForeign (character : Char) : Prop :=
  ∀ sequence, IsColour sequence → character ∉ sequence

theorem isForeign_of (notParameter : isColourParameter character = false)
    (notFixed : character ∉ ['\x1b', '[', '\\', '0', '3', 'm']) : IsForeign character := by
  have outside : ∀ parameters, AreParameters parameters → character ∉ parameters := by
    intro parameters allowed inside
    rw [isColourParameter_iff.mpr (allowed character inside)] at notParameter
    cases notParameter
  intro sequence isColour membership
  cases isColour with
  | @escaped parameters allowed | @written parameters allowed =>
      have := outside parameters allowed
      simp_all

theorem IsForeign.prefix_of_append_cons {front back : List Char} (foreign : IsForeign character)
    (isColour : IsColour sequence) (begins : sequence <+: front ++ character :: back) :
    sequence <+: front := by
  rcases List.prefix_or_prefix_of_prefix begins (List.prefix_append _ _) with inside | ⟨rest, rfl⟩
  · exact inside
  · cases rest with
    | nil =>
        exact ⟨[], by simp⟩
    | cons first rest =>
        obtain ⟨rfl, -⟩ :=
          List.cons_prefix_cons.mp ((List.prefix_append_right_inj front).mp begins)
        exact absurd (List.mem_append_right _ List.mem_cons_self) (foreign _ isColour)

theorem IsForeign.afterColour?_append_cons {front back : List Char} (foreign : IsForeign character)
    (incomplete : afterColour? front = none) :
    afterColour? (front ++ character :: back) = none := by
  rw [afterColour?_eq_none_iff] at incomplete ⊢
  intro sequence isColour begins
  exact incomplete sequence isColour (foreign.prefix_of_append_cons isColour begins)

theorem IsForeign.stripColour_append_cons (foreign : IsForeign character) (front back : List Char) :
    stripColour (front ++ character :: back) =
      stripColour front ++ character :: stripColour back := by
  induction front using stripColour.induct with
  | case1 =>
      have incomplete : afterColour? ([] ++ character :: back) = none :=
        foreign.afterColour?_append_cons rfl
      rw [stripColour]
      exact stripColour_cons incomplete
  | case2 first following rest complete inductionHypothesis =>
      obtain ⟨sequence, isColour, same⟩ := afterColour?_eq_some_iff.mp complete
      rw [same, List.append_assoc, stripColour_append isColour, stripColour_append isColour,
        inductionHypothesis]
  | case3 first following incomplete inductionHypothesis =>
      have stillIncomplete : afterColour? (first :: following ++ character :: back) = none :=
        foreign.afterColour?_append_cons incomplete
      rw [List.cons_append] at stillIncomplete ⊢
      rw [stripColour_cons incomplete, stripColour_cons stillIncomplete, inductionHypothesis,
        List.cons_append]

theorem IsForeign.not_holdsColour_append_cons {front back : List Char}
    (foreign : IsForeign character) (plainFront : ¬HoldsColour front)
    (plainBack : ¬HoldsColour back) : ¬HoldsColour (front ++ character :: back) := by
  induction front with
  | nil =>
      have incomplete : afterColour? ([] ++ character :: back) = none :=
        foreign.afterColour?_append_cons rfl
      exact not_holdsColour_cons_iff.mpr ⟨incomplete, plainBack⟩
  | cons first front inductionHypothesis =>
      obtain ⟨incomplete, plainRest⟩ := not_holdsColour_cons_iff.mp plainFront
      exact not_holdsColour_cons_iff.mpr
        ⟨foreign.afterColour?_append_cons incomplete, inductionHypothesis plainRest⟩

/-! ### Texts and their coloured versions -/

/-- The induction is on the insertions. -/
theorem Coloured.stripColour_eq (made : Coloured text coloured) (plain : ¬HoldsColour text) :
    stripColour coloured = text := by
  induction made with
  | nil => rw [stripColour]
  | @keep text coloured character made inductionHypothesis =>
      obtain ⟨incomplete, plainRest⟩ := not_holdsColour_cons_iff.mp plain
      have stillIncomplete : afterColour? (character :: coloured) = none := by
        apply afterColour?_eq_none_iff.mpr
        intro sequence isColour begins
        exact afterColour?_eq_none_iff.mp incomplete sequence isColour
          (made.prefix_of_isColour isColour begins)
      rw [stripColour_cons stillIncomplete, inductionHypothesis plainRest]
  | insert isColour made inductionHypothesis =>
      rw [stripColour_append isColour, inductionHypothesis plain]

theorem Coloured.keepAll (made : Coloured text coloured) (front : List Char) :
    Coloured (front ++ text) (front ++ coloured) := by
  induction front with
  | nil => exact made
  | cons character front inductionHypothesis => exact .keep character inductionHypothesis

theorem Coloured.refl (text : List Char) : Coloured text text := by
  induction text with
  | nil => exact .nil
  | cons character text inductionHypothesis => exact .keep character inductionHypothesis

theorem Coloured.sublist (made : Coloured text coloured) : text.Sublist coloured := by
  induction made with
  | nil => exact List.Sublist.slnil
  | keep character made inductionHypothesis => exact inductionHypothesis.cons_cons character
  | insert isColour made inductionHypothesis =>
      exact inductionHypothesis.trans (List.sublist_append_right _ _)

/-- A text that is left as it is has no complete sequence: the first one would make it shorter. -/
theorem not_holdsColour_of_stripColour_eq (unchanged : stripColour text = text) :
    ¬HoldsColour text := by
  induction text using stripColour.induct with
  | case1 => exact not_holdsColour_nil
  | case2 character following rest complete inductionHypothesis =>
      obtain ⟨sequence, isColour, same⟩ := afterColour?_eq_some_iff.mp complete
      rw [same, stripColour_append isColour] at unchanged
      have shorter := (coloured_stripColour rest).sublist.length_le
      obtain ⟨first, tail, rfl, -⟩ := isColour.exists_cons
      rw [unchanged] at shorter
      simp only [List.length_append, List.length_cons] at shorter
      omega
  | case3 character following incomplete inductionHypothesis =>
      rw [stripColour_cons incomplete] at unchanged
      exact not_holdsColour_cons_iff.mpr
        ⟨incomplete, inductionHypothesis (List.cons.inj unchanged).2⟩

theorem stripColour_eq_self_iff : stripColour text = text ↔ ¬HoldsColour text :=
  ⟨not_holdsColour_of_stripColour_eq, (Coloured.refl text).stripColour_eq⟩

/-- A text without complete colour sequences is what is left of each of its coloured versions. Every
text is a coloured version of what is left of it, and it is left as it is exactly if it has no
complete sequence. -/
theorem stripColour_undoes_colouring (text : List Char) :
    (¬HoldsColour text → ∀ coloured, Coloured text coloured → stripColour coloured = text) ∧
      Coloured (stripColour text) text ∧
      (stripColour text = text ↔ ¬HoldsColour text) := by
  refine ⟨?_, coloured_stripColour text, stripColour_eq_self_iff⟩
  intro plain coloured made
  exact made.stripColour_eq plain

/-- An escape character, an opening without an end, a letter of two bytes and a backslash. -/
def unfinished : List Char :=
  ['\x1b', '\x1b', '[', '1', ';', 'é', '\\']

/-- Behind each escape character, and at the end, stand sequences of both kinds. -/
def unfinishedColoured : List Char :=
  '\x1b' :: (['\x1b', '[', '1', ';', '3', '2', 'm'] ++ '\x1b' ::
    (['\\', '0', '3', '3', '[', '0', 'm'] ++ (['\x1b', '[', 'm'] ++
      '[' :: '1' :: ';' :: 'é' :: '\\' :: (['\\', '0', '3', '3', '[', 'm'] ++ []))))

theorem unfinished_survives_colouring :
    ¬HoldsColour unfinished ∧ stripColour unfinishedColoured = unfinished := by
  have plain : ¬HoldsColour unfinished := by
    iterate 7 refine not_holdsColour_cons_iff.mpr ⟨rfl, ?_⟩
    exact not_holdsColour_nil
  refine ⟨plain, (stripColour_undoes_colouring unfinished).1 plain unfinishedColoured ?_⟩
  have green : IsColour ['\x1b', '[', '1', ';', '3', '2', 'm'] :=
    @IsColour.escaped ['1', ';', '3', '2'] (by simp [AreParameters])
  have zero : IsColour ['\\', '0', '3', '3', '[', '0', 'm'] :=
    @IsColour.written ['0'] (by simp [AreParameters])
  have escapedEnd : IsColour ['\x1b', '[', 'm'] := @IsColour.escaped [] (by simp [AreParameters])
  have writtenEnd : IsColour ['\\', '0', '3', '3', '[', 'm'] :=
    @IsColour.written [] (by simp [AreParameters])
  have ending : Coloured ['[', '1', ';', 'é', '\\'] _ :=
    .keep _ (.keep _ (.keep _ (.keep _ (.keep _ (.insert writtenEnd .nil)))))
  exact .keep _ (.insert green (.keep _ (.insert zero (.insert escapedEnd ending))))

end PackageSearch.Text
