import PackageSearch.Proofs.Http.Form
import PackageSearch.Proofs.Text.Blank
import PackageSearch.Proofs.Text.Lines
import PackageSearch.Server.Operation

/-!
# Requests are read from their first line

The first line of a head is a request exactly if it consists of three words, a method, a target and
a version, of which the last two begin as they should. However the request has been written on it,
that request is read.
-/

namespace PackageSearch.Http

open Text

variable {head line target path : List Char}

/-! ### Lines with a request on them -/

/-- What every version begins with. -/
def versionMarker : List Char := "HTTP/".toList

/-- White space on one line, at least one character of it. -/
structure IsGap (gap : List Char) : Prop where
  notEmpty : gap ≠ []
  blank : AllBlank gap
  unbroken : '\n' ∉ gap

/-- A path as it stands before the first `?` of a target. -/
structure IsPath (path : List Char) : Prop where
  rooted : path.head? = some '/'
  plain : ∀ character ∈ path, isBlank character = false
  unasked : '?' ∉ path

/-- The target consists of the path alone, or of the path and of the pairs behind a `?`. -/
inductive WritesTarget (path : List Char) : List (String × String) → List Char → Prop where
  | bare : WritesTarget path [] path
  | asked {pairs : List (String × String)} {query : List Char} :
      Form.WritesPairs pairs query → WritesTarget path pairs (path ++ '?' :: query)

/-- The ways of writing a request on a line. -/
inductive WritesLine : Request → List Char → Prop where
  | mk {method path : String} {pairs : List (String × String)}
      {gap target gapAfter version : List Char} :
      IsWord method.toList → IsGap gap → IsPath path.toList →
        WritesTarget path.toList pairs target → IsGap gapAfter → IsWord version →
          versionMarker <+: version →
            WritesLine ⟨method, path, pairs⟩
              (method.toList ++ (gap ++ target ++ (gapAfter ++ version)))

/-- The path is what comes before the first `?` of the target, or all of it. -/
def IsPathOf (path target : List Char) : Prop :=
  '?' ∉ path ∧ (target = path ∨ ∃ query, target = path ++ '?' :: query)

/-- The words of the line are a method, a target and a version. -/
def IsRequestLine (line : List Char) : Prop :=
  ∃ method target version path, Spaced [method, target, version] line ∧
    versionMarker <+: version ∧ IsPathOf path target ∧ (path.head? = some '/' ∨ path = ['*'])

/-! ### Targets -/

theorem IsPathOf.takeWhile_eq (isPath : IsPathOf path target) :
    target.takeWhile (· != '?') = path := by
  obtain ⟨unasked, isTarget⟩ := isPath
  have before : ∀ character ∈ path, (character != '?') = true := fun character membership =>
    bne_iff_ne.mpr fun same => unasked (same ▸ membership)
  rcases isTarget with rfl | ⟨query, rfl⟩
  · exact List.takeWhile_eq_self_iff.mpr before
  · rw [List.takeWhile_append_of_pos before]
    exact List.append_nil path

theorem isPathOf_takeWhile (target : List Char) :
    IsPathOf (target.takeWhile (· != '?')) target := by
  constructor
  · intro membership
    exact absurd (List.mem_takeWhile_imp membership) (by decide)
  · have whole := @List.takeWhile_append_dropWhile _ (· != '?') target
    cases rest : target.dropWhile (· != '?') with
    | nil =>
        rw [rest, List.append_nil] at whole
        exact .inl whole.symm
    | cons first query =>
        have stops := List.head?_dropWhile_not (· != '?') target
        rw [rest] at stops
        obtain rfl : first = '?' := by simpa using stops
        rw [rest] at whole
        exact .inr ⟨query, whole.symm⟩

theorem WritesTarget.isPathOf {pairs : List (String × String)} (isPath : IsPath path)
    (writes : WritesTarget path pairs target) : IsPathOf path target := by
  cases writes with
  | bare => exact ⟨isPath.unasked, .inl rfl⟩
  | asked writesPairs => exact ⟨isPath.unasked, .inr ⟨_, rfl⟩⟩

theorem WritesTarget.isWord {pairs : List (String × String)} (isPath : IsPath path)
    (writes : WritesTarget path pairs target) : IsWord target := by
  have notEmpty : path ≠ [] := by
    rintro rfl
    cases isPath.rooted
  cases writes with
  | bare => exact ⟨notEmpty, isPath.plain⟩
  | asked writesPairs =>
      refine ⟨List.append_ne_nil_of_left_ne_nil notEmpty _, List.forall_mem_append.mpr ?_⟩
      exact ⟨isPath.plain, List.forall_mem_cons.mpr ⟨rfl, writesPairs.isBlank_eq_false⟩⟩

/-- What is behind the first `?` of the target is the written query. -/
theorem WritesTarget.decode_eq {pairs : List (String × String)} (isPath : IsPath path)
    (writes : WritesTarget path pairs target) :
    Form.decode (encode ((target.dropWhile (· != '?')).drop 1)) = pairs := by
  have before : ∀ character ∈ path, (character != '?') = true := fun character membership =>
    bne_iff_ne.mpr fun same => isPath.unasked (same ▸ membership)
  cases writes with
  | bare =>
      rw [List.dropWhile_eq_nil_iff.mpr before]
      rfl
  | asked writesPairs =>
      rw [List.dropWhile_append_of_pos before]
      exact writesPairs.decode_eq

/-! ### Reading the line -/

theorem versionMarker_isPrefixOf_iff {version : List Char} :
    "HTTP/".toList.isPrefixOf version = true ↔ versionMarker <+: version :=
  List.isPrefixOf_iff_prefix

theorem ofParts?_eq_none_iff {method target version : List Char} :
    Request.ofParts? method target version = none ↔
      ¬(versionMarker <+: version ∧ ∃ path, IsPathOf path target ∧
        (path.head? = some '/' ∨ path = ['*'])) := by
  have begins : (∃ path, IsPathOf path target ∧ (path.head? = some '/' ∨ path = ['*'])) ↔
      (target.takeWhile (· != '?')).head? = some '/' ∨ target.takeWhile (· != '?') = ['*'] := by
    constructor
    · rintro ⟨path, isPath, begins⟩
      rwa [isPath.takeWhile_eq]
    · exact fun begins => ⟨_, isPathOf_takeWhile target, begins⟩
  have accepted : ("HTTP/".toList.isPrefixOf version &&
      ((target.takeWhile (· != '?')).head? == some '/' ||
        target.takeWhile (· != '?') == ['*'])) = true ↔
      "HTTP/".toList.isPrefixOf version = true ∧
        ((target.takeWhile (· != '?')).head? = some '/' ∨
          target.takeWhile (· != '?') = ['*']) := by
    rw [Bool.and_eq_true, Bool.or_eq_true, beq_iff_eq, beq_iff_eq]
  rw [begins, ← versionMarker_isPrefixOf_iff, ← accepted, Request.ofParts?]
  split
  · rename_i holds
    exact iff_of_false (Option.some_ne_none _) (not_not_intro holds)
  · rename_i fails
    exact iff_of_true rfl fails

/-- Only the words on the first line matter. -/
theorem parse?_eq (begins : BeginsWithLine line head) (unbroken : '\n' ∉ line) :
    Request.parse? head =
      match words line with
      | [method, target, version] => Request.ofParts? method target version
      | _ => none := by
  rcases begins.lines_eq unbroken with ⟨none, rfl⟩ | ⟨first, rest, found, isLine⟩
  · rw [Request.parse?, none]
    rfl
  · have sameWords : words line = words first := by
      rcases isLine with rfl | rfl
      · rfl
      · rw [words_append_cons rfl]
        exact List.append_nil _
    simp only [Request.parse?, found]
    exact sameWords ▸ rfl

theorem parse?_eq_none_iff (begins : BeginsWithLine line head) (unbroken : '\n' ∉ line) :
    Request.parse? head = none ↔ ¬IsRequestLine line := by
  rw [parse?_eq begins unbroken]
  split
  · rename_i method target version isLine
    rw [ofParts?_eq_none_iff, not_iff_not]
    constructor
    · rintro ⟨isVersion, path, isPath, begins⟩
      exact ⟨method, target, version, path, spaced_iff.mpr isLine, isVersion, isPath, begins⟩
    · rintro ⟨_, _, _, path, spaced, isVersion, isPath, begins⟩
      rw [spaced.words_eq] at isLine
      cases isLine
      exact ⟨isVersion, path, isPath, begins⟩
  · rename_i notThree
    refine iff_of_true rfl ?_
    rintro ⟨method, target, version, path, spaced, -⟩
    exact notThree method target version spaced.words_eq

/-! ### Reading what was written -/

theorem not_mem_of_plain {text : List Char}
    (plain : ∀ character ∈ text, isBlank character = false) : '\n' ∉ text :=
  fun membership => absurd (plain _ membership) (by decide)

theorem IsGap.blank_of_mem_head? {gap text : List Char} (isGap : IsGap gap) :
    ∀ character ∈ (gap ++ text).head?, isBlank character = true := by
  intro character first
  cases gap with
  | nil => exact absurd rfl isGap.notEmpty
  | cons blank gap =>
      obtain rfl : blank = character := Option.some.inj first
      exact isGap.blank _ List.mem_cons_self

theorem WritesLine.parse?_eq {request : Request} (writes : WritesLine request line)
    (begins : BeginsWithLine line head) : Request.parse? head = some request := by
  cases writes with
  | @mk method path pairs gap target gapAfter version isMethod isGap isPath writesTarget isGapAfter
      isVersion marked =>
      have isTarget := writesTarget.isWord isPath
      have unbroken : '\n' ∉
          method.toList ++ (gap ++ target ++ (gapAfter ++ version)) := by
        simp only [List.mem_append, not_or]
        exact ⟨not_mem_of_plain isMethod.plain,
          ⟨isGap.unbroken, not_mem_of_plain isTarget.plain⟩,
          isGapAfter.unbroken, not_mem_of_plain isVersion.plain⟩
      have spaced : Spaced [method.toList, target, version]
          (method.toList ++ (gap ++ target ++ (gapAfter ++ version))) := by
        have ending : Spaced [version] (gapAfter ++ version ++ []) :=
          .word isGapAfter.blank isVersion (by simp) (.blank allBlank_nil)
        rw [List.append_nil] at ending
        have middle := Spaced.word isGap.blank isTarget isGapAfter.blank_of_mem_head? ending
        have separated : ∀ character ∈ (gap ++ target ++ (gapAfter ++ version)).head?,
            isBlank character = true := by
          rw [List.append_assoc]
          exact isGap.blank_of_mem_head?
        exact .word allBlank_nil isMethod separated middle
      rw [Http.parse?_eq begins unbroken, spaced.words_eq]
      have isPathOf := writesTarget.isPathOf isPath
      have accepted : ("HTTP/".toList.isPrefixOf version &&
          (path.toList.head? == some '/' || path.toList == ['*'])) = true := by
        rw [versionMarker_isPrefixOf_iff.mpr marked, isPath.rooted]
        rfl
      simp only [Request.ofParts?, isPathOf.takeWhile_eq, accepted, if_true,
        writesTarget.decode_eq isPath, String.ofList_toList]

/-! ### Parameters -/

/-- What the first of the pairs with the name holds, if there is one. -/
inductive FirstValue (pairs : List (String × String)) (name : String) : Option String → Prop where
  | found {before after : List (String × String)} {value : String} :
      pairs = before ++ (name, value) :: after → name ∉ Members.keys before →
        FirstValue pairs name (some value)
  | absent : name ∉ Members.keys pairs → FirstValue pairs name none

theorem lookup_append_of_not_mem {before after : List (String × String)} {name : String}
    (absent : name ∉ Members.keys before) : (before ++ after).lookup name = after.lookup name := by
  induction before with
  | nil => rfl
  | cons pair before inductionHypothesis =>
      rcases pair with ⟨key, value⟩
      simp only [Members.keys, List.map_cons, List.mem_cons, not_or] at absent
      have different : (name == key) = false := beq_eq_false_iff_ne.mpr absent.1
      rw [List.cons_append, List.lookup_cons, different]
      exact inductionHypothesis absent.2

theorem FirstValue.lookup_eq {pairs : List (String × String)} {name : String}
    {value? : Option String} (first : FirstValue pairs name value?) :
    pairs.lookup name = value? := by
  cases first with
  | found split absent =>
      rw [split, lookup_append_of_not_mem absent]
      exact List.lookup_cons_self
  | absent absent =>
      have nothing := @lookup_append_of_not_mem pairs [] name absent
      rwa [List.append_nil] at nothing

theorem exists_firstValue (pairs : List (String × String)) (name : String) :
    ∃ value?, FirstValue pairs name value? := by
  induction pairs with
  | nil => exact ⟨none, .absent List.not_mem_nil⟩
  | cons pair pairs inductionHypothesis =>
      rcases pair with ⟨key, value⟩
      by_cases same : key = name
      · exact ⟨some value, .found (by rw [same, List.nil_append]) List.not_mem_nil⟩
      · obtain ⟨value?, first⟩ := inductionHypothesis
        have later {others : List (String × String)} (absent : name ∉ Members.keys others) :
            name ∉ Members.keys ((key, value) :: others) := by
          rintro (membership : name ∈ key :: Members.keys others)
          rcases List.mem_cons.mp membership with rfl | inside
          · exact same rfl
          · exact absent inside
        cases first with
        | found split absent =>
            exact ⟨_, .found (congrArg ((key, value) :: ·) split) (later absent)⟩
        | absent absent => exact ⟨none, .absent (later absent)⟩

theorem parameter?_eq_iff {request : Request} {name : String} {value? : Option String} :
    request.parameter? name = value? ↔ FirstValue request.query name value? := by
  refine ⟨?_, FirstValue.lookup_eq⟩
  rintro rfl
  obtain ⟨value?, first⟩ := exists_firstValue request.query name
  rwa [Request.parameter?, first.lookup_eq]

/-- A request for a search is handled as a search for the text under its name. -/
theorem ofRequest_search {request : Request} {text : String} (isGet : request.method = "GET")
    (isSearch : request.path = "/search") (first : FirstValue request.query "q" (some text)) :
    Server.Operation.ofRequest request = .search text := by
  have found : request.parameter? "q" = some text := parameter?_eq_iff.mpr first
  rw [Server.Operation.ofRequest, if_pos isGet, Server.Operation.ofPath, if_pos isSearch, found]
  rfl

/-- However a request is written on the first line of a head, this request is read, its parameters
are those of the pairs that come first, and a search is one for exactly the text that was written.
Nothing is read if the words on the line are not those of a request. -/
theorem requests_are_read_back (begins : BeginsWithLine line head) :
    (∀ request, WritesLine request line →
      Request.parse? head = some request ∧
        (∀ name value?, request.parameter? name = value? ↔
          FirstValue request.query name value?) ∧
        ∀ text, request.method = "GET" → request.path = "/search" →
          FirstValue request.query "q" (some text) →
            Server.Operation.ofHead (some head) = .search text) ∧
      ('\n' ∉ line → (Request.parse? head = none ↔ ¬IsRequestLine line)) := by
  constructor
  · intro request writes
    have read := writes.parse?_eq begins
    refine ⟨read, fun name value? => parameter?_eq_iff, ?_⟩
    intro text isGet isSearch first
    rw [Server.Operation.ofHead, Option.bind_some, read]
    exact ofRequest_search isGet isSearch first
  · exact parse?_eq_none_iff begins

/-- A search in which spaces, escapes of both cases, an empty value, a repeated key and a
superfluous `&` occur. -/
def encodedLine : List Char :=
  ['G', 'E', 'T'] ++ (['\u3000'] ++ ("/search".toList ++ '?' ::
    ((['x'] ++ '=' :: []) ++ '&' ::
      ((['q'] ++ '=' :: ['a', '%', '2', '6', '+', '%', 'c', '3', '%', 'A', '9']) ++ '&' ::
        '&' :: (['q'] ++ '=' :: ['2'])))) ++
    (['\t', ' '] ++ "HTTP/1.1".toList))

/-- The target of this line is not rooted. -/
def rootlessLine : List Char :=
  ['G', 'E', 'T', ' ', 's', ' ', 'H', 'T', 'T', 'P', '/', '1']

theorem encodedLine_is_read_back :
    Server.Operation.ofHead (some (encodedLine ++ ['\r', '\n'] ++ ['?'])) = .search "a& é" ∧
      Request.parse? (rootlessLine ++ ['\n'] ++ encodedLine) = none := by
  have isKey (key : Char) (plain : Text.isBlank key = false ∧ key ∉ Form.reservedInKey) :
      Form.WritesText Form.reservedInKey [key] [key] := .plain plain.1 plain.2 .nil
  have ampersand : Form.Escaped (String.utf8EncodeChar '&') ['%', '2', '6'] :=
    .cons (by decide) (by decide) .nil
  have accented : Form.Escaped (String.utf8EncodeChar 'é') ['%', 'c', '3', '%', 'A', '9'] :=
    .cons (by decide) (by decide) (.cons (by decide) (by decide) .nil)
  have text : Form.WritesText Form.reservedInValue "a& é".toList _ :=
    .plain rfl (by decide) (.escaped ampersand (.space (.escaped accented .nil)))
  have pairs : Form.WritesPairs [("x", ""), ("q", "a& é"), ("q", "2")] _ :=
    .pair (.mk (isKey 'x' (by decide)) .nil) (.pair (.mk (isKey 'q' (by decide)) text)
      (.ampersand (.last (.mk (isKey 'q' (by decide)) (.plain rfl (by decide) .nil)))))
  have writes : WritesLine ⟨"GET", "/search", _⟩ encodedLine :=
    .mk ⟨by decide, plain_of_all (by decide)⟩ ⟨by decide, by decide, by decide⟩
      ⟨rfl, plain_of_all (by decide), by decide⟩ (.asked pairs)
      ⟨by decide, by decide, by decide⟩ ⟨by decide, plain_of_all (by decide)⟩ (by decide)
  have first : FirstValue [("x", ""), ("q", "a& é"), ("q", "2")] "q" (some "a& é") :=
    @FirstValue.found _ _ [("x", "")] _ _ rfl (by decide)
  have rootless : ¬IsRequestLine rootlessLine := by
    rintro ⟨method, target, version, path, spaced, -, isPath, rooted⟩
    have read : Text.words rootlessLine =
        [['G', 'E', 'T'], ['s'], ['H', 'T', 'T', 'P', '/', '1']] := rfl
    rw [spaced.words_eq] at read
    cases read
    obtain rfl : ['s'] = path := isPath.takeWhile_eq
    exact absurd rooted (by decide)
  constructor
  · obtain ⟨-, -, isSearch⟩ :=
      (requests_are_read_back (.inr ⟨_, _, .returnAndFeed, rfl⟩)).1 _ writes
    exact isSearch _ rfl rfl first
  · exact ((requests_are_read_back (.inr ⟨_, _, .feed, rfl⟩)).2 (by decide)).mpr rootless

end PackageSearch.Http
