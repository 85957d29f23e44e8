import PackageSearch.Http.Response
import PackageSearch.Proofs.Http.Head
import PackageSearch.Proofs.Json.Controls
import PackageSearch.Proofs.Text.Blank
import PackageSearch.Proofs.Text.Lines
import PackageSearch.Proofs.Text.Utf8

/-!
# Where a message ends

A message has one empty line: no line of the head is empty, and the body has no line end at all. So
whoever reads the head finds its end, and finds in it how many bytes are still to come.
-/

namespace PackageSearch

open Text

/-! ### Bytes without control characters -/

theorem Text.FreeOfControls.le_of_mem_encode {text : List Char} (free : FreeOfControls text) :
    ∀ byte ∈ encode text, 0x20 ≤ byte.toNat := by
  intro byte membership
  obtain ⟨character, isCharacter, written⟩ := List.mem_flatMap.mp membership
  rcases Nat.lt_or_ge byte.toNat 0x80 with small | large
  · rw [← toNat_eq_of_mem_utf8EncodeChar written small]
    exact free character isCharacter
  · exact Nat.le_trans (by decide) large

theorem Text.FreeOfControls.not_mem_encode {text : List Char} (free : FreeOfControls text) :
    (13 : UInt8) ∉ encode text :=
  fun membership => absurd (free.le_of_mem_encode 13 membership) (by decide)

theorem Text.FreeOfControls.not_mem {text : List Char} (free : FreeOfControls text) :
    '\n' ∉ text :=
  fun membership => absurd (free '\n' membership) (by decide)

theorem Text.encode_ne_nil {text : List Char} (notEmpty : text ≠ []) : encode text ≠ [] := by
  obtain ⟨character, rest, rfl⟩ := List.exists_cons_of_ne_nil notEmpty
  intro empty
  have size := congrArg List.length empty
  rw [encode_cons, List.length_append, String.length_utf8EncodeChar, List.length_nil] at size
  exact absurd size (Nat.ne_of_gt (Nat.add_pos_left character.utf8Size_pos _))

namespace Http

variable {before line body rest : List UInt8} {lines : List (List UInt8)}

/-! ### The empty line -/

/-- An empty line cannot begin within a line, only at its end or behind that. -/
theorem emptyLine_at_end_or_behind (unbroken : 13 ∉ line)
    (starts : before ++ emptyLine <+: line ++ 13 :: 10 :: rest) :
    before = line ∧ [13, 10] <+: rest ∨
      ∃ further, before = line ++ 13 :: 10 :: further ∧ further ++ emptyLine <+: rest := by
  induction line generalizing before with
  | nil =>
      match before, starts with
      | [], starts =>
          exact .inl ⟨rfl, by simpa [emptyLine] using starts⟩
      | [_], starts => simp [emptyLine] at starts
      | first :: second :: further, starts =>
          simp only [List.cons_append, List.nil_append, List.cons_prefix_cons] at starts
          obtain ⟨rfl, rfl, starts⟩ := starts
          exact .inr ⟨further, rfl, starts⟩
  | cons byte line inductionHypothesis =>
      obtain ⟨notReturn, unbrokenRest⟩ := not_or.mp (mt List.mem_cons.mpr unbroken)
      cases before with
      | nil =>
          simp only [emptyLine, List.nil_append, List.cons_append, List.cons_prefix_cons] at starts
          exact absurd starts.1 notReturn
      | cons first before =>
          rw [List.cons_append, List.cons_append, List.cons_prefix_cons] at starts
          obtain ⟨rfl, starts⟩ := starts
          rcases inductionHypothesis unbrokenRest starts with
            ⟨rfl, follows⟩ | ⟨further, rfl, follows⟩
          · exact .inl ⟨rfl, follows⟩
          · exact .inr ⟨further, rfl, follows⟩

/-- Between a last line and a body without line ends, an empty line begins once. -/
theorem eq_of_emptyLine_before_body (unbroken : 13 ∉ line) (plain : 13 ∉ body)
    (starts : before ++ emptyLine <+: line ++ emptyLine ++ body) : before = line := by
  have inBody (front rest : List UInt8) : ¬front ++ 13 :: rest <+: body := fun found =>
    plain (found.subset (List.mem_append_right _ List.mem_cons_self))
  rw [List.append_assoc] at starts
  rcases emptyLine_at_end_or_behind unbroken starts with ⟨same, -⟩ | ⟨further, -, starts⟩
  · exact same
  · rcases @emptyLine_at_end_or_behind further [] body List.not_mem_nil starts with
      ⟨-, starts⟩ | ⟨further, -, starts⟩
    · exact absurd starts (inBody [] [10])
    · exact absurd starts (inBody further [10, 13, 10])

/-- Joined lines begin with the first one. -/
theorem prefix_intercalate (line : List UInt8) (rest : List (List UInt8)) :
    line <+: [13, 10].intercalate (line :: rest) := by
  cases rest with
  | nil => exact List.intercalate_singleton ▸ List.prefix_refl line
  | cons next rest =>
      rw [List.intercalate_cons_cons, List.append_assoc]
      exact List.prefix_append line _

theorem mem_of_starts (notEmpty : line ≠ []) (starts : 13 :: body <+: line ++ rest) :
    13 ∈ line := by
  cases line with
  | nil => exact absurd rfl notEmpty
  | cons byte line => exact (List.cons_prefix_cons.mp starts).1 ▸ List.mem_cons_self

/-- The induction is on the lines of the head: none but the last is followed by an empty one. -/
theorem emptyLine_starts_iff (inhabited : lines ≠ []) (unbroken : ∀ line ∈ lines, 13 ∉ line)
    (notEmpty : ∀ line ∈ lines, line ≠ []) (plain : 13 ∉ body) :
    before ++ emptyLine <+: [13, 10].intercalate lines ++ emptyLine ++ body ↔
      before = [13, 10].intercalate lines := by
  refine ⟨?_, fun same => same ▸ List.prefix_append _ body⟩
  intro starts
  induction lines generalizing before with
  | nil => exact absurd rfl inhabited
  | cons line rest inductionHypothesis =>
      obtain ⟨unbrokenLine, unbrokenRest⟩ := List.forall_mem_cons.mp unbroken
      obtain ⟨notEmptyLine, notEmptyRest⟩ := List.forall_mem_cons.mp notEmpty
      cases rest with
      | nil =>
          rw [List.intercalate_singleton] at starts ⊢
          exact eq_of_emptyLine_before_body unbrokenLine plain starts
      | cons next rest =>
          rw [List.intercalate_cons_cons] at starts ⊢
          rw [List.append_assoc, List.append_assoc, List.append_assoc] at starts
          rcases emptyLine_at_end_or_behind unbrokenLine starts with
            ⟨-, follows⟩ | ⟨further, rfl, follows⟩
          · obtain ⟨tail, joined⟩ := prefix_intercalate next rest
            have follows : [13, 10] <+: next ++ (tail ++ (emptyLine ++ body)) := by
              rwa [← List.append_assoc, joined]
            exact absurd (mem_of_starts (notEmptyRest next List.mem_cons_self) follows)
              (unbrokenRest next List.mem_cons_self)
          · rw [← List.append_assoc] at follows
            rw [inductionHypothesis (List.cons_ne_nil next rest) unbrokenRest notEmptyRest follows,
              List.append_assoc]
            rfl

/-! ### The head -/

namespace Response

variable {status length : Nat} {hasBody : Bool}

/-- The lines before the empty one, with line ends between them. -/
def headText (status : Nat) (hasBody : Bool) (length : Nat) : List Char :=
  lineEnd.intercalate ((headLines status hasBody length).map String.toList)

def headBytes (status : Nat) (hasBody : Bool) (length : Nat) : List UInt8 :=
  encode (headText status hasBody length)

theorem freeOfControls_reason (status : Nat) : FreeOfControls (reason status).toList := by
  unfold reason
  split <;> decide

theorem freeOfControls_headLines :
    ∀ line ∈ headLines status hasBody length, FreeOfControls line.toList := by
  cases hasBody <;>
    simp [headLines, freeOfControls_toDigits, freeOfControls_reason]

theorem headLines_ne_nil : headLines status hasBody length ≠ [] := by
  simp [headLines]

theorem toList_ne_nil_of_mem_headLines :
    ∀ line ∈ headLines status hasBody length, line.toList ≠ [] := by
  cases hasBody <;> simp [headLines]

theorem flatMap_append_eq_intercalate {parts : List String} (inhabited : parts ≠ []) :
    (parts.flatMap fun line => line.toList ++ lineEnd) =
      lineEnd.intercalate (parts.map String.toList) ++ lineEnd := by
  induction parts with
  | nil => exact absurd rfl inhabited
  | cons line rest inductionHypothesis =>
      cases rest with
      | nil => simp
      | cons next rest =>
          rw [List.flatMap_cons, inductionHypothesis (List.cons_ne_nil next rest)]
          simp only [List.map_cons, List.intercalate_cons_cons, List.append_assoc]

theorem encode_intercalate (parts : List (List Char)) :
    encode (lineEnd.intercalate parts) = [13, 10].intercalate (parts.map encode) := by
  induction parts with
  | nil => rfl
  | cons line rest inductionHypothesis =>
      cases rest with
      | nil => simp
      | cons next rest =>
          rw [List.intercalate_cons_cons, encode_append, encode_append, inductionHypothesis]
          simp only [List.map_cons, List.intercalate_cons_cons]
          rfl

/-- A message is its head, the empty line, and its body. -/
theorem bytes_eq (response : Response) :
    response.bytes =
      headBytes response.status response.body.isSome (encode response.bodyText).length ++
        emptyLine ++ encode response.bodyText := by
  have ends : encode lineEnd ++ encode lineEnd = emptyLine := rfl
  rw [bytes, message, length_encode, headBytes, headText,
    flatMap_append_eq_intercalate headLines_ne_nil]
  simp only [encode_append, List.append_assoc, ← ends]

/-- An empty line begins at the end of the head and nowhere else. -/
theorem emptyLine_starts_headBytes_iff (plain : 13 ∉ body) :
    before ++ emptyLine <+: headBytes status hasBody length ++ emptyLine ++ body ↔
      before = headBytes status hasBody length := by
  rw [headBytes, headText, encode_intercalate, List.map_map]
  apply emptyLine_starts_iff ?_ ?_ ?_ plain
  · exact mt List.map_eq_nil_iff.mp headLines_ne_nil
  · exact List.forall_mem_map.mpr fun line membership =>
      (freeOfControls_headLines line membership).not_mem_encode
  · exact List.forall_mem_map.mpr fun line membership =>
      encode_ne_nil (toList_ne_nil_of_mem_headLines line membership)

theorem bodyText_eq (response : Response) :
    response.bodyText = (response.body.map Json.print).getD [] := by
  unfold bodyText
  split <;> simp [*]

theorem freeOfControls_bodyText (response : Response) : FreeOfControls response.bodyText := by
  unfold bodyText
  split
  · exact freeOfControls_nil
  · exact Json.freeOfControls_print _

end Response

/-! ### Reading a message -/

/-- The value of a field on a line of a head, without the white space around it. In the name of the
field, capital letters are as good as small ones. -/
def fieldValue? (name line : List Char) : Option (List Char) :=
  if (line.takeWhile (· != ':')).map Char.toLower = name then
    some (trim ((line.dropWhile (· != ':')).drop 1))
  else none

def decimalValue? (digits : List Char) : Option Nat :=
  if digits ≠ [] ∧ digits.all Char.isDigit = true then some (Nat.ofDigitChars 10 digits 0) else none

/-- What the length fields in a head say, one after the other. The first line holds no field. -/
def statedLengths (head : List UInt8) : List (Option Nat) :=
  (((Text.lines (decodeLossy head)).drop 1).filterMap (fieldValue? "content-length".toList)).map
    decimalValue?

/-- What a reader gets that reads up to the first empty line, and then as many bytes as the only
length field says: the body, and what is left over. -/
def receiveBody? (message : List UInt8) : Option (List UInt8 × List UInt8) :=
  match beforeEmptyLine? message with
  | none => none
  | some head =>
      let following := message.drop (head.length + emptyLine.length)
      match statedLengths head with
      | [some length] => if length ≤ following.length then some (following.splitAt length) else none
      | _ => none

theorem isBlank_eq_false_of_isDigit {digit : Char} (isDigit : digit.isDigit = true) :
    isBlank digit = false := by
  have bounds : 48 ≤ digit.toNat ∧ digit.toNat ≤ 57 := by
    simpa [Char.isDigit, UInt32.le_iff_toNat_le] using isDigit
  unfold isBlank
  simp only [Bool.or_eq_false_iff, Bool.and_eq_false_imp, decide_eq_true_eq,
    decide_eq_false_iff_not, Nat.not_le, beq_eq_false_iff_ne, ne_eq]
  omega

theorem decimalValue?_toDigits (value : Nat) :
    decimalValue? (Nat.toDigits 10 value) = some value := by
  have areDigits : (Nat.toDigits 10 value).all Char.isDigit = true :=
    List.all_eq_true.mpr fun _ => Nat.isDigit_of_mem_toDigits (by decide) (by decide)
  rw [decimalValue?, if_pos ⟨Nat.toDigits_ne_nil, areDigits⟩, Nat.ofDigitChars_ten_toDigits]

theorem fieldValue?_contentLength (length : Nat) :
    fieldValue? "content-length".toList ("Content-Length: " ++ toString length).toList =
      some (Nat.toDigits 10 length) := by
  have plain : ∀ digit ∈ Nat.toDigits 10 length, isBlank digit = false := fun digit membership =>
    isBlank_eq_false_of_isDigit (Nat.isDigit_of_mem_toDigits (by decide) (by decide) membership)
  have trimmed : trim (' ' :: Nat.toDigits 10 length) = Nat.toDigits 10 length := by
    have core := @trim_eq [' '] _ [] (by decide) (isTrimmed_of_plain plain) allBlank_nil
    rwa [List.append_nil] at core
  have written : ("Content-Length: " ++ toString length).toList =
      "Content-Length".toList ++ ':' :: ' ' :: Nat.toDigits 10 length := by
    simp
  calc fieldValue? "content-length".toList ("Content-Length: " ++ toString length).toList
    _ = some (trim (' ' :: Nat.toDigits 10 length)) := by
      rw [written]
      rfl
    _ = some (Nat.toDigits 10 length) := congrArg some trimmed

theorem lines_headText (status : Nat) (hasBody : Bool) (length : Nat) :
    Text.lines (Response.headText status hasBody length) =
      (Response.headLines status hasBody length).map String.toList := by
  apply lines_intercalate
  · exact List.forall_mem_map.mpr fun line membership =>
      (Response.freeOfControls_headLines line membership).not_mem
  · exact List.forall_mem_map.mpr Response.toList_ne_nil_of_mem_headLines

/-- One line of a head is the field for the length, and no other is a field of this name. -/
theorem exists_headLines_eq (status : Nat) (hasBody : Bool) (length : Nat) :
    ∃ before after : List String, (Response.headLines status hasBody length).drop 1 =
        before ++ ("Content-Length: " ++ toString length) :: after ∧
      (∀ line ∈ before, fieldValue? "content-length".toList line.toList = none) ∧
      ∀ line ∈ after, fieldValue? "content-length".toList line.toList = none := by
  refine ⟨(if hasBody then ["Content-Type: application/json"] else []) ++
    ["Access-Control-Allow-Origin: *", "Access-Control-Allow-Methods: GET, OPTIONS",
      "Access-Control-Allow-Headers: Content-Type"], ["Connection: close"], ?_, ?_, by decide⟩
  · cases hasBody <;> rfl
  · cases hasBody <;> decide

theorem statedLengths_headBytes (status : Nat) (hasBody : Bool) (length : Nat) :
    statedLengths (Response.headBytes status hasBody length) = [some length] := by
  obtain ⟨before, after, split, noneBefore, noneAfter⟩ := exists_headLines_eq status hasBody length
  have values : (((Response.headLines status hasBody length).map String.toList).drop 1).filterMap
      (fieldValue? "content-length".toList) = [Nat.toDigits 10 length] := by
    rw [← List.map_drop, split, List.map_append, List.map_cons, List.filterMap_append,
      List.filterMap_eq_nil_iff.mpr (List.forall_mem_map.mpr noneBefore), List.nil_append,
      List.filterMap_cons_some (fieldValue?_contentLength length),
      List.filterMap_eq_nil_iff.mpr (List.forall_mem_map.mpr noneAfter)]
  rw [statedLengths, Response.headBytes, decodeLossy_encode, lines_headText, values]
  exact congrArg (fun value => [value]) (decimalValue?_toDigits length)

theorem receiveBody?_eq {message head body : List UInt8}
    (made : message = head ++ emptyLine ++ body) (found : beforeEmptyLine? message = some head)
    (stated : statedLengths head = [some body.length]) :
    receiveBody? message = some (body, []) := by
  have following : message.drop (head.length + emptyLine.length) = body := by
    rw [made, ← List.length_append, List.drop_left]
  rw [receiveBody?, found]
  dsimp only
  rw [stated, following]
  simp

/-- The message of a response has one empty line. What is before it is the same for all responses
with the same status, of which both or neither have a body, of the same number of bytes, and says
this number. What is behind it is the body as text, in which there are no control characters. So
the head is received, and after it the body with nothing left over. -/
theorem response_is_framed (response : Response) :
    let text := (response.body.map Json.print).getD []
    let body := encode text
    let head := Response.headBytes response.status response.body.isSome body.length
    response.bytes = head ++ emptyLine ++ body ∧
    (∀ before, before ++ emptyLine <+: response.bytes ↔ before = head) ∧
    statedLengths head = [some body.length] ∧
    (response.body = none → body.length = 0) ∧
    decode? body = some text ∧
    (∀ byte ∈ body, 0x20 ≤ byte.toNat) ∧
    beforeEmptyLine? response.bytes = some head ∧
    receiveBody? response.bytes = some (body, []) := by
  intro text body head
  have isText : text = response.bodyText := response.bodyText_eq.symm
  have free : FreeOfControls text := isText ▸ response.freeOfControls_bodyText
  have made : response.bytes = head ++ emptyLine ++ body := by
    rw [response.bytes_eq, ← isText]
  have unique (before : List UInt8) : before ++ emptyLine <+: response.bytes ↔ before = head := by
    rw [made]
    exact Response.emptyLine_starts_headBytes_iff free.not_mem_encode
  have found : beforeEmptyLine? response.bytes = some head := by
    apply beforeEmptyLine?_eq_some_iff.mpr
    exact ⟨(unique head).mpr rfl, fun shorter starts => by rw [(unique shorter).mp starts]⟩
  have stated : statedLengths head = [some body.length] := statedLengths_headBytes _ _ _
  refine ⟨made, unique, stated, ?_, decode?_encode text, free.le_of_mem_encode, found,
    receiveBody?_eq made found stated⟩
  intro noBody
  rw [show body = _ from congrArg encode isText, Response.bodyText, noBody]
  rfl

/-- A key and a string with empty lines in them, a control character, and characters of several
bytes. -/
def hostileBody : Json :=
  .object [("q\r\n\r\n", .array [.string "\r\n\r\n\x00é😀", .number (.integer (-5))])]

def hostileText : String :=
  "\x7b\"q\\r\\n\\r\\n\":[\"\\r\\n\\r\\n\\u0000é😀\",-5]\x7d"

theorem hostileBody_is_framed :
    let response := Response.ofJson 200 hostileBody
    let body := encode hostileText.toList
    receiveBody? response.bytes = some (body, []) ∧
      (0x5C ∈ body ∧ 0x20 ≤ (0x5C : UInt8).toNat) ∧
      Response.noContent.body = none ∧ (encode Response.noContent.bodyText).length = 0 ∧
      statedLengths (Response.headBytes 204 false 0) = [some 0] := by
  intro response body
  have printed : hostileBody.print = hostileText.toList := by decide
  obtain ⟨-, -, -, -, -, visible, -, received⟩ := response_is_framed response
  obtain ⟨-, -, stated, empty, -⟩ := response_is_framed Response.noContent
  have shown : ((response.body.map Json.print).getD []) = hostileText.toList := printed
  rw [shown] at received visible
  have escaped : 0x5C ∈ body := by decide
  exact ⟨received, ⟨escaped, visible _ escaped⟩, rfl, empty rfl, stated⟩

end Http

end PackageSearch
