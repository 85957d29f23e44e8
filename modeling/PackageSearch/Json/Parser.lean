import PackageSearch.Json.Value
import PackageSearch.Text.Hex
import PackageSearch.Text.Utf8

/-!
Reading JSON text, with the place of the first fault.

A fault is found either at the next unread character or just after the last one read; its place is
kept as the number of bytes of the text that come after it, from which the line and the column are
worked out once reading has stopped.
-/

namespace PackageSearch.Json

inductive Problem where
  | endInValue
  | endInList
  | endInObject
  | endInString
  | valueExpected
  | identifierExpected
  | colonExpected
  | listCommaExpected
  | objectCommaExpected
  | trailingComma
  | trailingCharacters
  | keyExpected
  | invalidNumber
  | numberOutOfRange
  | invalidEscape
  | unpairedSurrogate
  | surrogateExpected
  | controlCharacter
  | nestedTooDeeply
  deriving DecidableEq, Repr

def Problem.message : Problem → String
  | .endInValue => "EOF while parsing a value"
  | .endInList => "EOF while parsing a list"
  | .endInObject => "EOF while parsing an object"
  | .endInString => "EOF while parsing a string"
  | .valueExpected => "expected value"
  | .identifierExpected => "expected ident"
  | .colonExpected => "expected `:`"
  | .listCommaExpected => "expected `,` or `]`"
  | .objectCommaExpected => "expected `,` or `\x7d`"
  | .trailingComma => "trailing comma"
  | .trailingCharacters => "trailing characters"
  | .keyExpected => "key must be a string"
  | .invalidNumber => "invalid number"
  | .numberOutOfRange => "number out of range"
  | .invalidEscape => "invalid escape"
  | .unpairedSurrogate => "lone leading surrogate in hex escape"
  | .surrogateExpected => "unexpected end of hex escape"
  | .controlCharacter => "control character (\\u0000-\\u001F) found while parsing a string"
  | .nestedTooDeeply => "recursion limit exceeded"

/-- A problem, with the number of bytes of the text after its place. -/
structure Fault where
  problem : Problem
  unread : Nat
  deriving DecidableEq, Repr

abbrev Reading (Value : Type) := Except Fault (Value × List Char)

/-- A fault just after the characters read so far. -/
def faultBefore {Value : Type} (problem : Problem) (unread : List Char) : Except Fault Value :=
  .error ⟨problem, Text.byteCount unread⟩

/-- A fault at the first byte of the next character. -/
def faultAt {Value : Type} (problem : Problem) (unread : List Char) : Except Fault Value :=
  .error ⟨problem, Text.byteCount unread - 1⟩

def isBlank (character : Char) : Bool :=
  character == ' ' || character == '\n' || character == '\t' || character == '\r'

def skipBlanks (text : List Char) : List Char :=
  text.dropWhile isBlank

def digitValue (character : Char) : Nat :=
  character.toNat - 48

def largest : Nat := 0xFFFFFFFFFFFFFFFF

/-- The largest number whose negative is kept as an integer. -/
def largestNegated : Nat := 0x8000000000000000

/-- Reads digits as long as the number stays within `largest`: the number, how many digits were
read, and the rest. -/
def readDigits (value count : Nat) : List Char → Nat × Nat × List Char
  | [] => (value, count, [])
  | character :: rest =>
      if character.isDigit && value * 10 + digitValue character ≤ largest then
        readDigits (value * 10 + digitValue character) (count + 1) rest
      else (value, count, character :: rest)

/-- The largest power of ten that is a finite double. -/
def largestPower : Nat := 308

/-- Divides by a power of ten in steps of at most `largestPower` places. -/
def scaleDown (value : Float) (places : Nat) : Float :=
  if places ≤ largestPower then value / Float.ofScientific 1 false places
  else if value == 0.0 then value
  else scaleDown (value / Float.ofScientific 1 false largestPower) (places - largestPower)
termination_by places
decreasing_by
  rename_i large _
  have positive : 0 < largestPower := Nat.zero_lt_succ 307
  omega

/-- `significand * 10 ^ exponent` as a double, if it is finite. -/
def floatOf? (positive : Bool) (significand : Nat) (exponent : Int) : Option Float :=
  let start := significand.toUInt64.toFloat
  let sign (value : Float) : Float := if positive then value else -value
  if exponent < 0 then some (sign (scaleDown start exponent.natAbs))
  else if (largestPower : Int) < exponent then
    if significand = 0 then some (sign start) else none
  else
    let value := start * Float.ofScientific 1 false exponent.toNat
    if value.isInf then none else some (sign value)

def finishFloat (positive : Bool) (significand : Nat) (exponent : Int) (rest : List Char) :
    Reading Number :=
  match floatOf? positive significand exponent with
  | some value => .ok (.float value, rest)
  | none => faultBefore .numberOutOfRange rest

/-- Exponents from this size on are not read further. -/
def largestExponent : Nat := 0x7FFFFFFF

/-- Reads the digits of an exponent. An exponent that is too large decides the number at once. -/
def readExponentDigits (positive : Bool) (significand : Nat) (start : Int) (raises : Bool)
    (exponent : Nat) : List Char → Reading Number
  | [] => finishFloat positive significand (if raises then start + exponent else start - exponent) []
  | character :: rest =>
      if character.isDigit then
        if largestExponent < exponent * 10 + digitValue character then
          if raises && significand != 0 then faultBefore .numberOutOfRange rest
          else finishFloat positive 0 0 (rest.dropWhile Char.isDigit)
        else
          readExponentDigits positive significand start raises
            (exponent * 10 + digitValue character) rest
      else
        finishFloat positive significand (if raises then start + exponent else start - exponent)
          (character :: rest)

def readExponent (positive : Bool) (significand : Nat) (start : Int) (text : List Char) :
    Reading Number :=
  let (raises, digits) := match text with
    | '+' :: rest => (true, rest)
    | '-' :: rest => (false, rest)
    | _ => (true, text)
  match digits with
  | [] => faultBefore .endInValue []
  | character :: rest =>
      if character.isDigit then
        readExponentDigits positive significand start raises (digitValue character) rest
      else faultAt .invalidNumber (character :: rest)

def readFraction (positive : Bool) (significand dropped : Nat) (text : List Char) :
    Reading Number :=
  let (significand, count, rest) := readDigits significand 0 text
  let ignored := rest.takeWhile Char.isDigit
  if count = 0 && ignored.isEmpty then
    match rest with
    | [] => faultAt .endInValue []
    | _ => faultAt .invalidNumber rest
  else
    let exponent : Int := (dropped : Int) - count
    match rest.drop ignored.length with
    | 'e' :: after => readExponent positive significand exponent after
    | 'E' :: after => readExponent positive significand exponent after
    | unread => finishFloat positive significand exponent unread

def finishNumber (positive : Bool) (significand dropped : Nat) (text : List Char) :
    Reading Number :=
  match text with
  | '.' :: after => readFraction positive significand dropped after
  | 'e' :: after => readExponent positive significand dropped after
  | 'E' :: after => readExponent positive significand dropped after
  | _ =>
      if dropped ≠ 0 then finishFloat positive significand dropped text
      else if positive then .ok (.integer significand, text)
      else if significand = 0 || largestNegated < significand then finishFloat false significand 0 text
      else .ok (.integer (-significand), text)

def readNumber (positive : Bool) (text : List Char) : Reading Number :=
  match text with
  | [] => faultBefore .endInValue []
  | '0' :: rest =>
      match rest with
      | [] => finishNumber positive 0 0 rest
      | character :: _ =>
          if character.isDigit then faultAt .invalidNumber rest
          else finishNumber positive 0 0 rest
  | character :: rest =>
      if character.isDigit then
        let (significand, _, unread) := readDigits (digitValue character) 1 rest
        let dropped := (unread.takeWhile Char.isDigit).length
        finishNumber positive significand dropped (unread.drop dropped)
      else faultAt .invalidNumber (character :: rest)

/-- Reads four hexadecimal digits. Four bytes are taken before they are judged. -/
def readHex (text : List Char) : Reading Nat :=
  match text with
  | first :: second :: third :: fourth :: rest =>
      match Text.hexValue? first, Text.hexValue? second, Text.hexValue? third,
          Text.hexValue? fourth with
      | some a, some b, some c, some d => .ok (((a * 16 + b) * 16 + c) * 16 + d, rest)
      | _, _, _, _ => .error ⟨.invalidEscape, Text.byteCount text - 4⟩
  | _ =>
      if Text.byteCount text < 4 then faultBefore .endInString []
      else .error ⟨.invalidEscape, Text.byteCount text - 4⟩

def readLowSurrogate (high : Nat) (text : List Char) : Reading Char :=
  match text with
  | [] => faultBefore .endInString []
  | '\\' :: after =>
      match after with
      | [] => faultBefore .endInString []
      | 'u' :: digits =>
          match readHex digits with
          | .error fault => .error fault
          | .ok (low, rest) =>
              if 0xDC00 ≤ low && low ≤ 0xDFFF then
                .ok (Char.ofNat ((high - 0xD800) * 0x400 + (low - 0xDC00) + 0x10000), rest)
              else faultBefore .unpairedSurrogate rest
      | _ => faultAt .surrogateExpected after
  | _ => faultAt .surrogateExpected text

def readUnicode (text : List Char) : Reading Char :=
  match readHex text with
  | .error fault => .error fault
  | .ok (code, rest) =>
      if 0xDC00 ≤ code && code ≤ 0xDFFF then faultBefore .unpairedSurrogate rest
      else if 0xD800 ≤ code && code ≤ 0xDBFF then readLowSurrogate code rest
      else .ok (Char.ofNat code, rest)

def readEscape (text : List Char) : Reading Char :=
  match text with
  | [] => faultBefore .endInString []
  | '"' :: rest => .ok ('"', rest)
  | '\\' :: rest => .ok ('\\', rest)
  | '/' :: rest => .ok ('/', rest)
  | 'b' :: rest => .ok ('\x08', rest)
  | 'f' :: rest => .ok ('\x0c', rest)
  | 'n' :: rest => .ok ('\n', rest)
  | 'r' :: rest => .ok ('\r', rest)
  | 't' :: rest => .ok ('\t', rest)
  | 'u' :: rest => readUnicode rest
  | _ => faultAt .invalidEscape text

theorem length_of_readHex {text rest : List Char} {code : Nat} (read : readHex text = .ok (code, rest)) :
    rest.length < text.length := by
  unfold readHex at read
  split at read
  · split at read
    · cases read
      simp only [List.length_cons]
      omega
    · contradiction
  · split at read <;> contradiction

theorem length_of_readLowSurrogate {high : Nat} {text rest : List Char} {character : Char}
    (read : readLowSurrogate high text = .ok (character, rest)) : rest.length < text.length := by
  unfold readLowSurrogate at read
  split at read
  · contradiction
  · split at read
    · contradiction
    · split at read
      · contradiction
      · rename_i digits low remaining hex
        have shorter := length_of_readHex hex
        split at read
        · have same : remaining = rest := congrArg Prod.snd (Except.ok.inj read)
          rw [← same]
          simp only [List.length_cons]
          omega
        · contradiction
    · contradiction
  · contradiction

theorem length_of_readUnicode {text rest : List Char} {character : Char}
    (read : readUnicode text = .ok (character, rest)) : rest.length < text.length := by
  unfold readUnicode at read
  split at read
  · contradiction
  · rename_i code remaining hex
    have shorter := length_of_readHex hex
    split at read
    · contradiction
    · split at read
      · exact Nat.lt_trans (length_of_readLowSurrogate read) shorter
      · cases read
        exact shorter

theorem length_of_readEscape {text rest : List Char} {character : Char}
    (read : readEscape text = .ok (character, rest)) : rest.length < text.length := by
  unfold readEscape at read
  split at read
  all_goals first
    | contradiction
    | (cases read; simp)
    | exact Nat.lt_succ_of_lt (length_of_readUnicode read)

/-- Reads a string after its opening quote; `done` holds its characters so far, the latest first. -/
def readString (done : List Char) (text : List Char) : Reading String :=
  match text with
  | [] => faultBefore .endInString []
  | '"' :: rest => .ok (String.ofList done.reverse, rest)
  | '\\' :: rest =>
      match _read : readEscape rest with
      | .error fault => .error fault
      | .ok (character, remaining) => readString (character :: done) remaining
  | character :: rest =>
      if character.toNat < 0x20 then faultBefore .controlCharacter rest
      else readString (character :: done) rest
termination_by text.length
decreasing_by
  · exact Nat.lt_succ_of_lt (length_of_readEscape ‹_›)
  · simp

def readIdentifier {Value : Type} (value : Value) :
    (expected : List Char) → List Char → Reading Value
  | [], text => .ok (value, text)
  | _ :: _, [] => faultBefore .endInValue []
  | letter :: letters, character :: rest =>
      if character = letter then readIdentifier value letters rest
      else faultAt .identifierExpected (character :: rest)

/-- Reads the items of a list after its first one; `done` holds the items so far, the latest
first. Every round reads a comma, so the length of the whole text is fuel enough. -/
def readItems (readItem : List Char → Reading Json) :
    (fuel : Nat) → (done : List Json) → List Char → Reading (List Json)
  | 0, _, text => faultAt .endInList text
  | fuel + 1, done, text =>
      match skipBlanks text with
      | [] => faultAt .endInList []
      | ']' :: rest => .ok (done.reverse, rest)
      | ',' :: rest =>
          match skipBlanks rest with
          | [] => faultAt .endInValue []
          | ']' :: after => faultAt .trailingComma (']' :: after)
          | next =>
              match readItem next with
              | .error fault => .error fault
              | .ok (item, remaining) => readItems readItem fuel (item :: done) remaining
      | rest => faultAt .listCommaExpected rest

def readList (readItem : List Char → Reading Json) (fuel : Nat) (text : List Char) :
    Reading (List Json) :=
  match skipBlanks text with
  | [] => faultAt .endInList []
  | ']' :: rest => .ok ([], rest)
  | first =>
      match readItem first with
      | .error fault => .error fault
      | .ok (item, rest) => readItems readItem fuel [item] rest

def readMember (readValue : List Char → Reading Json) (text : List Char) : Reading (String × Json) :=
  match readString [] text with
  | .error fault => .error fault
  | .ok (key, rest) =>
      match skipBlanks rest with
      | [] => faultAt .endInObject []
      | ':' :: after =>
          match readValue after with
          | .error fault => .error fault
          | .ok (value, remaining) => .ok ((key, value), remaining)
      | other => faultAt .colonExpected other

/-- Reads the members of an object after its first one, as `readItems` does for a list. -/
def readMembers (readValue : List Char → Reading Json) :
    (fuel : Nat) → (done : List (String × Json)) → List Char → Reading (List (String × Json))
  | 0, _, text => faultAt .endInObject text
  | fuel + 1, done, text =>
      match skipBlanks text with
      | [] => faultAt .endInObject []
      | '\x7d' :: rest => .ok (done.reverse, rest)
      | ',' :: rest =>
          match skipBlanks rest with
          | [] => faultAt .endInValue []
          | '"' :: key =>
              match readMember readValue key with
              | .error fault => .error fault
              | .ok (pair, remaining) => readMembers readValue fuel (pair :: done) remaining
          | '\x7d' :: after => faultAt .trailingComma ('\x7d' :: after)
          | other => faultAt .keyExpected other
      | rest => faultAt .objectCommaExpected rest

def readObject (readValue : List Char → Reading Json) (fuel : Nat) (text : List Char) :
    Reading (List (String × Json)) :=
  match skipBlanks text with
  | [] => faultAt .endInObject []
  | '\x7d' :: rest => .ok ([], rest)
  | '"' :: key =>
      match readMember readValue key with
      | .error fault => .error fault
      | .ok (pair, rest) => readMembers readValue fuel [pair] rest
  | other => faultAt .keyExpected other

/-- Reads a value that may hold fewer than `depth` levels of lists and objects, none of them with
more than `fuel` items. -/
def readValue (fuel : Nat) : (depth : Nat) → List Char → Reading Json
  | 0, text => faultAt .nestedTooDeeply text
  | depth + 1, text =>
      match skipBlanks text with
      | [] => faultAt .endInValue []
      | 'n' :: rest => readIdentifier .null "ull".toList rest
      | 't' :: rest => readIdentifier (.boolean true) "rue".toList rest
      | 'f' :: rest => readIdentifier (.boolean false) "alse".toList rest
      | '-' :: rest => (readNumber false rest).map fun (value, rest) => (.number value, rest)
      | '"' :: rest => (readString [] rest).map fun (value, rest) => (.string value, rest)
      | '[' :: rest =>
          if depth = 0 then faultAt .nestedTooDeeply ('[' :: rest)
          else (readList (readValue fuel depth) fuel rest).map fun (items, rest) => (.array items, rest)
      | '\x7b' :: rest =>
          if depth = 0 then faultAt .nestedTooDeeply ('\x7b' :: rest)
          else (readObject (readValue fuel depth) fuel rest).map fun (pairs, rest) =>
            (.object (Members.ofPairs pairs), rest)
      | character :: rest =>
          if character.isDigit then
            (readNumber true (character :: rest)).map fun (value, rest) => (.number value, rest)
          else faultAt .valueExpected (character :: rest)

/-- The bracket at this depth is one too many. -/
def depthLimit : Nat := 128

def parse (text : List Char) : Except Fault Json :=
  match readValue text.length depthLimit text with
  | .error fault => .error fault
  | .ok (value, rest) =>
      match skipBlanks rest with
      | [] => .ok value
      | other => faultAt .trailingCharacters other

/-- The place of a fault: lines count from one, and the column is the number of bytes read on the
line. -/
structure Position where
  line : Nat
  column : Nat
  deriving DecidableEq, Repr

def Position.after (bytes : List UInt8) : Position where
  line := bytes.count 10 + 1
  column := (bytes.reverse.takeWhile (· != 10)).length

def Fault.message (fault : Fault) (text : List Char) : String :=
  let bytes := Text.encode text
  let position := Position.after (bytes.take (bytes.length - fault.unread))
  fault.problem.message ++ " at line " ++ toString position.line ++ " column " ++
    toString position.column

end PackageSearch.Json
