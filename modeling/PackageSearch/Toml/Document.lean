import PackageSearch.Toml.Quoted
import PackageSearch.Toml.Table

/-!
Reading TOML text.

A text is a sequence of lines, each empty, a header, or an assignment, whose value may go on over
further lines. Loops take the length of the text as fuel, because each round reads a character.
-/

namespace PackageSearch.Toml

def isBare (character : Char) : Bool :=
  character.isAlphanum || character == '_' || character == '-'

def readName (text : List Char) : Reading String :=
  match text with
  | '"' :: rest => readBasic [] rest
  | '\x27' :: rest => readLiteral rest
  | _ =>
      let name := text.takeWhile isBare
      if name.isEmpty then none else some (String.ofList name, text.dropWhile isBare)

def keyLimit : Nat := 80

/-- Reads a dotted key and the spaces after it; `done` holds the names before, the latest first. -/
def readKeyAfter : (fuel : Nat) → (done : List String) → List Char → Reading Key
  | 0, _, _ => none
  | fuel + 1, done, text =>
      match readName (skipSpaces text) with
      | none => none
      | some (name, rest) =>
          match skipSpaces rest with
          | '.' :: following => readKeyAfter fuel (name :: done) following
          | following => some ({ parents := done.reverse, name }, following)

def readKey (text : List Char) : Reading Key :=
  readKeyAfter (keyLimit - 1) [] text

def readAssignment (readNode : List Char → Reading Node) (text : List Char) :
    Reading Assignment :=
  match readKey text with
  | some (key, '=' :: rest) =>
      (readNode (skipSpaces rest)).map fun (value, rest) => ({ key, value }, rest)
  | _ => none

/-- Reads the assignments of a table written as a value, after its opening brace or a comma. -/
def readAssignments (readNode : List Char → Reading Node) :
    (fuel : Nat) → (done : List Assignment) → List Char → Reading (List Assignment)
  | 0, _, _ => none
  | fuel + 1, done, text =>
      match readAssignment readNode text with
      | none => none
      | some (assignment, rest) =>
          match skipSpaces rest with
          | '\x7d' :: following => some ((assignment :: done).reverse, following)
          | ',' :: following => readAssignments readNode fuel (assignment :: done) following
          | _ => none

/-- Reads a table written as a value, after its opening brace. -/
def readClosedTable (readNode : List Char → Reading Node) (fuel : Nat) (text : List Char) :
    Reading Node :=
  match skipSpaces text with
  | '\x7d' :: rest => some (.closedTable [], rest)
  | _ =>
      match readAssignments readNode fuel [] text with
      | none => none
      | some (assignments, rest) =>
          (Table.assignAll [] assignments).map fun members => (.closedTable members, rest)

/-- Reads the items of an array after its opening bracket or a comma; a comma may end them. -/
def readItems (readNode : List Char → Reading Node) :
    (fuel : Nat) → (done : List Node) → List Char → Reading (List Node)
  | 0, _, _ => none
  | fuel + 1, done, text =>
      match skipBetween false text with
      | ']' :: rest => some (done.reverse, rest)
      | start =>
          match readNode start with
          | none => none
          | some (item, rest) =>
              match skipBetween false rest with
              | ']' :: following => some ((item :: done).reverse, following)
              | ',' :: following => readItems readNode fuel (item :: done) following
              | _ => none

def readWord (word : List Char) (value : Node) (text : List Char) : Reading Node :=
  if word.isPrefixOf text then some (value, text.drop word.length) else none

/-- Reads a date, a time or a number. What starts like one of the former and is not is read as one
of the latter. -/
def readQuantity (text : List Char) : Reading Node :=
  match readMoment text with
  | some (moment, rest) => some (.moment moment, rest)
  | none =>
      match readFloat text with
      | some (value, rest) => some (.float value, rest)
      | none => (readInteger text).map fun (value, rest) => (.integer value, rest)

/-- Reads a value that may hold `depth` levels of arrays and tables. -/
def readNode (fuel : Nat) : (depth : Nat) → List Char → Reading Node
  | _, [] => none
  | depth, first :: rest =>
      if first = '"' || first = literalMark then
        (readString (first :: rest)).map fun (value, rest) => (.text value, rest)
      else if first = 't' then readWord "true".toList (.boolean true) (first :: rest)
      else if first = 'f' then readWord "false".toList (.boolean false) (first :: rest)
      else if first = '[' then
        match depth with
        | 0 => none
        | depth + 1 =>
            (readItems (readNode fuel depth) fuel [] rest).map fun (items, rest) =>
              (.array items, rest)
      else if first = '\x7b' then
        match depth with
        | 0 => none
        | depth + 1 => readClosedTable (readNode fuel depth) fuel rest
      else readQuantity (first :: rest)

/-- Values may hold fewer levels of arrays and tables than this. -/
def depthLimit : Nat := 80

def readHeader (text : List Char) : Reading Header :=
  match text with
  | '[' :: '[' :: rest =>
      match readKey rest with
      | some (key, ']' :: ']' :: following) => some (.item key, following)
      | _ => none
  | '[' :: rest =>
      match readKey rest with
      | some (key, ']' :: following) => some (.table key, following)
      | _ => none
  | _ => none

inductive Statement where
  | assignment (assignment : Assignment)
  | header (header : Header)

def readStatement (fuel : Nat) (text : List Char) : Reading Statement :=
  match text with
  | '[' :: _ => (readHeader text).map fun (header, rest) => (.header header, rest)
  | _ =>
      (readAssignment (readNode fuel (depthLimit - 1)) text).map fun (assignment, rest) =>
        (.assignment assignment, rest)

/-- Reads all lines; `done` holds the statements so far, the latest first. -/
def readStatements (length : Nat) :
    (fuel : Nat) → (done : List Statement) → List Char → Option (List Statement)
  | 0, _, _ => none
  | fuel + 1, done, text =>
      match afterLine? text with
      | some [] => some done.reverse
      | some rest => readStatements length fuel done rest
      | none =>
          match readStatement length (skipSpaces text) with
          | none => none
          | some (statement, rest) =>
              match afterLine? rest with
              | none => none
              | some following => readStatements length fuel (statement :: done) following

/-- Puts each assignment under the header before it. -/
def Document.ofStatements : List Statement → Document
  | [] => ⟨[], []⟩
  | .assignment assignment :: rest =>
      let document := ofStatements rest
      { document with assignments := assignment :: document.assignments }
  | .header header :: rest =>
      let document := ofStatements rest
      ⟨[], { header, assignments := document.assignments } :: document.sections⟩

/-- A byte order mark at the start does not belong to the text. -/
def skipMark : List Char → List Char
  | '\ufeff' :: rest => rest
  | text => text

/-- The table that a text stands for, if it is TOML. -/
def parse (text : List Char) : Option Table := do
  let statements ← readStatements text.length (text.length + 1) [] (skipMark text)
  Table.ofDocument (Document.ofStatements statements)

end PackageSearch.Toml
