import PackageSearch.Members
import PackageSearch.Toml.Moment
import PackageSearch.Toml.Numeral

/-!
Tables of TOML and the rules by which assignments and headers build them up.

A table grows as long as its origin allows: one with a header of its own takes assignments only
under that header, one that came about through a dotted key takes further dotted keys, and one that
only is on the way to another may still get its header.
-/

namespace PackageSearch.Toml

inductive Origin where
  /-- It has a header, or is the table of the whole document. -/
  | header
  /-- A dotted key leads through it. -/
  | dotted
  /-- A header leads through it. -/
  | implied
  deriving DecidableEq, Repr

inductive Node where
  | text (value : String)
  | integer (value : Int)
  | float (value : FloatLiteral)
  | boolean (value : Bool)
  | moment (value : Moment)
  | array (items : List Node)
  /-- A table written as a value, to which nothing can be added. -/
  | closedTable (members : List (String × Node))
  | table (origin : Origin) (members : List (String × Node))
  /-- A list of tables, each with a header of its own: the last one, and those before it, the latest
  first. -/
  | tables (last : List (String × Node)) (earlier : List (List (String × Node)))

abbrev Table := List (String × Node)

structure Key where
  parents : List String
  name : String
  deriving DecidableEq, Repr

structure Assignment where
  key : Key
  value : Node

/-- What a header opens: a table, or one more table of a list. -/
inductive Header where
  | table (key : Key)
  | item (key : Key)
  deriving DecidableEq, Repr

structure Section where
  header : Header
  assignments : List Assignment

structure Document where
  assignments : List Assignment
  sections : List Section

namespace Table

/-- Changes the table that a path leads to from a table. Missing tables on the way are added. A path
leads into the last table of a list, but a dotted one not into a table with a header. -/
def changeAt (dotted : Bool) (change : Origin → Table → Option Table) :
    (path : List String) → Origin → Table → Option Table
  | [], origin, table => change origin table
  | name :: path, _, table =>
      match Members.get? name table with
      | none =>
          let origin := if dotted then .dotted else .implied
          (changeAt dotted change path origin []).map fun members =>
            Members.put name (.table origin members) table
      | some (.table origin members) =>
          if dotted && origin == .header then none
          else
            (changeAt dotted change path origin members).map fun members =>
              Members.put name (.table origin members) table
      | some (.tables last earlier) =>
          (changeAt dotted change path .header last).map fun members =>
            Members.put name (.tables members earlier) table
      | some _ => none

def add (name : String) (value : Node) (table : Table) : Option Table :=
  if (Members.get? name table).isSome then none else some (Members.put name value table)

/-- Carries out an assignment. A dotted key adds only to tables that dotted keys brought about. -/
def assign (table : Table) (assignment : Assignment) : Option Table :=
  let key := assignment.key
  changeAt true
    (fun origin members =>
      if !key.parents.isEmpty && origin != .dotted then none
      else add key.name assignment.value members)
    key.parents .header table

def assignAll (table : Table) (assignments : List Assignment) : Option Table :=
  assignments.foldlM assign table

/-- Adds the table of a section to the table that holds it. A header can be given only once, and to
no table but one that is merely on the way to another. -/
def addSection (part : Section) (name : String) (parent : Table) : Option Table :=
  match part.header, Members.get? name parent with
  | .table _, none =>
      (assignAll [] part.assignments).map fun members =>
        Members.put name (.table .header members) parent
  | .table _, some (.table .implied members) =>
      (assignAll members part.assignments).map fun members =>
        Members.put name (.table .header members) parent
  | .item _, none =>
      (assignAll [] part.assignments).map fun members =>
        Members.put name (.tables members []) parent
  | .item _, some (.tables last earlier) =>
      (assignAll [] part.assignments).map fun members =>
        Members.put name (.tables members (last :: earlier)) parent
  | _, _ => none

def Header.key : Header → Key
  | .table key => key
  | .item key => key

def open? (root : Table) (part : Section) : Option Table :=
  let key := Header.key part.header
  changeAt false (fun _ parent => addSection part key.name parent) key.parents .header root

def ofDocument (document : Document) : Option Table := do
  let root ← assignAll [] document.assignments
  document.sections.foldlM open? root

end Table

end PackageSearch.Toml
