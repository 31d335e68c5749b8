import StoredDocs.Bytes

/-!
# Rows and columns

The store holds rows addressed by an opaque byte key. A row holds named columns; a read
returns each row with its columns in name order, restricted by a column filter.
-/

namespace StoredDocs

/-- A named column value. -/
structure Column where
  name : Bytes
  value : Bytes
  deriving DecidableEq, Repr

/-- A row as read from the store, or as written to it. -/
structure RawRow where
  key : Bytes
  columns : List Column
  deriving DecidableEq, Repr

/-- The first column of a row with the given name. -/
def RawRow.column? (row : RawRow) (name : Bytes) : Option Column :=
  row.columns.find? (·.name == name)

/-- Which columns of a row a read returns. -/
inductive ColumnFilter where
  /-- The columns whose names lie between the two bounds, both included; an empty bound
  leaves that side open. -/
  | slice (start finish : Bytes)
  /-- The columns with one of these names. -/
  | names (names : List Bytes)
  deriving DecidableEq, Repr

namespace ColumnFilter

/-- Every column. -/
def all : ColumnFilter := .slice [] []

/-- Whether the filter lets a column of this name through. -/
def accepts : ColumnFilter → Bytes → Bool
  | slice start finish, name =>
    (start.isEmpty || Bytes.le start name) && (finish.isEmpty || Bytes.le name finish)
  | names ns, name => ns.contains name

end ColumnFilter

/-- How many replicas must answer a read. -/
inductive Consistency where
  | one
  | quorum
  | all
  deriving DecidableEq, Repr, Inhabited

namespace Consistency

/-- The name of a level, as configurations write it. -/
def name : Consistency → String
  | one => "one"
  | quorum => "quorum"
  | all => "all"

/-- The level of a name. -/
def ofName? : String → Option Consistency
  | "one" => some one
  | "quorum" => some quorum
  | "all" => some all
  | _ => none

end Consistency

end StoredDocs
