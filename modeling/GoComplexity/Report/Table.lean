/-
# Tables

A table has a title, columns with headings and rows of marked-up cells.  How a
terminal draws it is not told here.

Key definitions: `Table`, `Table.cells`.
-/
namespace GoComplexity

/-- A column of a table. -/
structure Column where
  heading : String
  alignRight : Bool := false
deriving DecidableEq, Repr, Inhabited

/-- A table of marked-up cells. -/
structure Table where
  title : String
  columns : List Column
  rows : List (List String)
deriving Repr, Inhabited

/-- The cells of every column, the heading first. -/
def Table.cells (t : Table) : List (List String) :=
  t.columns.mapIdx fun i column => column.heading :: t.rows.map fun row => row.getD i ""

end GoComplexity
