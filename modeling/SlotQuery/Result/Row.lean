import SlotQuery.Cell
import SlotQuery.Json.Basic
/-!
# Rows and sets of rows

A row pairs cells with the names of their columns.  Names may repeat, and a repeated name leads to
its last column; there may be more or fewer cells than names.  A set of rows takes rows only once
its columns are named.
-/

namespace SlotQuery

/-- A row of a result. -/
structure Row where
  columns : List String
  cells : List Cell
deriving DecidableEq, Inhabited

/-- The position of the last occurrence of a name. -/
def lastIndex? (name : String) (names : List String) : Option Nat :=
  (names.reverse.idxOf? name).map fun i => names.length - 1 - i

namespace Row

/-- The position of the column with a name. -/
def columnIndex? (r : Row) (name : String) : Option Nat :=
  lastIndex? name r.columns

/-- The cell in the column with a name. -/
def get? (r : Row) (name : String) : Option Cell :=
  (r.columnIndex? name).bind fun i => r.cells[i]?

/-- The cell of a row that has just one. -/
def single? (r : Row) : Option Cell :=
  match r.cells with
  | [c] => some c
  | _ => none

end Row

/-- The rows of a result, under shared column names. -/
structure RowSet where
  columns : Option (List String)
  rows : List Row
deriving DecidableEq, Inhabited

namespace RowSet

/-- No columns and no rows. -/
def empty : RowSet := ⟨none, []⟩

/-- Names the columns of the rows to come. -/
def withColumns (s : RowSet) (names : List String) : RowSet :=
  { s with columns := some names }

/-- Adds a row; without named columns it is dropped. -/
def add (s : RowSet) (cells : List Cell) : RowSet :=
  match s.columns with
  | some names => { s with rows := s.rows ++ [⟨names, cells⟩] }
  | none => s

/-- A set of rows under given column names. -/
def of (names : List String) (rows : List (List Cell)) : RowSet :=
  ⟨some names, rows.map fun cells => ⟨names, cells⟩⟩

end RowSet

end SlotQuery
