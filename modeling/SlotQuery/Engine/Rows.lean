import SlotQuery.Cell
import SlotQuery.Engine.Ledger
/-!
# Rows and their ids

A table holds rows in the order of their ids.  The id of a row is its key column where the table has
one, and is kept beside the columns where it has not.
-/

namespace SlotQuery.Engine

/-- A row of a table: its id and a cell for each column. -/
structure Record where
  id : Int64
  cells : List Cell
deriving DecidableEq, Inhabited

/-- A table. -/
structure Table where
  name : String
  columns : List String
  /-- The position of the integer key. -/
  key : Option Nat
  /-- The rows, in the order of their ids. -/
  rows : List Record
deriving DecidableEq, Inhabited

namespace Table

/-- The names of the id beside the one that the key column has. -/
def idNames : List String :=
  ["rowid", "oid", "_rowid_"]

/-- The position of a column. -/
def column? (t : Table) (name : String) : Option Nat :=
  match t.columns.findIdx? fun c => sameName c name with
  | some k => some k
  | none => if idNames.any (sameName name) then t.key else none

/-- The largest id. -/
def lastId? (t : Table) : Option Int64 :=
  t.rows.getLast?.map Record.id

/-- The id of a row that is given none: one more than the largest, and 1 in an empty table. -/
def nextId (t : Table) : Int64 :=
  match t.lastId? with
  | some i => i + 1
  | none => 1

end Table

end SlotQuery.Engine
