import SlotQuery.Result.Row
import SlotQuery.Settings.Basic
/-!
# The shape of results

A result reaches the caller in one of five shapes.  `Output.ofRows` chooses among them by the
number of rows, their widths and three settings.
-/

namespace SlotQuery

/-- A result as the caller sees it. -/
inductive Output
  /-- The outcome of a statement; also `false` in place of no rows. -/
  | bool (b : Bool)
  /-- The value of one row with one column. -/
  | scalar (c : Cell)
  /-- One row. -/
  | row (r : Row)
  /-- The values of rows with one column each. -/
  | scalars (cs : List Cell)
  /-- Rows in their order. -/
  | rows (rs : List Row)
deriving DecidableEq, Inhabited

namespace Output

/-- Everything but the outcome `false`. -/
def isSuccess (o : Output) : Bool :=
  o ≠ bool false

/-- The number of rows that the output stands for. -/
def rowCount : Output → Nat
  | bool _ => 0
  | scalar _ => 1
  | row _ => 1
  | scalars cs => cs.length
  | rows rs => rs.length

/-- The single value. -/
def scalar? : Output → Option Cell
  | scalar c => some c
  | _ => none

/-- The single row. -/
def row? : Output → Option Row
  | row r => some r
  | _ => none

/-- The rows. -/
def rows? : Output → Option (List Row)
  | rows rs => some rs
  | _ => none

/-- The values. -/
def scalars? : Output → Option (List Cell)
  | scalars cs => some cs
  | _ => none

/-- Every row has one value. -/
def singleColumn (rs : List Row) : Bool :=
  rs.all fun r => r.cells.length = 1

/-- One row on its own: its value if it should collapse and has just one, else the row. -/
def ofRow (s : Settings) (r : Row) : Output :=
  if s.omitSingleKey ∧ r.cells.length = 1 then
    match r.single? with
    | some c => scalar c
    | none => bool false
  else row r

/-- Rows in a list: their values if they should collapse and have one each, else the rows. -/
def ofList (s : Settings) (rs : List Row) : Output :=
  if s.omitSingleKey ∧ singleColumn rs then scalars (rs.filterMap Row.single?) else rows rs

/-- The shape of a list of rows. -/
def ofRows (s : Settings) (rs : List Row) : Output :=
  match rs with
  | [] => if s.noRowsAsArray then rows [] else bool false
  | [r] => if s.rowsIndexed then ofList s [r] else ofRow s r
  | rs => ofList s rs

end Output

end SlotQuery
