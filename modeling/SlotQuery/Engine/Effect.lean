import SlotQuery.Engine.Table
/-!
# What statements of the small engine do

A statement is checked against the tables before it runs: its tables and columns must exist.  What
it then does is an `Effect`, or the engine's error, and an error leaves the tables as they were.
Control of transactions is not a matter of tables and has no effect here.
-/

namespace SlotQuery.Engine

/-- Why a statement cannot be prepared. -/
inductive Fault
  | plain (message : String)
  /-- A fault that points at a place in the statement. -/
  | located (message : String) (offset : Nat)
deriving DecidableEq, Inhabited

/-- The engine's report of a fault in a statement. -/
def Fault.report (sql : String) : Fault → DriverError
  | plain message => ⟨1, message⟩
  | located message offset => ⟨-1, message ++ " in " ++ sql ++ " at offset " ++ toString offset⟩

/-- What a statement does. -/
structure Effect where
  tables : Tables
  /-- The rows that it brings back, if it is one that brings back rows. -/
  rows : Option RowSet
  /-- The rows that it changed, if it is one that changes rows. -/
  changed : Option Nat
  /-- The last id that it gave to a row. -/
  lastId : Option Int64
deriving DecidableEq, Inhabited

namespace Statement

/-- There is no such table. -/
def missing (n : Name) : String :=
  "no such table: " ++ n.text

/-- The table that a statement names. -/
def findTable (ts : Tables) (n : Name) : Except Fault Table :=
  match ts.find? n.text with
  | some t => .ok t
  | none => .error (.plain (missing n))

/-- A column that an expression names must exist. -/
def checkColumn (t : Table) (n : Name) : Except Fault Unit :=
  match t.column? n.text with
  | some _ => .ok ()
  | none => .error (.located ("no such column: " ++ n.text) n.offset)

/-- The columns that are selected must exist. -/
def checkSelected (t : Table) : Selected → Except Fault Unit
  | .column n _ => checkColumn t n
  | .max n _ => checkColumn t n
  | _ => .ok ()

/-- The column of a condition must exist. -/
def checkCondition (t : Table) : Option Condition → Except Fault Unit
  | some c => checkColumn t c.column
  | none => .ok ()

/-- Rows come in the order of their ids, so no other order can be asked for. -/
def checkOrder (t : Table) : Option Name → Except Fault Unit
  | some n => do
    checkColumn t n
    if t.column? n.text ≠ t.key then throw (.plain ("rows do not come in the order of " ++ n.text))
  | none => .ok ()

/-- The first name that is no column of a table. -/
def firstUnknown? (t : Table) (names : List Name) : Option Name :=
  names.find? fun n => (t.column? n.text).isNone

/-- The rows of an insert have one length, and it is the number of columns. -/
def checkRows (columns : List Name) (rows : List (List Item)) : Except Fault Unit :=
  let width := (rows.head?.getD []).length
  if rows.any fun row => row.length ≠ width then
    .error (.plain "all VALUES must have the same number of terms")
  else if width ≠ columns.length then
    .error (.plain (toString width ++ " values for " ++ toString columns.length ++ " columns"))
  else .ok ()

/-- There is such a table already. -/
def taken (n : Name) : String :=
  "table " ++ n.spelling ++ " already exists"

/-- The first column that has the name of one before it. -/
def firstRepeated? (columns : List ColumnSpec) : Option ColumnSpec :=
  let repeats (c : ColumnSpec × Nat) : Bool :=
    (columns.take c.2).any fun d => sameName d.name c.1.name
  (columns.zipIdx.find? repeats).map Prod.fst

/-- A new table needs a name that is free, and columns of different names. -/
def checkCreate (ts : Tables) (table : Name) (columns : List ColumnSpec) : Except Fault Unit :=
  match ts.find? table.text, firstRepeated? columns with
  | some _, _ => .error (.located (taken table) table.offset)
  | none, some c => .error (.plain ("duplicate column name: " ++ c.name))
  | none, none => .ok ()

/-- The tables and columns of a statement must exist, and its rows must fit its columns. -/
def check (ts : Tables) : Statement → Except Fault Unit
  | create table columns => checkCreate ts table columns
  | insert table columns rows returning => do
    let t ← findTable ts table
    match firstUnknown? t columns with
    | some c => throw (.plain ("table " ++ table.text ++ " has no column named " ++ c.text))
    | none =>
      checkRows columns rows
      returning.forM (checkSelected t)
  | update table changes condition => do
    let t ← findTable ts table
    match firstUnknown? t (changes.map Prod.fst) with
    | some c => throw (.plain ("no such column: " ++ c.text))
    | none => checkCondition t condition
  | delete table condition => do
    checkCondition (← findTable ts table) condition
  | select what table condition order => do
    let t ← findTable ts table
    what.forM (checkSelected t)
    checkCondition t condition
    checkOrder t order
  | _ => .ok ()

/-- The statement brings back rows. -/
def hasRows : Statement → Bool
  | insert _ _ _ returning => !returning.isEmpty
  | select .. => true
  | values _ => true
  | _ => false

/-- The statement changes rows, and so sets the counter of changes. -/
def changesRows : Statement → Bool
  | insert .. => true
  | update .. => true
  | delete .. => true
  | _ => false

/-- The step that the statement takes with a transaction, if it is one that does so. -/
def step? : Statement → Option Step
  | begin => some .begin
  | commit => some .commit
  | rollback => some .rollback
  | savepoint name => some (.savepoint name)
  | rollbackTo name => some (.rollbackTo name)
  | _ => none

/-- The cell of an item; a parameter that was not bound is null. -/
def itemCell (params : List Cell) : Item → Cell
  | .param i => params[i]?.getD .null
  | .cell c => c

/-- The rows that meet a condition. -/
def picks (t : Table) (params : List Cell) : Option Condition → Record → Bool
  | none, _ => true
  | some c, r =>
    match t.column? c.column.text with
    | some k => t.meets k (itemCell params c.item) r
    | none => false

/-- The positions and labels of the selected columns. -/
def selectedColumns (t : Table) : Selected → List (Nat × String)
  | .all => t.columns.zipIdx.map fun (name, k) => (k, name)
  | .column n label =>
    match t.column? n.text with
    | some k => [(k, label.getD (t.columns[k]?.getD n.text))]
    | none => []
  | _ => []

/-- The selected columns of rows. -/
def project (t : Table) (what : List Selected) (rs : List Record) : RowSet :=
  let columns := what.flatMap (selectedColumns t)
  .of (columns.map Prod.snd) (rs.map fun r => columns.map fun (k, _) => r.cells[k]?.getD .null)

/-- The larger of two cells, where only the integers of a key are compared. -/
def larger (a b : Cell) : Cell :=
  match a, b with
  | .int i, .int j => if i < j then .int j else .int i
  | .null, c => c
  | c, _ => c

/-- The selection is a largest value. -/
def isMax : Selected → Bool
  | .max .. => true
  | _ => false

/-- The selection is over all rows at once. -/
def isAggregate : Selected → Bool
  | .count _ => true
  | s => isMax s

/-- The row that columns beside a value over all rows are taken from: the first one, but the last
one beside the largest id. -/
def shownRow? (what : List Selected) (rs : List Record) : Option Record :=
  if what.any isMax then rs.getLast? else rs.head?

/-- A value over all rows, or a column beside it, with its label. -/
def aggregate (t : Table) (rs : List Record) (shown : Option Record) :
    Selected → List (String × Cell)
  | .count label => [(label, .int (Int64.ofNat rs.length))]
  | .max n label =>
    match t.column? n.text with
    | some k => [(label, (rs.map fun r => r.cells[k]?.getD .null).foldl larger .null)]
    | none => []
  | s =>
    (selectedColumns t s).map fun (k, label) =>
      (label, (shown.bind fun r => r.cells[k]?).getD .null)

/-- What a selection brings back. -/
def answer (t : Table) (what : List Selected) (rs : List Record) : RowSet :=
  if what.any isAggregate then
    let results := what.flatMap (aggregate t rs (shownRow? what rs))
    .of (results.map Prod.fst) [results.map Prod.snd]
  else project t what rs

/-- The cell that a row gives to the column at a position, and null if it gives none.  Of several
cells the first counts, but for the key the last. -/
def cellAt (t : Table) (given : List (Nat × Cell)) (k : Nat) : Cell :=
  let cells := (given.filter fun g => g.1 = k).map Prod.snd
  (if t.key = some k then cells.getLast? else cells.head?).getD .null

/-- A row of cells in the order of the table's columns. -/
def fullRow (t : Table) (columns : List Name) (cells : List Cell) : List Cell :=
  let given := (columns.zip cells).filterMap fun (n, c) => (t.column? n.text).map fun k => (k, c)
  (List.range t.columns.length).map (cellAt t given)

/-- A table without rows. -/
def newTable (name : String) (columns : List ColumnSpec) : Table where
  name := name
  columns := columns.map ColumnSpec.name
  key := columns.findIdx? ColumnSpec.isKey
  rows := []

/-- The table that a statement works on, which may be gone since the statement was checked. -/
def target (ts : Tables) (n : Name) : Except DriverError Table :=
  match ts.find? n.text with
  | some t => .ok t
  | none => .error ⟨1, missing n⟩

/-- What a statement does with the given parameters. -/
def apply (ts : Tables) (params : List Cell) : Statement → Except DriverError Effect
  | create table columns =>
    match ts.find? table.text with
    | some _ => .error ⟨1, taken table⟩
    | none => .ok ⟨ts ++ [newTable table.text columns], none, none, none⟩
  | insert table columns rows returning => do
    let t ← target ts table
    let cells := rows.map fun row => fullRow t columns (row.map (itemCell params))
    let (t, added) ← t.insertAll cells
    return {
      tables := ts.replace t
      rows := if returning.isEmpty then none else some (project t returning added)
      changed := some added.length
      lastId := added.getLast?.map Record.id }
  | update table changes condition => do
    let t ← target ts table
    let changes := changes.filterMap fun (n, i) =>
      (t.column? n.text).map fun k => (k, itemCell params i)
    let (t, count) ← t.updateRows (picks t params condition) changes
    return ⟨ts.replace t, none, some count, none⟩
  | delete table condition => do
    let t ← target ts table
    let (gone, kept) := t.rows.partition (picks t params condition)
    return ⟨ts.replace { t with rows := kept }, none, some gone.length, none⟩
  | select what table condition _ => do
    let t ← target ts table
    return ⟨ts, some (answer t what (t.rows.filter (picks t params condition))), none, none⟩
  | values items =>
    let row := items.map fun (i, _) => itemCell params i
    .ok ⟨ts, some (.of (items.map Prod.snd) [row]), none, none⟩
  | _ => .ok ⟨ts, none, none, none⟩

/-- The number of rows that a statement inserts, changes or deletes. -/
def concerned (ts : Tables) (params : List Cell) : Statement → Nat
  | insert _ _ rows _ => rows.length
  | update table _ condition | delete table condition =>
    match ts.find? table.text with
    | some t => t.rows.countP (picks t params condition)
    | none => 0
  | _ => 0

end Statement

end SlotQuery.Engine
