import SlotQuery.Engine.Rows
import SlotQuery.Engine.Statement
import SlotQuery.Error
import SlotQuery.Result.Row
/-!
# Tables of the small engine

A statement that changes rows either changes all of its rows or fails and changes none;
`Statement.apply` says what each statement does to the tables and what it brings back.
-/

namespace SlotQuery.Engine

open Number (Binary64 toInt64? readNat? readMagnitude?)

/-- The tables of a database. -/
abbrev Tables := List Table

/-- The table with a name. -/
def Tables.find? (ts : Tables) (name : String) : Option Table :=
  List.find? (fun t => sameName t.name name) ts

/-- Puts a table in the place of the one with its name. -/
def Tables.replace : Tables → Table → Tables
  | [], _ => []
  | u :: ts, t => if u.name = t.name then t :: ts else u :: Tables.replace ts t

namespace Table

/-- An id that is there already. -/
def duplicate (t : Table) : DriverError :=
  let column := (t.key.bind fun k => t.columns[k]?).getD "rowid"
  ⟨1555, "UNIQUE constraint failed: " ++ t.name ++ "." ++ column⟩

/-- An id that is no integer. -/
def mismatch : DriverError := ⟨20, "datatype mismatch"⟩

/-- The integer that a double stands for in the key column; it must lie inside the range. -/
def ofWhole (x : Binary64) : Option Int64 :=
  x.int?.bind fun i => if i = Int64.minValue.toInt then none else toInt64? i

/-- The text without blanks around it. -/
def trimmed (cs : List Char) : List Char :=
  ((cs.dropWhile Lexeme.isSpace).reverse.dropWhile Lexeme.isSpace).reverse

/-- The number that a text spells: an integer of 64 bits with digits alone, and otherwise a double,
which may have a fraction and an exponent. -/
def spelledNumber? (s : String) : Option Cell :=
  let cs := trimmed s.toList
  let (negative, digits) :=
    match cs with
    | '-' :: ds => (true, ds)
    | '+' :: ds => (false, ds)
    | ds => (false, ds)
  let whole? := (readNat? digits).bind fun n => toInt64? (if negative then -n else n)
  match whole? with
  | some i => some (.int i)
  | none => (readMagnitude? negative digits).map .float

/-- A text that spells a number counts as the number beside the key. -/
def asNumber : Cell → Cell
  | .text s => (spelledNumber? s).getD (.text s)
  | c => c

/-- The integer that a cell stands for in the key column. -/
def keyInt? (c : Cell) : Option Int64 :=
  match asNumber c with
  | .int i => some i
  | .float x => ofWhole x
  | _ => none

/-- The id that a cell in the key column gives: `none` leaves the choice to the table. -/
def idOf (c : Cell) : Except DriverError (Option Int64) :=
  match c with
  | .null => .ok none
  | c =>
    match keyInt? c with
    | some i => .ok (some i)
    | none => .error mismatch

/-- Puts a row in its place among rows in the order of their ids. -/
def insertSorted (r : Record) : List Record → List Record
  | [] => [r]
  | s :: rs => if r.id < s.id then r :: s :: rs else s :: insertSorted r rs

/-- Some row has the id. -/
def hasId (t : Table) (i : Int64) : Bool :=
  t.rows.any fun r => r.id = i

/-- Adds a row with an id. -/
def add (t : Table) (i : Int64) (cells : List Cell) : Except DriverError (Table × Record) :=
  if t.hasId i then .error t.duplicate
  else
    let cells :=
      match t.key with
      | some k => cells.set k (.int i)
      | none => cells
    let r : Record := ⟨i, cells⟩
    .ok ({ t with rows := insertSorted r t.rows }, r)

/-- Adds a row of cells, in the order of the columns.  The key cell gives the id; null leaves the
choice to the table. -/
def insert (t : Table) (cells : List Cell) : Except DriverError (Table × Record) := do
  let given ←
    match t.key.bind fun k => cells[k]? with
    | some c => idOf c
    | none => .ok none
  t.add (given.getD t.nextId) cells

/-- Adds rows one after the other. -/
def insertAll (t : Table) : List (List Cell) → Except DriverError (Table × List Record)
  | [] => .ok (t, [])
  | cells :: more => do
    let (t, r) ← t.insert cells
    let (t, rs) ← t.insertAll more
    return (t, r :: rs)

/-- Two cells are equal in a condition.  Null equals nothing, and numbers equal by value. -/
def cellsEqual (a b : Cell) : Bool :=
  match a, b with
  | .null, _ | _, .null => false
  | .int i, .float x | .float x, .int i => x.equalsInt i.toInt
  | .float x, .float y => x = y || (x.equalsInt 0 && y.equalsInt 0)
  | a, b => a = b

/-- The row meets a condition on the column at a position. -/
def meets (t : Table) (k : Nat) (c : Cell) (r : Record) : Bool :=
  let operand := if t.key = some k then asNumber c else c
  cellsEqual (r.cells[k]?.getD .null) operand

/-- Writes cells at positions of a row.  Writing the key gives the row a new id. -/
def changeRow (t : Table) (changes : List (Nat × Cell)) (r : Record) :
    Except DriverError Record := do
  let cells := changes.foldl (fun cells (k, c) => cells.set k c) r.cells
  match t.key with
  | none => return ⟨r.id, cells⟩
  | some k =>
    match ← idOf (cells[k]?.getD .null) with
    | some i => return ⟨i, cells.set k (.int i)⟩
    | none => throw mismatch

/-- Changes the rows that a test picks, one after the other. -/
def updateRows (t : Table) (picks : Record → Bool) (changes : List (Nat × Cell)) :
    Except DriverError (Table × Nat) :=
  let step (acc : Table × Nat) (r : Record) : Except DriverError (Table × Nat) :=
    let (t, n) := acc
    if ¬ picks r then .ok (t, n)
    else do
      let changed ← t.changeRow changes r
      let others := t.rows.filter fun s => s.id ≠ r.id
      if others.any fun s => s.id = changed.id then throw t.duplicate
      return ({ t with rows := insertSorted changed others }, n + 1)
  t.rows.foldlM step (t, 0)

end Table

end SlotQuery.Engine
