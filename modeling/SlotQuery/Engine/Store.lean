import SlotQuery.Engine.Basic
import SlotQuery.Engine.Effect
/-!
# A small engine

The small engine keeps its tables in lists.  A store is one of its open databases: the tables with
the transaction that is running on them, and two counters that outlive rollbacks.
-/

namespace SlotQuery.Engine

/-- An open database. -/
structure Store where
  ledger : Ledger Tables
  /-- The rows changed by the newest statement that changes rows. -/
  changes : Nat
  /-- The newest id that the store gave to a row. -/
  lastId : Int64
deriving DecidableEq, Inhabited

namespace Store

/-- A database that has just been opened. -/
def opened (tables : Tables) : Store := ⟨⟨tables, none⟩, 0, 0⟩

/-- A report of the engine with the general code. -/
def failure (message : String) : DriverError := ⟨1, message⟩

/-- Why a step is refused. -/
def refusal : Step → DriverError
  | .begin => failure "cannot start a transaction within a transaction"
  | .commit => failure "cannot commit - no transaction is active"
  | .rollback => failure "cannot rollback - no transaction is active"
  | .savepoint name | .rollbackTo name => failure ("no such savepoint: " ++ name)

/-- Takes a step with the transaction. -/
def take (s : Store) (step : Step) : Except DriverError (Option RowSet) × Store :=
  match s.ledger.after step with
  | some l => (.ok none, { s with ledger := l })
  | none => (.error (refusal step), s)

/-- Runs a statement that is no control of transactions.  One that changes rows and fails leaves the
counter of changes at zero. -/
def change (s : Store) (statement : Statement) (params : List Cell) :
    Except DriverError (Option RowSet) × Store :=
  match statement.apply s.ledger.contents params with
  | .ok e =>
    (.ok e.rows,
      { ledger := { s.ledger with contents := e.tables }
        changes := e.changed.getD s.changes
        lastId := e.lastId.getD s.lastId })
  | .error e => (.error e, if statement.changesRows then { s with changes := 0 } else s)

/-- Runs a statement. -/
def execute (s : Store) (statement : Statement) (params : List Cell) :
    Except DriverError (Option RowSet) × Store :=
  match statement.step? with
  | some step => s.take step
  | none => s.change statement params

/-- Why a text cannot be prepared, as the engine reports it. -/
def misread (sql : String) : Statement.Misread → DriverError
  | .misplaced spelling offset =>
    (Fault.located ("near \"" ++ spelling ++ "\": syntax error") offset).report sql
  | .unrecognized spelling offset =>
    (Fault.located ("unrecognized token: \"" ++ spelling ++ "\"") offset).report sql
  | .incomplete => failure "incomplete input"

/-- Reads and checks the first statement of a text, which comes with the number of its parameters;
also returns the text after it. -/
def compileFirst (s : Store) (sql : String) :
    Except DriverError (Option (Statement × Nat) × String) :=
  match Statement.read sql.toList with
  | .error m => .error (misread sql m)
  | .ok (none, rest) => .ok (none, String.ofList rest)
  | .ok (some (statement, params), rest) =>
    match statement.check s.ledger.contents with
    | .error f => .error (f.report sql)
    | .ok _ => .ok (some (statement, params), String.ofList rest)

end Store

/-- The small engine. -/
@[reducible]
def small : Engine where
  Contents := Tables
  Database := Store
  Program := Statement × Nat
  empty := []
  opened := .opened
  ledger := Store.ledger
  compileFirst := Store.compileFirst
  parameters := Prod.snd
  execute s p params := s.execute p.1 params
  changes := Store.changes
  lastId := Store.lastId
  control? p := p.1.step?.map .step
  writes p := p.1.changesRows
  changed s p params := p.1.concerned s.ledger.contents params
  table? := Tables.find?
  keeps := Eq

end SlotQuery.Engine
