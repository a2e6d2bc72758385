import SlotQuery.Engine.Rows
import SlotQuery.Error
import SlotQuery.Result.Row
/-!
# Database engines

An embedded connection has a database engine right behind it.  Which engine that is stays open: it
is given by what a database holds, by how the first statement of a text is compiled, by how a
statement is executed, and by two counters.  What a connection makes of this, one statement to a
text or several, is the same for every engine.

The last fields are not for running anything.  They say what a statement is about and what a table
looks like, so that it can be said of an engine what its statements do.  Nothing is assumed of any
field here.
-/

namespace SlotQuery

/-- A database engine. -/
structure Engine where
  /-- What a database holds. -/
  Contents : Type
  /-- An open database. -/
  Database : Type
  /-- A compiled statement. -/
  Program : Type
  /-- The contents of a new database. -/
  empty : Contents
  /-- Opens a database. -/
  opened : Contents → Database
  /-- What an open database holds, and the transaction that runs on it. -/
  ledger : Database → Engine.Ledger Contents
  /-- Compiles the first statement of a text, and returns the text after it.  There may be no
  statement in it, only blanks and comments. -/
  compileFirst : Database → String → Except DriverError (Option Program × String)
  /-- The number of parameters of a statement. -/
  parameters : Program → Nat
  /-- Executes a statement, and returns rows if it is one that brings back rows. -/
  execute : Database → Program → List Cell → Except DriverError (Option RowSet) × Database
  /-- The counter of changed rows. -/
  changes : Database → Nat
  /-- The newest id that was given to a row. -/
  lastId : Database → Int64
  /-- What a statement controls of a transaction, if it is one that does. -/
  control? : Program → Option Engine.Control
  /-- The statement inserts, updates or deletes rows. -/
  writes : Program → Bool
  /-- The number of rows that a statement inserts, updates or deletes. -/
  changed : Database → Program → List Cell → Nat
  /-- The table with a name.  Its integer key is shown where nothing beside it changes what an
  insert does, such as a trigger or a clause by which rows are passed over. -/
  table? : Contents → String → Option Engine.Table
  /-- The second cell may be what a row keeps of the first one, which it is given. -/
  keeps : Cell → Cell → Prop

namespace Engine

variable (E : Engine)

/-- A text that holds a statement is refused where none may follow.  The statements in it are
compiled first, and a fault in one of them is what is reported. -/
def refuseTail (db : E.Database) : Nat → String → Except DriverError Unit
  | 0, _ => .ok ()
  | fuel + 1, sql => do
    match ← E.compileFirst db sql with
    | (none, _) => return
    | (some _, rest) =>
      refuseTail db fuel rest
      throw ⟨-1, "Multiple statements provided"⟩

/-- Prepares a text: its one statement, or `none` where it holds no statement. -/
def compile (db : E.Database) (sql : String) : Except DriverError (Option E.Program) := do
  let (first, rest) ← E.compileFirst db sql
  E.refuseTail db sql.length rest
  return first

/-- Runs the statements of a text one after the other, up to the first that fails. -/
def runFrom : Nat → String → E.Database → Except DriverError Unit × E.Database
  | 0, _, db => (.ok (), db)
  | fuel + 1, sql, db =>
    match E.compileFirst db sql with
    | .error e => (.error e, db)
    | .ok (none, _) => (.ok (), db)
    | .ok (some p, rest) =>
      match E.execute db p [] with
      | (.error e, db) => (.error e, db)
      | (.ok _, db) => runFrom fuel rest db

/-- Runs the statements of a text. -/
def runAll (sql : String) (db : E.Database) : Except DriverError Unit × E.Database :=
  E.runFrom (sql.length + 1) sql db

/-- The text that tells whether a database answers. -/
def question : String := "SELECT 1"

/-- The database answers with an integer. -/
def probe (db : E.Database) : Bool × E.Database :=
  match E.compile db question with
  | .ok (some p) =>
    match E.execute db p [] with
    | (.ok (some set), db) =>
      let first := set.rows.head?.bind fun r => r.cells[0]?
      ((first.bind Cell.int?).isSome, db)
    | (_, db) => (false, db)
  | _ => (false, db)

end Engine

end SlotQuery
