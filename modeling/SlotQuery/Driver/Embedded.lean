import SlotQuery.Batch.Keyword
import SlotQuery.Driver.Basic
import SlotQuery.Engine.DatabaseName
import SlotQuery.Engine.Store
import SlotQuery.Number.Integer
/-!
# Embedded connections

An embedded connection has the database of an engine right behind it, in memory or in a file.  The
engine knows nothing of character sets and autocommit flags, so the connection keeps them: turning
the flag on while a transaction runs commits it.  The connection also keeps what the newest
statement did to the counters.  Opened again, a file shows what was committed to it, and a database
in memory is empty.

The first id of an insert is reckoned in 64 bits.  Where a step of that leaves them the program
stops; the connection notes that, and whatever it does afterwards does not happen.
-/

namespace SlotQuery

open Batch (Load isInsert)
open Number (FitsInt64 saturated)

/-- A statement in the hands of its user. -/
structure OpenStatement (E : Engine) where
  /-- The statement; an empty text holds none. -/
  statement : Option E.Program
  inserts : Bool
  params : List Cell
  outcome : Option Reply

/-- An embedded connection. -/
structure Embedded (E : Engine) where
  /-- The file of the database; one in memory has none. -/
  file : Option String
  store : Option E.Database
  /-- What the file holds while it is closed. -/
  disk : E.Contents
  charset : String
  autocommit : Bool
  /-- The first id of the newest insert. -/
  lastInsertId : Int64
  affected : Nat
  statement : Option (OpenStatement E)
  /-- The reckoning of an id has left the 64 bits. -/
  overflowed : Bool := false

namespace Embedded

variable {E : Engine}

/-- A new database. -/
def opened (file : Option String) : Embedded E where
  file := file
  store := some (E.opened E.empty)
  disk := E.empty
  charset := ""
  autocommit := true
  lastInsertId := 0
  affected := 0
  statement := none

instance : Inhabited (Embedded E) := ⟨opened none⟩

/-- The name of the database. -/
def database (e : Embedded E) : String :=
  Engine.databaseName e.file

/-- The connection is closed. -/
def isClosed : DriverError := ⟨21, "connection is closed"⟩

/-- There is no outcome to fetch. -/
def notExecuted : DriverError := ⟨21, "statement has not been executed"⟩

/-- There is no statement to execute. -/
def misuse : DriverError := ⟨21, "bad parameter or other API misuse"⟩

/-- The number of parameters does not fit the statement. -/
def wrongCount (expected given : Nat) : DriverError :=
  ⟨25, "statement expects " ++ toString expected ++ " parameters, got " ++ toString given⟩

/-- A line of a staged file has too many or too few fields. -/
def wrongFields (line given expected : Nat) : DriverError :=
  ⟨25, "line " ++ toString line ++ " has " ++ toString given ++ " fields, expected "
    ++ toString expected⟩

/-- The cell that the engine takes a parameter for; it has no NaN. -/
def boundCell (p : Param) : Cell :=
  match p.cell with
  | .float x => if x.kind = .nan then .null else .float x
  | c => c

/-- Runs the statements of a text, if the connection is open. -/
def runAll (e : Embedded E) (sql : String) : Except DriverError Unit × Embedded E :=
  match e.store with
  | none => (.error isClosed, e)
  | some db =>
    let (answer, db) := E.runAll sql db
    (answer, { e with store := some db })

/-- Prepares a statement. -/
def prepare (e : Embedded E) (sql : String) : Except DriverError Unit × Embedded E :=
  match e.store with
  | none => (.error isClosed, e)
  | some db =>
    match E.compile db sql with
    | .error error => (.error error, e)
    | .ok statement => (.ok (), { e with statement := some ⟨statement, isInsert sql, [], none⟩ })

/-- Binds parameters, as many as the statement has. -/
def bind (e : Embedded E) (params : List Param) : Except DriverError Unit × Embedded E :=
  match e.statement with
  | none => (.error misuse, e)
  | some o =>
    let expected := (o.statement.map E.parameters).getD 0
    if expected ≠ params.length then (.error (wrongCount expected params.length), e)
    else (.ok (), { e with statement := some { o with params := params.map boundCell } })

/-- Keeps what a statement did to the counters.  The first id of an insert is reckoned back from the
last one. -/
def record (e : Embedded E) (inserts : Bool) (affected : Nat) (lastId : Int64) : Embedded E :=
  let e := { e with affected := affected }
  if inserts ∧ 0 < affected then
    let count := saturated affected
    { e with
      lastInsertId := lastId - count + 1
      overflowed := e.overflowed || decide (¬ FitsInt64 (lastId.toInt - count.toInt)) }
  else e

/-- What a statement brought back, and the rows that the counter says it changed.  A statement that
brings back rows has changed some only if it inserts. -/
def outcome (inserts : Bool) (rows : Option RowSet) (changes : Nat) : Reply × Nat :=
  match rows with
  | some set => (.rows set, if inserts then changes else 0)
  | none => (.done true, changes)

/-- Executes the prepared statement. -/
def execute (e : Embedded E) : Except DriverError Unit × Embedded E :=
  match e.store, e.statement with
  | some db, some o =>
    match o.statement with
    | none => (.error misuse, e)
    | some p =>
      match E.execute db p o.params with
      | (.error error, db) => (.error error, { e with store := some db })
      | (.ok rows, db) =>
        let (reply, affected) := outcome o.inserts rows (E.changes db)
        let e := { e with store := some db, statement := some { o with outcome := some reply } }
        (.ok (), e.record o.inserts affected (E.lastId db))
  | _, _ => (.error isClosed, e)

/-- Takes the outcome of the prepared statement. -/
def fetch (e : Embedded E) : Except DriverError Reply × Embedded E :=
  match e.statement with
  | none => (.error notExecuted, e)
  | some o =>
    match o.outcome with
    | none => (.error notExecuted, e)
    | some reply => (.ok reply, { e with statement := some { o with outcome := none } })

/-- Lets the prepared statement go. -/
def closeStatement (e : Embedded E) : Embedded E :=
  { e with statement := none }

/-- Runs a statement without parameters. -/
def query (e : Embedded E) (sql : String) : Except DriverError Reply × Embedded E :=
  match e.prepare sql with
  | (.error error, e) => (.error error, e)
  | (.ok _, e) =>
    match e.execute with
    | (.error error, e) => (.error error, e.closeStatement)
    | (.ok _, e) =>
      let (reply, e) := e.fetch
      (reply, e.closeStatement)

/-- Runs several statements; the counter then shows the newest that changed rows. -/
def batch (e : Embedded E) (sql : String) : Except DriverError Unit × Embedded E :=
  match e.runAll sql with
  | (.error error, e) => (.error error, e)
  | (.ok _, e) => (.ok (), { e with affected := (e.store.map E.changes).getD 0 })

/-- Takes a step with the transaction. -/
def take (e : Embedded E) (step : Engine.Step) : Except DriverError Unit × Embedded E :=
  e.runAll step.text

/-- A transaction runs on the database. -/
def inTransaction (e : Embedded E) : Bool :=
  e.store.any fun db => (E.ledger db).transaction.isSome

/-- Sets the autocommit flag; turning it on commits a transaction that runs. -/
def setAutocommit (e : Embedded E) (on : Bool) : Except DriverError Unit × Embedded E :=
  if on ∧ ¬ e.autocommit then
    if e.store.isNone then (.error isClosed, e)
    else if e.inTransaction then
      match e.take .commit with
      | (.ok _, e) => (.ok (), { e with autocommit := on })
      | (.error error, e) => (.error error, e)
    else (.ok (), { e with autocommit := on })
  else (.ok (), { e with autocommit := on })

/-- The database is open and answers. -/
def isAlive (e : Embedded E) : Bool × Embedded E :=
  match e.store with
  | none => (false, e)
  | some db =>
    let (alive, db) := E.probe db
    (alive, { e with store := some db })

/-- What the database holds once it is closed: what was committed, if it is in a file. -/
def kept (e : Embedded E) : E.Contents :=
  match e.file, e.store with
  | none, _ => E.empty
  | some _, some db => (E.ledger db).committed
  | some _, none => e.disk

/-- Closes the database. -/
def close (e : Embedded E) : Embedded E :=
  { e with store := none, disk := e.kept, statement := none }

/-- Opens the database again. -/
def reconnect (e : Embedded E) : Embedded E :=
  { e with
    store := some (E.opened e.kept)
    disk := e.kept
    autocommit := true
    lastInsertId := 0
    affected := 0
    statement := none }

/-- The statement that inserts a line of a staged file. -/
def lineStatement (file : Load) : String :=
  "INSERT INTO " ++ quoteName file.table ++ " (" ++ quoteNames file.columns ++ ") VALUES ("
    ++ ", ".intercalate (file.columns.map fun _ => "?") ++ ")"

/-- The cells of a line of a staged file. -/
def lineCells (file : Load) (line : List Char) : List Cell :=
  (Batch.fields file.terminator line).map fun field =>
    match Batch.decodeField file.nullMarker field with
    | some s => .text s
    | none => .null

/-- Inserts lines one after the other, up to the first that fails.  `count` lines have been inserted
before, the first of them with the id `first`. -/
def insertLines (file : Load) (p : E.Program) :
    Nat → Option Int64 → List (List Char) → E.Database →
      Except DriverError (Nat × Option Int64) × E.Database
  | count, first, [], db => (.ok (count, first), db)
  | count, first, line :: lines, db =>
    let cells := lineCells file line
    if cells.length ≠ file.columns.length then
      (.error (wrongFields (count + 1) cells.length file.columns.length), db)
    else
      match E.execute db p cells with
      | (.error error, db) => (.error error, db)
      | (.ok _, db) => insertLines file p (count + 1) (some (first.getD (E.lastId db))) lines db

/-- Loads a staged file, which can be read; lines inserted before a failure stay. -/
def load (e : Embedded E) (file : Load) : Except DriverError Nat × Embedded E :=
  match e.store with
  | none => (.error isClosed, e)
  | some db =>
    match E.compile db (lineStatement file) with
    | .error error => (.error error, e)
    | .ok none => (.error misuse, e)
    | .ok (some p) =>
      match insertLines file p 0 none (Batch.lines file.contents) db with
      | (.error error, db) => (.error error, { e with store := some db })
      | (.ok (count, first), db) =>
        (.ok count,
          { e with store := some db, affected := count, lastInsertId := first.getD e.lastInsertId })

/-- Answers a request. -/
def respond (e : Embedded E) : (r : Request) → Except DriverError r.Answer × Embedded E
  | .charset name => (.ok (), { e with charset := name })
  | .prepare sql => e.prepare sql
  | .bind params => e.bind params
  | .execute => e.execute
  | .fetch => e.fetch
  | .closeStatement => (.ok (), e.closeStatement)
  | .query sql => e.query sql
  | .batch sql => e.batch sql
  | .begin => e.take .begin
  | .commit => e.take .commit
  | .rollback => e.take .rollback
  | .autocommit on => e.setAutocommit on
  | .isAlive =>
    let (alive, e) := e.isAlive
    (.ok alive, e)
  | .reconnect => (.ok (), e.reconnect)
  | .close => (.ok (), e.close)
  | .load file => e.load file

end Embedded

end SlotQuery
