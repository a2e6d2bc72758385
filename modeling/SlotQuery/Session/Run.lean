import SlotQuery.Batch.Keyword
import SlotQuery.Result.Output
import SlotQuery.Session.Configuration
import SlotQuery.Session.Connection
/-!
# Running statements

`run` takes a template to the driver: prepare it, make a log entry, request the character set, and
run the statement, directly if it has no parameters and by prepare, bind, execute and fetch if it
has.  A prepared statement is closed whatever happened to it.  Then the entry is completed and the
result shaped.  Whether a driver's failure is raised is up to the settings; it is recorded anyway.
-/

namespace SlotQuery.Session

open Act

variable {Address World : Type} (D : Driver Address World)

/-- Binds, executes and fetches the prepared statement, up to the first failure. -/
def runPrepared (c : ConnId) (params : List Param) :
    StateM (Wire World) (Except DriverError Reply) := do
  match ← D.send c (.bind params) with
  | .error e => return .error e
  | .ok _ =>
    match ← D.send c .execute with
    | .error e => return .error e
    | .ok _ => D.send c .fetch

/-- Runs a statement with its parameters. -/
def perform (c : ConnId) (p : Template.Prepared) : StateM (Wire World) (Except Error Reply) := do
  if p.params = [] then
    let reply ← D.send c (.query p.sql)
    return reply.mapError Error.queryFailed
  else
    match ← D.send c (.prepare p.sql) with
    | .error e => return .error (.preparationFailed e)
    | .ok _ =>
      let reply ← runPrepared D c p.params
      let _ ← D.send c .closeStatement
      return reply.mapError Error.executionFailed

/-- Requests the character set and then runs a statement. -/
def performUnder (charset : String) (c : ConnId) (p : Template.Prepared) :
    StateM (Wire World) (Except Error Reply) := do
  match ← D.send c (.charset charset) with
  | .error e => return .error (.queryFailed e)
  | .ok _ => perform D c p

/-- The shape of what a statement brought back. -/
def shape (s : Settings) : Reply → Output
  | .rows set => .ofRows s set.rows
  | .done ok => .bool ok

/-- The number of rows that a statement brought back. -/
def replyRows : Reply → Nat
  | .rows set => set.rows.length
  | .done _ => 0

/-- Completes the entry of a statement that succeeded.  Generated ids are recorded for statements
that insert. -/
def answered (e : LogEntry) (reply : Reply) (affected : Nat) (firstId : Int64) : LogEntry :=
  let e := { e with
    affected := affected
    rowCount := replyRows reply
    result := some (shape e.settings reply) }
  if 0 < affected ∧ Batch.isInsert e.statement then e.withIds firstId affected else e

/-- The ids that are recorded for a statement end beyond the 64-bit integers. -/
def answeredBeyond (statement : String) (affected : Nat) (firstId : Int64) : Bool :=
  0 < affected && Batch.isInsert statement && endsBeyond firstId affected

/-- Runs a prepared template on a connection, and keeps the log. -/
def runOn (c : ConnId) (sql : String) (s : Settings) (p : Template.Prepared) :
    Act World Output := do
  let i ← openEntry D c sql p.sql s p.params
  let reply ← onWire (performUnder D s.charset c p)
  let world := (← get).wire.world
  match reply with
  | .ok reply =>
    amendEntry i fun e => answered e reply (D.affected c world) (D.lastInsertId c world)
    noteOverflow (answeredBeyond p.sql (D.affected c world) (D.lastInsertId c world))
    return shape s reply
  | .error e =>
    amendEntry i fun entry => entry.failed e.driver?
    recordError e
    if s.throwErrors then throw e else return .bool false

/-- Runs a template. -/
def run (sql : String) (s : Settings) : Act World Output := do
  match Template.prepare s sql with
  | .error e => failWith e
  | .ok p =>
    match (← get).session.connection with
    | none => failWith .notConnected
    | some c => runOn D c sql s p

/-- Runs a template under the settings of the session with overrides for this call. -/
def query (sql : String) (changes : Overrides) : Act World Output := do
  run D sql (← effective changes)

/-- Keeps a statement under a name. -/
def saveQuery (name sql : String) : Act World Unit :=
  updateSession fun s => { s with saved := (name, sql) :: s.saved }

/-- Runs the statement saved under a name. -/
def runSaved (name : String) (changes : Overrides) : Act World Output := do
  match (← get).session.savedQuery? name with
  | some sql => query D sql changes
  | none => throw (.notFound (.savedQuery name))

/-- Requests the character set and then runs a script. -/
def performBatch (charset : String) (c : ConnId) (script : String) :
    StateM (Wire World) (Except DriverError Unit) := do
  match ← D.send c (.charset charset) with
  | .error e => return .error e
  | .ok _ => D.send c (.batch script)

/-- Runs a script of statements as one entry of the log. -/
def runBatch (script : String) (s : Settings) : Act World Unit := do
  let condensed := Template.condense s.delimiters script
  let c ← connected
  let i ← openEntry D c script condensed s []
  let result ← onWire (performBatch D s.charset c condensed)
  let world := (← get).wire.world
  match result with
  | .ok _ =>
    amendEntry i fun e => { e with affected := D.affected c world, result := some (.bool true) }
  | .error e =>
    amendEntry i fun entry => entry.failed (some e)
    throw (.queryFailed e)

end SlotQuery.Session
