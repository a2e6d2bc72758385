import SlotQuery.Batch.Staged
import SlotQuery.Result.Row
/-!
# Drivers

A driver is everything behind a connection.  It is given by a world and by how that world answers:
`Driver.respond` takes a request on a connection and returns the answer, or the driver's error, with
the world afterwards.  Nothing is assumed about the answers, so whatever is proved of a session for
every driver holds for every pattern of failures.

Between a session and its driver lies a wire.  `Driver.send` is the only way to make a request; it
writes every request and how it ended to the wire's trace, in the order of events.
-/

namespace SlotQuery

open Batch (Load)

/-- The features that a driver offers. -/
structure Capabilities where
  preparedStatements : Bool
  transactions : Bool
  savepoints : Bool
  bulkLoad : Bool
deriving DecidableEq, Inhabited

/-- Every feature. -/
def Capabilities.all : Capabilities := ⟨true, true, true, true⟩

/-- What a statement brings back. -/
inductive Reply
  /-- Rows, possibly none. -/
  | rows (set : RowSet)
  /-- No rows, and whether the statement succeeded. -/
  | done (ok : Bool)
deriving DecidableEq, Inhabited

/-- What can be asked of a connection. -/
inductive Request
  | charset (name : String)
  | prepare (sql : String)
  /-- Binds parameters to the prepared statement. -/
  | bind (params : List Param)
  | execute
  /-- Takes the outcome of the prepared statement. -/
  | fetch
  | closeStatement
  /-- Runs one statement without parameters. -/
  | query (sql : String)
  /-- Runs several statements. -/
  | batch (sql : String)
  | begin
  | commit
  | rollback
  | autocommit (on : Bool)
  | isAlive
  | reconnect
  | close
  | load (file : Load)
deriving DecidableEq, Inhabited

/-- The answer to a request that succeeds. -/
abbrev Request.Answer : Request → Type
  | fetch => Reply
  | query _ => Reply
  | isAlive => Bool
  | load _ => Nat
  | _ => Unit

/-- The number of a connection, in the order of opening. -/
abbrev ConnId := Nat

/-- A world with connections in it.  `Address` says where a connection can be opened. -/
structure Driver (Address World : Type) where
  /-- Opens a connection. -/
  dial : Address → World → ConnId × World
  /-- The far end of the newest connection hangs up. -/
  hangUp : World → World
  respond : ConnId → (r : Request) → World → Except DriverError r.Answer × World
  capabilities : ConnId → World → Capabilities
  database : ConnId → World → String
  autocommit : ConnId → World → Bool
  /-- The first id of the newest insert. -/
  lastInsertId : ConnId → World → Int64
  /-- The rows changed by the newest statement. -/
  affected : ConnId → World → Nat
  /-- The connection loads staged files itself; otherwise the load statement is sent. -/
  loads : ConnId → World → Bool

/-- What happens on a wire. -/
inductive Event
  | sent (c : ConnId) (r : Request)
  /-- The newest open request succeeded. -/
  | accepted
  /-- The newest open request failed. -/
  | refused (e : DriverError)
  /-- The connection was asked whether it is alive, and this is the answer. -/
  | alive (c : ConnId) (answer : Bool)
deriving DecidableEq, Inhabited

/-- A world and what has been asked of it, oldest first. -/
structure Wire (World : Type) where
  world : World
  trace : List Event

namespace Driver

variable {Address World : Type} (D : Driver Address World)

/-- Writes an event to the trace. -/
def note (e : Event) : StateM (Wire World) Unit :=
  modify fun w => { w with trace := w.trace ++ [e] }

/-- How a request ended. -/
def ending {α : Type} : Except DriverError α → Event
  | .ok _ => .accepted
  | .error e => .refused e

/-- Makes a request. -/
def send (c : ConnId) (r : Request) : StateM (Wire World) (Except DriverError r.Answer) := do
  note (.sent c r)
  let w ← get
  let (answer, world) := D.respond c r w.world
  set { w with world }
  note (ending answer)
  return answer

/-- The events of a request and of how it ended. -/
def call {α : Type} (c : ConnId) (r : Request) (answer : Except DriverError α) : List Event :=
  [.sent c r, ending answer]

theorem send_eq (c : ConnId) (r : Request) (w : Wire World) :
    D.send c r w = ((D.respond c r w.world).1,
      { world := (D.respond c r w.world).2
        trace := w.trace ++ call c r (D.respond c r w.world).1 }) := by
  show (_, _) = _
  simp [call]

/-- Asks whether a connection is alive; a connection that cannot answer is not. -/
def isAlive (c : ConnId) : StateM (Wire World) Bool := do
  let w ← get
  let (answer, world) := D.respond c .isAlive w.world
  let alive :=
    match answer with
    | .ok b => b
    | .error _ => false
  set { w with world }
  note (.alive c alive)
  return alive

/-- Loads a staged file and returns the number of rows.  A connection that does not load files
itself is sent the load statement. -/
def load (c : ConnId) (file : Load) : StateM (Wire World) (Except DriverError Nat) := do
  let w ← get
  if D.loads c w.world then D.send c (.load file)
  else
    note (.sent c (.load file))
    let answer ← D.send c (.query file.statement)
    note (ending answer)
    let w ← get
    return answer.map fun _ => D.affected c w.world

/-- Opens a connection and, if asked to, sets its autocommit flag at once. -/
def openConnection (address : Address) (autocommit : Option Bool) :
    StateM (Wire World) (Except DriverError ConnId) := do
  let w ← get
  let (c, world) := D.dial address w.world
  set { w with world }
  match autocommit with
  | none => return .ok c
  | some on =>
    let answer ← D.send c (.autocommit on)
    return answer.map fun _ => c

end Driver

end SlotQuery
