import SlotQuery.Driver.Embedded
import SlotQuery.Driver.Scripted
/-!
# A bench of connections

A bench is a world with any number of connections, scripted ones and ones with the database of an
engine behind them, each with faults of its own.  A fault answers in the place of the connection,
which does not see the request; it can also turn the success of a statement into a reported failure.
Connections are numbered in the order of opening and stay on the bench when they are closed, so that
what they were given can be read afterwards.
-/

namespace SlotQuery

/-- What goes wrong with a connection. -/
structure Faults where
  /-- Preparing a statement with the fragment fails. -/
  prepare : List (String × DriverError)
  /-- Binding parameters to such a statement fails. -/
  bind : List (String × DriverError)
  /-- Fetching the outcome of such a statement fails. -/
  fetch : List (String × DriverError)
  /-- Requesting a character set with the fragment in its name fails. -/
  charset : List (String × DriverError)
  /-- Opening the connection again fails. -/
  reconnect : Option DriverError
  /-- Statements with the fragment report that they did not succeed. -/
  unsuccessful : List String
  /-- The connection does not load files itself. -/
  noLoader : Bool
deriving Inhabited

/-- The far end of a connection. -/
inductive Peer (E : Engine)
  | scripted (s : Scripted)
  | embedded (e : Embedded E)
deriving Inhabited

variable {E : Engine}

namespace Peer

/-- Answers a request. -/
def respond (p : Peer E) (r : Request) : Except DriverError r.Answer × Peer E :=
  match p with
  | scripted s =>
    let (answer, s) := s.respond r
    (answer, scripted s)
  | embedded e =>
    let (answer, e) := e.respond r
    (answer, embedded e)

/-- The features of the far end. -/
def capabilities : Peer E → Capabilities
  | scripted s => s.scenario.capabilities
  | embedded _ => .all

/-- The name of the database. -/
def database : Peer E → String
  | scripted s => s.scenario.database
  | embedded e => e.database

/-- The autocommit flag. -/
def autocommit : Peer E → Bool
  | scripted s => s.autocommit
  | embedded e => e.autocommit

/-- The first id of the newest insert. -/
def lastInsertId : Peer E → Int64
  | scripted s => s.lastInsertId
  | embedded e => e.lastInsertId

/-- The rows changed by the newest statement. -/
def affected : Peer E → Nat
  | scripted s => s.affected
  | embedded e => e.affected

/-- The character set that was requested last, where the far end keeps it. -/
def charset? : Peer E → Option String
  | scripted _ => none
  | embedded e => some e.charset

/-- The connection, if it is a scripted one. -/
def scripted? : Peer E → Option Scripted
  | scripted s => some s
  | embedded _ => none

/-- The reckoning of an id has left the 64 bits. -/
def overflowed : Peer E → Bool
  | scripted _ => false
  | embedded e => e.overflowed

end Peer

/-- A connection on the bench. -/
structure Endpoint (E : Engine) where
  faults : Faults
  peer : Peer E
  /-- The statement that was prepared last. -/
  statement : String
deriving Inhabited

namespace Endpoint

/-- The fault that a request runs into. -/
def fault? (e : Endpoint E) : Request → Option DriverError
  | .prepare sql => firstHolding? e.faults.prepare sql
  | .bind _ => firstHolding? e.faults.bind e.statement
  | .fetch => firstHolding? e.faults.fetch e.statement
  | .charset name => firstHolding? e.faults.charset name
  | .reconnect => e.faults.reconnect
  | _ => none

/-- The reply to a statement as the faults let it through. -/
def reported (e : Endpoint E) (sql : String) : Reply → Reply
  | .done true => .done !(e.faults.unsuccessful.any fun fragment => holds fragment sql)
  | reply => reply

/-- The answer to a request as the faults let it through. -/
def passed (e : Endpoint E) : (r : Request) → r.Answer → r.Answer
  | .query sql, reply => e.reported sql reply
  | .fetch, reply => e.reported e.statement reply
  | _, answer => answer

/-- The statement that is in hand after a request. -/
def statementAfter (e : Endpoint E) : Request → String
  | .prepare sql => sql
  | _ => e.statement

/-- Answers a request. -/
def respond (e : Endpoint E) (r : Request) : Except DriverError r.Answer × Endpoint E :=
  match e.fault? r with
  | some error => (.error error, e)
  | none =>
    let (answer, peer) := e.peer.respond r
    (answer.map (e.passed r), { e with peer := peer, statement := e.statementAfter r })

end Endpoint

/-- Connections in the order of opening. -/
structure Bench (E : Engine) where
  endpoints : List (Endpoint E)
deriving Inhabited

namespace Bench

/-- No connections. -/
def empty : Bench E := ⟨[]⟩

/-- There is no such connection. -/
def unknown : DriverError := ⟨21, "connection is closed"⟩

/-- Hangs up on the last scripted connection of a list. -/
def hangUpLast : List (Endpoint E) → List (Endpoint E)
  | [] => []
  | e :: es =>
    if es.any fun e => e.peer.scripted?.isSome then e :: hangUpLast es
    else
      match e.peer with
      | .scripted s => { e with peer := .scripted { s with alive := false } } :: es
      | .embedded _ => e :: es

/-- Answers a request on a connection. -/
def respond (c : ConnId) (r : Request) (b : Bench E) : Except DriverError r.Answer × Bench E :=
  match b.endpoints[c]? with
  | none => (.error unknown, b)
  | some e =>
    let (answer, e) := e.respond r
    (answer, ⟨b.endpoints.set c e⟩)

/-- Reads something off the far end of a connection. -/
def read {α : Type} (default : α) (f : Peer E → α) (c : ConnId) (b : Bench E) : α :=
  (b.endpoints[c]?.map fun e => f e.peer).getD default

/-- The scripted connections in the order of opening. -/
def scripts (b : Bench E) : List Scripted :=
  b.endpoints.filterMap fun e => e.peer.scripted?

/-- The reckoning of an id has left the 64 bits on some connection. -/
def overflowed (b : Bench E) : Bool :=
  b.endpoints.any fun e => e.peer.overflowed

/-- The driver whose world is a bench. -/
def driver : Driver (Endpoint E) (Bench E) where
  dial e b := (b.endpoints.length, ⟨b.endpoints ++ [e]⟩)
  hangUp b := ⟨hangUpLast b.endpoints⟩
  respond := respond
  capabilities := read .all Peer.capabilities
  database := read "" Peer.database
  autocommit := read true Peer.autocommit
  lastInsertId := read 0 Peer.lastInsertId
  affected := read 0 Peer.affected
  loads c b := (b.endpoints[c]?.map fun e => !e.faults.noLoader).getD true

end Bench

end SlotQuery
