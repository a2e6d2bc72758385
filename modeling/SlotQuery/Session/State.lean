import SlotQuery.Driver.Basic
import SlotQuery.Session.Report
/-!
# The state of a session

A session holds at most one connection, a layer of settings, a log, the message of its newest error,
saved queries, and the units of work that are running on it, innermost first.  Around it stand the
wire to the driver, the settings of the process, a clock, and the reports of scripts.

An action of a session (`Act`) changes this state and either returns a value or fails with an error;
what it changed before it failed stays changed.

Ids are reckoned in 64 bits.  Where a step of that leaves them the program stops, without a value
and without an error of its own.  The state notes that it has come to this (`State.overflowed`), and
the note stays; whatever an action does afterwards does not happen.
-/

namespace SlotQuery

/-- A running unit of work. -/
structure Scope where
  /-- The savepoint that guards the unit; the outermost one has none. -/
  savepoint : Option String
  /-- The unit has committed or rolled back itself. -/
  settled : Bool
deriving DecidableEq, Inhabited

/-- A session. -/
structure Session where
  connection : Option ConnId
  /-- The settings of the session, once it is configured. -/
  settings : Option Settings
  log : List LogEntry
  lastError : Option String
  saved : List (String × String)
  /-- The running units of work, innermost first. -/
  scopes : List Scope
deriving DecidableEq, Inhabited

namespace Session

/-- A session without a connection. -/
def new : Session := ⟨none, none, [], none, [], []⟩

/-- A unit of work is running. -/
def inTransaction (s : Session) : Bool :=
  !s.scopes.isEmpty

/-- The settings of the session, or those of the process while it has none of its own. -/
def currentSettings (defaults : Settings) (s : Session) : Settings :=
  s.settings.getD defaults

/-- The statement saved under a name. -/
def savedQuery? (s : Session) (name : String) : Option String :=
  (s.saved.find? fun q => q.1 = name).map Prod.snd

/-- The ids recorded by the newest entry of the log. -/
def lastInsertIds (s : Session) : List Int64 :=
  (s.log.getLast?.map LogEntry.insertIds).getD []

end Session

/-- A session and what stands around it. -/
structure State (World : Type) where
  wire : Wire World
  session : Session
  /-- The settings of the process. -/
  defaults : Settings
  /-- The readings of the clock that are still to come; readings may repeat. -/
  clock : Nat → Nat
  /-- What scripts have reported, oldest first. -/
  reports : List Report
  /-- The reckoning of an id has left the 64 bits. -/
  overflowed : Bool := false

/-- The state after a reckoning that may have left the 64 bits. -/
def State.reckoned {World : Type} (s : State World) (beyond : Bool) : State World :=
  { s with overflowed := s.overflowed || beyond }

/-- An action of a session: from a state to a value or an error, and a state. -/
def Act (World α : Type) : Type :=
  State World → Except Error α × State World

namespace Act

variable {World α β : Type}

/-- Runs an action in a state. -/
def run (a : Act World α) (s : State World) : Except Error α × State World :=
  a s

instance : Monad (Act World) where
  pure a := fun s => (.ok a, s)
  bind a f := fun s =>
    match a s with
    | (.ok v, s') => f v s'
    | (.error e, s') => (.error e, s')

instance : MonadStateOf (State World) (Act World) where
  get := fun s => (.ok s, s)
  set s := fun _ => (.ok (), s)
  modifyGet f := fun s => (.ok (f s).1, (f s).2)

instance : MonadExceptOf Error (Act World) where
  throw e := fun s => (.error e, s)
  tryCatch a handler := fun s =>
    match a s with
    | (.ok v, s') => (.ok v, s')
    | (.error e, s') => handler e s'

@[simp] theorem run_pure (a : α) (s : State World) : run (pure a) s = (.ok a, s) := rfl

@[simp] theorem run_get (s : State World) :
    run (get : Act World (State World)) s = (.ok s, s) := rfl

theorem run_bind (a : Act World α) (f : α → Act World β) (s : State World) :
    run (a >>= f) s =
      match run a s with
      | (.ok v, s') => run (f v) s'
      | (.error e, s') => (.error e, s') := rfl

theorem run_bind_of_ok {a : Act World α} {f : α → Act World β} {s s' : State World} {v : α}
    (h : run a s = (.ok v, s')) : run (a >>= f) s = run (f v) s' := by
  rw [run_bind, h]

theorem run_bind_of_error {a : Act World α} {f : α → Act World β} {s s' : State World} {e : Error}
    (h : run a s = (.error e, s')) : run (a >>= f) s = (.error e, s') := by
  rw [run_bind, h]

/-- Runs an action and returns how it ended; this does not fail. -/
def observe (a : Act World α) : Act World (Except Error α) := fun s =>
  (.ok (a s).1, (a s).2)

/-- Fails as the given outcome did. -/
def orThrow : Except Error α → Act World α
  | .ok a => pure a
  | .error e => throw e

/-- An action on the wire; this does not fail. -/
def onWire (m : StateM (Wire World) α) : Act World α := fun s =>
  (.ok (m s.wire).1, { s with wire := (m s.wire).2 })

/-- Changes the session. -/
def updateSession (f : Session → Session) : Act World Unit :=
  modify fun s => { s with session := f s.session }

/-- Reads the clock. -/
def tick : Act World Nat :=
  modifyGet fun s => (s.clock 0, { s with clock := fun n => s.clock (n + 1) })

/-- Keeps the message of an error as the newest. -/
def recordError (e : Error) : Act World Unit :=
  updateSession fun s => { s with lastError := some e.message }

/-- Fails, and keeps the message. -/
def failWith (e : Error) : Act World α := do
  recordError e
  throw e

/-- The connection of the session, if it has one. -/
def connected : Act World ConnId := do
  match (← get).session.connection with
  | some c => return c
  | none => throw .notConnected

/-- Adds an entry to the log and returns its position. -/
def pushEntry (e : LogEntry) : Act World Nat := do
  let s ← get
  updateSession fun s => { s with log := s.log ++ [e] }
  return s.session.log.length

/-- Changes the entry at a position, if the log has one. -/
def amendEntry (i : Nat) (f : LogEntry → LogEntry) : Act World Unit :=
  updateSession fun s => { s with log := s.log.modify i f }

/-- Notes whether a reckoning has left the 64 bits. -/
def noteOverflow (beyond : Bool) : Act World Unit :=
  modify fun s => s.reckoned beyond

/-- Makes an entry for a statement on a connection. -/
def openEntry {Address : Type} (D : Driver Address World) (c : ConnId) (query statement : String)
    (settings : Settings) (params : List Param) : Act World Nat := do
  let now ← tick
  let s ← get
  pushEntry (.opening now query statement (D.database c s.wire.world) settings params)

@[simp] theorem run_observe (a : Act World α) (s : State World) :
    run (observe a) s = (.ok (run a s).1, (run a s).2) := rfl

@[simp] theorem run_orThrow (r : Except Error α) (s : State World) :
    run (orThrow r) s = (r, s) := by
  cases r <;> rfl

@[simp] theorem run_onWire (m : StateM (Wire World) α) (s : State World) :
    run (onWire m) s = (.ok (m s.wire).1, { s with wire := (m s.wire).2 }) := rfl

@[simp] theorem run_updateSession (f : Session → Session) (s : State World) :
    run (updateSession f) s = (.ok (), { s with session := f s.session }) := rfl

@[simp] theorem run_tick (s : State World) :
    run tick s = (.ok (s.clock 0), { s with clock := fun n => s.clock (n + 1) }) := rfl

/-- What follows a look at the state runs in the same one.  So it is with each of the actions above:
what follows it in a row of actions runs in the state that it leaves. -/
@[simp] theorem run_get_bind (f : State World → Act World β) (s : State World) :
    run (get >>= f) s = run (f s) s := rfl

@[simp] theorem run_pure_bind (a : α) (f : α → Act World β) (s : State World) :
    run (pure a >>= f) s = run (f a) s := rfl

@[simp] theorem run_observe_bind (a : Act World α) (f : Except Error α → Act World β)
    (s : State World) : run (observe a >>= f) s = run (f (run a s).1) (run a s).2 := rfl

@[simp] theorem run_onWire_bind (m : StateM (Wire World) α) (f : α → Act World β)
    (s : State World) :
    run (onWire m >>= f) s = run (f (m s.wire).1) { s with wire := (m s.wire).2 } := rfl

@[simp] theorem run_updateSession_bind (g : Session → Session) (f : Unit → Act World β)
    (s : State World) :
    run (updateSession g >>= f) s = run (f ()) { s with session := g s.session } := rfl

@[simp] theorem run_tick_bind (f : Nat → Act World β) (s : State World) :
    run (tick >>= f) s = run (f (s.clock 0)) { s with clock := fun n => s.clock (n + 1) } := rfl

@[simp] theorem run_amendEntry_bind (i : Nat) (g : LogEntry → LogEntry) (f : Unit → Act World β)
    (s : State World) :
    run (amendEntry i g >>= f) s =
      run (f ()) { s with session := { s.session with log := s.session.log.modify i g } } := rfl

@[simp] theorem run_noteOverflow_bind (beyond : Bool) (f : Unit → Act World β) (s : State World) :
    run (noteOverflow beyond >>= f) s = run (f ()) (s.reckoned beyond) := rfl

theorem run_connected {s : State World} {c : ConnId} (h : s.session.connection = some c) :
    run connected s = (.ok c, s) := by
  unfold connected
  simp [h]

end Act

end SlotQuery
