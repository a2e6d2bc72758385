import SlotQuery.Session.Run
/-!
# Units of work

`transact` runs a unit of work so that it happens as a whole or not at all.  The outermost unit owns
the driver's transaction and the autocommit flag: the flag goes off, the transaction begins, and it
commits when the unit succeeds without having settled it, or rolls back when the unit fails; then
the flag gets its old value back.  A unit inside another is guarded by a savepoint instead, to which
the database is rolled back when the unit fails.

A unit that fails has its error recorded; the caller either gets the error or is told that there is
no value.  What cannot even start fails at once.
-/

namespace SlotQuery.Session

open Act

variable {Address World α : Type} (D : Driver Address World)

/-- Sends a statement for its effect alone. -/
def issue (sql : String) : Act World Unit := do
  let c ← connected
  match ← onWire (D.send c (.query sql)) with
  | .ok _ => return
  | .error e => throw (.queryFailed e)

/-- Sends a request whose failure is a failed query. -/
def control (c : ConnId) (r : Request) : Act World r.Answer := do
  match ← onWire (D.send c r) with
  | .ok a => return a
  | .error e => throw (.queryFailed e)

/-- The statement that sets a savepoint. -/
def savepointStatement (name : String) : String :=
  "SAVEPOINT " ++ quoteName name

/-- The statement that rolls back to a savepoint. -/
def rollbackToStatement (name : String) : String :=
  "ROLLBACK TO SAVEPOINT " ++ quoteName name

/-- Sets a savepoint. -/
def savepoint (name : String) : Act World Unit :=
  issue D (savepointStatement name)

/-- Rolls back to a savepoint. -/
def rollbackTo (name : String) : Act World Unit :=
  issue D (rollbackToStatement name)

/-- Marks the innermost unit as settled. -/
def settle : Act World Unit :=
  updateSession fun s =>
    { s with scopes := s.scopes.modifyHead fun scope => { scope with settled := true } }

/-- The savepoint of the innermost unit. -/
def guard? : Act World (Option String) := do
  return (← get).session.scopes.head?.bind Scope.savepoint

/-- Commits now.  A unit inside another only counts as settled. -/
def commit : Act World Unit := do
  settle
  match ← guard? with
  | some _ => return
  | none =>
    let c ← connected
    control D c .commit

/-- Rolls back the innermost unit: the transaction, or back to the unit's savepoint. -/
def rollback : Act World Unit := do
  settle
  match ← guard? with
  | some name => rollbackTo D name
  | none =>
    let c ← connected
    control D c .rollback

/-- Rolls back without minding how that ends. -/
def rollbackQuietly : Act World Unit := do
  match (← get).session.connection with
  | none => return
  | some c =>
    let _ ← onWire (D.send c .rollback)
    return

/-- Commits, or rolls back if that fails. -/
def commitOrRollback : Act World Unit := do
  let c ← connected
  match ← onWire (D.send c .commit) with
  | .ok _ => return
  | .error e =>
    rollbackQuietly D
    throw (.queryFailed e)

/-- Opens a dead connection again, without minding how that ends. -/
def revive : Act World Unit := do
  match (← get).session.connection with
  | none => return
  | some c =>
    if ← onWire (D.isAlive c) then return
    let _ ← onWire (D.send c .reconnect)
    return

/-- Runs work as a unit; returns how it ended and whether it settled itself. -/
def within (savepoint : Option String) (work : Act World α) :
    Act World (Except Error α × Bool) := do
  updateSession fun s => { s with scopes := ⟨savepoint, false⟩ :: s.scopes }
  let result ← observe work
  let settled := ((← get).session.scopes.head?.map Scope.settled).getD false
  updateSession fun s => { s with scopes := s.scopes.tail }
  return (result, settled)

/-- Gives the autocommit flag its old value back, which can spoil a success. -/
def restore (prior : Bool) (result : Except Error α) : Act World (Except Error α) := do
  match (← get).session.connection with
  | none => return result
  | some c =>
    match ← onWire (D.send c (.autocommit prior)), result with
    | .error e, .ok _ => return .error (.queryFailed e)
    | _, _ => return result

/-- Ends the transaction of an outermost unit. -/
def conclude : Except Error α × Bool → Act World (Except Error α)
  | (.ok a, true) => return .ok a
  | (.ok a, false) => do
    let ended ← observe (commitOrRollback D)
    return ended.map fun _ => a
  | (.error e, _) => do
    rollbackQuietly D
    return .error e

/-- Runs work as the outermost unit.  Fails only where the transaction cannot start. -/
def outermost (work : Act World α) : Act World (Except Error α) := do
  let c ← connected
  let prior := D.autocommit c (← get).wire.world
  control D c (.autocommit false)
  match ← onWire (D.send c .begin) with
  | .error e =>
    let _ ← onWire (D.send c (.autocommit prior))
    throw (.queryFailed e)
  | .ok _ =>
    let result ← conclude D (← within none work)
    restore D prior result

/-- A number in twenty digits. -/
def stamp (n : Nat) : String :=
  let digits := toString n
  String.ofList (List.replicate (20 - digits.length) '0') ++ digits

/-- The name of the savepoint for a unit at a depth. -/
def savepointName (clock depth : Nat) : String :=
  "sp_" ++ stamp clock ++ "_" ++ toString depth

/-- Runs work as a unit inside another.  Fails only where the savepoint cannot be set. -/
def nested (work : Act World α) : Act World (Except Error α) := do
  let name := savepointName (← tick) (← get).session.scopes.length
  savepoint D name
  let (result, _) ← within (some name) work
  match result with
  | .ok a => return .ok a
  | .error e =>
    revive D
    let _ ← observe (rollbackTo D name)
    return .error e

/-- Runs work as a unit that happens as a whole or not at all.  `none` says that it failed and was
rolled back; with `propagate` the error itself is raised. -/
def transact (propagate : Bool) (work : Act World α) : Act World (Option α) := do
  let result ← if (← get).session.inTransaction then nested D work else outermost D work
  match result with
  | .ok a => return some a
  | .error e =>
    recordError e
    if propagate then throw e else return none

/-- A file of statements: its path and, if there is such a file, its bytes.  A file that is there
can be read; other errors of a file system are left out. -/
structure ScriptFile where
  path : String
  contents : Option (List UInt8)
deriving DecidableEq, Inhabited

/-- Runs the statements of a file in one transaction; `false` says that they failed. -/
def runFile (file : ScriptFile) : Act World Bool := do
  match file.contents with
  | none => throw (.notFound (.file file.path))
  | some bytes =>
    match Text.decode? bytes with
    | none => throw (.io "stream did not contain valid UTF-8")
    | some script =>
      let s ← activeSettings
      let result ← transact D s.throwErrors (runBatch D script s)
      return result.isSome

end SlotQuery.Session
