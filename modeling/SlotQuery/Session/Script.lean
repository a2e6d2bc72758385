import SlotQuery.Session.Insertion
/-!
# Scripts of session commands

A `Command` is one call on a session, and a `Work` is a tree of them: commands and units of work one
after the other.  A command that fails ends the unit it stands in, unless it is guarded.  `Work.run`
runs a tree and leaves a report of every command.
-/

namespace SlotQuery

open Act

variable {Address World : Type}

/-- A call on a session.  Overrides are given as JSON, or not at all. -/
inductive Command (Address : Type)
  | connect (address : Address) (autocommit : Option Bool)
  | disconnect
  /-- The far end of the newest connection hangs up. -/
  | hangUp
  | query (sql : String) (changes : Option Json)
  | template (sql : String) (changes : Option Json)
  | insertRows (table : String) (columns : List String) (rows : List (List Cell))
      (changes : Option Json)
  | secure (cell : Cell)
  | configure (changes : Option Json)
  | effective (changes : Option Json)
  | configureDefaults (changes : Option Json)
  | settings
  | defaults
  | resetConfiguration
  | resetDefaults
  | clearLog
  | saveQuery (name sql : String)
  | savedQuery (name : String)
  | runSaved (name : String) (changes : Option Json)
  | runFile (file : Session.ScriptFile)
  | log
  | logAt (i : Nat)
  | logLast
  | logText (date : Nat → String)
  | lastInsertIds
  | database
  | autocommit
  | setAutocommit (on : Bool)
  | commit
  | rollback
  | savepoint (name : String)
  | rollbackTo (name : String)
  | fail (e : Error)

namespace Command

/-- Overrides from JSON; none if none are given. -/
def overrides : Option Json → Act World Overrides
  | none => return .none
  | some j => orThrow (Overrides.ofJson j)

/-- A request on the session's connection whose failure counts as one of the connection. -/
def onConnection (D : Driver Address World) (r : Request) : Act World r.Answer := do
  let c ← connected
  match ← onWire (D.send c r) with
  | .ok a => return a
  | .error e => throw (.connectionFailed e)

/-- Runs an action that has nothing to answer. -/
def silently (a : Act World Unit) : Act World Answer := do
  a
  return .unit

/-- Runs a command. -/
def run (D : Driver Address World) : Command Address → Act World Answer
  | connect address on => silently (Session.connect D address on)
  | disconnect => silently (Session.disconnect D)
  | hangUp => silently <| modify fun s =>
    { s with wire := { s.wire with world := D.hangUp s.wire.world } }
  | query sql changes => do
    return .output (← Session.query D sql (← overrides changes))
  | template sql changes => do
    let s ← Session.effective (← overrides changes)
    return .prepared (← orThrow (Template.prepare s sql))
  | insertRows table columns rows changes => do
    return .output (← Session.insertRows D table columns rows (← overrides changes))
  | secure cell => do
    let s ← Session.activeSettings
    return .text (some (← orThrow (Template.secured s cell)))
  | configure changes => do return .settings (← Session.configure (← overrides changes))
  | effective changes => do return .settings (← Session.effective (← overrides changes))
  | configureDefaults changes => do
    return .settings (← Session.configureDefaults (← overrides changes))
  | settings => do return .settings (← Session.activeSettings)
  | defaults => do return .settings (← get).defaults
  | resetConfiguration => silently Session.resetConfiguration
  | resetDefaults => silently Session.resetDefaults
  | clearLog => silently (updateSession fun s => { s with log := [] })
  | saveQuery name sql => silently (Session.saveQuery name sql)
  | savedQuery name => do return .text ((← get).session.savedQuery? name)
  | runSaved name changes => do
    return .output (← Session.runSaved D name (← overrides changes))
  | runFile file => do return .bool (← Session.runFile D file)
  | log => do return .entries (← get).session.log
  | logAt i => do return .entry (← get).session.log[i]?
  | logLast => do return .entry (← get).session.log.getLast?
  | logText date => do return .text (some (SlotQuery.logText date (← get).session.log))
  | lastInsertIds => do return .ids (← get).session.lastInsertIds
  | database => do
    let c ← connected
    return .text (some (D.database c (← get).wire.world))
  | autocommit => do
    let c ← connected
    return .bool (D.autocommit c (← get).wire.world)
  | setAutocommit on => silently (onConnection D (.autocommit on))
  | commit => silently (Session.commit D)
  | rollback => silently (Session.rollback D)
  | savepoint name => silently (Session.savepoint D name)
  | rollbackTo name => silently (Session.rollbackTo D name)
  | fail e => throw e

end Command

/-- Commands and units of work, one after the other. -/
inductive Work (Address : Type)
  | done
  | command (c : Command Address) (guarded : Bool) (rest : Work Address)
  | transact (propagate guarded : Bool) (body rest : Work Address)
deriving Inhabited

namespace Session

/-- The session as it looks now. -/
def view : Act World View := do
  let s ← get
  return {
    connected := s.session.connection.isSome
    inTransaction := s.session.inTransaction
    logLength := s.session.log.length
    lastError := s.session.lastError
    traceLength := s.wire.trace.length }

end Session

namespace Work

/-- Adds a report. -/
def report (r : View → Report) : Act World Unit := do
  let view ← Session.view
  modify fun s => { s with reports := s.reports ++ [r view] }

/-- Ends the unit here if an unguarded part of it failed. -/
def unlessGuarded {α : Type} (guarded : Bool) : Except Error α → Act World Unit
  | .ok _ => return
  | .error e => if guarded then return else throw e

/-- Reports the start of the innermost unit and marks that it started. -/
def reportEntry : Act World Unit := do
  let savepoint ← Session.guard?
  report (.entered savepoint)

/-- Runs a tree.  Fails with the first failure that is not guarded. -/
def run (D : Driver Address World) : Work Address → Act World Unit
  | done => return
  | command c guarded rest => do
    let result ← observe (c.run D)
    report (.command result)
    unlessGuarded guarded result
    rest.run D
  | transact propagate guarded body rest => do
    let before := (← get).reports.length
    let result ← observe do
      let value ← Session.transact D propagate do
        reportEntry
        body.run D
      return value.isSome
    let started := before < (← get).reports.length
    report (if started then .left result else .notEntered result)
    unlessGuarded guarded result
    rest.run D

end Work

end SlotQuery
