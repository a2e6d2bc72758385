import SlotQuery.Batch.Keyword
import SlotQuery.Driver.Basic
/-!
# Scripted connections

A scripted connection has no database behind it.  It keeps every statement it is given, fails the
statements that its script tells it to fail, answers others with prepared rows, and reports a fixed
outcome for inserts.  Its far end can hang up, after which everything fails until it is opened
again.  Transaction control counts as statements like any other.
-/

namespace SlotQuery

open Batch (Load isInsert)

/-- The text occurs in a statement. -/
def holds (fragment sql : String) : Bool :=
  Text.occursIn fragment.toList sql.toList

/-- The value of the first pair whose fragment occurs in a text. -/
def firstHolding? {α : Type} (pairs : List (String × α)) (sql : String) : Option α :=
  (pairs.find? fun p => holds p.1 sql).map Prod.snd

/-- What a scripted connection does. -/
structure Scenario where
  capabilities : Capabilities
  database : String
  /-- Statements with the fragment fail. -/
  failures : List (String × DriverError)
  /-- Statements with the fragment bring back these rows. -/
  rowSets : List (String × RowSet)
  /-- The first id and the number of rows of every insert. -/
  insertId : Int64
  insertCount : Nat
deriving Inhabited

/-- A scripted connection. -/
structure Scripted where
  scenario : Scenario
  /-- The statements it was given, oldest first. -/
  statements : List String
  /-- The parameters bound to prepared statements, oldest first. -/
  bound : List (List Param)
  alive : Bool
  autocommit : Bool
  lastInsertId : Int64
  affected : Nat
  /-- The prepared statement. -/
  prepared : String
  /-- The outcome of the prepared statement, until it is fetched. -/
  outcome : Option Reply
deriving Inhabited

namespace Scripted

/-- A connection that has just been opened. -/
def opened (scenario : Scenario) : Scripted where
  scenario := scenario
  statements := []
  bound := []
  alive := true
  autocommit := true
  lastInsertId := 0
  affected := 0
  prepared := ""
  outcome := none

/-- The far end has hung up. -/
def goneAway : DriverError := ⟨2006, "server has gone away"⟩

/-- There is no outcome to fetch. -/
def notExecuted : DriverError := ⟨2014, "statement has not been executed"⟩

/-- The effect of a statement that does not fail on the counters. -/
def count (s : Scripted) (sql : String) : Scripted :=
  if isInsert sql then
    { s with lastInsertId := s.scenario.insertId, affected := s.scenario.insertCount }
  else { s with affected := 0 }

/-- Runs a statement. -/
def runStatement (s : Scripted) (sql : String) : Except DriverError Reply × Scripted :=
  let s := { s with statements := s.statements ++ [sql] }
  if ¬ s.alive then (.error goneAway, s)
  else
    match firstHolding? s.scenario.failures sql with
    | some e => (.error e, s)
    | none =>
      let s := s.count sql
      match firstHolding? s.scenario.rowSets sql with
      | some rows => (.ok (.rows rows), s)
      | none => (.ok (.done true), s)

/-- Runs a statement for its effect alone. -/
def command (s : Scripted) (sql : String) : Except DriverError Unit × Scripted :=
  let (answer, s) := s.runStatement sql
  (answer.map fun _ => (), s)

/-- The statement that sets the autocommit flag. -/
def autocommitStatement (on : Bool) : String :=
  if on then "SET autocommit = 1" else "SET autocommit = 0"

/-- Answers a request. -/
def respond (s : Scripted) : (r : Request) → Except DriverError r.Answer × Scripted
  | .charset _ => (.ok (), s)
  | .prepare sql => (.ok (), { s with prepared := sql, outcome := none })
  | .bind params => (.ok (), { s with bound := s.bound ++ [params] })
  | .execute =>
    match s.runStatement s.prepared with
    | (.ok reply, s) => (.ok (), { s with outcome := some reply })
    | (.error e, s) => (.error e, s)
  | .fetch =>
    match s.outcome with
    | some reply => (.ok reply, { s with outcome := none })
    | none => (.error notExecuted, s)
  | .closeStatement => (.ok (), { s with prepared := "", outcome := none })
  | .query sql => s.runStatement sql
  | .batch sql => s.command sql
  | .begin => s.command "BEGIN"
  | .commit => s.command "COMMIT"
  | .rollback => s.command "ROLLBACK"
  | .autocommit on =>
    match s.command (autocommitStatement on) with
    | (.ok _, s) => (.ok (), { s with autocommit := on })
    | (.error e, s) => (.error e, s)
  | .isAlive => (.ok s.alive, s)
  | .reconnect => (.ok (), { s with statements := s.statements ++ ["RECONNECT"], alive := true })
  | .close => s.command "CLOSE"
  | .load file =>
    match s.runStatement file.statement with
    | (.ok _, s) =>
      let count := (Batch.lines file.contents).length
      (.ok count, { s with affected := count })
    | (.error e, s) => (.error e, s)

end Scripted

end SlotQuery
