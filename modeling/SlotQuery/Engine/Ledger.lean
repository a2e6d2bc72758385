import SlotQuery.Identifier
/-!
# Transactions of a database

A ledger is what a database holds, together with the transaction that is running on it.  The
transaction keeps the contents as they were when it began, and a savepoint those when it was set, so
rolling back is going back to what was kept.  A savepoint outside a transaction begins one.

A statement takes one of five steps with the transaction, or none at all.  A step that cannot be
taken is refused.
-/

namespace SlotQuery.Engine

/-- The texts are equal up to the case of ASCII letters. -/
def sameName (a b : String) : Bool :=
  a.toList.map Char.toLower = b.toList.map Char.toLower

/-- A savepoint: its name and the contents when it was set. -/
structure Savepoint (Contents : Type) where
  name : String
  contents : Contents
deriving DecidableEq, Inhabited

/-- A running transaction. -/
structure Transaction (Contents : Type) where
  /-- The contents when the transaction began. -/
  base : Contents
  /-- The savepoints, newest first. -/
  savepoints : List (Savepoint Contents)
deriving DecidableEq, Inhabited

/-- What a database holds, and the transaction that runs on it. -/
structure Ledger (Contents : Type) where
  contents : Contents
  transaction : Option (Transaction Contents)
deriving DecidableEq, Inhabited

/-- A step that a statement takes with the transaction. -/
inductive Step
  | begin
  | commit
  | rollback
  | savepoint (name : String)
  | rollbackTo (name : String)
deriving DecidableEq, Inhabited

/-- What a statement may control of a transaction: one of the steps, or which savepoints there are,
by releasing some. -/
inductive Control
  | step (step : Step)
  | release (name : String)
deriving DecidableEq, Inhabited

/-- The statement that takes a step. -/
def Step.text : Step → String
  | begin => "BEGIN"
  | commit => "COMMIT"
  | rollback => "ROLLBACK"
  | savepoint name => "SAVEPOINT " ++ quoteName name
  | rollbackTo name => "ROLLBACK TO SAVEPOINT " ++ quoteName name

namespace Ledger

variable {Contents : Type} (l : Ledger Contents)

/-- What is left of the contents if the database is closed now. -/
def committed : Contents :=
  match l.transaction with
  | some t => t.base
  | none => l.contents

/-- Begins a transaction, where none is running. -/
def begin : Option (Ledger Contents) :=
  match l.transaction with
  | some _ => none
  | none => some { l with transaction := some ⟨l.contents, []⟩ }

/-- Ends the transaction and keeps its changes. -/
def commit : Option (Ledger Contents) :=
  match l.transaction with
  | some _ => some { l with transaction := none }
  | none => none

/-- Ends the transaction and drops its changes. -/
def rollback : Option (Ledger Contents) :=
  match l.transaction with
  | some t => some ⟨t.base, none⟩
  | none => none

/-- Sets a savepoint. -/
def savepoint (name : String) : Ledger Contents :=
  let t := l.transaction.getD ⟨l.contents, []⟩
  { l with transaction := some { t with savepoints := ⟨name, l.contents⟩ :: t.savepoints } }

/-- Goes back to the newest savepoint with a name, and drops the newer ones. -/
def rollbackTo (name : String) : Option (Ledger Contents) :=
  match l.transaction with
  | none => none
  | some t =>
    match t.savepoints.dropWhile fun p => !sameName p.name name with
    | [] => none
    | p :: older => some ⟨p.contents, some { t with savepoints := p :: older }⟩

/-- Takes a step, unless it is refused. -/
def after : Step → Option (Ledger Contents)
  | .begin => l.begin
  | .commit => l.commit
  | .rollback => l.rollback
  | .savepoint name => some (l.savepoint name)
  | .rollbackTo name => l.rollbackTo name

end Ledger

end SlotQuery.Engine
