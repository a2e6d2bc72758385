import SlotQuery.Session.State
/-!
# Connecting a session

A session takes only connections that prepare statements and know transactions.  Taking one closes
the one before; a connection is let go even if it does not close cleanly, and then the new one is
not taken either.
-/

namespace SlotQuery.Session

open Act

variable {Address World : Type} (D : Driver Address World)

/-- Closes the connection and lets it go. -/
def disconnect : Act World Unit := do
  match (← get).session.connection with
  | none => return
  | some c =>
    updateSession fun s => { s with connection := none }
    match ← onWire (D.send c .close) with
    | .ok _ => return
    | .error e => throw (.teardownFailed e)

/-- Takes an open connection. -/
def attach (c : ConnId) : Act World Unit := do
  let features := D.capabilities c (← get).wire.world
  if ¬ features.preparedStatements then throw (.missingCapability .preparedStatements)
  if ¬ features.transactions then throw (.missingCapability .transactions)
  disconnect D
  updateSession fun s => { s with connection := some c }

/-- Opens a connection and takes it. -/
def connect (address : Address) (autocommit : Option Bool) : Act World Unit := do
  match ← onWire (D.openConnection address autocommit) with
  | .ok c => attach D c
  | .error e => throw (.connectionFailed e)

end SlotQuery.Session
