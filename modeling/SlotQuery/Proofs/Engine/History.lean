import SlotQuery.Proofs.Engine.Laws

/-!
# What a database was given to execute

A history is a list of statements with their parameters, and `perform` executes it, whatever comes
of each.  A text is run as such a history, up to the first statement that fails (`runAll_database`).

The counter keeps the newest count: a statement that is one to change rows leaves a count, and no
other does (`changes_execute`).  So after a history the counter shows the last of the counts which
the history has left, and what it showed before if there are none (`changes_perform`).
-/

namespace SlotQuery.Engine

variable (E : Engine)

/-- A statement for a database, with its parameters. -/
structure Order where
  program : E.Program
  params : List Cell

/-- Executes statements one after the other, whatever comes of them. -/
def perform (db : E.Database) : List E.Order → E.Database
  | [] => db
  | o :: os => perform (E.execute db o.program o.params).2 os

/-- The count that a statement leaves, if it is one to change rows: the number of rows that it has
changed, and after a failure whatever the counter then shows. -/
def tally (db : E.Database) (o : E.Order) : Option Nat :=
  if E.writes o.program then
    match E.execute db o.program o.params with
    | (.ok _, _) => some (E.changed db o.program o.params)
    | (.error _, db) => some (E.changes db)
  else none

/-- The counts that a history leaves, oldest first. -/
def counts (db : E.Database) : List E.Order → List Nat
  | [] => []
  | o :: os => (E.tally db o).toList ++ counts (E.execute db o.program o.params).2 os

/-- The statements that running a text comes to, up to the first that fails. -/
def scriptFrom : Nat → String → E.Database → List E.Order
  | 0, _, _ => []
  | fuel + 1, sql, db =>
    match E.compileFirst db sql with
    | .ok (some p, rest) =>
      ⟨p, []⟩ ::
        match E.execute db p [] with
        | (.ok _, db) => scriptFrom fuel rest db
        | (.error _, _) => []
    | _ => []

/-- The statements that running a text comes to. -/
def script (db : E.Database) (sql : String) : List E.Order :=
  E.scriptFrom (sql.length + 1) sql db

variable {E}

/-- Orders in a row are carried out in a row. -/
theorem perform_append (db : E.Database) (os os' : List E.Order) :
    E.perform db (os ++ os') = E.perform (E.perform db os) os' := by
  induction os generalizing db with
  | nil => rfl
  | cons o os ih => exact ih _

/-- The counter shows the count that a statement leaves, and otherwise what it showed before. -/
theorem changes_execute (hcounts : E.Counting) (db : E.Database) (o : E.Order) :
    E.changes (E.execute db o.program o.params).2 = (E.tally db o).getD (E.changes db) := by
  rw [tally]
  rcases hrun : E.execute db o.program o.params with ⟨error | rows, db'⟩
  · cases hwrites : E.writes o.program with
    | false => exact hcounts.failed hrun hwrites
    | true => rfl
  · rw [hcounts.done hrun]
    split
    · rfl
    · rfl

/-- The counter shows the newest count of a history. -/
theorem changes_perform (hcounts : E.Counting) (db : E.Database) (os : List E.Order) :
    E.changes (E.perform db os) = (E.counts db os).getLast?.getD (E.changes db) := by
  induction os generalizing db with
  | nil => rfl
  | cons o os ih =>
      rw [perform, ih, changes_execute hcounts, counts, List.getLast?_append]
      cases (E.counts (E.execute db o.program o.params).2 os).getLast? with
      | some n => rfl
      | none => cases E.tally db o <;> rfl

/-- A script leaves the database that its orders leave. -/
theorem runFrom_database (fuel : Nat) (sql : String) (db : E.Database) :
    (E.runFrom fuel sql db).2 = E.perform db (E.scriptFrom fuel sql db) := by
  induction fuel generalizing sql db with
  | zero => rfl
  | succ fuel ih =>
      rw [runFrom, scriptFrom]
      cases hfirst : E.compileFirst db sql with
      | error e => rfl
      | ok parts =>
          obtain ⟨_ | p, rest⟩ := parts
          · rfl
          · dsimp only
            rw [perform]
            rcases hrun : E.execute db p [] with ⟨error | rows, db'⟩
            · rfl
            · exact ih rest db'

/-- Running a text is executing its statements. -/
theorem runAll_database (sql : String) (db : E.Database) :
    (E.runAll sql db).2 = E.perform db (E.script db sql) :=
  runFrom_database _ _ _

end SlotQuery.Engine
