import SlotQuery.Proofs.Batch.Loaded
import SlotQuery.Proofs.Driver.Executed
import SlotQuery.Proofs.Engine.History

/-!
# The rows that an embedded connection counts

Every request but closing and reopening makes the database execute some statements (`orders`), and
so a history of requests comes to one history of the database (`after_store`).  What a connection
reports of a statement it reads off the engine's counter afterwards, and the counter is about the
newest statement that was one to change rows.

So a statement that brings back no rows is reported with the rows that it has changed, if it is one
to change rows, and otherwise with the newest count of the whole history.  A statement that brings
back rows is reported with what it has changed if its text is taken for an insert, and with nothing
otherwise (`reported`).  That is the number of rows which the statement has changed unless an old
count shows, or rows that it has changed do not (`reported_eq_concerned_iff`).
-/

namespace SlotQuery

open Batch (isInsert)
open Engine (Order Counting)

variable {E : Engine}

/-- The request leaves an open connection open. -/
def Request.staysOpen : Request → Bool
  | close | reconnect => false
  | _ => true

namespace Embedded

/-- The statements that inserting lines comes to, up to the first that fails. -/
def lineOrders (file : Batch.Load) (p : E.Program) :
    List (List Char) → E.Database → List E.Order
  | [], _ => []
  | line :: lines, db =>
    let cells := lineCells file line
    if cells.length ≠ file.columns.length then []
    else
      ⟨p, cells⟩ ::
        match E.execute db p cells with
        | (.ok _, db) => lineOrders file p lines db
        | (.error _, _) => []

/-- The statements that a request makes the open database execute. -/
def orders (e : Embedded E) (db : E.Database) : Request → List E.Order
  | .execute =>
    match e.statement with
    | some ⟨some p, _, params, _⟩ => [⟨p, params⟩]
    | _ => []
  | .query sql =>
    match E.compile db sql with
    | .ok (some p) => [⟨p, []⟩]
    | _ => []
  | .batch sql => E.script db sql
  | .begin => E.script db Engine.Step.begin.text
  | .commit => E.script db Engine.Step.commit.text
  | .rollback => E.script db Engine.Step.rollback.text
  | .autocommit on =>
    if on ∧ ¬ e.autocommit ∧ e.inTransaction then E.script db Engine.Step.commit.text else []
  | .isAlive =>
    match E.compile db Engine.question with
    | .ok (some p) => [⟨p, []⟩]
    | _ => []
  | .load file =>
    match E.compile db (lineStatement file) with
    | .ok (some p) => lineOrders file p (Batch.lines file.contents) db
    | _ => []
  | _ => []

/-- The connection after requests. -/
def after (e : Embedded E) : List Request → Embedded E
  | [] => e
  | r :: rs => (e.respond r).2.after rs

/-- The statements that requests make the open database execute. -/
def history (e : Embedded E) (db : E.Database) : List Request → List E.Order
  | [] => []
  | r :: rs => e.orders db r ++ (e.respond r).2.history (E.perform db (e.orders db r)) rs

variable {e : Embedded E} {db : E.Database}

/-- Running a text executes its statements. -/
theorem orders_runAll (hstore : e.store = some db) (sql : String) :
    (e.runAll sql).2.store = some (E.perform db (E.script db sql)) := by
  unfold runAll
  rw [hstore]
  exact congrArg some (Engine.runAll_database sql db)

/-- The lines of a file are inserted by one order each. -/
theorem insertLines_database (file : Batch.Load) (p : E.Program) (lines : List (List Char))
    (count : Nat) (first : Option Int64) (db : E.Database) :
    (insertLines file p count first lines db).2 = E.perform db (lineOrders file p lines db) := by
  induction lines generalizing count first db with
  | nil => rfl
  | cons line lines ih =>
      rw [insertLines, lineOrders]
      split
      · rfl
      · rw [Engine.perform]
        rcases hrun : E.execute db p (lineCells file line) with ⟨error | rows, db'⟩
        · rfl
        · exact ih _ _ db'

/-- Executing a statement is one order, or none. -/
theorem orders_execute (hstore : e.store = some db) :
    e.execute.2.store = some (E.perform db (e.orders db .execute)) := by
  unfold orders
  cases hopen : e.statement with
  | none =>
      unfold execute
      rw [hstore, hopen]
      exact hstore
  | some o =>
      obtain ⟨statement, inserts, params, outcome⟩ := o
      cases statement with
      | none =>
          unfold execute
          rw [hstore, hopen]
          exact hstore
      | some p => exact (execute_store hstore hopen rfl).1

/-- A query is one order, or none. -/
theorem orders_query (hstore : e.store = some db) (sql : String) :
    (e.query sql).2.store = some (E.perform db (e.orders db (.query sql))) := by
  unfold orders
  dsimp only
  cases hcompile : E.compile db sql with
  | error error =>
      unfold query prepare
      rw [hstore]
      dsimp only
      rw [hcompile]
      exact hstore
  | ok found =>
      have hexecute := orders_execute
        (e := { e with statement := some ⟨found, isInsert sql, [], none⟩ }) hstore
      rw [query_store, prepare_of_compile hstore hcompile]
      cases found with
      | none => exact hexecute
      | some p => exact hexecute

/-- A script is an order for each of its statements. -/
theorem orders_batch (hstore : e.store = some db) (sql : String) :
    (e.batch sql).2.store = some (E.perform db (e.orders db (.batch sql))) := by
  have hscript := orders_runAll hstore sql
  unfold batch orders
  rcases hrun : e.runAll sql with ⟨error | _, e'⟩
  · rw [hrun] at hscript
    exact hscript
  · rw [hrun] at hscript
    exact hscript

/-- Setting the flag is a commit, or none. -/
theorem orders_autocommit (hstore : e.store = some db) (on : Bool) :
    (e.setAutocommit on).2.store = some (E.perform db (e.orders db (.autocommit on))) := by
  have hcommit : (e.take .commit).2.store = _ := orders_runAll hstore Engine.Step.commit.text
  unfold setAutocommit orders
  by_cases hon : on ∧ ¬ e.autocommit
  · rw [if_pos hon, hstore, if_neg nofun]
    by_cases hruns : e.inTransaction
    · rw [if_pos hruns]
      dsimp only
      rw [if_pos ⟨hon.1, hon.2, hruns⟩]
      rcases htaken : e.take .commit with ⟨error | _, e'⟩
      · rw [htaken] at hcommit
        exact hcommit
      · rw [htaken] at hcommit
        exact hcommit
    · rw [if_neg hruns]
      dsimp only
      rw [if_neg fun h => hruns h.2.2]
      rfl
  · rw [if_neg hon]
    dsimp only
    rw [if_neg fun h => hon ⟨h.1, h.2.1⟩]
    exact hstore

/-- Asking whether the database answers executes one statement. -/
theorem orders_isAlive (hstore : e.store = some db) :
    e.isAlive.2.store = some (E.perform db (e.orders db .isAlive)) := by
  unfold isAlive orders
  rw [hstore]
  dsimp only
  refine congrArg some ?_
  unfold Engine.probe
  cases hcompile : E.compile db Engine.question with
  | error error => rfl
  | ok found =>
      cases found with
      | none => rfl
      | some p =>
          dsimp only
          rw [Engine.perform, Engine.perform]
          rcases hrun : E.execute db p [] with ⟨error | _ | set, db'⟩
          · rfl
          · rfl
          · rfl

/-- A file is an order for each of its lines. -/
theorem orders_load (hstore : e.store = some db) (file : Batch.Load) :
    (e.load file).2.store = some (E.perform db (e.orders db (.load file))) := by
  unfold load orders
  rw [hstore]
  dsimp only
  cases hcompile : E.compile db (lineStatement file) with
  | error error => exact hstore
  | ok found =>
      cases found with
      | none => exact hstore
      | some p =>
          have hlines := insertLines_database file p (Batch.lines file.contents) 0 none db
          dsimp only
          rcases hrun : insertLines file p 0 none (Batch.lines file.contents) db with
            ⟨error | _, db'⟩
          · rw [hrun] at hlines
            exact congrArg some hlines
          · rw [hrun] at hlines
            exact congrArg some hlines

/-- What a request does to the open database is a history of statements. -/
theorem respond_store (hstore : e.store = some db) {r : Request} (hr : r.staysOpen = true) :
    (e.respond r).2.store = some (E.perform db (e.orders db r)) := by
  cases r with
  | execute => exact orders_execute hstore
  | query sql => exact orders_query hstore sql
  | batch sql => exact orders_batch hstore sql
  | begin | commit | rollback => exact orders_runAll hstore _
  | autocommit on => exact orders_autocommit hstore on
  | isAlive => exact orders_isAlive hstore
  | load file => exact orders_load hstore file
  | prepare sql => exact (prepare_store e sql).trans hstore
  | bind params => exact (bind_store e params).1.trans hstore
  | fetch => exact (fetch_store e).1.trans hstore
  | charset | closeStatement => exact hstore
  | close | reconnect => cases hr

/-- What requests do to the open database is one history of statements. -/
theorem after_store (hstore : e.store = some db) {past : List Request}
    (hpast : ∀ r ∈ past, r.staysOpen = true) :
    (e.after past).store = some (E.perform db (e.history db past)) := by
  induction past generalizing e db with
  | nil => exact hstore
  | cons r past ih =>
      obtain ⟨hr, hmore⟩ := List.forall_mem_cons.mp hpast
      rw [history, Engine.perform_append]
      exact ih (respond_store hstore hr) hmore

namespace Execution

variable {sql : String} {params : List Cell}

/-- The number of rows that the statement has inserted, changed or deleted. -/
def concerned (x : Execution db sql params) : Nat :=
  if E.writes x.program then E.changed db x.program params else 0

/-- What is reported of a statement that succeeds: the number of rows that it changed.  If it also
brings back rows, its text must be taken for an insert.  What neither changes rows nor brings them
back shows the newest count. -/
def reported (newest : Nat) (x : Execution db sql params) : Nat :=
  if x.rows.isSome then if isInsert sql then x.concerned else 0
  else if E.writes x.program then x.concerned
  else newest

/-- What is reported is the number of rows that the statement has changed, unless an old count
shows, or rows that it has changed do not. -/
theorem reported_eq_concerned_iff (newest : Nat) (x : Execution db sql params) :
    x.reported newest = x.concerned ↔
      if x.rows.isSome then isInsert sql = true ∨ x.concerned = 0
      else E.writes x.program = true ∨ newest = 0 := by
  unfold reported
  cases x.rows.isSome with
  | true =>
      rw [if_pos rfl, if_pos rfl]
      cases isInsert sql with
      | true => exact ⟨fun _ => .inl rfl, fun _ => rfl⟩
      | false => exact ⟨fun h => .inr h.symm, fun h => (h.resolve_left nofun).symm⟩
  | false =>
      rw [if_neg Bool.false_ne_true, if_neg Bool.false_ne_true]
      cases hwrites : E.writes x.program with
      | true => exact ⟨fun _ => .inl rfl, fun _ => rfl⟩
      | false =>
          have hnone : x.concerned = 0 := by rw [concerned, hwrites, if_neg Bool.false_ne_true]
          rw [if_neg Bool.false_ne_true, hnone]
          exact ⟨.inr, fun h => h.resolve_left nofun⟩

/-- What is counted is what is reported. -/
theorem affected_eq (hcounts : E.Counting) (x : Execution db sql params) :
    x.affected = x.reported (E.changes db) := by
  have hchanges := hcounts.done x.executed
  unfold affected outcome reported concerned
  cases x.rows with
  | none =>
      rw [Option.isSome_none, if_neg Bool.false_ne_true]
      dsimp only
      rw [hchanges]
      split
      · rfl
      · rfl
  | some set =>
      rw [Option.isSome_some, if_pos rfl]
      dsimp only
      cases hinsert : isInsert sql with
      | false => rfl
      | true =>
          -- Only what is to change rows is taken for an insert, so the counter is about it.
          have hwrites := hcounts.known hinsert x.compiled
          rw [if_pos rfl, if_pos rfl, hchanges, if_pos hwrites, if_pos hwrites]

end Execution

/-- The number is what is reported of the statement that a text holds, which was executed. -/
def Reports (newest : Nat) (db : E.Database) (sql : String) (params : List Cell) (count : Nat) :
    Prop :=
  ∃ x : Execution db sql params, count = x.reported newest

section

variable (hcounts : E.Counting)

include hcounts

theorem Execution.reports {sql : String} {params : List Cell} (x : Execution db sql params) :
    Reports (E.changes db) db sql params x.affected :=
  ⟨x, x.affected_eq hcounts⟩

/-- A query that succeeds reports its own count. -/
theorem reports_query (hstore : e.store = some db) {sql : String} {reply : Reply}
    (hok : (e.query sql).1 = .ok reply) :
    Reports (E.changes db) db sql [] (e.query sql).2.affected := by
  obtain ⟨x, -, hshown⟩ := shown_query ⟨hstore, rfl⟩ hok
  rw [hshown.affected]
  exact x.reports hcounts

/-- A prepared statement that succeeds reports its own count. -/
theorem reports_execute (hstore : e.store = some db) {sql : String} {given : List Param}
    (hprepare : (e.prepare sql).1 = .ok ()) (hbind : ((e.prepare sql).2.bind given).1 = .ok ())
    (hok : ((e.prepare sql).2.bind given).2.execute.1 = .ok ()) :
    Reports (E.changes db) db sql (given.map boundCell)
      ((e.prepare sql).2.bind given).2.execute.2.affected := by
  obtain ⟨x, hshown, -⟩ :=
    pending_execute (opened_bind (opened_prepare ⟨hstore, rfl⟩ hprepare) hbind) hok
  rw [hshown.affected]
  exact x.reports hcounts

/-- After a script, the newest count of the script shows, and if it has left none the one before. -/
theorem affected_batch (hstore : e.store = some db) {sql : String}
    (hok : (e.batch sql).1 = .ok ()) :
    (e.batch sql).2.affected = (E.counts db (E.script db sql)).getLast?.getD (E.changes db) := by
  have hscript := orders_runAll hstore sql
  rw [← Engine.changes_perform hcounts]
  unfold batch at hok ⊢
  rcases hrun : e.runAll sql with ⟨error | _, e'⟩
  · rw [hrun] at hok
    cases hok
  · rw [hrun] at hscript
    show (e'.store.map E.changes).getD 0 = _
    rw [hscript]
    rfl

/-- A script of one statement. -/
theorem affected_batch_of_compile (hE : E.Uniform) (hstore : e.store = some db) {sql : String}
    (hok : (e.batch sql).1 = .ok ()) {p : E.Program} (hcompile : E.compile db sql = .ok (some p)) :
    (e.batch sql).2.affected =
      if E.writes p then E.changed db p [] else E.changes db := by
  have hrun := Engine.runAll_of_compile hE hcompile
  unfold batch runAll at hok ⊢
  rw [hstore] at hok ⊢
  dsimp only at hok ⊢
  rcases hexecute : E.execute db p [] with ⟨error | rows, db'⟩
  · rw [hrun, hexecute] at hok
    cases hok
  · rw [hrun, hexecute]
    exact hcounts.done hexecute

end

/-- Lines that are all inserted have been inserted one by one. -/
theorem length_lineOrders {file : Batch.Load} {p : E.Program} {lines : List (List Char)}
    {count total : Nat} {first last : Option Int64} {db db' : E.Database}
    (h : insertLines file p count first lines db = (.ok (total, last), db')) :
    (lineOrders file p lines db).length = lines.length := by
  induction lines generalizing count first db with
  | nil => rfl
  | cons line lines ih =>
      rw [insertLines] at h
      rw [lineOrders]
      split at h
      · cases h
      · next hwidth =>
          rw [if_neg hwidth]
          rcases hrun : E.execute db p (lineCells file line) with ⟨error | rows, after⟩
          · rw [hrun] at h
            cases h
          · rw [hrun] at h
            exact congrArg (· + 1) (ih h)

/-- A staged file is counted with its lines, and each of them was inserted by a statement of its
own. -/
theorem affected_load {file : Batch.Load} {count : Nat} (hok : (e.load file).1 = .ok count) :
    count = (Batch.lines file.contents).length ∧ (e.load file).2.affected = count ∧
      ∀ db, e.store = some db → (e.orders db (.load file)).length = count := by
  obtain ⟨db, p, first, db', hstore, hcompile, hlines, hloaded⟩ := Batch.exists_of_load hok
  have hcount := Batch.count_load hok
  refine ⟨hcount, by rw [hloaded], fun before hbefore => ?_⟩
  obtain rfl := Option.some.inj (hbefore.symm.trans hstore)
  unfold orders
  dsimp only
  rw [hcompile, hcount]
  exact length_lineOrders hlines

/-- What an open connection counts for the next statement, whichever way it is run: what is reported
of it for a query and for a prepared statement, the newest count for a script, which is that of its
statement if it holds one alone that is to change rows, and the lines for a staged file, each of
which was inserted by a statement of its own. -/
structure Accounted (newest : Nat) (db : E.Database) (e : Embedded E) : Prop where
  query : ∀ {sql reply}, (e.query sql).1 = .ok reply →
    Reports newest db sql [] (e.query sql).2.affected
  execute : ∀ {sql given}, (e.prepare sql).1 = .ok () →
    ((e.prepare sql).2.bind given).1 = .ok () →
    ((e.prepare sql).2.bind given).2.execute.1 = .ok () →
    Reports newest db sql (given.map boundCell) ((e.prepare sql).2.bind given).2.execute.2.affected
  script : ∀ {sql}, (e.batch sql).1 = .ok () →
    (e.batch sql).2.affected = (E.counts db (E.script db sql)).getLast?.getD newest
  alone : ∀ {sql p}, E.compile db sql = .ok (some p) → (e.batch sql).1 = .ok () →
    (e.batch sql).2.affected = if E.writes p then E.changed db p [] else newest
  load : ∀ {file count}, (e.load file).1 = .ok count →
    count = (Batch.lines file.contents).length ∧ (e.load file).2.affected = count ∧
      (e.orders db (.load file)).length = count

/-- The newest count of the engine is that of the connection. -/
theorem accounted (hE : E.Uniform) (hcounts : E.Counting) (hstore : e.store = some db) :
    e.Accounted (E.changes db) db where
  query hok := reports_query hcounts hstore hok
  execute hprepare hbind hok := reports_execute hcounts hstore hprepare hbind hok
  script hok := affected_batch hcounts hstore hok
  alone hcompile hok := affected_batch_of_compile hcounts hE hstore hok hcompile
  load hok :=
    let ⟨hlines, haffected, horders⟩ := affected_load hok
    ⟨hlines, haffected, horders _ hstore⟩

end Embedded

end SlotQuery
