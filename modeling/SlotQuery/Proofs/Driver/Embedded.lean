import SlotQuery.Driver.Embedded
import SlotQuery.Proofs.Engine.Laws
import SlotQuery.Proofs.Text.Letters

/-!
# Embedded connections and the transaction that runs on them

A request that carries statements leaves the transaction alone that runs on the database of an
embedded connection, and begins none, as long as none of the statements controls transactions
(`Open`): `query_open`, `batch_open` and `load_open` say so for requests that stand alone, and
`execute_open` for the statement in hand, if that is a tame one (`Tame`).

The requests that do control the transaction take a step in its ledger, or are refused and change
nothing: `respond_stepped` says so for the statements on savepoints and for what has a request of
its own, and `setAutocommit_of_idle` is about the flag while nothing runs.
-/

namespace SlotQuery

/-- The request that asks for a step. -/
def Engine.Step.request : Engine.Step → Request
  | begin => .begin
  | commit => .commit
  | rollback => .rollback
  | savepoint name => .query (Engine.Step.savepoint name).text
  | rollbackTo name => .query (Engine.Step.rollbackTo name).text

namespace Embedded

open Engine (Ledger Transaction Step Transactional Careful Granting)

variable {E : Engine} {e e' : Embedded E} {t : Option (Transaction E.Contents)}
variable {l l' : Ledger E.Contents}

/-- What the open database holds, and the transaction that runs on it. -/
def ledger? (e : Embedded E) : Option (Ledger E.Contents) :=
  e.store.map E.ledger

/-- What the open database holds. -/
def contents? (e : Embedded E) : Option E.Contents :=
  e.ledger?.map Ledger.contents

/-- The connection is open, and this is the transaction that runs on the database, if one does. -/
def Open (t : Option (Transaction E.Contents)) (e : Embedded E) : Prop :=
  ∃ l, e.ledger? = some l ∧ l.transaction = t

/-- The compiled statement in hand. -/
def hand (e : Embedded E) : Option E.Program :=
  e.statement.bind OpenStatement.statement

/-- The statement in hand, if there is one, does not control transactions. -/
def Tame (e : Embedded E) : Prop :=
  ∀ p, e.hand = some p → E.control? p = none

theorem exists_store (h : e.ledger? = some l) : ∃ db, e.store = some db ∧ E.ledger db = l :=
  Option.map_eq_some_iff.mp h

theorem ledger?_of_store (h : e'.store = e.store) : e'.ledger? = e.ledger? := by
  rw [ledger?, ledger?, h]

/-- An open database has a ledger. -/
theorem ledger?_of_some {db : E.Database} (h : e.store = some db) :
    e.ledger? = some (E.ledger db) := by
  rw [ledger?, h]
  rfl

/-- The transaction lives in the database alone. -/
theorem Open.of_store (h : e.Open t) (hstore : e'.store = e.store) : e'.Open t := by
  obtain ⟨l, hl, ht⟩ := h
  exact ⟨l, (ledger?_of_store hstore).trans hl, ht⟩

/-- An open connection has a database with that transaction. -/
theorem Open.exists_store (h : e.Open t) :
    ∃ db, e.store = some db ∧ (E.ledger db).transaction = t := by
  obtain ⟨l, hl, rfl⟩ := h
  obtain ⟨db, hdb, rfl⟩ := Embedded.exists_store hl
  exact ⟨db, hdb, rfl⟩

theorem open_of_some {db : E.Database} (h : e.store = some db)
    (ht : (E.ledger db).transaction = t) : e.Open t :=
  ⟨_, ledger?_of_some h, ht⟩

theorem Tame.of_hand (h : e.Tame) (hhand : e'.hand = e.hand) : e'.Tame :=
  fun p hp => h p (hhand.symm.trans hp)

/-- Preparing a statement leaves the database as it is. -/
theorem prepare_store (e : Embedded E) (sql : String) : (e.prepare sql).2.store = e.store := by
  unfold prepare
  split
  · rfl
  · split
    · rfl
    · rfl

/-- A text that the engine compiles is in hand afterwards. -/
theorem prepare_of_compile {db : E.Database} {sql : String} {found : Option E.Program}
    (hstore : e.store = some db) (hcompile : E.compile db sql = .ok found) :
    e.prepare sql =
      (.ok (), { e with statement := some ⟨found, Batch.isInsert sql, [], none⟩ }) := by
  unfold prepare
  rw [hstore]
  dsimp only
  rw [hcompile]

/-- What has been prepared is in hand. -/
theorem prepare_tame {sql : String} (hsql : E.NoControl sql) (hok : (e.prepare sql).1 = .ok ()) :
    (e.prepare sql).2.Tame := by
  unfold prepare at hok ⊢
  cases hstore : e.store with
  | none =>
      rw [hstore] at hok
      cases hok
  | some db =>
      rw [hstore] at hok
      dsimp only at hok ⊢
      cases hcompile : E.compile db sql with
      | error error =>
          rw [hcompile] at hok
          cases hok
      | ok statement =>
          intro p hp
          obtain rfl : statement = some p := hp
          exact hsql.of_compile hcompile

/-- Binding parameters leaves the database and the statement in hand as they are. -/
theorem bind_store (e : Embedded E) (params : List Param) :
    (e.bind params).2.store = e.store ∧ (e.bind params).2.hand = e.hand := by
  unfold bind
  cases hhand : e.statement with
  | none => exact ⟨rfl, rfl⟩
  | some o =>
      dsimp only
      split
      · exact ⟨rfl, rfl⟩
      · refine ⟨rfl, ?_⟩
        rw [hand, hand, hhand]
        rfl

/-- Taking the outcome leaves the database and the statement in hand as they are. -/
theorem fetch_store (e : Embedded E) : e.fetch.2.store = e.store ∧ e.fetch.2.hand = e.hand := by
  unfold fetch
  cases hhand : e.statement with
  | none => exact ⟨rfl, rfl⟩
  | some o =>
      dsimp only
      split
      · exact ⟨rfl, rfl⟩
      · refine ⟨rfl, ?_⟩
        rw [hand, hand, hhand]
        rfl

/-- The counters are kept beside the database and the statement in hand. -/
theorem record_store (e : Embedded E) (inserts : Bool) (affected : Nat) (lastId : Int64) :
    (e.record inserts affected lastId).store = e.store ∧
      (e.record inserts affected lastId).statement = e.statement := by
  unfold record
  dsimp only
  split
  · exact ⟨rfl, rfl⟩
  · exact ⟨rfl, rfl⟩

/-- Executing takes the database where the statement in hand takes it, and keeps that statement. -/
theorem execute_store {db : E.Database} {o : OpenStatement E} {p : E.Program}
    (hstore : e.store = some db) (hopen : e.statement = some o) (hp : o.statement = some p) :
    e.execute.2.store = some (E.execute db p o.params).2 ∧ e.execute.2.hand = e.hand := by
  obtain ⟨statement, inserts, params, previous⟩ := o
  obtain rfl : statement = some p := hp
  have hhand : e.hand = some p := by
    rw [hand, hopen]
    rfl
  rw [hhand]
  unfold execute
  rw [hstore, hopen]
  dsimp only
  rcases E.execute db p params with ⟨error | rows, db'⟩
  · exact ⟨rfl, rfl⟩
  · dsimp only
    refine ⟨(record_store _ _ _ _).1, ?_⟩
    rw [hand, (record_store _ _ _ _).2]
    rfl

/-- Where there is no statement to execute, nothing happens. -/
theorem execute_of_no_hand (h : e.hand = none) : e.execute.2 = e := by
  unfold execute
  cases hstore : e.store with
  | none => rfl
  | some db =>
      cases hopen : e.statement with
      | none => rfl
      | some o =>
          have hnone : o.statement = none := by
            rw [hand, hopen] at h
            exact h
          dsimp only
          rw [hnone]

/-- The statement in hand is one that was opened. -/
theorem exists_of_hand {p : E.Program} (h : e.hand = some p) :
    ∃ o, e.statement = some o ∧ o.statement = some p :=
  Option.bind_eq_some_iff.mp h

/-- A query that can be prepared takes the database where its execution takes it. -/
theorem query_store (e : Embedded E) (sql : String) :
    (e.query sql).2.store =
      match (e.prepare sql).1 with
      | .ok _ => (e.prepare sql).2.execute.2.store
      | .error _ => e.store := by
  have hprepare := prepare_store e sql
  unfold query
  rcases hprepared : e.prepare sql with ⟨error | _, e₁⟩
  · rw [hprepared] at hprepare
    exact hprepare
  · dsimp only
    rcases hexecuted : e₁.execute with ⟨error | _, e₂⟩
    · rfl
    · exact (fetch_store e₂).1

section

variable (hE : E.Transactional) (hcareful : E.Careful)

include hE

/-- The lines of a staged file are inserted by a statement that does not control transactions. -/
theorem noControl_lineStatement (file : Batch.Load) : E.NoControl (lineStatement file) := by
  have hhead : (lineStatement file).toList.head? = some 'I' := by
    unfold lineStatement
    simp only [String.toList_append, List.append_assoc]
    rfl
  obtain ⟨rest, hrest⟩ := List.head?_eq_some_iff.mp hhead
  exact hE.noControl_of_letter hrest (by decide) (by decide)

include hcareful

/-- Executing a tame statement leaves the transaction alone. -/
theorem execute_open (h : e.Open t) (htame : e.Tame) : e.execute.2.Open t ∧ e.execute.2.Tame := by
  cases hhand : e.hand with
  | none =>
      rw [execute_of_no_hand hhand]
      exact ⟨h, htame⟩
  | some p =>
      obtain ⟨db, hstore, ht⟩ := h.exists_store
      obtain ⟨o, hopen, hp⟩ := exists_of_hand hhand
      obtain ⟨hstore', hhand'⟩ := execute_store hstore hopen hp
      refine ⟨open_of_some hstore' ?_, htame.of_hand hhand'⟩
      rw [hE.transaction_execute _ hcareful (htame p hhand), ht]

/-- A query that controls no transaction leaves the running one alone. -/
theorem query_open {sql : String} (hsql : E.NoControl sql) (h : e.Open t) :
    (e.query sql).2.Open t := by
  have hprepare := prepare_store e sql
  have hquery := query_store e sql
  cases hprepared : (e.prepare sql).1 with
  | error error =>
      rw [hprepared] at hquery
      exact h.of_store hquery
  | ok _ =>
      rw [hprepared] at hquery
      have htame := prepare_tame hsql hprepared
      exact (execute_open hE hcareful (h.of_store hprepare) htame).1.of_store
        hquery

theorem batch_open {sql : String} (hsql : E.ControlFree sql) (h : e.Open t) :
    (e.batch sql).2.Open t := by
  obtain ⟨db, hstore, ht⟩ := h.exists_store
  have hkept := Engine.runAll_preserves (P := fun db => (E.ledger db).transaction = t) hsql
    (fun db p hp ht => (hE.transaction_execute _ hcareful hp []).trans ht) ht
  unfold batch runAll
  rw [hstore]
  dsimp only
  rcases hrun : E.runAll sql db with ⟨error | _, db'⟩
  · rw [hrun] at hkept
    exact open_of_some rfl hkept
  · rw [hrun] at hkept
    exact open_of_some rfl hkept

/-- The lines of a staged file are inserted by one tame statement. -/
theorem insertLines_transaction {p : E.Program} (hp : E.control? p = none) (file : Batch.Load)
    (lines : List (List Char)) (count : Nat) (first : Option Int64) (db : E.Database) :
    (E.ledger (insertLines file p count first lines db).2).transaction =
      (E.ledger db).transaction := by
  induction lines generalizing count first db with
  | nil => rfl
  | cons line lines ih =>
      have hkept := hE.transaction_execute db hcareful hp (lineCells file line)
      rw [insertLines]
      split
      · rfl
      · rcases hrun : E.execute db p (lineCells file line) with ⟨error | rows, db'⟩
        · rw [hrun] at hkept
          exact hkept
        · rw [hrun] at hkept
          exact (ih _ _ db').trans hkept

theorem load_open (file : Batch.Load) (h : e.Open t) : (e.load file).2.Open t := by
  obtain ⟨db, hstore, ht⟩ := h.exists_store
  unfold load
  rw [hstore]
  dsimp only
  cases hcompile : E.compile db (lineStatement file) with
  | error error => exact h
  | ok found =>
      cases found with
      | none => exact h
      | some p =>
          have hkept := (insertLines_transaction hE hcareful
            ((noControl_lineStatement hE file).of_compile hcompile) file
            (Batch.lines file.contents) 0 none db).trans ht
          dsimp only
          rcases hrun : insertLines file p 0 none (Batch.lines file.contents) db with
            ⟨error | _, db'⟩
          · rw [hrun] at hkept
            exact open_of_some rfl hkept
          · rw [hrun] at hkept
            exact open_of_some rfl hkept

end

/-- A statement that brings back no rows is a query that succeeds exactly if it is executed. -/
theorem query_of_execute {db db' : E.Database} {sql : String} {p : E.Program}
    (hstore : e.store = some db) (hcompile : E.compile db sql = .ok (some p))
    {answer : Except DriverError (Option RowSet)} (hexecute : E.execute db p [] = (answer, db'))
    (hrows : ∀ rows, answer = .ok rows → rows = none) :
    (e.query sql).1 = answer.map (fun _ => .done true) ∧ (e.query sql).2.store = some db' := by
  unfold query
  rw [prepare_of_compile hstore hcompile]
  dsimp only
  unfold execute
  dsimp only
  rw [hstore]
  dsimp only
  rw [hexecute]
  cases answer with
  | error error => exact ⟨rfl, rfl⟩
  | ok rows =>
      obtain rfl := hrows rows rfl
      unfold record
      dsimp only
      split
      · exact ⟨rfl, rfl⟩
      · exact ⟨rfl, rfl⟩

section

variable (hE : E.Transactional) (step : Step) (hstep : step.Holdable)

include hE hstep

section

variable (hl : e.ledger? = some l)

include hl

/-- The statement of a step, as a query, takes the step or changes nothing. -/
theorem query_stepped :
    ∃ l', (e.query step.text).2.ledger? = some l' ∧ l.Stepped step (e.query step.text).1 l' := by
  obtain ⟨db, hstore, rfl⟩ := exists_store hl
  obtain ⟨p, hcompile, hp⟩ := hE.spelled db step hstep
  rcases hrun : E.execute db p [] with ⟨answer, db'⟩
  have hstepped := hE.stepped db hp []
  rw [hrun] at hstepped
  obtain ⟨hanswer, hstore'⟩ := query_of_execute hstore hcompile hrun fun rows hrows =>
    (hE.taken hp (hrows ▸ hrun)).1
  refine ⟨_, ledger?_of_some hstore', ?_⟩
  rw [hanswer]
  cases answer <;> exact hstepped

/-- A step is taken as the ledger says, or refused and then nothing has changed. -/
theorem take_stepped :
    ∃ l', (e.take step).2.ledger? = some l' ∧ l.Stepped step (e.take step).1 l' := by
  obtain ⟨db, hstore, rfl⟩ := exists_store hl
  obtain ⟨p, hcompile, hp⟩ := hE.spelled db step hstep
  have hstepped := hE.stepped db hp []
  unfold take runAll
  rw [hstore]
  dsimp only
  rw [Engine.runAll_of_compile hE.uniform hcompile]
  refine ⟨_, ledger?_of_some rfl, ?_⟩
  rcases hrun : E.execute db p [] with ⟨error | rows, db'⟩
  · rw [hrun] at hstepped
    exact hstepped
  · rw [hrun] at hstepped
    exact hstepped

/-- What becomes of the request for a step. -/
theorem respond_stepped :
    ∃ l', (e.respond step.request).2.ledger? = some l' ∧
      l.Stepped step (e.respond step.request).1 l' := by
  cases step with
  | begin | commit | rollback => exact take_stepped hE _ hstep hl
  | savepoint | rollbackTo => exact query_stepped hE _ hstep hl

/-- Where the engine does not refuse the step, its request succeeds. -/
theorem respond_of_execute
    (hgranted : ∀ db p, E.ledger db = l → E.control? p = some (.step step) →
      ∃ rows, (E.execute db p []).1 = .ok rows) :
    ∃ a, (e.respond step.request).1 = .ok a := by
  obtain ⟨db, hstore, rfl⟩ := exists_store hl
  obtain ⟨p, hcompile, hp⟩ := hE.spelled db step hstep
  obtain ⟨rows, hrows⟩ := hgranted db p rfl hp
  obtain ⟨hanswer, -⟩ := query_of_execute hstore hcompile (Prod.ext hrows rfl) fun rows' hrows' =>
    (hE.taken hp (Prod.ext (hrows.trans hrows') rfl)).1
  have htake : (e.take step).1 = .ok () := by
    unfold take runAll
    rw [hstore]
    dsimp only
    rw [Engine.runAll_of_compile hE.uniform hcompile, hrows]
    rfl
  cases step with
  | begin | commit | rollback => exact ⟨(), htake⟩
  | savepoint | rollbackTo => exact ⟨_, hanswer⟩

/-- Going back is granted where there is something to go back to. -/
theorem respond_of_goesBack (hback : step.GoesBack) (hafter : l.after step ≠ none) :
    ∃ a, (e.respond step.request).1 = .ok a :=
  respond_of_execute hE _ hstep hl fun _ _ hdb hp => hE.back hp hback (hdb ▸ hafter)

/-- An engine that grants every step that can be taken grants this one. -/
theorem respond_of_granting (hgrants : E.Granting) (hafter : l.after step ≠ none) :
    ∃ a, (e.respond step.request).1 = .ok a :=
  respond_of_execute hE _ hstep hl fun _ _ hdb hp => hgrants hp (hdb ▸ hafter)

end

/-- A step that is refused changes nothing, be the connection open or closed. -/
theorem ledger?_of_refused {error : DriverError}
    (h : (e.respond step.request).1 = .error error) :
    (e.respond step.request).2.ledger? = e.ledger? := by
  cases hl : e.ledger? with
  | some l =>
      obtain ⟨l', hl', hstepped⟩ := respond_stepped hE _ hstep hl
      rw [h] at hstepped
      rw [hl', hstepped]
  | none =>
      have hclosed : e.store = none := Option.map_eq_none_iff.mp hl
      have hsame : (e.respond step.request).2 = e := by
        cases step with
        | begin | commit | rollback =>
            show (e.take _).2 = e
            rw [take, runAll, hclosed]
        | savepoint | rollbackTo =>
            show (e.query _).2 = e
            rw [query, prepare, hclosed]
      rw [hsame, hl]

end

/-- A step is taken on an open connection only. -/
theorem open_of_taken (step : Step) {a : step.request.Answer}
    (h : (e.respond step.request).1 = .ok a) : ∃ l, e.ledger? = some l := by
  cases hstore : e.store with
  | some db => exact ⟨_, ledger?_of_some hstore⟩
  | none =>
      cases step with
      | begin | commit | rollback =>
          have htake : (e.take _).1 = .ok a := h
          rw [take, runAll, hstore] at htake
          cases htake
      | savepoint | rollbackTo =>
          have hquery : (e.query _).1 = .ok a := h
          rw [query, prepare, hstore] at hquery
          cases hquery

/-- A request to take a step leaves everything beside the database as it was. -/
theorem take_eq (e : Embedded E) (step : Step) :
    (e.take step).2 = { e with store := (e.take step).2.store } := by
  unfold take runAll
  split
  · rfl
  · rfl

/-- Whether a transaction runs can be seen from the ledger. -/
theorem inTransaction_eq (hl : e.ledger? = some l) : e.inTransaction = l.transaction.isSome := by
  obtain ⟨db, hstore, rfl⟩ := exists_store hl
  rw [inTransaction, hstore]
  rfl

/-- While no transaction runs, the flag is nothing but a flag. -/
theorem setAutocommit_of_idle (hl : e.ledger? = some l) (hidle : l.transaction = none)
    (on : Bool) : e.setAutocommit on = (.ok (), { e with autocommit := on }) := by
  have hnone : e.inTransaction = false := by
    rw [inTransaction_eq hl, hidle]
    rfl
  obtain ⟨db, hstore, -⟩ := exists_store hl
  unfold setAutocommit
  rw [hnone, hstore]
  split
  · rfl
  · rfl

/-- On a closed connection the flag cannot be turned on. -/
theorem setAutocommit_of_closed (hl : e.ledger? = none) (hoff : e.autocommit = false) :
    e.setAutocommit true = (.error isClosed, e) := by
  have hclosed : e.store = none := Option.map_eq_none_iff.mp hl
  unfold setAutocommit
  rw [if_pos ⟨rfl, by rw [hoff]; nofun⟩, hclosed]
  rfl

/-- While a transaction runs, turning the flag on commits it, or fails and changes nothing. -/
theorem setAutocommit_of_running (hE : E.Transactional) (hl : e.ledger? = some l)
    (hruns : l.transaction ≠ none) (hoff : e.autocommit = false) :
    ∃ l', (e.setAutocommit true).2.ledger? = some l' ∧
      l.Stepped .commit (e.setAutocommit true).1 l' ∧
      (e.setAutocommit true).2.autocommit = (e.setAutocommit true).1.isOk ∧
      (E.Granting → (e.setAutocommit true).1.isOk = true) := by
  obtain ⟨l', hl', hstepped⟩ := take_stepped hE .commit trivial hl
  obtain ⟨db, hstore, -⟩ := exists_store hl
  have hsome : e.inTransaction = true := by
    rw [inTransaction_eq hl, Option.isSome_iff_ne_none]
    exact hruns
  have haside := congrArg autocommit (take_eq e .commit)
  have hopen : e.store.isNone = false := by rw [hstore]; rfl
  have hgranted : E.Granting → ∃ a, (e.take .commit).1 = .ok a := fun hgrants =>
    respond_of_granting hE .commit trivial hl hgrants (by
      rw [Ledger.after, Ledger.commit_eq_some_iff.mpr ⟨hruns, rfl⟩]
      nofun)
  unfold setAutocommit
  rw [if_pos ⟨rfl, by rw [hoff]; nofun⟩, hopen, if_neg Bool.false_ne_true, hsome, if_pos rfl]
  rcases htaken : e.take .commit with ⟨error | u, e'⟩
  · rw [htaken] at hl' hstepped haside hgranted
    refine ⟨l', hl', hstepped, haside.trans hoff, fun hgrants => ?_⟩
    obtain ⟨a, ha⟩ := hgranted hgrants
    cases ha
  · rw [htaken] at hl' hstepped
    exact ⟨l', hl', hstepped, rfl, fun _ => rfl⟩

/-- An open connection answers. -/
theorem isAlive_of_open (hE : E.Transactional) (hl : e.ledger? = some l) :
    e.isAlive.1 = true ∧ e.isAlive.2.ledger? = some l := by
  obtain ⟨db, hstore, rfl⟩ := exists_store hl
  obtain ⟨halive, hkept⟩ := hE.alive db
  unfold isAlive
  rw [hstore]
  exact ⟨halive, (ledger?_of_some rfl).trans (congrArg some hkept)⟩

/-- Setting the flag can end a transaction, but only by keeping its changes. -/
theorem setAutocommit_contents (hE : E.Transactional) (e : Embedded E) (on : Bool) :
    (e.setAutocommit on).2.contents? = e.contents? := by
  have hcommit : (e.take .commit).2.contents? = e.contents? := by
    cases hl : e.ledger? with
    | none =>
        have hclosed : e.store = none := Option.map_eq_none_iff.mp hl
        rw [take, runAll, hclosed]
    | some l =>
        obtain ⟨l', hl', hstepped⟩ := take_stepped hE .commit trivial hl
        rw [contents?, contents?, hl', hl]
        cases hanswer : (e.take .commit).1 with
        | error error =>
            rw [hanswer] at hstepped
            rw [show l' = l from hstepped]
        | ok u =>
            rw [hanswer] at hstepped
            rw [(Ledger.commit_eq_some_iff.mp hstepped).2]
            rfl
  unfold setAutocommit
  split
  · split
    · rfl
    · split
      · rcases hrun : e.take .commit with ⟨error | _, e'⟩
        · rw [hrun] at hcommit
          exact hcommit
        · rw [hrun] at hcommit
          exact hcommit
      · rfl
  · rfl

end Embedded

end SlotQuery
