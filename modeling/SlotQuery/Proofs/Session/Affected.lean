import SlotQuery.Proofs.Driver.Counter
import SlotQuery.Proofs.Engine.Counting
import SlotQuery.Proofs.Session.Refusals

/-!
# The rows that a session logs as affected

On an embedded connection the entry of a statement shows what the connection reports of it, and so
do the entries of scripts and of staged files (`Noted`).  That is the number of rows which the
statement has changed, wherever the connection sees that it is one to change rows; otherwise it may
be the count of an earlier statement (`Embedded.Execution.reported`).  `affected_rows` says so after
any history of requests, for every engine that keeps its counter as `Engine.Counting` says.
-/

namespace SlotQuery

open Act Session

variable {E : Engine}

namespace Bench

open Driver (Attains)
open Embedded (At Reports)

variable {c : ConnId} {before : E.Database} {flag : Bool}

/-- A statement that is answered reports its own count, or the newest one before it. -/
theorem attains_count (hcounts : E.Counting) (charset : String) (p : Template.Prepared) :
    Attains (Has c (At before flag))
      (fun _ => Has c fun e => Reports (E.changes before) before p.sql
        (p.params.map Embedded.boundCell) e.affected)
      (performUnder driver charset c p) := by
  refine (attains_performUnder charset p).mono ?_
  rintro reply b ⟨x, hhas, -⟩
  refine hhas.mono fun e hshown => ?_
  rw [hshown.affected]
  exact x.reports hcounts

/-- A script of one statement reports the count of that statement, or the newest one before it. -/
theorem attains_batch (hE : E.Uniform) (hcounts : E.Counting) (charset script : String)
    {p : E.Program} (hcompile : E.compile before script = .ok (some p)) :
    Attains (Has c (At before flag))
      (fun _ => Has c fun e => e.affected =
        if E.writes p then E.changed before p [] else E.changes before)
      (performBatch driver charset c script) := by
  unfold performBatch
  refine Attains.bind (attains_send (Q := At before flag)
    (r := .charset charset) fun e _ h _ => h) (fun _ => ?_) fun e => .error _
  exact attains_send (r := .batch script) fun e _ hat hok =>
    Embedded.affected_batch_of_compile hcounts hE hat.1 hok hcompile

/-- A file that is loaded reports its lines. -/
theorem attains_lines (hfileless : E.Fileless) (file : Batch.Load) :
    Attains (Has c (At before flag))
      (fun count => Has c fun _ => count = (Batch.lines file.contents).length)
      (driver.load c file) :=
  attains_load hfileless fun _ _ _ hok => (Embedded.affected_load hok).1

end Bench

/-- The entry of an answered statement has the count that was reported. -/
theorem LogEntry.affected_answered (e : LogEntry) (reply : Reply) (affected : Nat)
    (firstId : Int64) : (answered e reply affected firstId).affected = affected := by
  unfold answered
  dsimp only
  split <;> rfl

/-- An answer that is an error leaves one in the entry. -/
theorem error_of_performUnder {D : Driver Address World} {c : ConnId} {charset : String}
    {p : Template.Prepared} {w w' : Wire World} {e : Error}
    (h : performUnder D charset c p w = (.error e, w')) : e.driver? ≠ none := by
  obtain ⟨own, -, hown⟩ := D.writes_performUnder (c := c) charset p w
  rw [h] at hown
  obtain ⟨cause, hcause, -⟩ := hown.reflects.error e rfl
  rw [hcause]
  nofun

/-- What the session logs of what it runs on an embedded connection: for a statement what is
reported of it, for a script of one statement the rows that this one changed or else the newest
count, and for a staged file its lines. -/
structure Noted (newest : Nat) (db : E.Database) (s : State (Bench E)) : Prop where
  statement : ∀ {sql st p}, Template.prepare st sql = .ok p →
    ∃ entry, Added [entry] s (run (Session.run Bench.driver sql st) s).2 ∧
      (entry.error = none → Embedded.Reports newest db p.sql
        (p.params.map Embedded.boundCell) entry.affected)
  script : ∀ {script st p},
    E.compile db (Template.condense st.delimiters script) = .ok (some p) →
    ∃ entry, Added [entry] s (run (runBatch Bench.driver script st) s).2 ∧
      (entry.error = none → entry.affected =
        if E.writes p then E.changed db p [] else newest)
  file : ∀ file st, ∃ entry, Added [entry] s (run (loadStaged Bench.driver file st) s).2 ∧
    (entry.error = none → entry.affected = (Batch.lines file.contents).length)

/-- What the engine's counter shows is the newest count. -/
theorem noted (hE : E.Uniform) (hcounts : E.Counting) (hfileless : E.Fileless)
    {s : State (Bench E)} {c : ConnId} {e : Embedded E} {db : E.Database}
    (hc : s.session.connection = some c) (he : s.wire.world.embedded? c = some e)
    (hstore : e.store = some db) : Noted (E.changes db) db s where
  statement {sql st p} hp := by
    have hattained := Bench.attains_count (c := c) hcounts st.charset p s.wire
      ⟨e, he, hstore, rfl⟩
    rcases hsent : performUnder Bench.driver st.charset c p s.wire with ⟨answer, w⟩
    have hadded := runOn_adds sql st p hsent
    rw [hsent] at hattained
    rw [run_eq_runOn hp hc]
    refine ⟨_, hadded, fun hnone => ?_⟩
    cases answer with
    | error error => exact absurd hnone (error_of_performUnder hsent)
    | ok reply =>
        obtain ⟨e', he', hreports⟩ := hattained reply rfl
        unfold LogEntry.concluded
        rw [LogEntry.affected_answered, (Bench.counters_of_embedded he').1]
        exact hreports
  script {script st p} hcompile := by
    have hattained := Bench.attains_batch (c := c) hE hcounts st.charset _ hcompile s.wire
      ⟨e, he, hstore, rfl⟩
    have hemits : Driver.Emits c (fun _ => True) (performBatch (Bench.driver (E := E)) st.charset c
        (Template.condense st.delimiters script)) :=
      Bench.driver.emits_performBatch (fun _ _ => trivial) _ _
    have hgrown := hemits.grows s.wire
    rcases hsent : performBatch Bench.driver st.charset c (Template.condense st.delimiters script)
      s.wire with ⟨answer, w⟩
    rw [hsent] at hattained hgrown
    rw [run_runBatch hc script st hsent]
    refine ⟨_, added_logging (LogEntry.consistent_counted _) hgrown, fun hnone => ?_⟩
    cases answer with
    | error error => cases hnone
    | ok _ =>
        obtain ⟨e', he', haffected⟩ := hattained () rfl
        exact (Bench.counters_of_embedded he').1.trans haffected
  file file st := by
    have hattained := Bench.attains_lines (c := c) hfileless file s.wire ⟨e, he, hstore, rfl⟩
    refine ⟨_, (loadStaged_added hc file st).1, fun hnone => ?_⟩
    have hdescribed := (loadEntry_describes (D := Bench.driver) (c := c) (s := s) file st).outcome
    cases hanswer : (Bench.driver.load c file s.wire).1 with
    | error error =>
        rw [hanswer] at hdescribed
        rw [hdescribed.1] at hnone
        cases hnone
    | ok count =>
        rw [hanswer] at hdescribed
        obtain ⟨-, -, hcount⟩ := hattained count hanswer
        rw [hdescribed.2.1, hcount]

/-- After any history of requests, a statement that succeeds is counted with the rows that it has
changed, if it is one to change rows; one that also brings back rows must be known for an insert.
What only brings back rows counts for none.  All else shows the newest count that the history has
left: the creation of a table, for one, and control of a transaction.  So what is reported of a
statement is the number of rows that it has changed unless an old count shows, or rows that it has
changed do not. -/
theorem affected_rows (hE : E.Uniform) (hcounts : E.Counting) (hfileless : E.Fileless)
    {e : Embedded E} {db : E.Database} (hstore : e.store = some db)
    {past : List Request} (hpast : ∀ r ∈ past, r.staysOpen = true) :
    let orders := e.history db past
    let current := E.perform db orders
    let newest := (E.counts db orders).getLast?.getD (E.changes db)
    (e.after past).Accounted newest current ∧
      (∀ {s : State (Bench E)} {c}, s.session.connection = some c →
        s.wire.world.embedded? c = some (e.after past) → Noted newest current s) ∧
      ∀ {sql params} (x : Embedded.Execution current sql params),
        x.reported newest = x.concerned ↔
          if x.rows.isSome then Batch.isInsert sql = true ∨ x.concerned = 0
          else E.writes x.program = true ∨ newest = 0 := by
  intro orders current newest
  have hcurrent : (e.after past).store = some current := Embedded.after_store hstore hpast
  have hnewest : E.changes current = newest := Engine.changes_perform hcounts db orders
  refine ⟨?_, fun hc he => ?_, fun x => x.reported_eq_concerned_iff newest⟩
  · rw [← hnewest]
    exact Embedded.accounted hE hcounts hcurrent
  · rw [← hnewest]
    exact noted hE hcounts hfileless hc he hcurrent

/-- The creation of a table counts for two rows, since the statement before it has inserted two. -/
theorem affected_rows_of_creation :
    let past := [Request.query "CREATE TABLE t (a)", .query "INSERT INTO t (a) VALUES (1), (2)"]
    let now := (Embedded.opened none : Embedded Engine.small).after past
    (now.query "CREATE TABLE u (a)").1 = .ok (.done true) ∧
      (now.query "CREATE TABLE u (a)").2.affected = 2 := by
  intro past now
  let e : Embedded Engine.small := .opened none
  let db : Engine.Store := .opened []
  have hopened : e.store = some db := rfl
  have hpast : ∀ r ∈ past, r.staysOpen = true := by decide
  have hok : (now.query "CREATE TABLE u (a)").1 = .ok (.done true) := by decide +kernel
  have hcreates : Engine.small.compile (Engine.small.perform db (e.history db past))
      "CREATE TABLE u (a)" = .ok (some (.create ⟨"u", "u", 13⟩ [⟨"a", false⟩], 0)) := by
    decide +kernel
  have hnewest : Engine.small.counts db (e.history db past) = [2] := by decide +kernel
  obtain ⟨x, haffected⟩ := (affected_rows Engine.small_transactional.uniform
    Engine.small_counting Engine.small_fileless hopened hpast).1.query hok
  have hprogram : x.program = (.create ⟨"u", "u", 13⟩ [⟨"a", false⟩], 0) :=
    Option.some.inj (Except.ok.inj (x.compiled.symm.trans hcreates))
  refine ⟨hok, ?_⟩
  have hnone : (Engine.small.execute (Engine.small.perform db (e.history db past)) x.program []).1 =
      .ok none := by
    rw [hprogram]
    decide +kernel
  rw [x.executed] at hnone
  rw [haffected, hnewest, Embedded.Execution.reported, Except.ok.inj hnone, hprogram]
  rfl

end SlotQuery
