import SlotQuery.Proofs.Batch.Skeleton
import SlotQuery.Proofs.Driver.Written
import SlotQuery.Proofs.Session.Logged
import SlotQuery.Proofs.Settings.Layers

/-!
# What a large batch leaves in the log

A batch that is too large for a statement is staged and loaded in a unit of its own, which makes one
entry.  Then the largest id is asked for, and the newest entry of the log is taken back, which is
meant to be that of the query.

If the query was sent it made an entry, whatever the driver answered, and the log is as it was
before (`maxId_added`).  If its template was rejected it made none (`run_of_rejected`), and the
entry taken back is that of the load.  `BulkEnding` lists what a large batch can come to, and
`loaded_batch_logged` says of every batch whose file was to be loaded which entry it leaves.
-/

namespace SlotQuery

open Act Session

variable {Address World : Type}

/-- From the first state to the second the event was written to the trace. -/
def Wrote (e : Event) (s s' : State World) : Prop :=
  ∃ more, s'.wire.trace = s.wire.trace ++ more ∧ e ∈ more

/-- What was written stays written, whatever is written around it. -/
theorem Wrote.framed {e : Event} {before s s' after : State World} (h : Wrote e s s')
    (hbefore : before.wire.trace <+: s.wire.trace) (hafter : s'.wire.trace <+: after.wire.trace) :
    Wrote e before after := by
  obtain ⟨front, hfront⟩ := hbefore
  obtain ⟨more, hmore, he⟩ := h
  obtain ⟨back, hback⟩ := hafter
  refine ⟨front ++ (more ++ back), ?_, ?_⟩
  · rw [← hback, hmore, ← hfront]
    simp only [List.append_assoc]
  · exact List.mem_append_right _ (List.mem_append_left _ he)

/-- What was written is on the trace. -/
theorem Wrote.mem {e : Event} {s s' : State World} (h : Wrote e s s') : e ∈ s'.wire.trace := by
  obtain ⟨more, hmore, he⟩ := h
  rw [hmore]
  exact List.mem_append_right _ he

/-- The entry of a staged file that is loaded in a state. -/
def loadEntry (D : Driver Address World) (c : ConnId) (file : Batch.Load) (st : Settings)
    (s : State World) : LogEntry :=
  (LogEntry.opening (s.clock 0) file.statement file.statement (D.database c s.wire.world) st
    []).counted (D.load c file s.wire).1

section

variable {D : Driver Address World} {c : ConnId} {s : State World}

theorem loadEntry_describes (file : Batch.Load) (st : Settings) :
    (loadEntry D c file st s).Describes file (D.load c file s.wire).1 :=
  LogEntry.describes_counted file _

@[simp] theorem settings_loadEntry (file : Batch.Load) (st : Settings) :
    (loadEntry D c file st s).settings = st :=
  LogEntry.settings_counted ..

/-- Whichever way a file is loaded, the trace shows that it was to be. -/
theorem Driver.sent_of_load (file : Batch.Load) (w : Wire World) :
    ∃ more, (D.load c file w).2.trace = w.trace ++ .sent c (.load file) :: more := by
  obtain ⟨own, htrace, hown⟩ := D.writes_load (c := c) file w
  obtain ⟨more, rfl⟩ := hown.exists_cons
  exact ⟨more, htrace⟩

/-- A staged file makes one entry, and succeeds with its position if the driver loads it. -/
theorem run_loadStaged (hc : s.session.connection = some c) (file : Batch.Load) (st : Settings) :
    run (loadStaged D file st) s =
      (((D.load c file s.wire).1.mapError .queryFailed).map fun _ => s.session.log.length,
        s.logging (D.load c file s.wire).2 (loadEntry D c file st s)) := by
  rcases hsent : D.load c file s.wire with ⟨answer, w⟩
  have hwire : D.load c file (s.logging s.wire (.opening (s.clock 0) file.statement file.statement
      (D.database c s.wire.world) st [])).wire = (answer, w) := hsent
  unfold loadStaged loadEntry
  rw [run_connected_bind hc, run_bind_of_ok (run_openEntry ..), run_onWire_bind, hwire, hsent]
  cases answer with
  | ok count => exact run_bind_of_ok (run_amendEntry ..)
  | error e => exact run_bind_of_ok (run_amendEntry ..)

/-- A staged file makes one entry, which is the newest when the file is loaded. -/
theorem loadStaged_added (hc : s.session.connection = some c) (file : Batch.Load)
    (st : Settings) :
    Added [loadEntry D c file st s] s (run (loadStaged D file st) s).2 ∧
      Wrote (.sent c (.load file)) s (run (loadStaged D file st) s).2 ∧
      ∀ i, (run (loadStaged D file st) s).1 = .ok i →
        i = s.session.log.length ∧ (loadEntry D c file st s).error = none := by
  obtain ⟨more, htrace⟩ := D.sent_of_load (c := c) file s.wire
  rw [run_loadStaged hc]
  refine ⟨added_logging (LogEntry.consistent_counted _) ⟨_, htrace.symm⟩,
    ⟨_, htrace, List.mem_cons_self⟩, fun i hi => ?_⟩
  unfold loadEntry
  cases hanswer : (D.load c file s.wire).1 with
  | ok count =>
      rw [hanswer] at hi
      exact ⟨(Except.ok.inj hi).symm, rfl⟩
  | error e =>
      rw [hanswer] at hi
      cases hi

/-- What becomes of a staged file in its unit: the unit does not start, or the file makes its
entry. -/
inductive LoadingUnit (D : Driver Address World) (c : ConnId) (file : Batch.Load) (st : Settings)
    (s : State World) : Except Error (Option Nat) × State World → Prop
  | unstarted {e : Error} {s' : State World} (h : Unlogged s s') :
    LoadingUnit D c file st s (.error e, s')
  | loaded {result : Except Error (Option Nat)} {s' : State World} (hstart : s.Starts D c)
    (hadded : Added [loadEntry D c file st (s.starting D c)] s s')
    (hsent : Wrote (.sent c (.load file)) s s')
    (hvalue : ∀ i, result = .ok (some i) →
      i = s.session.log.length ∧ (loadEntry D c file st (s.starting D c)).error = none) :
    LoadingUnit D c file st s (result, s')

/-- The start of a unit keeps the connection. -/
theorem connection_starting (hc : s.session.connection = some c) :
    (s.starting D c).session.connection = some c := by
  unfold State.starting
  split
  · exact hc
  · exact hc

/-- A staged file in its unit makes no entry, or the one of its load. -/
theorem transact_loadStaged (hc : s.session.connection = some c) (file : Batch.Load)
    (st : Settings) (propagate : Bool) :
    LoadingUnit D c file st s (run (transact D propagate (loadStaged D file st)) s) := by
  rcases hrun : run (transact D propagate (loadStaged D file st)) s with ⟨result, s'⟩
  have hframing := framing D propagate (loadStaged D file st) s
  rw [hrun] at hframing
  cases hframing with
  | unstarted hfailed h =>
      obtain ⟨e, rfl⟩ := hfailed
      exact .unstarted h
  | started hc' hstart hbefore hafter hvalue =>
      obtain rfl := Option.some.inj (hc.symm.trans hc')
      obtain ⟨hadded, hsent, hposition⟩ :=
        loadStaged_added (D := D) (connection_starting (D := D) hc) file st
      refine .loaded hstart (hadded.framed hbefore hafter) ?_ fun i hi => ?_
      · exact hsent.framed (Added.of_unlogged hbefore).trace (Added.of_unlogged hafter).trace
      · rw [← hbefore.log]
        exact hposition i (hvalue i hi)

/-- Loading a staged file keeps the connection, whatever becomes of the file. -/
theorem connection_of_loading (hc : s.session.connection = some c) (file : Batch.Load)
    (st : Settings) (propagate : Bool) :
    (run (transact D propagate (loadStaged D file st)) s).2.session.connection = some c := by
  have hkept : D.KeptByRequests c fun _ => True := fun _ _ _ => trivial
  have hload := (undisturbed_of_requests hkept).loadStaged ()
    (OnConnection.onWire (hkept.load file)) st
  exact ((OnConnection.outlives_steering hkept).transact hload propagate s ⟨hc, trivial⟩).1

/-- If the query is sent it makes one entry, and that is taken back. -/
theorem maxId_added (hc : s.session.connection = some c) {table : String} {st : Settings}
    {p : Template.Prepared} (hp : Template.prepare st (maxIdStatement table) = .ok p) :
    Added [] s (run (maxId D table st) s).2 := by
  have hp' : Template.prepare (bareValue st) (maxIdStatement table) = .ok p := hp
  obtain ⟨e, hadded, -⟩ := run_added (D := D) hc hp'
  rw [run_maxId]
  exact
    { log := by
        show List.dropLast _ = _
        rw [hadded.log, List.dropLast_concat, List.append_nil]
      consistent := fun e he => absurd he List.not_mem_nil
      trace := hadded.trace
      settings := hadded.settings
      defaults := hadded.defaults }

/-- If its template is rejected, the newest entry is taken back nevertheless. -/
theorem maxId_of_rejected {table : String} {st : Settings} {e : Error}
    (hp : Template.prepare st (maxIdStatement table) = .error e) :
    run (maxId D table st) s =
      (.error e, { s with session :=
        { s.session with lastError := some e.message, log := s.session.log.dropLast } }) := by
  have hp' : Template.prepare (bareValue st) (maxIdStatement table) = .error e := hp
  rw [run_maxId, run_of_rejected hp']
  rfl

/-- The entry of a load is completed by the last of its ids. -/
theorem Added.withLast {entry : LogEntry} {s' : State World} (h : Added [entry] s s')
    (hload : entry.OfLoad s'.wire.trace) (hgranted : entry.error = none) (count : Nat)
    (last : Option Int64) :
    Added [entry.reckoned count last] s (s'.withLast s.session.log.length count last) := by
  have hentry := h.consistent entry List.mem_cons_self
  cases last with
  | none => exact h
  | some last =>
      have hamended := h.amend (f := fun e => e.reckoned count (some last))
        (hentry.reckoned hload hgranted count (some last))
      exact hamended.framed (.refl s) (.unseen rfl rfl rfl rfl)

/-- Once the query was sent, the entry of the load is there, with the ids if they were found. -/
theorem afterLoad_added {loaded : State World} {entry : LogEntry} (hunit : Added [entry] s loaded)
    (hc : loaded.session.connection = some c) (hload : entry.OfLoad loaded.wire.trace)
    (hgranted : entry.error = none) {table : String} {st : Settings} {p : Template.Prepared}
    (hp : Template.prepare st (maxIdStatement table) = .ok p) (count : Nat) :
    ∃ last, Added [entry.reckoned count last] s
        (run (afterLoad D table count st (some s.session.log.length)) loaded).2 ∧
      loaded.wire.trace <+:
        (run (afterLoad D table count st (some s.session.log.length)) loaded).2.wire.trace := by
  have hquery := maxId_added (D := D) hc hp
  rcases hmax : run (maxId D table st) loaded with ⟨e | last, asked⟩
  · rw [hmax] at hquery
    rw [run_afterLoad_of_error hmax]
    exact ⟨none, hunit.trans hquery, hquery.trace⟩
  · rw [hmax] at hquery
    rw [run_afterLoad_of_ok hmax]
    refine ⟨last, (hunit.trans hquery).withLast (hload.mono hquery.trace) hgranted count last, ?_⟩
    rw [(asked.beside_withLast _ count last).wire]
    exact hquery.trace

/-- A large batch was staged, its unit has started on the session's connection, and that was asked
to load the file. -/
structure Sent (D : Driver Address World) (table : String) (columns : List String)
    (rows : List (List Cell)) (s s' : State World) (c : ConnId) (file : Batch.Load) : Prop where
  connection : s.session.connection = some c
  staged : ∃ contents, Batch.stage rows = .ok contents ∧
    file = .staged (stagedPath (s.clock 0)) table columns contents
  starts : s.ticked.Starts D c
  asked : Wrote (.sent c (.load file)) s s'

/-- What was sent stays sent as the trace grows. -/
theorem Sent.mono {table : String} {columns : List String} {rows : List (List Cell)}
    {s' s'' : State World} {file : Batch.Load} (h : Sent D table columns rows s s' c file)
    (htrace : s'.wire.trace <+: s''.wire.trace) : Sent D table columns rows s s'' c file where
  connection := h.connection
  staged := h.staged
  starts := h.starts
  asked := h.asked.framed (List.prefix_refl _) htrace

/-- The file was loaded and its unit has kept that, but the query for the largest id cannot be
prepared. -/
def Discards (D : Driver Address World) (table : String) (st : Settings) (s : State World)
    (file : Batch.Load) (e : Error) : Prop :=
  (∃ i, (run (transact D st.throwErrors (loadStaged D file st)) s.ticked).1 = .ok (some i)) ∧
    Template.prepare st (maxIdStatement table) = .error e

/-- What a large batch can come to.  Nothing was loaded; or the entry of the load is there; or it
was taken back, and the batch fails with the error of the query. -/
inductive BulkEnding (D : Driver Address World) (table : String) (columns : List String)
    (rows : List (List Cell)) (st : Settings) (s : State World) :
    Except Error Output × State World → Prop
  | unloaded {result : Except Error Output} {s' : State World} (h : Unlogged s s') :
    BulkEnding D table columns rows st s (result, s')
  | kept {result : Except Error Output} {s' : State World} {c : ConnId} {file : Batch.Load}
    {last : Option Int64} (hsent : Sent D table columns rows s s' c file)
    (hkept : ∀ e, ¬ Discards D table st s file e)
    (hadded : Added [(loadEntry D c file st (s.ticked.starting D c)).reckoned rows.length last]
      s s') :
    BulkEnding D table columns rows st s (result, s')
  | discarded {e : Error} {s' : State World} {c : ConnId} {file : Batch.Load}
    (hsent : Sent D table columns rows s s' c file) (hdiscarded : Discards D table st s file e)
    (hadded : Added [] s s') :
    BulkEnding D table columns rows st s (.error e, s')

section

variable {table : String} {columns : List String} {rows : List (List Cell)} {st : Settings}

/-- From a file on that was loaded and whose unit has kept that. -/
theorem loaded_ending {file : Batch.Load} {loaded : State World}
    (hrun : run (transact D st.throwErrors (loadStaged D file st)) s.ticked =
      (.ok (some s.session.log.length), loaded))
    (hsent : Sent D table columns rows s loaded c file)
    (hconn : loaded.session.connection = some c)
    (hadded : Added [loadEntry D c file st (s.ticked.starting D c)] s loaded)
    (hgranted : (loadEntry D c file st (s.ticked.starting D c)).error = none) :
    BulkEnding D table columns rows st s
      (run (afterLoad D table rows.length st (some s.session.log.length)) loaded) := by
  cases hp : Template.prepare st (maxIdStatement table) with
  | error e =>
      have hdiscarded : Discards D table st s file e := ⟨⟨_, congrArg Prod.fst hrun⟩, hp⟩
      rw [run_afterLoad_of_error (maxId_of_rejected hp)]
      refine .discarded (hsent.mono (List.prefix_refl _)) hdiscarded
        ⟨?_, fun e he => absurd he List.not_mem_nil, hadded.trace, hadded.settings,
          hadded.defaults⟩
      show List.dropLast _ = _
      rw [hadded.log, List.dropLast_concat, List.append_nil]
  | ok p =>
      have hload : (loadEntry D c file st (s.ticked.starting D c)).OfLoad loaded.wire.trace :=
        (loadEntry_describes file st).ofLoad hsent.asked.mem
      obtain ⟨last, hended, htrace⟩ :=
        afterLoad_added (D := D) hadded hconn hload hgranted hp rows.length
      refine .kept (hsent.mono htrace) ?_ hended
      rintro e ⟨-, hrejected⟩
      rw [hp] at hrejected
      cases hrejected

/-- From a staged file on, which is loaded in its unit. -/
theorem staged_ending (hc : s.session.connection = some c) {contents : String}
    (hstage : Batch.stage rows = .ok contents) :
    BulkEnding D table columns rows st s
      (run (transact D st.throwErrors
          (loadStaged D (.staged (stagedPath (s.clock 0)) table columns contents) st) >>=
        afterLoad D table rows.length st) s.ticked) := by
  have hticked : Unlogged s s.ticked := .unseen rfl rfl rfl rfl
  let file : Batch.Load := .staged (stagedPath (s.clock 0)) table columns contents
  have hconn := connection_of_loading (D := D) (s := s.ticked) hc file st st.throwErrors
  have hunit := transact_loadStaged (D := D) (s := s.ticked) hc file st st.throwErrors
  rcases hrun : run (transact D st.throwErrors (loadStaged D file st)) s.ticked with
    ⟨result, loaded⟩
  rw [hrun] at hunit hconn
  cases hunit with
  | unstarted h =>
      rw [run_bind_of_error hrun]
      exact .unloaded (hticked.trans h)
  | loaded hstart hadded hasked hvalue =>
      have hsent : Sent D table columns rows s loaded c file :=
        ⟨hc, ⟨contents, hstage, rfl⟩, hstart, hasked⟩
      have hentry : Added [(loadEntry D c file st (s.ticked.starting D c)).reckoned rows.length
          none] s loaded := hadded.framed hticked (.refl loaded)
      have hunkept : (∀ i, result ≠ .ok (some i)) → ∀ e, ¬ Discards D table st s file e := by
        rintro hnone e ⟨⟨i, hi⟩, -⟩
        rw [hrun] at hi
        exact hnone i hi
      rcases result with e | _ | i
      · rw [run_bind_of_error hrun]
        exact .kept hsent (hunkept fun i hi => nomatch hi) hentry
      · rw [run_bind_of_ok hrun]
        exact .kept hsent (hunkept fun i hi => nomatch hi) hentry
      · obtain ⟨rfl, hgranted⟩ := hvalue i rfl
        rw [run_bind_of_ok hrun]
        exact loaded_ending hrun hsent hconn hentry hgranted

end

/-- Every large batch comes to one of these ends. -/
theorem bulkLoad_ending (table : String) (columns : List String) (rows : List (List Cell))
    (st : Settings) :
    BulkEnding D table columns rows st s (run (bulkLoad D table columns rows st) s) := by
  cases hc : s.session.connection with
  | none =>
      have hgone : run (bulkLoad D table columns rows st) s = (.error .notConnected, s) :=
        run_bind_of_error (run_connected_of_none hc)
      rw [hgone]
      exact .unloaded (.refl s)
  | some c =>
      cases hbulk : (D.capabilities c s.wire.world).bulkLoad with
      | false =>
          rw [run_bulkLoad_of_missing hc hbulk]
          exact .unloaded (.refl s)
      | true =>
          rw [run_bulkLoad hc hbulk]
          cases hstage : Batch.stage rows with
          | error e => exact .unloaded (.refl s)
          | ok contents => exact staged_ending hc hstage

/-- The ways of an insert: it comes to an end before anything is sent, or its batch is one
statement, or its batch is staged. -/
inductive InsertCourse (D : Driver Address World) (table : String) (columns : List String)
    (rows : List (List Cell)) (changes : Overrides) (s : State World) : Prop
  | ended {result : Except Error Output}
    (h : run (Session.insertRows D table columns rows changes) s = (result, s))
    (hunasked : ∀ e, result = .error e → e.driver? = none)
  | inline {st : Settings} {sql : String}
    (hset : (s.session.currentSettings s.defaults).override changes = .ok st)
    (hfits : fitsInline st rows.length = true)
    (h : run (Session.insertRows D table columns rows changes) s = run (Session.run D sql st) s)
  | staged {st : Settings}
    (hset : (s.session.currentSettings s.defaults).override changes = .ok st)
    (hlarge : fitsInline st rows.length = false)
    (h : run (Session.insertRows D table columns rows changes) s =
      run (bulkLoad D table columns rows st) s)
    (heven : ragged? columns.length rows = none)

/-- Every insert takes one of these courses. -/
theorem insert_course (table : String) (columns : List String) (rows : List (List Cell))
    (changes : Overrides) : InsertCourse D table columns rows changes s := by
  by_cases hsome : rows = []
  · subst hsome
    exact .ended rfl fun e he => nomatch he
  have hrun : run (Session.insertRows D table columns rows changes) s = _ :=
    run_insertRows_of_override hsome changes
  cases hragged : ragged? columns.length rows with
  | some place =>
      rw [hragged] at hrun
      refine .ended hrun fun e he => ?_
      rw [← Except.error.inj he]
      rfl
  | none =>
      cases hset : (s.session.currentSettings s.defaults).override changes with
      | error e =>
          rw [hragged, hset] at hrun
          obtain ⟨fault, rfl⟩ := Settings.exists_fault_of_override hset
          refine .ended hrun fun e he => ?_
          rw [← Except.error.inj he]
          rfl
      | ok st =>
          rw [hragged, hset] at hrun
          dsimp only at hrun
          cases hfits : fitsInline st rows.length with
          | false =>
              rw [hfits, if_neg Bool.false_ne_true] at hrun
              exact .staged hset hfits hrun hragged
          | true =>
              rw [hfits, if_pos rfl] at hrun
              cases hsql : Batch.statement st table columns rows with
              | error e =>
                  rw [hsql] at hrun
                  obtain ⟨fault, rfl⟩ := Batch.exists_fault_of_statement hsql
                  refine .ended hrun fun e he => ?_
                  rw [← Except.error.inj he]
                  rfl
              | ok sql =>
                  rw [hsql] at hrun
                  exact .inline hset hfits hrun

/-- An insert adds to the log, whichever way it takes. -/
theorem Logged.insertRows (table : String) (columns : List String) (rows : List (List Cell))
    (changes : Overrides) :
    Logged s (Act.run (Session.insertRows D table columns rows changes) s).2 := by
  cases insert_course (D := D) (s := s) table columns rows changes with
  | ended h =>
      rw [h]
      exact .refl s
  | inline hset _ h =>
      rw [h]
      exact .run ⟨changes, hset⟩ _
  | @staged st hset _ h =>
      rw [h]
      have hending := bulkLoad_ending (D := D) (s := s) table columns rows st
      generalize Act.run (bulkLoad D table columns rows st) s = outcome at hending ⊢
      cases hending with
      | unloaded h => exact .of_unlogged h
      | kept _ _ hadded =>
          refine .single hadded ⟨changes, ?_⟩
          rw [LogEntry.settings_reckoned, settings_loadEntry]
          exact hset
      | discarded _ _ hadded => exact ⟨[], hadded, fun e he => absurd he List.not_mem_nil⟩

/-- A batch is large under its settings, and a file was to be loaded in the course of its insert.
Then this was the staged batch, on the connection of the session.  The log has got one entry, which
describes the load, except where the load was kept and the query for the largest id cannot be
prepared: then the log is what it was, and the insert fails with the error of the query. -/
theorem loaded_batch_logged {table : String} {columns : List String} {rows : List (List Cell)}
    {changes : Overrides} {st : Settings}
    (hset : (s.session.currentSettings s.defaults).override changes = .ok st)
    (hlarge : fitsInline st rows.length = false) {result : Except Error Output} {s' : State World}
    (hrun : run (Session.insertRows D table columns rows changes) s = (result, s'))
    (hload : ∃ e, Wrote e s s' ∧ e.Loads) :
    ∃ c file, Sent D table columns rows s s' c file ∧
      ((∀ e, ¬ Discards D table st s file e) →
        ∃ entry, s'.session.log = s.session.log ++ [entry] ∧
          entry.Describes file (D.load c file (s.ticked.starting D c).wire).1 ∧
          entry.settings = st) ∧
      ∀ e, Discards D table st s file e →
        result = .error e ∧ s'.session.log = s.session.log := by
  obtain ⟨event, ⟨more, htrace, hevent⟩, hloads⟩ := hload
  have hnot : ¬ Unlogged s s' := by
    intro h
    obtain ⟨more', htrace', hmore'⟩ := h.trace
    rw [htrace] at htrace'
    rw [List.append_cancel_left htrace'] at hevent
    exact hmore' event hevent hloads
  cases insert_course (D := D) (s := s) table columns rows changes with
  | ended h =>
      rw [h] at hrun
      cases hrun
      exact absurd (.refl s) hnot
  | inline hset' hfits _ =>
      rw [hset] at hset'
      rw [← Except.ok.inj hset', hlarge] at hfits
      cases hfits
  | staged hset' _ h =>
      rw [hset] at hset'
      obtain rfl := Except.ok.inj hset'
      have hending := bulkLoad_ending (D := D) (s := s) table columns rows st
      rw [← h, hrun] at hending
      cases hending with
      | unloaded h => exact absurd h hnot
      | kept hsent hkept hadded =>
          refine ⟨_, _, hsent, fun _ => ⟨_, hadded.log, ?_, ?_⟩, fun e he => absurd he (hkept e)⟩
          · exact (loadEntry_describes _ _).reckoned _ _
          · rw [LogEntry.settings_reckoned, settings_loadEntry]
      | discarded hsent hdiscarded hadded =>
          refine ⟨_, _, hsent, fun h => absurd hdiscarded (h _), fun e he => ⟨?_, ?_⟩⟩
          · rw [Except.error.inj (hdiscarded.2.symm.trans he.2)]
          · rw [hadded.log, List.append_nil]

end

/-- A table whose name holds a closing marker. -/
theorem loaded_batch_logged_of_marker_in_name :
    let D := Driver.refusing 7 ⟨1146, "no such table"⟩
    let st : Settings := { Settings.builtin with maxInsertRows := 0 }
    let s : State Nat :=
      { wire := ⟨0, []⟩
        session := { Session.new with connection := some 0, settings := some st }
        defaults := .builtin
        clock := id
        reports := [] }
    let file : Batch.Load := .staged (stagedPath 0) "t%>" ["a"] "1\n"
    let insert := Session.insertRows D "t%>" ["a"] [[.int 1]] .none
    Wrote (.sent 0 (.load file)) s (run insert s).2 ∧
      (run insert s).1 = .error (.unmatched .closing 24) ∧ (run insert s).2.session.log = [] := by
  intro D st s file insert
  have hwrote : Wrote (.sent 0 (.load file)) s (run insert s).2 := by
    refine ⟨(run insert s).2.wire.trace, (List.nil_append _).symm, ?_⟩
    decide +kernel
  have hstage : Batch.stage [[.int 1]] = .ok "1\n" := by decide +kernel
  have hkept : (run (transact D st.throwErrors (loadStaged D file st)) s.ticked).1 =
      .ok (some 0) := by decide +kernel
  have hrejected : Template.prepare st (maxIdStatement "t%>") =
      .error (.unmatched .closing 24) := by decide +kernel
  have hrun : run insert s = ((run insert s).1, (run insert s).2) :=
    (Prod.eta _).symm
  obtain ⟨c, file', hsent, -, hdiscarded⟩ :=
    loaded_batch_logged rfl rfl hrun ⟨_, hwrote, trivial⟩
  obtain ⟨contents, hcontents, rfl⟩ := hsent.staged
  obtain rfl := Except.ok.inj (hstage.symm.trans hcontents)
  exact ⟨hwrote, hdiscarded _ ⟨⟨0, hkept⟩, hrejected⟩⟩

end SlotQuery
