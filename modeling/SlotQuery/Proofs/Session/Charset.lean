import SlotQuery.Proofs.Session.Courses

/-!
# The character set of a statement

A statement that is logged was run under a character set: that of the settings in its entry, which
are those of the call.  The set was requested just before the statement, and had it been refused,
the statement would not have been run.  This goes for queries, saved queries, files and batches that
are one statement; around the statement, the call asks for nothing but what steers.

A staged file is the exception.  It is loaded under whatever character set the connection happens to
have, as its call has requested none before.

`statement_under_charset` says which of the two a call comes to.
-/

namespace SlotQuery

open Act Session

variable {Address World α : Type}

/-- What goes over the wire for an entry: the character set of its settings is requested, and its
statement or script is run if that is accepted. -/
def LogEntry.RanUnderCharset (c : ConnId) (e : LogEntry) (own : List Event) : Prop :=
  (∃ answer, Performed c e.settings.charset ⟨e.statement, e.params⟩ answer own) ∨
    ∃ answer, PerformedBatch c e.settings.charset e.statement answer own

/-- From the first state to the second, a part was added to the trace that has the property, and
around it nothing but what steers. -/
def Amid (P : List Event → Prop) (s s' : State World) : Prop :=
  ∃ before own after, s'.wire.trace = s.wire.trace ++ (before ++ own ++ after) ∧
    (∀ x ∈ before, x.Steers) ∧ P own ∧ ∀ x ∈ after, x.Steers

/-- From the first state to the second, a staged file was to be loaded, and before that nothing was
requested but what steers. -/
def LoadsFirst (c : ConnId) (file : Batch.Load) (s s' : State World) : Prop :=
  ∃ before after, s'.wire.trace = s.wire.trace ++ (before ++ .sent c (.load file) :: after) ∧
    ∀ x ∈ before, x.Steers

/-- Nothing that is logged around it changes what a statement was run amid. -/
theorem Amid.framed {P : List Event → Prop} {s₀ s s' s₁ : State World} (h : Amid P s s')
    (hbefore : Unlogged s₀ s) (hafter : Unlogged s' s₁) : Amid P s₀ s₁ := by
  obtain ⟨before, own, after, htrace, hfront, hown, hback⟩ := h
  obtain ⟨front, hfronttrace, hfirst⟩ := hbefore.steered
  obtain ⟨back, hbacktrace, hlast⟩ := hafter.steered
  refine ⟨front ++ before, own, after ++ back, ?_, ?_, hown, ?_⟩
  · rw [hbacktrace, htrace, hfronttrace]
    simp only [List.append_assoc]
  · exact fun x hx => (List.mem_append.mp hx).elim (hfirst x) (hfront x)
  · exact fun x hx => (List.mem_append.mp hx).elim (hback x) (hlast x)

/-- Nothing that is logged around it changes that the load came first. -/
theorem LoadsFirst.framed {c : ConnId} {file : Batch.Load} {s₀ s s' s₁ : State World}
    (h : LoadsFirst c file s s') (hbefore : Unlogged s₀ s)
    (hafter : s'.wire.trace <+: s₁.wire.trace) : LoadsFirst c file s₀ s₁ := by
  obtain ⟨before, after, htrace, hfront⟩ := h
  obtain ⟨front, hfronttrace, hfirst⟩ := hbefore.steered
  obtain ⟨back, hbacktrace⟩ := hafter
  refine ⟨front ++ before, after ++ back, ?_, ?_⟩
  · rw [← hbacktrace, htrace, hfronttrace]
    simp only [List.append_assoc, List.cons_append]
  · exact fun x hx => (List.mem_append.mp hx).elim (hfirst x) (hfront x)

/-- From the first state to the second, an entry was made under these settings, for a statement that
ran under their character set. -/
def Attended (c : ConnId) (st : Settings) (s s' : State World) : Prop :=
  ∃ e, s'.session.log = s.session.log ++ [e] ∧ e.settings = st ∧ Amid (e.RanUnderCharset c) s s'

/-- Nothing that is logged around it changes how a statement was attended. -/
theorem Attended.framed {c : ConnId} {st : Settings} {s₀ s s' s₁ : State World}
    (h : Attended c st s s') (hbefore : Unlogged s₀ s) (hafter : Unlogged s' s₁) :
    Attended c st s₀ s₁ := by
  obtain ⟨e, hlog, he, hamid⟩ := h
  refine ⟨e, ?_, he, hamid.framed hbefore hafter⟩
  rw [hafter.log, hlog, hbefore.log]

section

variable {D : Driver Address World} {c : ConnId} {s : State World}

/-- An entry that was made when the statement had been run. -/
theorem attended_logging {w : Wire World} {e : LogEntry} {own : List Event}
    (htrace : w.trace = s.wire.trace ++ own) (hown : e.RanUnderCharset c own) :
    Attended c e.settings s (s.logging w e) := by
  refine ⟨e, rfl, rfl, [], own, [], ?_, fun _ hx => absurd hx List.not_mem_nil, hown,
    fun _ hx => absurd hx List.not_mem_nil⟩
  rw [List.append_nil]
  exact htrace

/-- A template is run under its character set, if it can be prepared and there is a connection. -/
theorem run_attended (sql : String) (st : Settings) :
    Unlogged s (run (Session.run D sql st) s).2 ∨
      ∃ c, s.session.connection = some c ∧
        Attended c st s (run (Session.run D sql st) s).2 := by
  cases hp : Template.prepare st sql with
  | error e =>
      rw [run_of_rejected hp]
      exact .inl (.unseen rfl rfl rfl rfl)
  | ok p =>
      cases hc : s.session.connection with
      | none =>
          rw [run_of_unconnected hp hc]
          exact .inl (.unseen rfl rfl rfl rfl)
      | some c =>
          rw [run_eq_runOn hp hc]
          obtain ⟨own, htrace, hown⟩ := D.writes_performUnder (c := c) st.charset p s.wire
          rcases hsent : performUnder D st.charset c p s.wire with ⟨answer, w⟩
          rw [hsent] at htrace hown
          obtain ⟨logged, hended, hlogged⟩ := run_runOn sql st p hsent
          rw [hended]
          let opened :=
            LogEntry.opening (s.clock 0) sql p.sql (D.database c s.wire.world) st p.params
          let e := opened.concluded (D.affected c w.world) (D.lastInsertId c w.world) answer
          have he : e.settings = st := LogEntry.settings_concluded ..
          obtain ⟨hstatement, hparams⟩ := opened.fields_concluded (D.affected c w.world)
            (D.lastInsertId c w.world) answer
          have hran : e.RanUnderCharset c own := by
            refine .inl ⟨answer, ?_⟩
            rw [he, hstatement, hparams]
            exact hown
          have hattended := (attended_logging htrace hran).framed (.refl s) hlogged
          rw [he] at hattended
          exact .inr ⟨c, rfl, hattended⟩

/-- A script on a connection is run under its character set. -/
theorem runBatch_attended (hc : s.session.connection = some c) (script : String) (st : Settings) :
    Attended c st s (run (runBatch D script st) s).2 := by
  let text := Template.condense st.delimiters script
  obtain ⟨own, htrace, hown⟩ := D.writes_performBatch (c := c) st.charset text s.wire
  rcases hsent : performBatch D st.charset c text s.wire with ⟨answer, w⟩
  rw [hsent] at htrace hown
  rw [run_runBatch hc script st hsent]
  let opened := LogEntry.opening (s.clock 0) script text (D.database c s.wire.world) st []
  let e := opened.counted (answer.map fun _ => D.affected c w.world)
  have he : e.settings = st := LogEntry.settings_counted ..
  have hran : e.RanUnderCharset c own := by
    refine .inr ⟨answer, ?_⟩
    rw [he, LogEntry.statement_counted]
    exact hown
  have hattended := attended_logging htrace hran
  rw [he] at hattended
  exact hattended

/-- A script in a unit of its own is run under its character set, if the unit starts. -/
theorem transact_runBatch_attended (script : String) (st : Settings) (propagate : Bool) :
    Unlogged s (run (transact D propagate (runBatch D script st)) s).2 ∨
      ∃ c, s.session.connection = some c ∧
        Attended c st s (run (transact D propagate (runBatch D script st)) s).2 := by
  cases framing D propagate (runBatch D script st) s with
  | unstarted _ h => exact .inl h
  | @started c hc hstart hbefore hafter _ =>
      have hattended := runBatch_attended (D := D) (connection_starting (D := D) hc) script st
      exact .inr ⟨c, hc, hattended.framed hbefore hafter⟩

/-- A staged file in a unit of its own is loaded first thing, if the unit starts. -/
theorem transact_loadStaged_first (hc : s.session.connection = some c) (file : Batch.Load)
    (st : Settings) (propagate : Bool) :
    ((∃ e, (run (transact D propagate (loadStaged D file st)) s).1 = .error e) ∧
        Unlogged s (run (transact D propagate (loadStaged D file st)) s).2) ∨
      LoadsFirst c file s (run (transact D propagate (loadStaged D file st)) s).2 := by
  cases framing D propagate (loadStaged D file st) s with
  | unstarted hfailed h => exact .inl ⟨hfailed, h⟩
  | started hc' hstart hbefore hafter _ =>
      obtain rfl := Option.some.inj (hc.symm.trans hc')
      have hloaded : LoadsFirst c file (s.starting D c)
          (run (loadStaged D file st) (s.starting D c)).2 := by
        obtain ⟨more, htrace⟩ := D.sent_of_load (c := c) file (s.starting D c).wire
        rw [run_loadStaged (connection_starting (D := D) hc)]
        exact ⟨[], more, htrace, fun _ hx => absurd hx List.not_mem_nil⟩
      exact .inr (hloaded.framed hbefore (Added.of_unlogged hafter).trace)

/-- The query for the largest id takes nothing back that is on the trace. -/
theorem trace_maxId (table : String) (st : Settings) :
    s.wire.trace <+: (run (maxId D table st) s).2.wire.trace := by
  rw [run_maxId]
  rcases run_attended (D := D) (s := s) (maxIdStatement table) (bareValue st) with h | ⟨c, -, h⟩
  · exact (Added.of_unlogged h).trace
  · obtain ⟨e, -, -, before, own, after, htrace, -⟩ := h
    exact ⟨_, htrace.symm⟩

/-- What follows a load writes to the end of the trace. -/
theorem trace_afterLoad (table : String) (count : Nat) (st : Settings) (position : Option Nat) :
    s.wire.trace <+: (run (afterLoad D table count st position) s).2.wire.trace := by
  cases position with
  | none => exact List.prefix_refl _
  | some position =>
      have hasked := trace_maxId (D := D) (s := s) table st
      rcases hmax : run (maxId D table st) s with ⟨e | last, asked⟩
      · rw [hmax] at hasked
        rw [run_afterLoad_of_error hmax]
        exact hasked
      · rw [hmax] at hasked
        rw [run_afterLoad_of_ok hmax, (asked.beside_withLast position count last).wire]
        exact hasked

/-- A large batch that is staged is loaded first thing, if the unit starts in which that is done. -/
theorem bulkLoad_loadsFirst (hc : s.session.connection = some c) (table : String)
    (columns : List String) {rows : List (List Cell)} (st : Settings) {contents : String}
    (hstage : Batch.stage rows = .ok contents) :
    Unlogged s (run (bulkLoad D table columns rows st) s).2 ∨
      LoadsFirst c (.staged (stagedPath (s.clock 0)) table columns contents) s
        (run (bulkLoad D table columns rows st) s).2 := by
  cases hbulk : (D.capabilities c s.wire.world).bulkLoad with
  | false =>
      rw [run_bulkLoad_of_missing hc hbulk]
      exact .inl (.refl s)
  | true =>
      have hticked : Unlogged s s.ticked := .unseen rfl rfl rfl rfl
      rw [run_bulkLoad hc hbulk, hstage]
      dsimp only
      let file : Batch.Load := .staged (stagedPath (s.clock 0)) table columns contents
      have hunit := transact_loadStaged_first (D := D) (s := s.ticked) hc file st st.throwErrors
      rcases hrun : run (transact D st.throwErrors (loadStaged D file st)) s.ticked with
        ⟨result, loaded⟩
      rw [hrun] at hunit
      rcases hunit with ⟨⟨e, rfl⟩, hunloaded⟩ | hloaded
      · rw [run_bind_of_error hrun]
        exact .inl (hticked.trans hunloaded)
      · right
        cases result with
        | error e =>
            rw [run_bind_of_error hrun]
            exact hloaded.framed hticked (List.prefix_refl _)
        | ok position =>
            rw [run_bind_of_ok hrun]
            exact hloaded.framed hticked (trace_afterLoad table rows.length st position)

/-- A large batch makes no entry, or one for the file that was loaded. -/
theorem bulkLoad_course (table : String) (columns : List String) (rows : List (List Cell))
    (st : Settings) :
    (run (bulkLoad D table columns rows st) s).2.session.log = s.session.log ∨
      ∃ c e file, s.session.connection = some c ∧
        (run (bulkLoad D table columns rows st) s).2.session.log = s.session.log ++ [e] ∧
        e.settings = st ∧ e.statement = file.statement ∧
        LoadsFirst c file s (run (bulkLoad D table columns rows st) s).2 := by
  have hending := bulkLoad_ending (D := D) (s := s) table columns rows st
  rcases hrun : run (bulkLoad D table columns rows st) s with ⟨result, s'⟩
  rw [hrun] at hending
  cases hending with
  | unloaded h => exact .inl h.log
  | discarded _ _ hadded =>
      left
      rw [hadded.log, List.append_nil]
  | kept hsent _ hadded =>
      obtain ⟨contents, hstage, rfl⟩ := hsent.staged
      rcases bulkLoad_loadsFirst (D := D) hsent.connection table columns st hstage with h | h
      · rw [hrun] at h
        exact .inl h.log
      · rw [hrun] at h
        refine .inr ⟨_, _, _, hsent.connection, hadded.log, ?_, ?_, h⟩
        · rw [LogEntry.settings_reckoned, settings_loadEntry]
        · exact ((loadEntry_describes _ _).reckoned _ _).statement

/-- A call that runs statements makes no entry, or one under the settings of the call.  If its batch
is not staged, the statement of the entry ran under the character set of these settings: that was
requested just before, and the statement was run only if it was accepted.  If its batch is staged,
the file was loaded with nothing requested before but what steers, and so no character set. -/
theorem statement_under_charset {command : Command Address} (hcommand : command.RunsStatements)
    (D : Driver Address World) (s : State World) :
    (run (command.run D) s).2.session.log = s.session.log ∨
      ∃ c e, s.session.connection = some c ∧
        (run (command.run D) s).2.session.log = s.session.log ++ [e] ∧
        command.Under s e.settings ∧
        (¬ command.Stages s → Amid (e.RanUnderCharset c) s (run (command.run D) s).2) ∧
        (command.Stages s → ∃ file, e.statement = file.statement ∧
          LoadsFirst c file s (run (command.run D) s).2) := by
  cases command.course hcommand D s with
  | ended h =>
      left
      rw [h]
  | @statement _ st sql hunder hinline h =>
      rw [h]
      rcases run_attended (D := D) (s := s) sql st with hended | ⟨c, hc, e, hlog, rfl, hamid⟩
      · exact .inl hended.log
      · exact .inr ⟨c, e, hc, hlog, hunder, fun _ => hamid,
          fun hstages => absurd hstages (hunder.not_stages hinline.not_overfull)⟩
  | @script file bytes script st hbytes htext hunder h =>
      rw [h]
      rcases transact_runBatch_attended (D := D) (s := s) script st st.throwErrors with
        hended | ⟨c, hc, e, hlog, rfl, hamid⟩
      · exact .inl hended.log
      · exact .inr ⟨c, e, hc, hlog, hunder, fun _ => hamid,
          fun hstages => absurd hstages (hunder.not_stages id)⟩
  | @staged table columns rows changes st hunder hlarge _ h =>
      rw [h]
      rcases bulkLoad_course (D := D) (s := s) table columns rows st with
        hended | ⟨c, e, file, hc, hlog, rfl, hstatement, hfirst⟩
      · exact .inl hended
      · exact .inr ⟨c, e, hc, hlog, hunder, fun hfits => absurd ⟨_, hunder, hlarge⟩ hfits,
          fun _ => ⟨file, hstatement, hfirst⟩⟩

end

/-- A batch of one row that is staged.  Before its file is loaded the connection is asked for no
character set. -/
theorem statement_under_charset_of_staged_batch :
    let D := Driver.refusing 9 ⟨2006, "server has gone away"⟩
    let s : State Nat :=
      { wire := ⟨0, []⟩
        session :=
          { Session.new with
            connection := some 0
            settings := some { Settings.builtin with maxInsertRows := 0 } }
        defaults := .builtin
        clock := id
        reports := [] }
    let insert : Command Unit := .insertRows "t" ["a"] [[.int 1]] none
    insert.RunsStatements ∧ insert.Stages s ∧
      ∃ e file before after, (run (insert.run D) s).2.session.log = [e] ∧
        e.settings.charset = "utf8" ∧ e.statement = file.statement ∧
        (run (insert.run D) s).2.wire.trace = before ++ .sent 0 (.load file) :: after ∧
        ∀ c charset, .sent c (.charset charset) ∉ before := by
  intro D s insert
  let st : Settings := { Settings.builtin with maxInsertRows := 0 }
  have hunder : insert.Under s st := ⟨.none, rfl, rfl⟩
  have hstages : insert.Stages s := ⟨st, hunder, rfl⟩
  have hlogged : (run (insert.run D) s).2.session.log ≠ s.session.log := by decide +kernel
  have hruns : insert.RunsStatements := trivial
  rcases statement_under_charset hruns D s with
    hlog | ⟨c, e, hc, hlog, he, -, hstaged⟩
  · exact absurd hlog hlogged
  · obtain rfl := Option.some.inj hc
    obtain ⟨file, hstatement, before, after, htrace, hsteers⟩ := hstaged hstages
    refine ⟨trivial, hstages, e, file, before, after, hlog, ?_, hstatement, htrace, ?_⟩
    · rw [← hunder.unique he]
      rfl
    · exact fun c charset hmem => hsteers _ hmem

end SlotQuery
