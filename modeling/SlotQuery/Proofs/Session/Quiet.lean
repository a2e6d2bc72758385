import SlotQuery.Proofs.Session.Courses
import SlotQuery.Proofs.Session.Refusals

/-!
# Settings that do not raise errors

Under settings that do not raise errors, a call that runs statements is meant to answer `false` when
the driver refuses something, and to keep the error as the newest (`Suppressed`).  A template does
so on every path, and so does a unit of work that has started.

Errors of the driver get out all the same in three places.  A file of statements and a staged batch
run in a unit of their own, and what is refused before its work is raised.  And the query for the
largest id, which follows a staged batch, runs under settings of its own that raise errors.

`quiet_call` says that these are the only places: under such settings a call raises an error of the
driver exactly if it `Escapes`, and is suppressed if none does.
-/

namespace SlotQuery

open Act Session

variable {Address World α β : Type}

/-- No error of the driver is raised.  If anything was refused, the result is the given one and the
newest error is that of a refusal. -/
structure Suppressed (s : State World) (no : α) (result : Except Error α) (s' : State World) :
    Prop where
  unraised : ∀ error, result = .error error → error.driver? = none
  observed : ∀ own, s'.wire.trace = s.wire.trace ++ own → ∀ e, Refusal own e →
    result = .ok no ∧ ∃ (error : Error) (cause : DriverError),
      s'.session.lastError = some error.message ∧
      error.driver? = some cause ∧ Refusal own cause

namespace Suppressed

variable {s s' : State World} {result : Except Error α} {no : α}

/-- What was come to on the wire reflects what was written there, and its errors are turned into the
given result. -/
theorem of_reflects {own : List Event} {r : Except Error β}
    (htrace : s'.wire.trace = s.wire.trace ++ own) (hown : Reflects r own)
    (hunraised : ∀ error, result = .error error → error.driver? = none)
    (herror : ∀ error, r = .error error →
      result = .ok no ∧ s'.session.lastError = some error.message) :
    Suppressed s no result s' where
  unraised := hunraised
  observed own' htrace' e hrefused := by
    obtain rfl := List.append_cancel_left (htrace'.symm.trans htrace)
    cases r with
    | ok a => exact absurd hrefused (hown.value a rfl e)
    | error error =>
        obtain ⟨hno, hnewest⟩ := herror error rfl
        obtain ⟨cause, hcause, hrefused'⟩ := hown.error error rfl
        exact ⟨hno, error, cause, hnewest, hcause, hrefused'⟩

/-- Nothing was asked of the driver. -/
theorem unasked (htrace : s'.wire.trace = s.wire.trace)
    (hunraised : ∀ error, result = .error error → error.driver? = none) :
    Suppressed s no result s' :=
  of_reflects (htrace.trans (List.append_nil _).symm) (.nil ()) hunraised
    fun _ herr => nomatch herr

/-- A suppressed result stays suppressed under a function. -/
theorem map (h : Suppressed s no result s') (f : α → β) :
    Suppressed s (f no) (result.map f) s' where
  unraised error herr := h.unraised error (eq_error_of_map herr)
  observed own htrace e hrefused := by
    obtain ⟨hno, hnewest⟩ := h.observed own htrace e hrefused
    rw [hno]
    exact ⟨rfl, hnewest⟩

end Suppressed

section

variable {D : Driver Address World} {c : ConnId} {s : State World} {st : Settings}

/-- A template is suppressed on every path. -/
theorem run_suppressed (hc : s.session.connection = some c) (hquiet : st.throwErrors = false)
    (sql : String) :
    Suppressed s (.bool false) (run (Session.run D sql st) s).1
      (run (Session.run D sql st) s).2 := by
  cases hp : Template.prepare st sql with
  | error e =>
      rw [run_of_rejected hp]
      refine .unasked rfl fun error herr => ?_
      rw [← Except.error.inj herr]
      exact Template.driver?_of_prepare hp
  | ok p =>
      obtain ⟨own, htrace, hown⟩ := D.writes_performUnder (c := c) st.charset p s.wire
      rcases hsent : performUnder D st.charset c p s.wire with ⟨answer, w⟩
      rw [hsent] at htrace hown
      obtain ⟨htold, hbeside, hnewest⟩ := run_of_prepared hp hc hsent
      rw [htold]
      have htrace' : (run (Session.run D sql st) s).2.wire.trace = s.wire.trace ++ own :=
        (congrArg Wire.trace hbeside.wire).trans htrace
      refine .of_reflects htrace' hown.reflects (fun error herr => ?_) fun error herr => ?_
      · cases answer with
        | ok reply => cases herr
        | error e =>
            unfold told at herr
            rw [hquiet] at herr
            cases herr
      · subst herr
        refine ⟨?_, hnewest error rfl⟩
        unfold told
        rw [hquiet]
        rfl

/-- Under settings that raise errors, a template fails before the driver is asked for anything, or
what it comes to reflects what it writes. -/
theorem run_raising (hc : s.session.connection = some c) (hraises : st.throwErrors = true)
    (sql : String) :
    ∃ own, (run (Session.run D sql st) s).2.wire.trace = s.wire.trace ++ own ∧
      (Reflects (run (Session.run D sql st) s).1 own ∨
        own = [] ∧ ∃ error, (run (Session.run D sql st) s).1 = .error error ∧
          error.driver? = none) := by
  cases hp : Template.prepare st sql with
  | error e =>
      rw [run_of_rejected hp]
      exact ⟨[], (List.append_nil _).symm, .inr ⟨rfl, e, rfl, Template.driver?_of_prepare hp⟩⟩
  | ok p =>
      obtain ⟨own, htrace, hown⟩ := D.writes_performUnder (c := c) st.charset p s.wire
      rcases hsent : performUnder D st.charset c p s.wire with ⟨answer, w⟩
      rw [hsent] at htrace hown
      obtain ⟨htold, hbeside, -⟩ := run_of_prepared hp hc hsent
      refine ⟨own, (congrArg Wire.trace hbeside.wire).trans htrace, .inl ?_⟩
      rw [htold]
      have htold' : told st answer = answer.map (shape st) := by
        unfold told
        rw [hraises]
        cases answer <;> rfl
      rw [htold']
      exact hown.reflects.map _

/-- A unit that starts is suppressed if its errors are not raised. -/
theorem transact_suppressed (hc : s.session.connection = some c) {work : Act World α}
    (hwork : Reflecting c work) (hstarts : ∀ error, ¬ s.Refuses D c error) (f : Option α → β) :
    Suppressed s (f none) ((run (transact D false work) s).1.map f)
      (run (transact D false work) s).2 := by
  rcases transact_reflects (D := D) hc hwork false with
    ⟨error, hrefused⟩ | ⟨r, own, hr, htrace, hown, hnewest⟩
  · exact absurd hrefused (hstarts error)
  · rw [hr]
    refine .of_reflects htrace hown (fun error herr => ?_) fun error herr => ?_
    · cases r with
      | ok a => cases herr
      | error e => cases herr
    · subst herr
      exact ⟨rfl, hnewest error rfl⟩

end

/-- A large batch that comes as far as the unit in which its file is loaded. -/
structure LoadsBatch (D : Driver Address World) (c : ConnId) (st : Settings) (s : State World)
    (columns : List String) (rows : List (List Cell)) (contents : String) : Prop where
  large : fitsInline st rows.length = false
  even : ragged? columns.length rows = none
  offered : (D.capabilities c s.wire.world).bulkLoad = true
  staged : Batch.stage rows = .ok contents

/-- An error of the driver gets out of a call: of a file of statements or a staged batch whose unit
cannot start, or of the query for the largest id after the load was kept. -/
inductive Command.Escapes (D : Driver Address World) (c : ConnId) (st : Settings)
    (s : State World) : Command Address → Error → Prop
  | file {file : ScriptFile} {bytes : List UInt8} {script : String} {error : Error}
    (hbytes : file.contents = some bytes) (htext : Text.decode? bytes = some script)
    (hrefused : s.Refuses D c error) : Escapes D c st s (.runFile file) error
  | batch {table : String} {columns : List String} {rows : List (List Cell)}
    {changes : Option Json} {contents : String} {error : Error}
    (hbatch : LoadsBatch D c st s columns rows contents)
    (hrefused : s.ticked.Refuses D c error) :
    Escapes D c st s (.insertRows table columns rows changes) error
  | followUp {table : String} {columns : List String} {rows : List (List Cell)}
    {changes : Option Json} {contents : String} {position : Nat} {loaded : State World}
    {error : Error} (hbatch : LoadsBatch D c st s columns rows contents)
    (hloaded : Act.run (transact D false (loadStaged D
        (.staged (stagedPath (s.clock 0)) table columns contents) st)) s.ticked =
      (.ok (some position), loaded))
    (hquery : (Act.run (Session.run D (maxIdStatement table) (bareValue st)) loaded).1 =
      .error error)
    (hdriver : error.driver? ≠ none) :
    Escapes D c st s (.insertRows table columns rows changes) error

/-- The answer of a call that has failed without raising its error. -/
def Command.no : Command Address → Answer
  | runFile _ => .bool false
  | _ => .output (.bool false)

/-- An inline command says no by a false value. -/
theorem Command.Inline.no_eq {command : Command Address} {st : Settings}
    (h : command.Inline st) : command.no = .output (.bool false) := by
  cases command with
  | runFile file => exact h.elim
  | _ => rfl

section

variable {D : Driver Address World} {c : ConnId} {s : State World} {st : Settings}

/-- A refused unit has a failed request as its cause. -/
theorem State.Refuses.exists_cause {error : Error} (h : s.Refuses D c error) :
    ∃ e, error = .queryFailed e := by
  unfold State.Refuses at h
  split at h
  · obtain ⟨e, w, -, rfl⟩ := h
    exact ⟨e, rfl⟩
  · obtain ⟨e, w, rfl, -⟩ := h
    exact ⟨e, rfl⟩

/-- A batch that is loaded is a unit around the load and what follows it. -/
theorem LoadsBatch.run_bulkLoad {columns : List String} {rows : List (List Cell)}
    {contents : String} (h : LoadsBatch D c st s columns rows contents)
    (hc : s.session.connection = some c) (table : String) :
    run (bulkLoad D table columns rows st) s =
      run (transact D st.throwErrors
          (loadStaged D (.staged (stagedPath (s.clock 0)) table columns contents) st) >>=
        afterLoad D table rows.length st) s.ticked := by
  rw [SlotQuery.run_bulkLoad hc h.offered, h.staged]

/-- What follows the load answers with the query for the largest id, and leaves everything but the
log as that query does. -/
theorem run_afterLoad (st : Settings) (table : String) (count position : Nat) :
    (run (afterLoad D table count st (some position)) s).1 =
        ((run (Session.run D (maxIdStatement table) (bareValue st)) s).1.map fun _ => .bool true) ∧
      Beside (run (Session.run D (maxIdStatement table) (bareValue st)) s).2
        (run (afterLoad D table count st (some position)) s).2 := by
  have hmax := run_maxId (D := D) table st s
  rcases hquery : run (Session.run D (maxIdStatement table) (bareValue st)) s with ⟨e | output, s'⟩
  · rw [hquery] at hmax
    rw [run_afterLoad_of_error hmax]
    exact ⟨rfl, rfl, rfl, rfl, rfl, rfl, rfl⟩
  · rw [hquery] at hmax
    rw [run_afterLoad_of_ok hmax]
    have hbeside := State.beside_withLast { s' with session :=
      { s'.session with log := s'.session.log.dropLast } } position count
        (output.scalar?.bind Cell.int?)
    exact ⟨rfl, hbeside.wire, hbeside.connection, hbeside.scopes, hbeside.settings,
      hbeside.saved, hbeside.defaults⟩

/-- What escapes is raised, and is an error of the driver. -/
theorem Command.Escapes.raised {command : Command Address} {error : Error}
    (h : command.Escapes D c st s error) (hc : s.session.connection = some c)
    (hunder : command.Under s st) (hquiet : st.throwErrors = false) :
    (Act.run (command.run D) s).1 = .error error ∧ error.driver? ≠ none := by
  cases h with
  | file hbytes htext hrefused =>
      rw [Command.run_runFile hbytes htext hunder, run_transact_of_refuses hc hrefused]
      obtain ⟨e, rfl⟩ := hrefused.exists_cause
      exact ⟨rfl, Option.some_ne_none e⟩
  | @batch table columns rows changes contents error hbatch hrefused =>
      let file : Batch.Load := .staged (stagedPath (s.clock 0)) table columns contents
      have hticked : s.ticked.session.connection = some c := hc
      have hfailed := run_transact_of_refuses hticked hrefused st.throwErrors
        (loadStaged D file st)
      rcases hrun : Act.run (transact D st.throwErrors (loadStaged D file st)) s.ticked with
        ⟨result, s'⟩
      rw [hrun] at hfailed
      obtain rfl := hfailed
      rw [Command.run_insertRows hunder hbatch.large hbatch.even, hbatch.run_bulkLoad hc,
        run_bind_of_error hrun]
      obtain ⟨e, rfl⟩ := hrefused.exists_cause
      exact ⟨rfl, Option.some_ne_none e⟩
  | @followUp table columns rows changes contents position loaded _ hbatch hloaded hquery hdriver =>
      rw [Command.run_insertRows hunder hbatch.large hbatch.even, hbatch.run_bulkLoad hc, hquiet,
        run_bind_of_ok hloaded, (run_afterLoad st table rows.length position).1, hquery]
      exact ⟨rfl, hdriver⟩

/-- After a load that reflects what was written, the batch is suppressed unless an error of the
driver gets out of the query for the largest id. -/
theorem afterLoad_suppressed {loaded : State World} {own : List Event}
    (hc : loaded.session.connection = some c) (htrace : loaded.wire.trace = s.wire.trace ++ own)
    {position : Nat} (hown : Reflects (.ok position) own) {table : String} (count : Nat)
    (hkept : ∀ error,
      (run (Session.run D (maxIdStatement table) (bareValue st)) loaded).1 = .error error →
        error.driver? = none) :
    Suppressed s (.bool false) (run (afterLoad D table count st (some position)) loaded).1
      (run (afterLoad D table count st (some position)) loaded).2 := by
  obtain ⟨hanswer, hbeside⟩ := run_afterLoad (D := D) (s := loaded) st table count position
  have hraises : (bareValue st).throwErrors = true := rfl
  obtain ⟨asked, hasked, hquery⟩ := run_raising (D := D) hc hraises (maxIdStatement table)
  have hended : (run (afterLoad D table count st (some position)) loaded).2.wire.trace =
      s.wire.trace ++ (own ++ asked) := by
    rw [hbeside.wire, hasked, htrace, List.append_assoc]
  have hreflects : Reflects (.ok ()) (own ++ asked) := by
    rcases hquery with hquery | ⟨rfl, -⟩
    · refine hown.append ?_
      cases hresult : (run (Session.run D (maxIdStatement table) (bareValue st)) loaded).1 with
      | error error =>
          rw [hresult] at hquery
          obtain ⟨e, he, -⟩ := hquery.error error rfl
          exact absurd (hkept error hresult) (he ▸ Option.some_ne_none e)
      | ok output =>
          rw [hresult] at hquery
          exact hquery.map fun _ => ()
    · exact hown.append (.nil ())
  refine .of_reflects hended hreflects (fun error herr => ?_) fun _ herr => nomatch herr
  rw [hanswer] at herr
  exact hkept error (eq_error_of_map herr)

/-- A large batch is suppressed unless an error of the driver escapes. -/
theorem bulkLoad_suppressed (hc : s.session.connection = some c) (hquiet : st.throwErrors = false)
    {table : String} {columns : List String} {rows : List (List Cell)} {changes : Option Json}
    (hlarge : fitsInline st rows.length = false) (heven : ragged? columns.length rows = none)
    (hescapes : ∀ error,
      ¬ (Command.insertRows table columns rows changes).Escapes D c st s error) :
    Suppressed s (.bool false) (run (bulkLoad D table columns rows st) s).1
      (run (bulkLoad D table columns rows st) s).2 := by
  cases hoffered : (D.capabilities c s.wire.world).bulkLoad with
  | false =>
      rw [run_bulkLoad_of_missing hc hoffered]
      exact .unasked rfl fun error herr => by
        rw [← Except.error.inj herr]
        rfl
  | true =>
      cases hstage : Batch.stage rows with
      | error e =>
          rw [run_bulkLoad hc hoffered, hstage]
          obtain ⟨fault, rfl⟩ := Batch.exists_fault_of_stage hstage
          exact .unasked rfl fun error herr => by
            rw [← Except.error.inj herr]
            rfl
      | ok contents =>
          have hbatch : LoadsBatch D c st s columns rows contents :=
            ⟨hlarge, heven, hoffered, hstage⟩
          rw [hbatch.run_bulkLoad hc, hquiet]
          let file : Batch.Load := .staged (stagedPath (s.clock 0)) table columns contents
          have hconn := connection_of_loading (D := D) (s := s.ticked) hc file st false
          have hunit := transact_reflects (D := D) (s := s.ticked) hc
            (loadStaged_reflecting (D := D) file st) false
          rcases hrun : run (transact D false (loadStaged D file st)) s.ticked with
            ⟨result, loaded⟩
          rw [hrun] at hunit hconn
          rcases hunit with ⟨error, hrefused⟩ | ⟨r, own, rfl, htrace, hown, hnewest⟩
          · exact absurd (.batch hbatch hrefused) (hescapes error)
          · cases r with
            | error e =>
                have hended : run (transact D false (loadStaged D file st)) s.ticked =
                    (.ok none, loaded) := hrun
                rw [run_bind_of_ok hended]
                exact .of_reflects htrace hown (fun _ herr => nomatch herr) fun error herr =>
                  ⟨rfl, hnewest error herr⟩
            | ok position =>
                have hloaded : run (transact D false (loadStaged D file st)) s.ticked =
                    (.ok (some position), loaded) := hrun
                rw [run_bind_of_ok hloaded]
                refine afterLoad_suppressed (s := s) hconn htrace hown rows.length
                  fun error hquery => ?_
                by_contra hdriver
                exact hescapes error (.followUp hbatch hloaded hquery hdriver)

end

/-- A call is suppressed unless an error of the driver escapes. -/
theorem Command.suppressed {command : Command Address} {D : Driver Address World} {c : ConnId}
    {s : State World} {st : Settings} (hc : s.session.connection = some c)
    (hunder : command.Under s st) (hquiet : st.throwErrors = false)
    (hescapes : ∀ error, ¬ command.Escapes D c st s error) :
    Suppressed s command.no (Act.run (command.run D) s).1 (Act.run (command.run D) s).2 := by
  cases command.course hunder.runsStatements D s with
  | ended h hunasked =>
      rw [h]
      exact .unasked rfl hunasked
  | @statement _ st' sql hunder' hinline h =>
      obtain rfl := hunder.unique hunder'
      have hquery := run_suppressed (D := D) hc hquiet sql
      rw [h, hinline.no_eq]
      exact hquery.map Answer.output
  | @script file bytes text st' hbytes htext hunder' h =>
      obtain rfl := hunder.unique hunder'
      rw [h, hquiet]
      exact transact_suppressed hc (runBatch_reflecting text st)
        (fun error hrefused => hescapes error (.file hbytes htext hrefused))
        fun value => Answer.bool value.isSome
  | @staged table columns rows changes st' hunder' hlarge heven h =>
      obtain rfl := hunder.unique hunder'
      rw [h]
      exact (bulkLoad_suppressed hc hquiet hlarge heven hescapes).map Answer.output

/-- Under settings that do not raise errors, a call on a connection raises an error of the driver
exactly if it escapes, and is suppressed if none does. -/
theorem quiet_call {command : Command Address} {D : Driver Address World} {c : ConnId}
    {s : State World} {st : Settings} (hc : s.session.connection = some c)
    (hunder : command.Under s st) (hquiet : st.throwErrors = false) :
    (∀ error, (run (command.run D) s).1 = .error error ∧ error.driver? ≠ none ↔
        command.Escapes D c st s error) ∧
      ((∀ error, ¬ command.Escapes D c st s error) →
        Suppressed s command.no (run (command.run D) s).1 (run (command.run D) s).2) := by
  have hsuppressed := Command.suppressed (D := D) hc hunder hquiet
  refine ⟨fun error => ⟨?_, fun h => h.raised hc hunder hquiet⟩, hsuppressed⟩
  rintro ⟨hraised, hdriver⟩
  have hsome : ∃ e, command.Escapes D c st s e := by
    by_contra hnone
    exact hdriver ((hsuppressed (not_exists.mp hnone)).unraised error hraised)
  obtain ⟨e, he⟩ := hsome
  obtain rfl := Except.error.inj ((he.raised hc hunder hquiet).1.symm.trans hraised)
  exact he

/-- A staged batch is loaded and kept, and then the query for the largest id is refused.  Its error
is raised, although the settings raise none. -/
theorem quiet_call_of_refused_follow_up :
    let e : DriverError := ⟨1142, "SELECT command denied"⟩
    let D := Driver.refusing 0 e
    let st : Settings := { Settings.builtin with maxInsertRows := 0, throwErrors := false }
    let s : State Nat :=
      { wire := ⟨0, []⟩
        session := { Session.new with connection := some 0, settings := some st }
        defaults := .builtin
        clock := id
        reports := [] }
    let insert : Command Unit := .insertRows "t" ["a"] [[.int 1]] none
    insert.Under s st ∧ st.throwErrors = false ∧
      (run (insert.run D) s).2.wire.trace.getLast? = some (.refused e) ∧
      insert.Escapes D 0 st s (.queryFailed e) := by
  intro e D st s insert
  have hunder : insert.Under s st := ⟨.none, rfl, rfl⟩
  have hrefused : (run (insert.run D) s).1.map (fun _ => ()) = .error (.queryFailed e) := by
    decide +kernel
  have hraised : (run (insert.run D) s).1 = .error (.queryFailed e) := eq_error_of_map hrefused
  refine ⟨hunder, rfl, by decide +kernel, ?_⟩
  exact ((quiet_call (D := D) (c := 0) rfl hunder rfl).1 _).mp ⟨hraised, Option.some_ne_none e⟩

end SlotQuery
