import SlotQuery.Proofs.Session.Protocol
import SlotQuery.Proofs.Session.Quiet
import SlotQuery.Proofs.Session.Reported

/-!
# Which errors are kept as the newest

A session keeps the message of its newest error, and a call that fails is meant to leave there the
message of the error that it raises.  Templates do so on every path (`run_newest`), and so does a
unit of work that has started, whatever its work is (`transact_newest`).

Some errors are raised and not kept: the newest is then what it was before the call.  These are the
errors of a unit that cannot start (`State.Unstartable`), and in the calls that run statements also
those that end a call before its statement, its script or its load (`Command.Unrecorded`).

`newest_error` says that there are no others: an error is lost exactly if it is one of these, and
any other error that is raised is afterwards the newest.
-/

namespace SlotQuery

open Act Session

variable {Address World α : Type}

/-- The errors that are lost are raised and leave the newest as it was.  Every other error that is
raised is the newest afterwards. -/
structure Newest (lost : Error → Prop) (s : State World) (ended : Except Error α × State World) :
    Prop where
  dropped : ∀ e, lost e → ended.1 = .error e ∧ ended.2.session.lastError = s.session.lastError
  kept : ∀ e, ended.1 = .error e → ¬ lost e → ended.2.session.lastError = some e.message

/-- A unit cannot start, and this is the error. -/
inductive State.Unstartable (D : Driver Address World) (s : State World) : Error → Prop
  | unconnected (hc : s.session.connection = none) : Unstartable D s .notConnected
  | refused {c : ConnId} (hc : s.session.connection = some c) {e : Error} (h : s.Refuses D c e) :
    Unstartable D s e

section

variable {D : Driver Address World} {s : State World}

/-- The body of a unit that cannot start. -/
theorem State.Unstartable.unitBody {e : Error} (h : s.Unstartable D e) (work : Act World α) :
    (run (unitBody D s work) s).1 = .error e ∧
      (run (unitBody D s work) s).2.session.lastError = s.session.lastError := by
  cases h with
  | unconnected hc =>
      cases hin : s.session.inTransaction with
      | true =>
          rw [unitBody_inside D hin, run_nested_of_none D hc]
          exact ⟨rfl, rfl⟩
      | false =>
          have hgone : run (outermost D work) s = (.error .notConnected, s) :=
            run_bind_of_error (run_connected_of_none hc)
          rw [unitBody_outermost D hin, hgone]
          exact ⟨rfl, rfl⟩
  | refused hc h =>
      obtain ⟨hfailed, hsame⟩ := h.run_unitBody hc work
      exact ⟨hfailed, congrArg Session.lastError hsame⟩

/-- The body of a unit fails only where the unit cannot start. -/
theorem unstartable_of_unitBody {work : Act World α} {e : Error}
    (h : (run (unitBody D s work) s).1 = .error e) : s.Unstartable D e := by
  cases hc : s.session.connection with
  | none =>
      have hgone : s.Unstartable D .notConnected := .unconnected hc
      rw [(hgone.unitBody work).1] at h
      exact Except.error.inj h ▸ hgone
  | some c =>
      cases hin : s.session.inTransaction with
      | true =>
          rw [unitBody_inside D hin] at h
          rcases hset : D.send c (.query (savepointStatement s.nextSavepoint)) s.wire with
            ⟨e' | reply, w⟩
          · rw [run_nested_of_refused D hc hset] at h
            refine .refused hc ?_
            rw [State.Refuses, if_pos hin]
            exact ⟨e', w, hset, (Except.error.inj h).symm⟩
          · rw [run_nested_of_set D hc hset work rfl] at h
            split at h
            · cases h
            · rw [run_bind_fst_of_ok (run_revive_fst _), run_observe_bind] at h
              cases h
      | false =>
          rw [unitBody_outermost D hin] at h
          have hrefused : ∀ e' w, e = .queryFailed e' →
              (D.send c (.autocommit false) s.wire = (.error e', w) ∨
                ∃ w', D.send c (.autocommit false) s.wire = (.ok (), w') ∧
                  D.send c .begin w' = (.error e', w)) → s.Unstartable D e := by
            intro e' w he hasked
            refine .refused hc ?_
            rw [State.Refuses, hin, if_neg Bool.false_ne_true]
            exact ⟨e', w, he, hasked⟩
          rcases hflag : D.send c (.autocommit false) s.wire with ⟨e' | _, w⟩
          · rw [run_outermost_of_flag_refused D hc hflag] at h
            exact hrefused e' w (Except.error.inj h).symm (.inl hflag)
          rcases hbegin : D.send c .begin w with ⟨e' | _, w'⟩
          · rw [run_outermost_of_begin_refused D hc hflag hbegin] at h
            exact hrefused e' w' (Except.error.inj h).symm (.inr ⟨w, hflag, hbegin⟩)
          · rw [run_outermost_of_begun D hc hflag hbegin work rfl] at h
            obtain ⟨result, _, hresult, -⟩ := exists_verdict (D := D)
              (D.autocommit c s.wire.world) _ _
            rw [hresult] at h
            cases h

/-- A unit loses its error if it cannot start, and keeps any other that it raises. -/
theorem transact_newest (propagate : Bool) (work : Act World α) :
    Newest (s.Unstartable D) s (run (transact D propagate work) s) where
  dropped e h := by
    obtain ⟨hfailed, hnewest⟩ := h.unitBody work
    rw [run_transact, hfailed]
    exact ⟨rfl, hnewest⟩
  kept e h hstarts := by
    rw [run_transact] at h ⊢
    rcases hrun : (run (unitBody D s work) s).1 with e' | e' | a
    · rw [hrun] at h
      obtain rfl := Except.error.inj h
      exact absurd (unstartable_of_unitBody hrun) hstarts
    · rw [hrun] at h
      cases propagate with
      | true =>
          obtain rfl := Except.error.inj h
          rfl
      | false => cases h
    · rw [hrun] at h
      cases h

/-- An error that is told is the error of the answer. -/
theorem eq_error_of_told {st : Settings} {answer : Except Error Reply} {e : Error}
    (h : told st answer = .error e) : answer = .error e := by
  cases answer with
  | ok reply => cases h
  | error e' =>
      unfold told at h
      dsimp only at h
      split at h
      · rw [Except.error.inj h]
      · cases h

/-- A template keeps every error that it raises. -/
theorem run_newest {sql : String} {st : Settings} {e : Error}
    (h : (run (Session.run D sql st) s).1 = .error e) :
    (run (Session.run D sql st) s).2.session.lastError = some e.message := by
  rcases hrun : run (Session.run D sql st) s with ⟨result, s'⟩
  have hran : Ran D sql st s (run (Session.run D sql st) s) := ran
  rw [hrun] at h hran
  cases hran with
  | rejected hp =>
      obtain rfl := Except.error.inj h
      rfl
  | unconnected hp hc =>
      obtain rfl := Except.error.inj h
      rfl
  | sent hp hc hconversed hentry =>
      dsimp only
      rw [eq_error_of_told h]
      rfl

/-- What follows a load keeps the error that it raises. -/
theorem afterLoad_newest {table : String} {count position : Nat} {st : Settings} {e : Error}
    (h : (run (afterLoad D table count st (some position)) s).1 = .error e) :
    (run (afterLoad D table count st (some position)) s).2.session.lastError =
      some e.message := by
  have hquery : (run (Session.run D (maxIdStatement table) (bareValue st)) s).1 = .error e := by
    rw [(run_afterLoad st table count position).1] at h
    exact eq_error_of_map h
  have hnewest := run_newest hquery
  have hmax : run (maxId D table st) s = (.error e, (run (maxId D table st) s).2) := by
    refine Prod.ext ?_ rfl
    rw [run_maxId, hquery]
    rfl
  rw [run_afterLoad_of_error hmax, run_maxId]
  exact hnewest

end

namespace Command

/-- The overrides that a call is given, if it takes any. -/
def changes? : Command Address → Option (Option Json)
  | query _ changes | runSaved _ changes | insertRows _ _ _ changes => some changes
  | _ => none

/-- The call is about to work out the settings that it runs under. -/
def Ready (s : State World) : Command Address → Prop
  | query .. => True
  | runSaved name _ => s.session.savedQuery? name ≠ none
  | insertRows _ columns rows _ => rows ≠ [] ∧ ragged? columns.length rows = none
  | _ => False

/-- A batch is too large for one statement under its settings, and its rows are even. -/
structure Bulk (s : State World) (st : Settings) (table : String) (columns : List String)
    (rows : List (List Cell)) (changes : Option Json) : Prop where
  under : (insertRows table columns rows changes : Command Unit).Under s st
  large : fitsInline st rows.length = false
  even : ragged? columns.length rows = none

/-- A call raises the error and does not keep it as the newest.  Its overrides are no overrides or
cannot be applied; there is no such saved query or file, or the file is no text; a row is too long
or too short, or a batch cannot be written into a statement or into a file; a large batch finds no
connection or one that loads no files; the unit around a script or a load cannot start.  File
systems are taken to work: an error of theirs, in making a staged file or in reading a script, would
be one more of this kind. -/
inductive Unrecorded (D : Driver Address World) (s : State World) :
    Command Address → Error → Prop
  | misread {command : Command Address} {changes : Option Json} {e : Error}
    (hchanges : command.changes? = some changes) (h : parsed changes = .error e) :
    Unrecorded D s command e
  | inapplicable {command : Command Address} {changes : Option Json} {o : Overrides} {e : Error}
    (hchanges : command.changes? = some changes) (ho : parsed changes = .ok o)
    (hready : command.Ready s)
    (h : (s.session.currentSettings s.defaults).override o = .error e) :
    Unrecorded D s command e
  | unknown {name : String} {changes : Option Json} {o : Overrides} (ho : parsed changes = .ok o)
    (h : s.session.savedQuery? name = none) :
    Unrecorded D s (runSaved name changes) (.notFound (.savedQuery name))
  | ragged {table : String} {columns : List String} {rows : List (List Cell)}
    {changes : Option Json} {o : Overrides} {i : Nat} {row : List Cell}
    (ho : parsed changes = .ok o) (h : ragged? columns.length rows = some (i, row)) :
    Unrecorded D s (insertRows table columns rows changes)
      (.value (.raggedRow i row.length columns.length))
  | unwritten {table : String} {columns : List String} {rows : List (List Cell)}
    {changes : Option Json} {st : Settings} {e : Error}
    (hunder : (insertRows table columns rows changes : Command Address).Under s st)
    (hready : (insertRows table columns rows changes : Command Address).Ready s)
    (hfits : fitsInline st rows.length = true)
    (h : Batch.statement st table columns rows = .error e) :
    Unrecorded D s (insertRows table columns rows changes) e
  | absent {file : ScriptFile} (h : file.contents = none) :
    Unrecorded D s (runFile file) (.notFound (.file file.path))
  | undecodable {file : ScriptFile} {bytes : List UInt8} (hbytes : file.contents = some bytes)
    (h : Text.decode? bytes = none) :
    Unrecorded D s (runFile file) (.io "stream did not contain valid UTF-8")
  | script {file : ScriptFile} {bytes : List UInt8} {script : String} {e : Error}
    (hbytes : file.contents = some bytes) (htext : Text.decode? bytes = some script)
    (h : s.Unstartable D e) : Unrecorded D s (runFile file) e
  | unconnected {table : String} {columns : List String} {rows : List (List Cell)}
    {changes : Option Json} {st : Settings} (hbulk : Bulk s st table columns rows changes)
    (hc : s.session.connection = none) :
    Unrecorded D s (insertRows table columns rows changes) .notConnected
  | unoffered {table : String} {columns : List String} {rows : List (List Cell)}
    {changes : Option Json} {st : Settings} {c : ConnId}
    (hbulk : Bulk s st table columns rows changes) (hc : s.session.connection = some c)
    (h : (D.capabilities c s.wire.world).bulkLoad = false) :
    Unrecorded D s (insertRows table columns rows changes) (.missingCapability .bulkLoad)
  | unstaged {table : String} {columns : List String} {rows : List (List Cell)}
    {changes : Option Json} {st : Settings} {c : ConnId} {e : Error}
    (hbulk : Bulk s st table columns rows changes) (hc : s.session.connection = some c)
    (hoffered : (D.capabilities c s.wire.world).bulkLoad = true)
    (h : Batch.stage rows = .error e) :
    Unrecorded D s (insertRows table columns rows changes) e
  | load {table : String} {columns : List String} {rows : List (List Cell)}
    {changes : Option Json} {st : Settings} {c : ConnId} {contents : String} {e : Error}
    (hbulk : Bulk s st table columns rows changes) (hc : s.session.connection = some c)
    (hbatch : LoadsBatch D c st s columns rows contents) (h : s.ticked.Unstartable D e) :
    Unrecorded D s (insertRows table columns rows changes) e

section

variable {D : Driver Address World} {s : State World}

/-- A command whose overrides cannot be read is refused and changes nothing. -/
theorem run_of_misread {command : Command Address} {changes : Option Json} {e : Error}
    (hchanges : command.changes? = some changes) (h : parsed changes = .error e) :
    Act.run (command.run D) s = (.error e, s) := by
  have hread : Act.run (overrides changes) s = (.error e, s) :=
    (run_overrides changes s).trans (congrArg (·, s) h)
  cases command with
  | query | runSaved | insertRows =>
      obtain rfl := Option.some.inj hchanges
      exact run_bind_of_error hread
  | _ => cases hchanges

/-- Rows among which one is ragged are not none. -/
theorem ne_nil_of_ragged {width : Nat} {rows : List (List Cell)} {place : Nat × List Cell}
    (h : ragged? width rows = some place) : rows ≠ [] := by
  rintro rfl
  cases h

/-- A large batch without a connection. -/
theorem run_bulkLoad_of_none (hc : s.session.connection = none) (table : String)
    (columns : List String) (rows : List (List Cell)) (st : Settings) :
    Act.run (bulkLoad D table columns rows st) s = (.error .notConnected, s) :=
  run_bind_of_error (run_connected_of_none hc)

/-- A batch that is too large for one statement is loaded. -/
theorem Bulk.run {st : Settings} {table : String} {columns : List String}
    {rows : List (List Cell)} {changes : Option Json} (h : Bulk s st table columns rows changes) :
    Act.run ((insertRows table columns rows changes : Command Address).run D) s =
      ((Act.run (bulkLoad D table columns rows st) s).1.map .output,
        (Act.run (bulkLoad D table columns rows st) s).2) :=
  run_insertRows h.under h.large h.even

/-- An error that is lost is raised, and the newest stays. -/
theorem Unrecorded.raised {command : Command Address} {e : Error} (h : command.Unrecorded D s e) :
    (Act.run (command.run D) s).1 = .error e ∧
      (Act.run (command.run D) s).2.session.lastError = s.session.lastError := by
  cases h with
  | misread hchanges h =>
      rw [run_of_misread hchanges h]
      exact ⟨rfl, rfl⟩
  | @inapplicable _ changes o _ hchanges ho hready h =>
      cases command with
      | query sql changes =>
          obtain rfl := Option.some.inj hchanges
          rw [run_query_of_parsed ho, run_query_of_override, h]
          exact ⟨rfl, rfl⟩
      | runSaved name changes =>
          obtain rfl := Option.some.inj hchanges
          obtain ⟨sql, hsql⟩ := Option.ne_none_iff_exists'.mp hready
          rw [run_runSaved_of_parsed ho, run_runSaved_of_saved, hsql]
          dsimp only
          rw [run_query_of_override, h]
          exact ⟨rfl, rfl⟩
      | insertRows table columns rows changes =>
          obtain rfl := Option.some.inj hchanges
          rw [run_insertRows_of_parsed ho, run_insertRows_of_override hready.1, hready.2, h]
          exact ⟨rfl, rfl⟩
      | _ => cases hchanges
  | unknown ho h =>
      rw [run_runSaved_of_parsed ho, run_runSaved_of_saved, h]
      exact ⟨rfl, rfl⟩
  | ragged ho h =>
      rw [run_insertRows_of_parsed ho, run_insertRows_of_override (ne_nil_of_ragged h), h]
      exact ⟨rfl, rfl⟩
  | unwritten hunder hready hfits h =>
      obtain ⟨o, ho, hset⟩ := hunder
      rw [run_insertRows_of_parsed ho, run_insertRows_of_override hready.1, hready.2, hset]
      dsimp only
      rw [if_pos hfits, h]
      exact ⟨rfl, rfl⟩
  | absent h =>
      rw [run_runFile_of_absent h]
      exact ⟨rfl, rfl⟩
  | undecodable hbytes h =>
      rw [run_runFile_of_undecodable hbytes h]
      exact ⟨rfl, rfl⟩
  | script hbytes htext h =>
      obtain ⟨hfailed, hnewest⟩ := (transact_newest _ _).dropped _ h
      rw [run_runFile hbytes htext rfl, hfailed]
      exact ⟨rfl, hnewest⟩
  | unconnected hbulk hc =>
      rw [hbulk.run, run_bulkLoad_of_none hc]
      exact ⟨rfl, rfl⟩
  | unoffered hbulk hc h =>
      rw [hbulk.run, run_bulkLoad_of_missing hc h]
      exact ⟨rfl, rfl⟩
  | unstaged hbulk hc hoffered h =>
      rw [hbulk.run, run_bulkLoad hc hoffered, h]
      exact ⟨rfl, rfl⟩
  | @load table columns rows changes st c contents e hbulk hc hbatch h =>
      let file : Batch.Load := .staged (stagedPath (s.clock 0)) table columns contents
      obtain ⟨hfailed, hnewest⟩ :=
        (transact_newest (D := D) st.throwErrors (loadStaged D file st)).dropped _ h
      rw [hbulk.run, hbatch.run_bulkLoad hc, run_bind_of_error (Prod.ext hfailed rfl)]
      exact ⟨rfl, hnewest⟩

/-- A query keeps every error that it raises, but for one of its overrides. -/
theorem query_newest {sql : String} {o : Overrides} {e : Error}
    (h : (Act.run (Session.query D sql o) s).1 = .error e)
    (hset : (s.session.currentSettings s.defaults).override o ≠ .error e) :
    (Act.run (Session.query D sql o) s).2.session.lastError = some e.message := by
  rw [run_query_of_override] at h ⊢
  cases hset' : (s.session.currentSettings s.defaults).override o with
  | error e' =>
      rw [hset'] at h
      obtain rfl := Except.error.inj h
      exact absurd hset' hset
  | ok st =>
      rw [hset'] at h
      exact run_newest h

/-- A saved query keeps every error that it raises, unless it is unknown or its overrides cannot be
applied. -/
theorem runSaved_newest {name : String} {changes : Option Json} {o : Overrides}
    (ho : parsed changes = .ok o) {e : Error}
    (h : (Act.run (Session.runSaved D name o) s).1 = .error e)
    (hnot : ¬ (runSaved name changes).Unrecorded D s e) :
    (Act.run (Session.runSaved D name o) s).2.session.lastError = some e.message := by
  rw [run_runSaved_of_saved] at h ⊢
  cases hsaved : s.session.savedQuery? name with
  | none =>
      rw [hsaved] at h
      obtain rfl := Except.error.inj h
      exact absurd (.unknown ho hsaved) hnot
  | some sql =>
      rw [hsaved] at h
      have hready : (runSaved name changes : Command Address).Ready s :=
        fun hnone => nomatch hsaved.symm.trans hnone
      exact query_newest h fun hset => hnot (.inapplicable rfl ho hready hset)

/-- A large batch keeps every error that it raises, but for those that end it before its load. -/
theorem Bulk.newest {st : Settings} {table : String} {columns : List String}
    {rows : List (List Cell)} {changes : Option Json} (hbulk : Bulk s st table columns rows changes)
    {e : Error} (h : (Act.run (bulkLoad D table columns rows st) s).1 = .error e)
    (hnot : ¬ (insertRows table columns rows changes).Unrecorded D s e) :
    (Act.run (bulkLoad D table columns rows st) s).2.session.lastError = some e.message := by
  cases hc : s.session.connection with
  | none =>
      rw [run_bulkLoad_of_none hc] at h
      obtain rfl := Except.error.inj h
      exact absurd (.unconnected hbulk hc) hnot
  | some c =>
      cases hoffered : (D.capabilities c s.wire.world).bulkLoad with
      | false =>
          rw [run_bulkLoad_of_missing hc hoffered] at h
          obtain rfl := Except.error.inj h
          exact absurd (.unoffered hbulk hc hoffered) hnot
      | true =>
          cases hstage : Batch.stage rows with
          | error e' =>
              rw [run_bulkLoad hc hoffered, hstage] at h
              obtain rfl := Except.error.inj h
              exact absurd (.unstaged hbulk hc hoffered hstage) hnot
          | ok contents =>
              have hbatch : LoadsBatch D c st s columns rows contents :=
                ⟨hbulk.large, hbulk.even, hoffered, hstage⟩
              let file : Batch.Load := .staged (stagedPath (s.clock 0)) table columns contents
              rw [hbatch.run_bulkLoad hc] at h ⊢
              have hunit :=
                transact_newest (D := D) (s := s.ticked) st.throwErrors (loadStaged D file st)
              rcases hrun : Act.run (transact D st.throwErrors (loadStaged D file st)) s.ticked with
                ⟨e' | _ | position, loaded⟩
              · rw [run_bind_of_error hrun] at h ⊢
                obtain rfl := Except.error.inj h
                rw [hrun] at hunit
                exact hunit.kept _ rfl fun hstarts => hnot (.load hbulk hc hbatch hstarts)
              · rw [run_bind_of_ok hrun] at h
                cases h
              · rw [run_bind_of_ok hrun] at h ⊢
                exact afterLoad_newest h

/-- An insert keeps every error that it raises, but for those that end it before its statement or
its load. -/
theorem insertRows_newest {table : String} {columns : List String} {rows : List (List Cell)}
    {changes : Option Json} {o : Overrides} (ho : parsed changes = .ok o) {e : Error}
    (h : (Act.run (Session.insertRows D table columns rows o) s).1 = .error e)
    (hnot : ¬ (insertRows table columns rows changes).Unrecorded D s e) :
    (Act.run (Session.insertRows D table columns rows o) s).2.session.lastError =
      some e.message := by
  by_cases hsome : rows = []
  · subst hsome
    cases h
  rw [run_insertRows_of_override hsome] at h ⊢
  cases heven : ragged? columns.length rows with
  | some place =>
      rw [heven] at h
      obtain rfl := Except.error.inj h
      exact absurd (.ragged ho heven) hnot
  | none =>
      have hready : (insertRows table columns rows changes : Command Address).Ready s :=
        ⟨hsome, heven⟩
      rw [heven] at h
      cases hset : (s.session.currentSettings s.defaults).override o with
      | error e' =>
          rw [hset] at h
          obtain rfl := Except.error.inj h
          exact absurd (.inapplicable rfl ho hready hset) hnot
      | ok st =>
          rw [hset] at h
          dsimp only at h ⊢
          cases hfits : fitsInline st rows.length with
          | true =>
              rw [if_pos hfits] at h
              rw [if_pos rfl]
              cases hsql : Batch.statement st table columns rows with
              | error e' =>
                  rw [hsql] at h
                  obtain rfl := Except.error.inj h
                  exact absurd (.unwritten ⟨o, ho, hset⟩ hready hfits hsql) hnot
              | ok sql =>
                  rw [hsql] at h
                  exact run_newest h
          | false =>
              rw [hfits, if_neg Bool.false_ne_true] at h
              rw [if_neg Bool.false_ne_true]
              have hbulk : Bulk s st table columns rows changes := ⟨⟨o, ho, hset⟩, hfits, heven⟩
              exact hbulk.newest h hnot

/-- Every other error that a call raises is kept. -/
theorem kept_of_recorded {command : Command Address} (hcommand : command.RunsStatements)
    {e : Error} (h : (Act.run (command.run D) s).1 = .error e)
    (hnot : ¬ command.Unrecorded D s e) :
    (Act.run (command.run D) s).2.session.lastError = some e.message := by
  have hread : ∀ changes, command.changes? = some changes → ∃ o, parsed changes = .ok o := by
    intro changes hchanges
    cases ho : parsed changes with
    | ok o => exact ⟨o, rfl⟩
    | error e' =>
        rw [run_of_misread hchanges ho] at h
        obtain rfl := Except.error.inj h
        exact absurd (.misread hchanges ho) hnot
  cases command with
  | query sql changes =>
      obtain ⟨o, ho⟩ := hread changes rfl
      rw [run_query_of_parsed ho] at h ⊢
      exact query_newest (eq_error_of_map h) fun hset => hnot (.inapplicable rfl ho trivial hset)
  | runSaved name changes =>
      obtain ⟨o, ho⟩ := hread changes rfl
      rw [run_runSaved_of_parsed ho] at h ⊢
      exact runSaved_newest ho (eq_error_of_map h) hnot
  | runFile file =>
      cases hbytes : file.contents with
      | none =>
          rw [run_runFile_of_absent hbytes] at h
          obtain rfl := Except.error.inj h
          exact absurd (.absent hbytes) hnot
      | some bytes =>
          cases htext : Text.decode? bytes with
          | none =>
              rw [run_runFile_of_undecodable hbytes htext] at h
              obtain rfl := Except.error.inj h
              exact absurd (.undecodable hbytes htext) hnot
          | some script =>
              rw [run_runFile hbytes htext rfl] at h ⊢
              exact (transact_newest _ _).kept e (eq_error_of_map h)
                fun hstarts => hnot (.script hbytes htext hstarts)
  | insertRows table columns rows changes =>
      obtain ⟨o, ho⟩ := hread changes rfl
      rw [run_insertRows_of_parsed ho] at h ⊢
      exact insertRows_newest ho (eq_error_of_map h) hnot
  | _ => exact hcommand.elim

end

end Command

/-- An error of a call that runs statements is lost exactly if it is one of those listed, and so is
one of a unit exactly if the unit cannot start; every other that is raised becomes the newest. -/
theorem newest_error (D : Driver Address World) (s : State World) :
    (∀ command : Command Address, command.RunsStatements →
        Newest (command.Unrecorded D s) s (run (command.run D) s)) ∧
      ∀ (α : Type) (propagate : Bool) (work : Act World α),
        Newest (s.Unstartable D) s (run (transact D propagate work) s) :=
  ⟨fun _ hcommand => ⟨fun _ h => h.raised, fun _ h hnot =>
      Command.kept_of_recorded hcommand h hnot⟩,
    fun _ propagate work => transact_newest propagate work⟩

/-- A saved query that is unknown, and a unit for which no transaction can begin.  The newest error
is still that of an earlier call. -/
theorem newest_error_of_unknown_name :
    let e : DriverError := ⟨1205, "lock wait timeout exceeded"⟩
    let D := Driver.denying .begin e
    let earlier := Error.message (.unmatched .opening 7)
    let s : State Unit :=
      { wire := ⟨(), []⟩
        session := { Session.new with connection := some 0, lastError := some earlier }
        defaults := .builtin
        clock := id
        reports := [] }
    let call : Command Unit := .runSaved "totals" none
    call.RunsStatements ∧ call.Unrecorded D s (.notFound (.savedQuery "totals")) ∧
      (run (call.run D) s).1 = .error (.notFound (.savedQuery "totals")) ∧
      (run (call.run D) s).2.session.lastError = some earlier ∧
      s.Unstartable D (.queryFailed e) ∧
      (run (transact D true (pure ())) s).1 = .error (.queryFailed e) ∧
      (run (transact D true (pure ())) s).2.session.lastError = some earlier := by
  intro e D earlier s call
  have hlost : call.Unrecorded D s (.notFound (.savedQuery "totals")) := .unknown rfl rfl
  have hstarts : s.Unstartable D (.queryFailed e) :=
    .refused (c := 0) rfl ⟨e, _, rfl, .inr ⟨_, rfl, rfl⟩⟩
  obtain ⟨hcalls, hunits⟩ := newest_error D s
  obtain ⟨hraised, hkept⟩ := (hcalls call trivial).dropped _ hlost
  obtain ⟨hraised', hkept'⟩ := (hunits Unit true (pure ())).dropped _ hstarts
  exact ⟨trivial, hlost, hraised, hkept, hstarts, hraised', hkept'⟩

end SlotQuery
