import SlotQuery.Proofs.Session.Effect
import SlotQuery.Proofs.Template.Accounted

/-!
# The courses of a call

Four calls on a session run statements: a query, a saved query, a file of statements and the insert
of a batch.  Each of them reads its overrides first, and under the settings that come of them it
takes one of four courses: it comes to an end before the driver is asked for anything, or it runs
one template, or it runs a script as a unit of work, or it inserts a staged batch.

`Command.course` says that there are no other courses.  So what is to be said of the four calls is
said of a template, of a script and of a staged batch.
-/

namespace SlotQuery

open Act Session

variable {Address World : Type}

namespace Command

/-- The settings under which a call runs its statements: those in force with the overrides of the
call.  A file is run without overrides. -/
def Under (s : State World) (st : Settings) : Command Address → Prop
  | query _ changes | runSaved _ changes | insertRows _ _ _ changes =>
    ∃ o, parsed changes = .ok o ∧ (s.session.currentSettings s.defaults).override o = .ok st
  | runFile _ => st = s.session.currentSettings s.defaults
  | _ => False

/-- The call inserts a batch that is too large for one statement under the settings. -/
def Overfull (st : Settings) : Command Address → Prop
  | insertRows _ _ rows _ => fitsInline st rows.length = false
  | _ => False

/-- The call runs one template under the settings. -/
def Inline (st : Settings) : Command Address → Prop
  | query .. | runSaved .. => True
  | insertRows _ _ rows _ => fitsInline st rows.length = true
  | _ => False

/-- The call inserts a batch that is too large for one statement. -/
def Stages (s : State World) (command : Command Address) : Prop :=
  ∃ st, command.Under s st ∧ command.Overfull st

variable {s : State World} {st st' : Settings} {command : Command Address}

/-- A command that has settings of its own runs statements. -/
theorem Under.runsStatements (h : command.Under s st) : command.RunsStatements := by
  cases command with
  | query | runSaved | runFile | insertRows => trivial
  | _ => exact h.elim

/-- There are no two such settings. -/
theorem Under.unique (h : command.Under s st) (h' : command.Under s st') : st = st' := by
  cases command with
  | query | runSaved | insertRows =>
      obtain ⟨o, ho, hset⟩ := h
      obtain ⟨o', ho', hset'⟩ := h'
      obtain rfl := Except.ok.inj (ho.symm.trans ho')
      exact Except.ok.inj (hset.symm.trans hset')
  | runFile file => exact h.trans h'.symm
  | _ => exact h.elim

/-- Rows that fit into a statement are not staged. -/
theorem Under.not_stages (h : command.Under s st) (hfits : ¬ command.Overfull st) :
    ¬ command.Stages s := by
  rintro ⟨st', hunder, hlarge⟩
  exact hfits (h.unique hunder ▸ hlarge)

/-- A command that runs inline has not too many rows. -/
theorem Inline.not_overfull (h : command.Inline st) : ¬ command.Overfull st := by
  cases command with
  | insertRows table columns rows changes =>
      intro hlarge
      cases h.symm.trans hlarge
  | _ => exact id

/-- What a call does once its overrides are read and its settings are known. -/
inductive Course (D : Driver Address World) (s : State World) : Command Address → Prop
  | ended {command : Command Address} {result : Except Error Answer}
    (h : Act.run (command.run D) s = (result, s))
    (hunasked : ∀ e, result = .error e → e.driver? = none) : Course D s command
  | statement {command : Command Address} {st : Settings} {sql : String}
    (hunder : command.Under s st) (hinline : command.Inline st)
    (h : Act.run (command.run D) s =
      ((Act.run (Session.run D sql st) s).1.map .output, (Act.run (Session.run D sql st) s).2)) :
    Course D s command
  | script {file : ScriptFile} {bytes : List UInt8} {script : String} {st : Settings}
    (hbytes : file.contents = some bytes) (htext : Text.decode? bytes = some script)
    (hunder : (runFile file : Command Address).Under s st)
    (h : Act.run ((runFile file : Command Address).run D) s =
      ((Act.run (transact D st.throwErrors (runBatch D script st)) s).1.map fun value =>
          .bool value.isSome,
        (Act.run (transact D st.throwErrors (runBatch D script st)) s).2)) :
    Course D s (runFile file)
  | staged {table : String} {columns : List String} {rows : List (List Cell)}
    {changes : Option Json} {st : Settings}
    (hunder : (insertRows table columns rows changes : Command Address).Under s st)
    (hlarge : fitsInline st rows.length = false) (heven : ragged? columns.length rows = none)
    (h : Act.run ((insertRows table columns rows changes : Command Address).run D) s =
      ((Act.run (bulkLoad D table columns rows st) s).1.map .output,
        (Act.run (bulkLoad D table columns rows st) s).2)) :
    Course D s (insertRows table columns rows changes)

variable {D : Driver Address World}

section

variable {changes : Option Json} {o : Overrides} (ho : parsed changes = .ok o)

include ho

/-- What a call does once its overrides have been read. -/
theorem run_of_parsed (f : Overrides → Act World Output) :
    Act.run (overrides changes >>= fun o => f o >>= fun output =>
        pure (Answer.output output)) s =
      ((Act.run (f o) s).1.map .output, (Act.run (f o) s).2) := by
  have hread : Act.run (overrides changes) s = (.ok o, s) :=
    (run_overrides changes s).trans (congrArg (·, s) ho)
  rw [run_bind_of_ok hread, run_bind_pure]

/-- A query with overrides that can be read is a query under them. -/
theorem run_query_of_parsed {sql : String} :
    Act.run ((query sql changes : Command Address).run D) s =
      ((Act.run (Session.query D sql o) s).1.map .output,
        (Act.run (Session.query D sql o) s).2) :=
  run_of_parsed ho (Session.query D sql)

theorem run_runSaved_of_parsed {name : String} :
    Act.run ((runSaved name changes : Command Address).run D) s =
      ((Act.run (Session.runSaved D name o) s).1.map .output,
        (Act.run (Session.runSaved D name o) s).2) :=
  run_of_parsed ho (Session.runSaved D name)

theorem run_insertRows_of_parsed {table : String} {columns : List String}
    {rows : List (List Cell)} :
    Act.run ((insertRows table columns rows changes : Command Address).run D) s =
      ((Act.run (Session.insertRows D table columns rows o) s).1.map .output,
        (Act.run (Session.insertRows D table columns rows o) s).2) :=
  run_of_parsed ho (Session.insertRows D table columns rows)

end

/-- A script that is not there is not found. -/
theorem run_runFile_of_absent {file : ScriptFile} (h : file.contents = none) :
    Act.run ((runFile file : Command Address).run D) s =
      (.error (.notFound (.file file.path)), s) := by
  show Act.run (Session.runFile D file >>= fun done => pure (Answer.bool done)) s = _
  rw [run_bind_pure]
  unfold Session.runFile
  rw [h]
  rfl

/-- A script that is no text cannot be read. -/
theorem run_runFile_of_undecodable {file : ScriptFile} {bytes : List UInt8}
    (hbytes : file.contents = some bytes) (h : Text.decode? bytes = none) :
    Act.run ((runFile file : Command Address).run D) s =
      (.error (.io "stream did not contain valid UTF-8"), s) := by
  show Act.run (Session.runFile D file >>= fun done => pure (Answer.bool done)) s = _
  rw [run_bind_pure]
  unfold Session.runFile
  rw [hbytes]
  dsimp only
  rw [h]
  rfl

/-- A call that reads its overrides first goes on with them, or comes to an end over them. -/
theorem course_of_overrides {changes : Option Json} {f : Overrides → Act World Output}
    (hcommand : command.run D = overrides changes >>= fun o => f o >>= fun output =>
      pure (.output output))
    (hf : ∀ o, parsed changes = .ok o →
      Act.run (command.run D) s = ((Act.run (f o) s).1.map .output, (Act.run (f o) s).2) →
      Course D s command) :
    Course D s command := by
  cases ho : parsed changes with
  | error e =>
      have hrun : Act.run (command.run D) s = (.error e, s) := by
        rw [hcommand]
        exact run_bind_of_error ((run_overrides changes s).trans (congrArg (·, s) ho))
      obtain ⟨fault, rfl⟩ := exists_fault_of_parsed ho
      refine .ended hrun fun e he => ?_
      rw [← Except.error.inj he]
      rfl
  | ok o =>
      have hread : Act.run (overrides changes) s = (.ok o, s) :=
        (run_overrides changes s).trans (congrArg (·, s) ho)
      refine hf o ho ?_
      rw [hcommand, run_bind_of_ok hread, run_bind_pure]

/-- A query under overrides runs its template, or comes to an end over them. -/
theorem course_of_query {o : Overrides} {sql : String}
    (hunder : ∀ st, (s.session.currentSettings s.defaults).override o = .ok st →
      command.Under s st)
    (hinline : ∀ st, command.Inline st)
    (h : Act.run (command.run D) s =
      ((Act.run (Session.query D sql o) s).1.map .output,
        (Act.run (Session.query D sql o) s).2)) : Course D s command := by
  rw [run_query_of_override] at h
  cases hset : (s.session.currentSettings s.defaults).override o with
  | error e =>
      rw [hset] at h
      obtain ⟨fault, rfl⟩ := Settings.exists_fault_of_override hset
      refine .ended h fun e he => ?_
      rw [← Except.error.inj he]
      rfl
  | ok st =>
      rw [hset] at h
      exact .statement (hunder st hset) (hinline st) h

/-- A file that holds text is run as a script, in a unit of its own. -/
theorem run_runFile {file : ScriptFile} {bytes : List UInt8} {script : String}
    (hbytes : file.contents = some bytes) (htext : Text.decode? bytes = some script)
    (hunder : (runFile file : Command Address).Under s st) :
    Act.run ((runFile file : Command Address).run D) s =
      ((Act.run (transact D st.throwErrors (runBatch D script st)) s).1.map fun value =>
          .bool value.isSome,
        (Act.run (transact D st.throwErrors (runBatch D script st)) s).2) := by
  obtain rfl : st = s.session.currentSettings s.defaults := hunder
  have hrun : Act.run ((runFile file : Command Address).run D) s =
      ((Act.run (Session.runFile D file) s).1.map .bool,
        (Act.run (Session.runFile D file) s).2) := run_bind_pure _ _ s
  unfold Session.runFile at hrun
  rw [hbytes] at hrun
  dsimp only at hrun
  rw [htext] at hrun
  dsimp only at hrun
  rw [run_bind_of_ok (run_activeSettings s), run_bind_pure] at hrun
  refine hrun.trans (Prod.ext ?_ rfl)
  generalize (Act.run (transact D _ (runBatch D script _)) s).1 = value
  cases value with
  | error e => rfl
  | ok value => rfl

/-- A large batch whose rows are even is inserted by way of a file. -/
theorem run_insertRows {table : String} {columns : List String} {rows : List (List Cell)}
    {changes : Option Json}
    (hunder : (insertRows table columns rows changes : Command Address).Under s st)
    (hlarge : fitsInline st rows.length = false) (heven : ragged? columns.length rows = none) :
    Act.run ((insertRows table columns rows changes : Command Address).run D) s =
      ((Act.run (bulkLoad D table columns rows st) s).1.map .output,
        (Act.run (bulkLoad D table columns rows st) s).2) := by
  obtain ⟨o, ho, hset⟩ := hunder
  have hsome : rows ≠ [] := by
    rintro rfl
    unfold fitsInline at hlarge
    simp only [List.length_nil, Bool.or_eq_false_iff, decide_eq_false_iff_not] at hlarge
    obtain ⟨hsigned, hbelow⟩ := hlarge
    rw [Int64.lt_iff_toInt_lt, Int64.toInt_zero] at hsigned
    omega
  have hloads : Act.run (Session.insertRows D table columns rows o) s =
      Act.run (bulkLoad D table columns rows st) s := by
    rw [run_insertRows_of_override hsome, heven, hset]
    dsimp only
    rw [hlarge, if_neg Bool.false_ne_true]
  have hread : Act.run (overrides changes) s = (.ok o, s) :=
    (run_overrides changes s).trans (congrArg (·, s) ho)
  have hrun : Act.run ((insertRows table columns rows changes : Command Address).run D) s = _ :=
    run_bind_of_ok hread
  rw [hrun, run_bind_pure, hloads]

/-- Every call that runs statements takes one of the courses. -/
theorem course (hcommand : command.RunsStatements) (D : Driver Address World) (s : State World) :
    Course D s command := by
  cases command with
  | query sql changes =>
      refine course_of_overrides (f := fun o => Session.query D sql o) rfl fun o ho h => ?_
      exact course_of_query (fun st hset => ⟨o, ho, hset⟩) (fun _ => trivial) h
  | runSaved name changes =>
      refine course_of_overrides (f := fun o => Session.runSaved D name o) rfl fun o ho h => ?_
      rw [run_runSaved_of_saved] at h
      cases hsaved : s.session.savedQuery? name with
      | none =>
          rw [hsaved] at h
          refine .ended h fun e he => ?_
          rw [← Except.error.inj he]
          rfl
      | some sql =>
          rw [hsaved] at h
          exact course_of_query (fun st hset => ⟨o, ho, hset⟩) (fun _ => trivial) h
  | runFile file =>
      cases hbytes : file.contents with
      | none =>
          refine .ended (run_runFile_of_absent hbytes) fun e he => ?_
          rw [← Except.error.inj he]
          rfl
      | some bytes =>
          cases htext : Text.decode? bytes with
          | some script => exact .script hbytes htext rfl (run_runFile hbytes htext rfl)
          | none =>
              refine .ended (run_runFile_of_undecodable hbytes htext) fun e he => ?_
              rw [← Except.error.inj he]
              rfl
  | insertRows table columns rows changes =>
      refine course_of_overrides (f := fun o => Session.insertRows D table columns rows o) rfl
        fun o ho h => ?_
      cases insert_course (D := D) (s := s) table columns rows o with
      | @ended result hrun hunasked =>
          rw [hrun] at h
          refine .ended h fun e he => hunasked e ?_
          exact eq_error_of_map he
      | inline hset hfits hrun =>
          rw [hrun] at h
          exact .statement ⟨o, ho, hset⟩ hfits h
      | staged hset hlarge hrun heven =>
          rw [hrun] at h
          exact .staged ⟨o, ho, hset⟩ hlarge heven h
  | _ => exact hcommand.elim

end Command

end SlotQuery
