import SlotQuery.Proofs.Session.Atomicity
import SlotQuery.Proofs.Session.Courses
import SlotQuery.Proofs.Session.Protocol
import SlotQuery.Proofs.Session.Quiet

/-!
# What an outermost unit covers once it has settled itself

The transaction of an outermost unit is its cover: if the work fails, the database goes back to what
it held when the transaction began.  But work may commit or roll back by itself, and then no
transaction runs until the unit ends.  The autocommit flag is off by then, but that is a flag only:
an embedded connection begins no transaction of its own accord.  What the work does from there on is
durable at once, and the rollback at the end of the unit finds nothing to undo.

A savepoint begins a transaction where none runs, be it one that the work sets itself or one that
guards a unit inside.  From then on the work has a cover again, which goes back to the contents of
that moment.

`Covered` follows work through its commands, its units and its failures, and keeps the cover.
`failed_unit_durable` is the main statement, for every engine that keeps transactions as a ledger
does.  A unit that fails, whatever its work is, leaves behind what was durable when the work ended;
and for work that `Covered` follows, this is its cover, or, where there is none, what the work has
left.
-/

namespace SlotQuery

open Act Session
open Engine (Holdable Ledger Step Store Transaction)

variable {E : Engine} {α β : Type} {c : ConnId}

/-- What stays if the connection is lost now. -/
def State.durable (c : ConnId) (s : State (Bench E)) : Option E.Contents :=
  (s.ledger? c).map Ledger.committed

namespace Command

/-- The command runs a unit of its own: it has a script to run, or a file to load. -/
def OpensUnit (c : ConnId) (s : State (Bench E)) : Command (Endpoint E) → Prop
  | runFile file => ∃ bytes script, file.contents = some bytes ∧ Text.decode? bytes = some script
  | insertRows table columns rows changes =>
    ∃ st contents, (insertRows table columns rows changes : Command (Endpoint E)).Under s st ∧
      LoadsBatch Bench.driver c st s columns rows contents
  | _ => False

/-- What a command makes of the cover.  Plain ones leave it, unless they run a unit.  A savepoint
covers from now on, if nothing does.  A commit or a rollback that is not that of a unit inside takes
the cover away. -/
inductive Shifts (c : ConnId) (s : State (Bench E)) (cover : Option E.Contents) :
    Command (Endpoint E) → Option E.Contents → Prop
  | plain {command : Command (Endpoint E)} (h : command.Plain s) (hunit : ¬ command.OpensUnit c s) :
    Shifts c s cover command cover
  | unit {command : Command (Endpoint E)} (h : command.Plain s) (hunit : command.OpensUnit c s) :
    Shifts c s cover command (s.durable c)
  | savepoint {name : String} (h : Holdable name) : Shifts c s cover (.savepoint name) (s.durable c)
  | rollbackTo {name : String} (h : Holdable name) : Shifts c s cover (.rollbackTo name) cover
  | guardedCommit (h : s.Guarded) : Shifts c s cover .commit cover
  | guardedRollback (h : s.Guarded) : Shifts c s cover .rollback cover
  | commit (h : ¬ s.Guarded) : Shifts c s cover .commit none
  | rollback (h : ¬ s.Guarded) : Shifts c s cover .rollback none

end Command

/-- Work as it runs in a state, with its cover before and after: the contents to which the
transaction goes back, or none where no transaction runs. -/
inductive Covered (c : ConnId) :
    {α : Type} → Option E.Contents → State (Bench E) → Act (Bench E) α → Option E.Contents → Prop
  | aside {α : Type} {cover : Option E.Contents} {s : State (Bench E)} {a : Act (Bench E) α}
      (h : Beside s (run a s).2) : Covered c cover s a cover
  | command {cover cover' : Option E.Contents} {s : State (Bench E)}
      {command : Command (Endpoint E)}
      (h : command.Shifts c s cover cover') : Covered c cover s (command.run Bench.driver) cover'
  | bind_ok {α β : Type} {cover₀ cover₁ cover₂ : Option E.Contents} {s s₁ : State (Bench E)}
      {a : Act (Bench E) α} {f : α → Act (Bench E) β} {v : α} (ha : Covered c cover₀ s a cover₁)
      (hrun : run a s = (.ok v, s₁)) (hf : Covered c cover₁ s₁ (f v) cover₂) :
      Covered c cover₀ s (a >>= f) cover₂
  | bind_error {α β : Type} {cover₀ cover₁ : Option E.Contents} {s s₁ : State (Bench E)}
      {a : Act (Bench E) α} {f : α → Act (Bench E) β} {e : Error} (ha : Covered c cover₀ s a cover₁)
      (hrun : run a s = (.error e, s₁)) : Covered c cover₀ s (a >>= f) cover₁
  | caught {α : Type} {cover cover' : Option E.Contents} {s : State (Bench E)} {a : Act (Bench E) α}
      (ha : Covered c cover s a cover') : Covered c cover s (observe a) cover'
  | unit {α : Type} {cover cover' : Option E.Contents} {s : State (Bench E)}
      {work : Act (Bench E) α}
      (propagate : Bool) (h : Covered c (s.durable c) (s.starting Bench.driver c) work cover') :
      Covered c cover s (transact Bench.driver propagate work) cover'

namespace Covered

variable {cover cover₀ cover₁ cover₂ : Option E.Contents} {s : State (Bench E)}

/-- Work that goes on, however one part of it ends. -/
theorem observed {a : Act (Bench E) α} {f : Except Error α → Act (Bench E) β}
    (ha : Covered c cover₀ s a cover₁)
    (hf : Covered c cover₁ (run a s).2 (f (run a s).1) cover₂) :
    Covered c cover₀ s (observe a >>= f) cover₂ :=
  .bind_ok (.caught ha) (run_observe a s) hf

theorem failing (e : Error) : Covered c cover s (throw e : Act (Bench E) α) cover :=
  .aside ⟨rfl, rfl, rfl, rfl, rfl, rfl⟩

end Covered

/-- A unit is running on an open connection, and this is the cover of its work. -/
structure CoveredBy (c : ConnId) (guard : Option String) (outer : List Scope)
    (cover : Option E.Contents) (s : State (Bench E)) : Prop where
  connection : s.session.connection = some c
  scopes : ∃ settled, s.session.scopes = ⟨guard, settled⟩ :: outer
  holdable : ∀ name, guard = some name → Holdable name
  ledger : ∃ l, s.ledger? c = some l ∧ l.cover? = cover

/-- A standing unit is covered by the contents that its transaction goes back to. -/
theorem Standing.coveredBy {f : Footing E.Contents} {live : List String} {s : State (Bench E)}
    (hs : Standing c f live s) : CoveredBy c f.guard f.outer (some f.base) s where
  connection := hs.connection
  scopes := by
    obtain ⟨settled, hscopes, -⟩ := hs.scopes
    exact ⟨settled, hscopes⟩
  holdable name hguard := by
    obtain ⟨clock, contents, older, hname, -⟩ := hs.grounded name hguard
    exact hname ▸ holdable_savepointName clock f.outer.length
  ledger := by
    obtain ⟨own, hruns, -⟩ := hs.savepoints
    obtain ⟨l, hl, ht⟩ := has_open_iff.mp hruns
    exact ⟨l, hl, by rw [Ledger.cover?, ht]; rfl⟩

namespace CoveredBy

variable {guard : Option String} {outer : List Scope} {cover cover' : Option E.Contents}
variable {s s' : State (Bench E)}

theorem inTransaction (hs : CoveredBy c guard outer cover s) : s.session.inTransaction = true := by
  obtain ⟨settled, hscopes⟩ := hs.scopes
  exact State.inTransaction_of_cons hscopes

/-- The savepoint that guards a session is that of the unit that covers it. -/
theorem guard?_eq (hs : CoveredBy c guard outer cover s) : s.guard? = guard := by
  obtain ⟨settled, hscopes⟩ := hs.scopes
  rw [State.guard?, hscopes]
  rfl

/-- What is durable is the cover, or, where there is none, all that is there. -/
theorem durable_eq (hs : CoveredBy c guard outer cover s) :
    s.durable c = cover.or (s.contents c) := by
  obtain ⟨l, hl, rfl⟩ := hs.ledger
  rw [State.durable, State.contents, hl]
  show some l.committed = l.cover?.or (some l.contents)
  rw [l.committed_eq]
  cases l.cover? <;> rfl

/-- The same unit, with the database elsewhere. -/
theorem onto (hs : CoveredBy c guard outer cover s) {l : Ledger E.Contents} {w : Wire (Bench E)}
    (hl : w.world.ledger? c = some l) (hcover : l.cover? = cover') :
    CoveredBy c guard outer cover' (s.onto w) :=
  ⟨hs.connection, hs.scopes, hs.holdable, l, hl, hcover⟩

/-- What matters of the session is the connection and the scopes. -/
theorem beside (hs : CoveredBy c guard outer cover s) (hwire : s'.wire.world = s.wire.world)
    (hconn : s'.session.connection = s.session.connection)
    (hscopes : s'.session.scopes = s.session.scopes) : CoveredBy c guard outer cover s' where
  connection := hconn.trans hs.connection
  scopes := hscopes ▸ hs.scopes
  holdable := hs.holdable
  ledger := by
    obtain ⟨l, hl, hcover⟩ := hs.ledger
    exact ⟨l, (congrArg (Bench.ledger? c) hwire).trans hl, hcover⟩

/-- Whatever leaves the transaction alone. -/
theorem kept (hs : CoveredBy c guard outer cover s) {m : StateM (Wire (Bench E)) β}
    (hm : ∀ t, Driver.Keeps (Bench.Has c (Embedded.Open t)) m) :
    CoveredBy c guard outer cover (s.onto (m s.wire).2) := by
  obtain ⟨l, hl, rfl⟩ := hs.ledger
  obtain ⟨l', hl', ht⟩ := has_open_iff.mp (hm l.transaction s.wire (has_open_iff.mpr ⟨l, hl, rfl⟩))
  exact hs.onto hl' (congrArg (Option.map Transaction.base) ht)

/-- A unit that is marked as settled is covered as before. -/
theorem settling (hs : CoveredBy c guard outer cover s) :
    CoveredBy c guard outer cover s.settling := by
  obtain ⟨settled, hscopes⟩ := hs.scopes
  refine ⟨hs.connection, ⟨true, ?_⟩, hs.holdable, hs.ledger⟩
  show s.session.scopes.modifyHead _ = _
  rw [hscopes]
  rfl

section

variable (hE : E.Transactional) (hcareful : E.Careful)

include hE hcareful

/-- A statement that does not control transactions. -/
theorem statement (hs : CoveredBy c guard outer cover s) {sql : String} {st : Settings}
    (hp : ∀ p, Template.prepare st sql = .ok p → E.NoControl p.sql) :
    CoveredBy c guard outer cover (run (Session.run Bench.driver sql st) s).2 := by
  cases hprep : Template.prepare st sql with
  | error e =>
      rw [run_of_rejected hprep]
      exact hs.beside rfl rfl rfl
  | ok p =>
      have hsent := hs.kept fun _ => Bench.keeps_performUnder hE hcareful (hp p hprep)
        st.charset
      rcases hrun : performUnder Bench.driver st.charset c p s.wire with ⟨answer, w⟩
      rw [hrun] at hsent
      rw [run_of_connected hprep hs.connection hrun]
      cases answer with
      | ok reply => exact hsent.beside rfl rfl rfl
      | error e => exact hsent.beside rfl rfl rfl

/-- A script of such statements. -/
theorem script (hs : CoveredBy c guard outer cover s) {text : String} {st : Settings}
    (ht : E.ControlFree (Template.condense st.delimiters text)) :
    CoveredBy c guard outer cover (run (runBatch Bench.driver text st) s).2 := by
  have hsent : CoveredBy c guard outer cover (s.onto (performBatch Bench.driver st.charset c
      (Template.condense st.delimiters text) s.wire).2) :=
    hs.kept fun _ => Bench.keeps_performBatch hE hcareful ht
  rcases hrun : performBatch Bench.driver st.charset c (Template.condense st.delimiters text)
    s.wire with ⟨answer, w⟩
  rw [hrun] at hsent
  rw [run_runBatch hs.connection text st hrun]
  exact hsent.beside rfl rfl rfl

/-- A staged file. -/
theorem load (hs : CoveredBy c guard outer cover s) (file : Batch.Load) (st : Settings) :
    CoveredBy c guard outer cover (run (loadStaged Bench.driver file st) s).2 := by
  have hsent := hs.kept fun _ => Bench.keeps_load hE hcareful file
  rw [run_loadStaged hs.connection]
  exact hsent.beside rfl rfl rfl

/-- What follows the unit of a staged file. -/
theorem afterLoad (hs : CoveredBy c guard outer cover s) (table : String) (count : Nat)
    (st : Settings) (position : Option Nat) :
    CoveredBy c guard outer cover (run (afterLoad Bench.driver table count st position) s).2 := by
  cases position with
  | none => exact hs
  | some position =>
      have hasked : CoveredBy c guard outer cover
          (run (Session.run Bench.driver (maxIdStatement table) (bareValue st)) s).2 :=
        hs.statement hE hcareful fun _ hp => noControl_maxIdStatement hE hp
      obtain ⟨-, hbeside⟩ := run_afterLoad (D := Bench.driver) (s := s) st table count position
      exact hasked.beside (congrArg Wire.world hbeside.wire) hbeside.connection hbeside.scopes

end

/-- A guarded unit only counts as settled when it commits. -/
theorem guardedCommit (hs : CoveredBy c guard outer cover s) (h : s.Guarded) :
    CoveredBy c guard outer cover (run (Session.commit Bench.driver) s).2 := by
  obtain ⟨name, hname⟩ := Option.isSome_iff_exists.mp h
  rw [run_commit, State.guard?, hname]
  exact hs.settling

section

variable (hE : E.Transactional)

include hE

/-- Going back to a savepoint, be it there or not. -/
theorem rollbackTo (hs : CoveredBy c guard outer cover s) {name : String} (hname : Holdable name) :
    CoveredBy c guard outer cover (run (Session.rollbackTo Bench.driver name) s).2 := by
  obtain ⟨l, hl, rfl⟩ := hs.ledger
  rw [Session.rollbackTo, run_issue Bench.driver hs.connection]
  rcases hsent : Bench.driver.send c (.query (rollbackToStatement name)) s.wire with ⟨answer, w⟩
  obtain ⟨l', hl', hstepped⟩ := stepped_of_send hE (.rollbackTo name) hname hl hsent
  exact hs.onto hl' hstepped.cover?_eq

/-- A guarded unit goes back to its savepoint when it rolls back. -/
theorem guardedRollback (hs : CoveredBy c guard outer cover s) (h : s.Guarded) :
    CoveredBy c guard outer cover (run (Session.rollback Bench.driver) s).2 := by
  obtain ⟨name, hname⟩ := Option.isSome_iff_exists.mp h
  have hguard : guard = some name := hs.guard?_eq.symm.trans hname
  rw [run_rollback, State.guard?, hname]
  exact hs.settling.rollbackTo hE (hs.holdable name hguard)

end

section

variable (hE : E.Transactional) (hgrants : E.Granting)

include hE hgrants

/-- A savepoint covers what follows. -/
theorem savepoint (hs : CoveredBy c guard outer cover s) {name : String} (hname : Holdable name) :
    CoveredBy c guard outer (s.durable c) (run (Session.savepoint Bench.driver name) s).2 := by
  obtain ⟨l, hl, -⟩ := hs.ledger
  obtain ⟨reply, w, hset, hl'⟩ := exists_send (w := s.wire)
    (Bench.respond_granting hE (.savepoint name) hname hgrants hl rfl)
  have hset' : Bench.driver.send c (.query (savepointStatement name)) s.wire = (.ok reply, w) :=
    hset
  rw [Session.savepoint, run_issue Bench.driver hs.connection, State.durable, hl, hset']
  exact hs.onto hl' (l.cover?_savepoint name)

/-- A step that ends the transaction takes the cover away, and if none runs it is refused. -/
theorem ending (hs : CoveredBy c guard outer cover s) (step : Step) (h : step.Ends)
    (hstep : step.Holdable) : CoveredBy c guard outer none
      (run (do Session.control Bench.driver (← connected) step.request) s.settling).2 := by
  obtain ⟨l, hl, -⟩ := hs.ledger
  obtain ⟨l', hl', hidle⟩ := Bench.ledger?_of_ends hE step hstep hgrants hl h
  rw [run_connected_bind hs.settling.connection, run_control]
  exact hs.settling.onto hl' (by rw [Ledger.cover?, hidle]; rfl)

/-- After a commit nothing is covered. -/
theorem commit (hs : CoveredBy c guard outer cover s) (h : ¬ s.Guarded) :
    CoveredBy c guard outer none (run (Session.commit Bench.driver) s).2 := by
  have hguard : s.guard? = none := Option.not_isSome_iff_eq_none.mp h
  rw [run_commit, hguard]
  exact hs.ending hE hgrants .commit trivial trivial

/-- After a rollback nothing is covered. -/
theorem rollback (hs : CoveredBy c guard outer cover s) (h : ¬ s.Guarded) :
    CoveredBy c guard outer none (run (Session.rollback Bench.driver) s).2 := by
  have hguard : s.guard? = none := Option.not_isSome_iff_eq_none.mp h
  rw [run_rollback, hguard]
  exact hs.ending hE hgrants .rollback trivial trivial

/-- A unit inside, whether it succeeds or fails, hands on the cover that its work leaves. -/
theorem unit (hs : CoveredBy c guard outer cover s) (propagate : Bool) {work : Act (Bench E) α}
    (hwork : CoveredBy c (some s.nextSavepoint) s.session.scopes (s.durable c)
        (s.starting Bench.driver c) →
      CoveredBy c (some s.nextSavepoint) s.session.scopes cover'
        (run work (s.starting Bench.driver c)).2) :
    CoveredBy c guard outer cover' (run (transact Bench.driver propagate work) s).2 := by
  have hin := hs.inTransaction
  obtain ⟨l, hl, -⟩ := hs.ledger
  have hname := holdable_savepointName (s.clock 0) s.session.scopes.length
  have hstart : s.Starts Bench.driver c := State.starts_of_granting hE hgrants hl fun hnone => by
    rw [State.inTransaction_eq_false_iff.mpr hnone] at hin
    cases hin
  obtain ⟨reply, w, hset, hstarting⟩ := hstart.exists_set hin
  have hdurable : some l.current.base = s.durable c := by
    rw [State.durable, hl, Ledger.current]
    show some _ = some l.committed
    rw [Ledger.committed]
    cases l.transaction <;> rfl
  obtain ⟨hstarted, -⟩ := nested_starts hE hs.connection hin hl hstart
  have hended := hwork (hdurable ▸ hstarted.coveredBy)
  rw [hstarting] at hended
  rw [run_transact, unitBody_inside _ hin]
  obtain ⟨hwire, hconn, hscopes⟩ := recorded_beside (run (nested Bench.driver work) s).2
    (run (nested Bench.driver work) s).1
  refine CoveredBy.beside (s := (run (nested Bench.driver work) s).2) ?_ (congrArg Wire.world hwire)
    hconn hscopes
  rcases hrun : run work ((s.ticked.onto w).entering (some s.nextSavepoint)) with ⟨r, s'⟩
  rw [hrun] at hended
  have hleft : CoveredBy c guard outer cover' s'.leaving := by
    obtain ⟨settled, hinner⟩ := hended.scopes
    refine ⟨hended.connection, ?_, hs.holdable, hended.ledger⟩
    show ∃ settled, s'.session.scopes.tail = _
    rw [hinner]
    exact hs.scopes
  cases r with
  | ok a =>
      rw [run_nested_of_ok Bench.driver hs.connection hset work hrun]
      exact hleft
  | error e =>
      rw [run_nested_of_error Bench.driver hs.connection hset work hrun hended.connection]
      obtain ⟨l', hl', rfl⟩ := hended.ledger
      rcases hback : Bench.driver.send c (.query (rollbackToStatement s.nextSavepoint))
        (revived Bench.driver c s'.wire) with ⟨answer, w'⟩
      obtain ⟨l₁, hl₁, hstepped⟩ := stepped_of_send hE (.rollbackTo s.nextSavepoint) hname
        (ledger?_revived hE hl') hback
      exact hleft.onto hl₁ hstepped.cover?_eq

end

section

variable (hE : E.Transactional) (hcareful : E.Careful)

include hE hcareful

/-- A query with a template that does not control transactions. -/
theorem query (hs : CoveredBy c guard outer cover s) {sql : String} {changes : Option Json}
    (h : Command.TemplateFree s sql changes) {o : Overrides}
    (ho : Command.parsed changes = .ok o) :
    CoveredBy c guard outer cover (run (Session.query Bench.driver sql o) s).2 := by
  rw [run_query_of_override]
  cases hset : (s.session.currentSettings s.defaults).override o with
  | error e => exact hs
  | ok st => exact hs.statement hE hcareful fun p hp => h o st p ho hset hp

/-- A batch for which no file is loaded. -/
theorem insertRows (hs : CoveredBy c guard outer cover s) {table : String} {columns : List String}
    {rows : List (List Cell)} {changes : Option Json} {o : Overrides}
    (ho : Command.parsed changes = .ok o)
    (hunit : ¬ (Command.insertRows table columns rows changes).OpensUnit c s) :
    CoveredBy c guard outer cover
      (run (Session.insertRows Bench.driver table columns rows o) s).2 := by
  by_cases hsome : rows = []
  · subst hsome
    exact hs
  rw [run_insertRows_of_override hsome]
  cases heven : ragged? columns.length rows with
  | some place => exact hs
  | none =>
      cases hset : (s.session.currentSettings s.defaults).override o with
      | error e => exact hs
      | ok st =>
          dsimp only
          cases hfits : fitsInline st rows.length with
          | true =>
              rw [if_pos rfl]
              cases hsql : Batch.statement st table columns rows with
              | error e => exact hs
              | ok sql => exact hs.statement hE hcareful fun _ hp => noControl_statement hE hsql hp
          | false =>
              rw [if_neg Bool.false_ne_true]
              cases hoffered : (Bench.driver.capabilities c s.wire.world).bulkLoad with
              | false =>
                  rw [run_bulkLoad_of_missing hs.connection hoffered]
                  exact hs
              | true =>
                  rw [run_bulkLoad hs.connection hoffered]
                  cases hstage : Batch.stage rows with
                  | error e => exact hs
                  | ok contents =>
                      exact absurd ⟨st, contents, ⟨o, ho, hset⟩, hfits, heven, hoffered, hstage⟩
                        hunit

/-- A command that neither controls the transaction nor runs a unit of its own. -/
theorem plain (hs : CoveredBy c guard outer cover s) {command : Command (Endpoint E)}
    (h : command.Plain s) (hunit : ¬ command.OpensUnit c s) :
    CoveredBy c guard outer cover (run (command.run Bench.driver) s).2 := by
  cases command with
  | connect | disconnect | hangUp | setAutocommit | commit | rollback | savepoint | rollbackTo =>
      exact h.elim
  | query sql changes =>
      refine Command.after_overrides (CoveredBy c guard outer cover) hs fun o ho => ?_
      rw [run_bind_pure_snd]
      exact hs.query hE hcareful h ho
  | runSaved name changes =>
      refine Command.after_overrides (CoveredBy c guard outer cover) hs fun o ho => ?_
      rw [run_bind_pure_snd, run_runSaved_of_saved]
      cases hsaved : s.session.savedQuery? name with
      | none => exact hs
      | some sql => exact hs.query hE hcareful (h sql hsaved) ho
  | insertRows table columns rows changes =>
      refine Command.after_overrides (CoveredBy c guard outer cover) hs fun o ho => ?_
      rw [run_bind_pure_snd]
      exact hs.insertRows hE hcareful ho hunit
  | runFile file =>
      cases hbytes : file.contents with
      | none =>
          rw [Command.run_runFile_of_absent hbytes]
          exact hs
      | some bytes =>
          cases htext : Text.decode? bytes with
          | none =>
              rw [Command.run_runFile_of_undecodable hbytes htext]
              exact hs
          | some script => exact absurd ⟨bytes, script, hbytes, htext⟩ hunit
  | configure | configureDefaults | resetConfiguration | resetDefaults | clearLog | saveQuery =>
      refine (?_ : Maintains (CoveredBy c guard outer cover) (Command.run Bench.driver _)) s hs
      exact Command.OnlyAdjusts.maintains
        (fun _ _ hwire hconn hscopes hs => hs.beside (congrArg Wire.world hwire) hconn hscopes)
        trivial
  | _ =>
      refine (?_ : Maintains (CoveredBy c guard outer cover) (Command.run Bench.driver _)) s hs
      exact Command.OnlyLooks.maintains trivial

variable (hgrants : E.Granting)

include hgrants

/-- A script and a file to load run in a unit, whose savepoint covers them and what follows. -/
theorem ownUnit (hs : CoveredBy c guard outer cover s) {command : Command (Endpoint E)}
    (h : command.Plain s) (hunit : command.OpensUnit c s) :
    CoveredBy c guard outer (s.durable c) (run (command.run Bench.driver) s).2 := by
  cases command with
  | runFile file =>
      obtain ⟨bytes, script, hbytes, htext⟩ := hunit
      rw [Command.run_runFile hbytes htext rfl]
      exact hs.unit hE hgrants _ fun hstarted =>
        hstarted.script hE hcareful (h bytes script hbytes htext)
  | insertRows table columns rows changes =>
      obtain ⟨st, contents, hunder, hbatch⟩ := hunit
      let file : Batch.Load := .staged (stagedPath (s.clock 0)) table columns contents
      have hticked : CoveredBy c guard outer cover s.ticked := hs.beside rfl rfl rfl
      have hloaded : CoveredBy c guard outer (s.durable c)
          (run (transact Bench.driver st.throwErrors (loadStaged Bench.driver file st))
            s.ticked).2 :=
        hticked.unit hE hgrants _ fun hstarted => hstarted.load hE hcareful file st
      rw [Command.run_insertRows hunder hbatch.large hbatch.even,
        hbatch.run_bulkLoad hs.connection]
      rcases hrun : run (transact Bench.driver st.throwErrors (loadStaged Bench.driver file st))
        s.ticked with ⟨e | position, loaded⟩
      · rw [hrun] at hloaded
        rw [run_bind_of_error hrun]
        exact hloaded
      · rw [hrun] at hloaded
        rw [run_bind_of_ok hrun]
        exact hloaded.afterLoad hE hcareful table rows.length st position
  | _ => exact hunit.elim

/-- What a command makes of the cover. -/
theorem shifts (hs : CoveredBy c guard outer cover s) {command : Command (Endpoint E)}
    (h : command.Shifts c s cover cover') :
    CoveredBy c guard outer cover' (run (command.run Bench.driver) s).2 := by
  have hsilently : ∀ a : Act (Bench E) Unit, (run (Command.silently a) s).2 = (run a s).2 :=
    fun a => run_bind_pure_snd a (fun _ => Answer.unit) s
  cases h with
  | plain h hunit => exact hs.plain hE hcareful h hunit
  | unit h hunit => exact hs.ownUnit hE hcareful hgrants h hunit
  | savepoint h => exact (hsilently _).symm ▸ hs.savepoint hE hgrants h
  | rollbackTo h => exact (hsilently _).symm ▸ hs.rollbackTo hE h
  | guardedCommit h => exact (hsilently _).symm ▸ hs.guardedCommit h
  | guardedRollback h => exact (hsilently _).symm ▸ hs.guardedRollback hE h
  | commit h => exact (hsilently _).symm ▸ hs.commit hE hgrants h
  | rollback h => exact (hsilently _).symm ▸ hs.rollback hE hgrants h

end

end CoveredBy

/-- Work is covered as it says, in every unit that it is run in. -/
theorem Covered.coveredBy (hE : E.Transactional) (hcareful : E.Careful) (hgrants : E.Granting)
    {cover cover' : Option E.Contents} {s : State (Bench E)} {work : Act (Bench E) α}
    (h : Covered c cover s work cover') :
    ∀ guard outer, CoveredBy c guard outer cover s →
      CoveredBy c guard outer cover' (run work s).2 := by
  induction h with
  | aside h =>
      exact fun _ _ hs => hs.beside (congrArg Wire.world h.wire) h.connection h.scopes
  | command h => exact fun _ _ hs => hs.shifts hE hcareful hgrants h
  | bind_ok _ hrun _ iha ihf =>
      intro guard outer hs
      have hmid := iha guard outer hs
      rw [hrun] at hmid
      rw [run_bind_of_ok hrun]
      exact ihf guard outer hmid
  | bind_error _ hrun iha =>
      intro guard outer hs
      have hmid := iha guard outer hs
      rw [hrun] at hmid
      rw [run_bind_of_error hrun]
      exact hmid
  | caught _ iha => exact iha
  | unit propagate _ ih =>
      exact fun _ _ hs => hs.unit hE hgrants propagate fun hstarted => ih _ _ hstarted

section

variable {s : State (Bench E)} {l : Ledger E.Contents} (hE : E.Transactional)
variable (hc : s.session.connection = some c) (hout : s.session.scopes = [])
variable (hl : s.ledger? c = some l) (hstart : s.Starts Bench.driver c)

include hE hc hout hstart

/-- An outermost unit that fails leaves what was durable when its work ended, and no transaction. -/
theorem outermost_failed {work : Act (Bench E) α} {e : Error} {s' : State (Bench E)}
    {l' : Ledger E.Contents}
    (hrun : run work (s.starting Bench.driver c) = (.error e, s'))
    (hc' : s'.session.connection = some c) (hl' : s'.ledger? c = some l') :
    (run (outermost Bench.driver work) s).1 = .ok (.error e) ∧
      (run (outermost Bench.driver work) s).2.ledger? c = some ⟨l'.committed, none⟩ := by
  obtain ⟨w, w', hflag, hbegin, hstarting⟩ :=
    hstart.exists_begun (State.inTransaction_eq_false_iff.mpr hout)
  rw [hstarting] at hrun
  have hrolled : (Bench.driver.send c .rollback s'.wire).2.world.ledger? c =
      some ⟨l'.committed, none⟩ := Bench.ledger?_rollback hE hl'
  obtain ⟨u, hrestore, hended⟩ := run_restore_of_idle
    (s := s'.leaving.onto (Bench.driver.send c .rollback s'.wire).2) hc' hrolled rfl
    (Bench.driver.autocommit c s.wire.world) (.error e : Except Error α)
  rw [run_outermost_of_begun Bench.driver hc hflag hbegin work hrun,
    run_bind_of_ok (run_conclude_failed Bench.driver (s := s'.leaving) hc' e s'.settled)]
  refine ⟨congrArg Prod.fst hrestore, ?_⟩
  exact (congrArg (fun ended => State.ledger? c (Prod.snd ended)) hrestore).trans hended

/-- A unit that has failed leaves these contents, and they are durable. -/
structure Left (c : ConnId) (found : Option E.Contents) (propagate : Bool) (e : Error)
    (ended : Except Error (Option α) × State (Bench E)) : Prop where
  told : ended.1 = reported propagate (.ok (.error e))
  contents : ended.2.contents c = found
  durable : ended.2.durable c = found

/-- A unit that fails on a connection which is still open when its work ends. -/
theorem left_of_failed {work : Act (Bench E) α} {e : Error} {worked : State (Bench E)}
    (hrun : run work (s.starting Bench.driver c) = (.error e, worked))
    (hconn : worked.session.connection = some c) (hopen : worked.ledger? c ≠ none)
    (propagate : Bool) :
    Left c (worked.durable c) propagate e (run (transact Bench.driver propagate work) s) := by
  obtain ⟨l', hl'⟩ := Option.ne_none_iff_exists'.mp hopen
  obtain ⟨hresult, hended⟩ := outermost_failed hE hc hout hstart hrun hconn hl'
  obtain ⟨hwire, -, -⟩ := recorded_beside (run (outermost Bench.driver work) s).2
    (run (outermost Bench.driver work) s).1
  rw [run_transact,
    unitBody_outermost Bench.driver (State.inTransaction_eq_false_iff.mpr hout) work]
  have hleft : (recorded (run (outermost Bench.driver work) s).2
      (run (outermost Bench.driver work) s).1).ledger? c = some ⟨l'.committed, none⟩ := by
    rw [State.ledger?, hwire]
    exact hended
  refine ⟨by rw [hresult], ?_, ?_⟩
  · rw [State.contents, State.durable, hleft, hl']
    rfl
  · rw [State.durable, State.durable, hleft, hl']
    rfl

include hl in
/-- An outermost unit on an embedded connection fails.  Whatever its work is, if the connection is
still open when the work ends, what was durable then is all that is left.

For work that `Covered` follows, the connection is open, and this is the cover that the work has in
the end.  If it has none, it is what the work has left: all that it did since it committed or rolled
back has become durable. -/
theorem failed_unit_durable {work : Act (Bench E) α} {e : Error}
    (hfail : (run work (s.starting Bench.driver c)).1 = .error e) (propagate : Bool) :
    let worked := (run work (s.starting Bench.driver c)).2
    let ended := run (transact Bench.driver propagate work) s
    (worked.session.connection = some c → worked.ledger? c ≠ none →
        Left c (worked.durable c) propagate e ended) ∧
      (E.Careful → E.Granting → ∀ cover,
        Covered c (some l.contents) (s.starting Bench.driver c) work cover →
          Left c (cover.or (worked.contents c)) propagate e ended) := by
  intro worked ended
  have hrun : run work (s.starting Bench.driver c) = (.error e, worked) := Prod.ext hfail rfl
  refine ⟨fun hconn hopen => left_of_failed hE hc hout hstart hrun hconn hopen propagate,
    fun hcareful hgrants cover hwork => ?_⟩
  obtain ⟨-, hstarted, -⟩ := outermost_starts hE hc hout hl hstart
  have hworked : CoveredBy c none [] cover worked :=
    hwork.coveredBy hE hcareful hgrants _ _ hstarted.coveredBy
  obtain ⟨l', hl', -⟩ := hworked.ledger
  rw [← hworked.durable_eq]
  refine left_of_failed hE hc hout hstart hrun hworked.connection ?_ propagate
  rw [hl']
  exact Option.some_ne_none l'

end

/-- A unit that commits at once.  The row that it inserts then is durable; the row of the unit
inside, and all that follows, is not. -/
theorem failed_unit_durable_of_early_commit :
    let insert (row : String) : Act (Bench Engine.small) Answer :=
      Command.run Bench.driver (.query ("INSERT INTO t (a) VALUES (" ++ row ++ ")") none)
    let work : Act (Bench Engine.small) Unit := do
      let _ ← observe (Command.run Bench.driver .commit)
      let _ ← observe (insert "1")
      let _ ← observe (transact Bench.driver true (insert "2"))
      let _ ← observe (insert "3")
      throw .notConnected
    let table (rows : List Engine.Record) : Engine.Table := ⟨"t", ["a"], none, rows⟩
    let store : Store := .opened [table []]
    let embedded : Embedded Engine.small := { Embedded.opened none with store := some store }
    let s : State (Bench Engine.small) :=
      { wire := ⟨⟨[⟨default, .embedded embedded, ""⟩]⟩, []⟩
        session := { Session.new with connection := some 0 }
        defaults := .builtin
        clock := id
        reports := [] }
    let start := s.starting Bench.driver 0
    let committed := run (Command.run Bench.driver .commit) start
    s.session.connection = some 0 ∧ s.session.scopes = [] ∧ s.ledger? 0 = some ⟨[table []], none⟩ ∧
      s.Starts Bench.driver 0 ∧
      committed.1 = .ok .unit ∧ committed.2.durable 0 = some [table []] ∧
      (run work start).1 = .error .notConnected ∧
      Left 0 (some [table [⟨1, [.int 1]⟩]]) true .notConnected
        (run (transact Bench.driver true work) s) := by
  intro insert work table store embedded s start committed
  have hinsert : ∀ row cover s, Covered 0 cover s (insert row) cover := by
    intro row cover s
    refine .command (.plain (fun _ _ p _ _ hp => ?_) id)
    refine noControl_prepare_of_letter Engine.small_transactional (c := 'I') (by decide) (by decide)
      (by decide) ?_ hp
    simp only [String.toList_append, List.append_assoc]
    exact ⟨_, rfl⟩
  let inserted := (run (insert "1") committed.2).2
  have hwork : Covered 0 (some [table []]) start work (inserted.durable 0) := by
    refine .observed (.command (.commit Bool.false_ne_true)) ?_
    refine .observed (hinsert "1" _ _) ?_
    refine .observed (.unit true (hinsert "2" _ _)) ?_
    exact .observed (hinsert "3" _ _) (.failing _)
  have hdurable : inserted.durable 0 = some [table [⟨1, [.int 1]⟩]] := by decide +kernel
  have hfailed : (run work start).1 = .error .notConnected := rfl
  have hl : s.ledger? 0 = some ⟨[table []], none⟩ := rfl
  have hstart : s.Starts Bench.driver 0 := State.starts_of_granting Engine.small_transactional
    Engine.small_granting hl fun _ => rfl
  obtain ⟨-, hcovered⟩ := failed_unit_durable Engine.small_transactional (c := 0) (s := s) rfl rfl
    hl hstart hfailed true
  have hleft := hcovered Engine.small_careful Engine.small_granting _ hwork
  rw [hdurable] at hleft
  exact ⟨rfl, rfl, hl, hstart, rfl, rfl, hfailed, hleft⟩

end SlotQuery
