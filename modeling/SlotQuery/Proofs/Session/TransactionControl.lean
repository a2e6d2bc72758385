import SlotQuery.Driver.Bench
import SlotQuery.Proofs.Driver.Emits
import SlotQuery.Proofs.Session.Maintains
import SlotQuery.Proofs.Session.Transact

/-!
# Who controls a transaction

A unit of work is orderly if it is put together from commands of the session, in any order that
may depend on what came before, with failures caught or passed on, and with units inside units.
The only commands left out are those that change the connection or its autocommit flag.  The
driver may answer whatever it likes.

The main statement is `transact_discipline`.  An outermost unit turns the flag off, begins, lets
its work run, commits or rolls back at most as `Closing` says, and gives the flag its old value
back.  A unit inside another sets a savepoint, lets its work run and, if that fails, goes back to
the savepoint; it never begins, commits, rolls back the transaction or touches the flag.  Either
way the units that were running before are the ones running after, on the same connection.

The invariant behind it is `Running`: while a unit runs, the connection, the savepoint that
guards the unit and the units around it stay as they are, and what has come to the trace since
the unit started is permitted under that savepoint.
-/

namespace SlotQuery

open Act Session

variable {Address World α : Type}

/-- The command leaves the connection of the session and its autocommit flag alone. -/
def Command.OnSession : Command Address → Prop
  | connect .. | disconnect | setAutocommit _ => False
  | _ => True

/-- Work put together from commands and units; whatever else it does, it leaves the wire and the
session alone. -/
inductive Orderly (D : Driver Address World) : {α : Type} → Act World α → Prop
  | aside {α : Type} {a : Act World α}
      (h : ∀ s, (run a s).2.wire = s.wire ∧ (run a s).2.session = s.session) : Orderly D a
  | command {command : Command Address} (h : command.OnSession) : Orderly D (command.run D)
  | bind {α β : Type} {a : Act World α} {f : α → Act World β}
      (ha : Orderly D a) (hf : ∀ v, Orderly D (f v)) : Orderly D (a >>= f)
  | caught {α : Type} {a : Act World α} (ha : Orderly D a) : Orderly D (observe a)
  | unit {α : Type} {work : Act World α} (propagate : Bool) (h : Orderly D work) :
      Orderly D (transact D propagate work)

/-- What work may ask of a connection: nothing that begins a transaction, changes the flag or closes
the connection and, under a savepoint, nothing that ends the transaction. -/
def Request.Permitted (guard : Option String) : Request → Prop
  | begin | autocommit _ | close => False
  | commit | rollback => guard = none
  | _ => True

theorem Request.IsStatement.permitted {r : Request} (h : r.IsStatement) (guard : Option String) :
    r.Permitted guard := by
  cases r <;> trivial

theorem Request.Permitted.of_guarded {name : String} {r : Request} (h : r.Permitted (some name))
    (guard : Option String) : r.Permitted guard := by
  cases r <;> trivial

/-- Where a unit runs: the savepoint that guards it, the units around it, and the trace as it was
when its work started. -/
structure Site where
  guard : Option String
  outer : List Scope
  start : List Event

/-- A unit is running at a site, and has kept to what is permitted there. -/
structure Running (c : ConnId) (site : Site) (s : State World) : Prop where
  connection : s.session.connection = some c
  scopes : ∃ settled, s.session.scopes = ⟨site.guard, settled⟩ :: site.outer
  trace : ∃ own, s.wire.trace = site.start ++ own ∧
    ∀ e ∈ own, e.Allowed c (Request.Permitted site.guard)

/-- How an outermost unit ends its transaction, given what its work came to and whether the work
settled it. -/
inductive Closing (c : ConnId) : Except Error α × Bool → List Event → Prop
  | settled (a : α) : Closing c (.ok a, true) []
  | committed (a : α) : Closing c (.ok a, false) [.sent c .commit, .accepted]
  | refused (a : α) (e : DriverError) (answer : Except DriverError Unit) :
      Closing c (.ok a, false)
        ([.sent c .commit, .refused e] ++ Driver.call c .rollback answer)
  | failed (e : Error) (settled : Bool) (answer : Except DriverError Unit) :
      Closing c (.error e, settled) (Driver.call c .rollback answer)

/-- What an outermost unit writes to the trace. -/
inductive OutermostTrace (D : Driver Address World) (c : ConnId) (work : Act World α)
    (s : State World) : List Event → Prop
  | flagRefused {e : DriverError} {w : Wire World}
      (hflag : D.send c (.autocommit false) s.wire = (.error e, w)) :
      OutermostTrace D c work s [.sent c (.autocommit false), .refused e]
  | beginRefused {e : DriverError} {w w' : Wire World}
      (hflag : D.send c (.autocommit false) s.wire = (.ok (), w))
      (hbegin : D.send c .begin w = (.error e, w')) (answer : Except DriverError Unit) :
      OutermostTrace D c work s
        ([.sent c (.autocommit false), .accepted, .sent c .begin, .refused e] ++
          Driver.call c (.autocommit (D.autocommit c s.wire.world)) answer)
  | ran {w w' : Wire World} {r : Except Error α} {s' : State World} {own closing : List Event}
      (hflag : D.send c (.autocommit false) s.wire = (.ok (), w))
      (hbegin : D.send c .begin w = (.ok (), w'))
      (hwork : run work ((s.onto w').entering none) = (r, s'))
      (hown : s'.wire.trace = w'.trace ++ own)
      (hpermitted : ∀ e ∈ own, e.Allowed c (Request.Permitted none))
      (hclosing : Closing c (r, s'.settled) closing) (answer : Except DriverError Unit) :
      OutermostTrace D c work s
        ([.sent c (.autocommit false), .accepted, .sent c .begin, .accepted] ++ own ++ closing ++
          Driver.call c (.autocommit (D.autocommit c s.wire.world)) answer)

/-- The connection was found alive, or was opened again. -/
inductive Revival (c : ConnId) : List Event → Prop
  | alive : Revival c [.alive c true]
  | reopened (answer : Except DriverError Unit) :
      Revival c ([.alive c false] ++ Driver.call c .reconnect answer)

/-- What a unit inside another writes to the trace. -/
inductive NestedTrace (D : Driver Address World) (c : ConnId) (work : Act World α)
    (s : State World) : List Event → Prop
  | refused {e : DriverError} {w : Wire World}
      (hset : D.send c (.query (savepointStatement s.nextSavepoint)) s.wire = (.error e, w)) :
      NestedTrace D c work s
        [.sent c (.query (savepointStatement s.nextSavepoint)), .refused e]
  | kept {reply : Reply} {w : Wire World} {a : α} {s' : State World} {own : List Event}
      (hset : D.send c (.query (savepointStatement s.nextSavepoint)) s.wire = (.ok reply, w))
      (hwork : run work ((s.ticked.onto w).entering (some s.nextSavepoint)) = (.ok a, s'))
      (hown : s'.wire.trace = w.trace ++ own)
      (hpermitted : ∀ e ∈ own, e.Allowed c (Request.Permitted (some s.nextSavepoint))) :
      NestedTrace D c work s
        ([.sent c (.query (savepointStatement s.nextSavepoint)), .accepted] ++ own)
  | undone {reply : Reply} {w : Wire World} {e : Error} {s' : State World}
      {own revival : List Event}
      (hset : D.send c (.query (savepointStatement s.nextSavepoint)) s.wire = (.ok reply, w))
      (hwork : run work ((s.ticked.onto w).entering (some s.nextSavepoint)) = (.error e, s'))
      (hown : s'.wire.trace = w.trace ++ own)
      (hpermitted : ∀ e ∈ own, e.Allowed c (Request.Permitted (some s.nextSavepoint)))
      (hrevival : Revival c revival) (answer : Except DriverError Reply) :
      NestedTrace D c work s
        ([.sent c (.query (savepointStatement s.nextSavepoint)), .accepted] ++ own ++ revival ++
          Driver.call c (.query (rollbackToStatement s.nextSavepoint)) answer)

namespace Running

variable {D : Driver Address World} {c : ConnId} {site : Site} {s : State World}

/-- Whatever keeps the connection and the scopes and adds only permitted events keeps the unit
running. -/
theorem extend (hs : Running c site s) {s' : State World}
    (hconn : s'.session.connection = s.session.connection)
    (hscopes : ∃ settled, s'.session.scopes = ⟨site.guard, settled⟩ :: site.outer)
    {more : List Event} (htrace : s'.wire.trace = s.wire.trace ++ more)
    (hmore : ∀ e ∈ more, e.Allowed c (Request.Permitted site.guard)) : Running c site s' := by
  obtain ⟨own, hown, hpermitted⟩ := hs.trace
  refine ⟨hconn.trans hs.connection, hscopes, own ++ more, ?_, ?_⟩
  · rw [htrace, hown, List.append_assoc]
  · intro e he
    rcases List.mem_append.mp he with he | he
    · exact hpermitted e he
    · exact hmore e he

/-- A change that shows neither on the wire nor in the connection and the scopes. -/
theorem unseen (hs : Running c site s) {s' : State World} (hwire : s'.wire.trace = s.wire.trace)
    (hconn : s'.session.connection = s.session.connection)
    (hscopes : s'.session.scopes = s.session.scopes) : Running c site s' := by
  refine hs.extend hconn (hscopes ▸ hs.scopes) (hwire.trans (List.append_nil _).symm) ?_
  intro e he
  cases he

/-- What sends permitted requests keeps the work running. -/
theorem onWire {m : StateM (Wire World) α} (hm : Driver.Emits c (Request.Permitted site.guard) m) :
    Maintains (Running c site) (Act.onWire m) := by
  intro s hs
  obtain ⟨more, htrace, hmore⟩ := hm s.wire
  exact hs.extend rfl hs.scopes htrace hmore

/-- The work of a unit starts with nothing on the trace yet. -/
theorem enter (hc : s.session.connection = some c) (guard : Option String) (w : Wire World) :
    Running c ⟨guard, s.session.scopes, w.trace⟩ ((s.onto w).entering guard) :=
  ⟨hc, ⟨false, rfl⟩, [], (List.append_nil _).symm, fun _ he => absurd he List.not_mem_nil⟩

/-- The trace and the scopes that the work of a unit leaves behind. -/
theorem leave (h : Running c site s) :
    s.leaving.session.scopes = site.outer ∧
      ∃ own, s.wire.trace = site.start ++ own ∧
        ∀ e ∈ own, e.Allowed c (Request.Permitted site.guard) := by
  obtain ⟨settled, hscopes⟩ := h.scopes
  refine ⟨?_, h.trace⟩
  show s.session.scopes.tail = _
  rw [hscopes]
  rfl

end Running

section

variable {D : Driver Address World} {c : ConnId} {s : State World} {work : Act World α}

/-- Reviving a connection writes a revival to the trace. -/
theorem trace_revived (w : Wire World) :
    ∃ revival, (revived D c w).trace = w.trace ++ revival ∧ Revival c revival := by
  have hasked : (D.isAlive c w).2.trace = w.trace ++ [.alive c (D.isAlive c w).1] := rfl
  unfold revived
  cases halive : (D.isAlive c w).1 with
  | true =>
      rw [halive] at hasked
      exact ⟨[.alive c true], hasked, .alive⟩
  | false =>
      rw [halive] at hasked
      rcases hsent : D.send c .reconnect (D.isAlive c w).2 with ⟨answer, w'⟩
      refine ⟨_, ?_, .reopened answer⟩
      show w'.trace = _
      rw [trace_send .reconnect hsent, hasked, List.append_assoc]

/-- A revival is permitted everywhere. -/
theorem Revival.permitted {revival : List Event} (h : Revival c revival) (guard : Option String) :
    ∀ e ∈ revival, e.Allowed c (Request.Permitted guard) := by
  intro e he
  cases h with
  | alive =>
      rw [List.mem_singleton.mp he]
      rfl
  | reopened answer =>
      rcases List.mem_cons.mp he with rfl | he
      · rfl
      · exact allowed_call trivial answer e he

/-- Everything that a unit inside another writes is permitted under its savepoint. -/
theorem NestedTrace.permitted {t : List Event} (h : NestedTrace D c work s t) :
    ∀ e ∈ t, e.Allowed c (Request.Permitted (some s.nextSavepoint)) := by
  have hset : ∀ answer : Except DriverError Reply, ∀ e ∈ Driver.call c
      (.query (savepointStatement s.nextSavepoint)) answer,
      e.Allowed c (Request.Permitted (some s.nextSavepoint)) :=
    fun answer e he => allowed_call trivial answer e he
  intro e he
  cases h with
  | @refused error w h => exact hset (.error error) e he
  | @kept reply w a s' own h hwork hown hpermitted =>
      rcases List.mem_append.mp he with he | he
      · exact hset (.ok reply) e he
      · exact hpermitted e he
  | @undone reply w error s' own revival h hwork hown hpermitted hrevival answer =>
      rcases List.mem_append.mp he with he | he
      · rcases List.mem_append.mp he with he | he
        · rcases List.mem_append.mp he with he | he
          · exact hset (.ok reply) e he
          · exact hpermitted e he
        · exact hrevival.permitted _ e he
      · exact allowed_call trivial answer e he

/-- A unit inside another writes what it may, and leaves the connection and the scopes alone, if its
work does so at every site. -/
theorem nested_trace (hc : s.session.connection = some c)
    (hwork : ∀ site, Maintains (Running c site) work) :
    (run (nested D work) s).2.session.connection = some c ∧
      (run (nested D work) s).2.session.scopes = s.session.scopes ∧
      ∃ t, (run (nested D work) s).2.wire.trace = s.wire.trace ++ t ∧ NestedTrace D c work s t := by
  rcases hset : D.send c (.query (savepointStatement s.nextSavepoint)) s.wire with
    ⟨reply | reply, w⟩
  · rw [run_nested_of_refused D hc hset]
    exact ⟨hc, rfl, _, trace_send _ hset, .refused hset⟩
  · have hentered : Running c ⟨some s.nextSavepoint, s.session.scopes, w.trace⟩
        ((s.ticked.onto w).entering (some s.nextSavepoint)) :=
      ⟨hc, ⟨false, rfl⟩, [], (List.append_nil _).symm, fun _ he => absurd he List.not_mem_nil⟩
    rcases hrun : run work ((s.ticked.onto w).entering (some s.nextSavepoint)) with ⟨r, s'⟩
    have hleft := hwork _ _ hentered
    rw [hrun] at hleft
    obtain ⟨hscopes, own, hown, hpermitted⟩ := hleft.leave
    have htrace : s'.wire.trace = s.wire.trace ++
        ([.sent c (.query (savepointStatement s.nextSavepoint)), .accepted] ++ own) := by
      rw [hown, trace_send _ hset, List.append_assoc]
      rfl
    cases r with
    | ok a =>
        rw [run_nested_of_ok D hc hset work hrun]
        exact ⟨hleft.connection, hscopes, _, htrace, .kept hset hrun hown hpermitted⟩
    | error e =>
        rw [run_nested_of_error D hc hset work hrun hleft.connection]
        obtain ⟨revival, hrevived, hrevival⟩ := trace_revived (D := D) (c := c) s'.wire
        rcases hundo : D.send c (.query (rollbackToStatement s.nextSavepoint))
          (revived D c s'.wire) with ⟨answer, w'⟩
        refine ⟨hleft.connection, hscopes, _, ?_, .undone hset hrun hown hpermitted hrevival answer⟩
        show w'.trace = _
        rw [trace_send _ hundo, hrevived, htrace]
        simp only [List.append_assoc]

/-- The end of an outermost unit is one of the ways of closing its transaction, and leaves the
connection and the scopes alone. -/
theorem conclude_trace (hc : s.session.connection = some c) (outcome : Except Error α × Bool) :
    ∃ r w closing, run (conclude D outcome) s = (.ok r, s.onto w) ∧
      w.trace = s.wire.trace ++ closing ∧ Closing c outcome closing := by
  rcases outcome with ⟨e | a, settled⟩
  · rcases hroll : D.send c .rollback s.wire with ⟨answer, w⟩
    refine ⟨.error e, w, _, ?_, trace_send _ hroll, .failed e settled answer⟩
    rw [run_conclude_failed D hc, hroll]
  · cases settled with
    | true => exact ⟨.ok a, s.wire, [], rfl, (List.append_nil _).symm, .settled a⟩
    | false =>
        rcases hcommit : D.send c .commit s.wire with ⟨e | _, w⟩
        · rcases hroll : D.send c .rollback w with ⟨answer, w'⟩
          refine ⟨.error (.queryFailed e), w', _, ?_, ?_, .refused a e answer⟩
          · rw [run_conclude_refused D hc hcommit, hroll]
          · rw [trace_send _ hroll, trace_send _ hcommit, List.append_assoc]
            rfl
        · exact ⟨.ok a, w, _, run_conclude_committed D hc hcommit a, trace_send _ hcommit,
            .committed a⟩

/-- An outermost unit writes what it may, and leaves the connection and the scopes alone, if its
work does so at every site. -/
theorem outermost_trace (hc : s.session.connection = some c)
    (hwork : ∀ site, Maintains (Running c site) work) :
    (run (outermost D work) s).2.session.connection = some c ∧
      (run (outermost D work) s).2.session.scopes = s.session.scopes ∧
      ∃ t, (run (outermost D work) s).2.wire.trace = s.wire.trace ++ t ∧
        OutermostTrace D c work s t := by
  rcases hflag : D.send c (.autocommit false) s.wire with ⟨e | _, w⟩
  · rw [run_outermost_of_flag_refused D hc hflag]
    exact ⟨hc, rfl, _, trace_send _ hflag, .flagRefused hflag⟩
  rcases hbegin : D.send c .begin w with ⟨e | _, w'⟩
  · rw [run_outermost_of_begin_refused D hc hflag hbegin]
    rcases hback : D.send c (.autocommit (D.autocommit c s.wire.world)) w' with ⟨answer, w''⟩
    refine ⟨hc, rfl, _, ?_, .beginRefused hflag hbegin answer⟩
    show w''.trace = _
    rw [trace_send _ hback, trace_send _ hbegin, trace_send _ hflag]
    simp only [Driver.call, Driver.ending, List.append_assoc, List.cons_append, List.nil_append]
  · have hentered := Running.enter (s := s) hc none w'
    rcases hrun : run work ((s.onto w').entering none) with ⟨r, s'⟩
    have hleft := hwork _ _ hentered
    rw [hrun] at hleft
    obtain ⟨hscopes, own, hown, hpermitted⟩ := hleft.leave
    obtain ⟨result, u, closing, hconclude, hclosed, hclosing⟩ :=
      conclude_trace (D := D) (s := s'.leaving) hleft.connection (r, s'.settled)
    rcases hback : D.send c (.autocommit (D.autocommit c s.wire.world)) u with ⟨answer, u'⟩
    have hrestore : run (restore D (D.autocommit c s.wire.world) result) (s'.leaving.onto u) =
        (.ok (restored answer result), s'.leaving.onto u') := by
      have hback' : D.send c (.autocommit (D.autocommit c s.wire.world)) (s'.leaving.onto u).wire =
          (answer, u') := hback
      rw [run_restore D (s := s'.leaving.onto u) hleft.connection, hback']
      rfl
    rw [run_outermost_of_begun D hc hflag hbegin work hrun, run_bind_of_ok hconclude, hrestore]
    refine ⟨hleft.connection, hscopes, _, ?_,
      .ran hflag hbegin hrun hown hpermitted hclosing answer⟩
    show u'.trace = _
    rw [trace_send _ hback, hclosed]
    show (s'.wire.trace ++ closing) ++ _ = _
    rw [hown, trace_send _ hbegin, trace_send _ hflag]
    simp only [Driver.call, Driver.ending, List.append_assoc, List.cons_append, List.nil_append]

end

namespace Running

variable {D : Driver Address World} {c : ConnId} {site : Site}

/-- A unit around running work keeps the outer work running. -/
theorem maintains_transact {work : Act World α} (hwork : ∀ site, Maintains (Running c site) work)
    (propagate : Bool) : Maintains (Running c site) (transact D propagate work) := by
  intro s hs
  obtain ⟨settled, hscopes⟩ := hs.scopes
  obtain ⟨hconn, hsame, t, htrace, hnested⟩ := nested_trace (D := D) hs.connection hwork
  rw [run_transact, unitBody_inside _ (State.inTransaction_of_cons hscopes)]
  obtain ⟨hwire, hconn', hsame'⟩ :=
    recorded_beside (run (nested D work) s).2 (run (nested D work) s).1
  refine hs.extend (hconn'.trans (hconn.trans hs.connection.symm))
    ⟨settled, hsame'.trans (hsame.trans hscopes)⟩ ((congrArg Wire.trace hwire).trans htrace) ?_
  intro e he
  exact (hnested.permitted e he).mono fun r hr => hr.of_guarded site.guard

/-- Statements, scripts, files and units of work disturb no running unit. -/
theorem undisturbed (D : Driver Address World) (c : ConnId) :
    Undisturbed D c (fun _ => True) (fun _ => True) (Running c) where
  connected hs := hs.connection
  aside hs hbeside := hs.unseen (congrArg Wire.trace hbeside.wire) hbeside.connection hbeside.scopes
  statement {p charset} _ _ := onWire (D.emits_performUnder (fun _ h => h.permitted _) charset p)
  batch {text charset} _ _ := onWire (D.emits_performBatch (fun _ h => h.permitted _) charset text)
  load _ _ file _ := onWire (D.emits_load (fun _ h => h.permitted _) file)
  unit hwork propagate _ := maintains_transact hwork propagate

/-- A statement without parameters keeps it running. -/
theorem maintains_issue (sql : String) : Maintains (Running c site) (issue D sql) := by
  intro s hs
  rw [run_issue D hs.connection]
  exact onWire (D.emits_send (r := .query sql) trivial) s hs

/-- A request that is permitted where the unit runs. -/
theorem maintains_control {r : Request} (hr : r.Permitted site.guard) :
    Maintains (Running c site) (Session.control D c r) := by
  intro s hs
  rw [run_control]
  exact onWire (D.emits_send hr) s hs

/-- Settling the unit keeps it running. -/
theorem settling {s : State World} (hs : Running c site s) : Running c site s.settling := by
  obtain ⟨settled, hscopes⟩ := hs.scopes
  refine hs.extend rfl ⟨true, ?_⟩ (List.append_nil _).symm (fun _ he => absurd he List.not_mem_nil)
  show s.session.scopes.modifyHead _ = _
  rw [hscopes]
  rfl

/-- The guard of a running unit is that of its site. -/
theorem guard?_eq {s : State World} (hs : Running c site s) : s.guard? = site.guard := by
  obtain ⟨settled, hscopes⟩ := hs.scopes
  rw [State.guard?, hscopes]
  rfl

/-- An early commit keeps it running. -/
theorem maintains_commit : Maintains (Running c site) (commit D) := by
  intro s hs
  rw [run_commit, hs.guard?_eq]
  cases hguard : site.guard with
  | some name => exact hs.settling
  | none =>
      dsimp only
      rw [run_connected_bind hs.settling.connection]
      exact maintains_control (r := .commit) hguard _ hs.settling

/-- An early rollback keeps it running. -/
theorem maintains_rollback : Maintains (Running c site) (rollback D) := by
  intro s hs
  rw [run_rollback, hs.guard?_eq]
  cases hguard : site.guard with
  | some name => exact maintains_issue (rollbackToStatement name) _ hs.settling
  | none =>
      dsimp only
      rw [run_connected_bind hs.settling.connection]
      exact maintains_control (r := .rollback) hguard _ hs.settling

/-- Every command but those that change the connection or its flag. -/
theorem maintains_command {command : Command Address} (h : command.OnSession) :
    Maintains (Running c site) (command.run D) := by
  have H := undisturbed D c
  cases command with
  | connect | disconnect | setAutocommit => exact h.elim
  | query sql changes =>
      refine (Command.maintains_overrides changes).bind fun o => ?_
      exact Maintains.bind (fun s hs => H.query site hs fun _ _ _ _ => trivial) fun _ =>
        Maintains.pure _
  | insertRows table columns rows changes =>
      refine (Command.maintains_overrides changes).bind fun o => ?_
      exact (H.insertRows site (fun _ _ _ _ _ => trivial) fun _ _ _ => trivial).bind fun _ =>
        Maintains.pure _
  | runSaved name changes =>
      refine (Command.maintains_overrides changes).bind fun o => ?_
      exact Maintains.bind (fun s hs => H.runSaved site hs fun _ _ _ _ _ _ => trivial) fun _ =>
        Maintains.pure _
  | runFile file =>
      exact Maintains.bind (fun s hs => H.runFile site hs fun _ _ _ _ => trivial) fun _ =>
        Maintains.pure _
  | configure | configureDefaults | resetConfiguration | resetDefaults | clearLog | saveQuery =>
      exact Command.OnlyAdjusts.maintains
        (fun _ _ hwire hconn hscopes hs => hs.unseen (congrArg Wire.trace hwire) hconn hscopes)
        trivial
  | hangUp =>
      exact Command.maintains_silently fun s hs => Running.unseen hs rfl rfl rfl
  | commit => exact Command.maintains_silently maintains_commit
  | rollback => exact Command.maintains_silently maintains_rollback
  | savepoint name => exact Command.maintains_silently (maintains_issue (savepointStatement name))
  | rollbackTo name => exact Command.maintains_silently (maintains_issue (rollbackToStatement name))
  | _ => exact Command.OnlyLooks.maintains trivial

end Running

namespace Orderly

variable {D : Driver Address World} {c : ConnId} {work : Act World α}

/-- Orderly work keeps every unit running that it is part of. -/
theorem maintains_running (h : Orderly D work) : ∀ site, Maintains (Running c site) work := by
  induction h with
  | aside h =>
      intro site s hs
      obtain ⟨hwire, hsession⟩ := h s
      exact hs.unseen (congrArg Wire.trace hwire) (congrArg Session.connection hsession)
        (congrArg Session.scopes hsession)
  | command h => exact fun _ => Running.maintains_command h
  | bind _ _ iha ihf => exact fun site => (iha site).bind fun v => ihf v site
  | caught _ iha => exact fun site => (iha site).observe
  | unit propagate _ ih => exact fun _ => Running.maintains_transact ih propagate

theorem pure (a : α) : Orderly D (Pure.pure a) :=
  .aside fun _ => ⟨rfl, rfl⟩

theorem throw (e : Error) : Orderly D (MonadExcept.throw e : Act World α) :=
  .aside fun _ => ⟨rfl, rfl⟩

theorem get : Orderly D (MonadState.get : Act World (State World)) :=
  .aside fun _ => ⟨rfl, rfl⟩

theorem report (r : View → Report) : Orderly D (Work.report r : Act World Unit) :=
  .aside fun _ => ⟨rfl, rfl⟩

end Orderly

/-- No command of the tree changes the connection or its autocommit flag. -/
def Work.OnSession : Work Address → Prop
  | done => True
  | command c _ rest => c.OnSession ∧ rest.OnSession
  | transact _ _ body rest => body.OnSession ∧ rest.OnSession

theorem Work.orderly_unlessGuarded {D : Driver Address World} (guarded : Bool)
    (result : Except Error α) : Orderly D (Work.unlessGuarded guarded result) := by
  cases result with
  | ok a => exact .pure _
  | error e =>
      cases guarded with
      | true => exact .pure _
      | false => exact .throw e

/-- A tree of commands and units is orderly, whichever failures it guards. -/
theorem Work.orderly (D : Driver Address World) (work : Work Address) (h : work.OnSession) :
    Orderly D (work.run D) := by
  induction work with
  | done => exact .pure ()
  | command c guarded rest ih =>
      exact .bind (.caught (.command h.1)) fun result => .bind (.report _) fun _ =>
        .bind (orderly_unlessGuarded guarded result) fun _ => ih h.2
  | transact propagate guarded body rest ihbody ihrest =>
      have hentry : Orderly D (Work.reportEntry : Act World Unit) :=
        .bind (.aside fun _ => ⟨rfl, rfl⟩) fun _ => .report _
      have hunit : Orderly D (Session.transact D propagate do Work.reportEntry; body.run D) :=
        .unit propagate (.bind hentry fun _ => ihbody h.1)
      refine .bind .get fun s => ?_
      refine .bind (.caught (.bind hunit fun value => .pure value.isSome)) fun result => ?_
      exact .bind .get fun s' => .bind (.report _) fun _ =>
        .bind (orderly_unlessGuarded guarded result) fun _ => ihrest h.2

/-- A unit of orderly work, on a connection and in the middle of whatever units are running, writes
what `OutermostTrace` or `NestedTrace` says, and leaves the running units and the connection as they
are.  A unit inside another that is refused its savepoint does not run its work, and nothing that
it or its work writes begins or ends a transaction, changes the flag or closes the connection. -/
theorem transact_discipline {D : Driver Address World} {c : ConnId} {work : Act World α}
    (hwork : Orderly D work) (propagate : Bool) {s : State World}
    (hc : s.session.connection = some c) :
    (run (transact D propagate work) s).2.session.connection = some c ∧
      (run (transact D propagate work) s).2.session.scopes = s.session.scopes ∧
      ∃ t, (run (transact D propagate work) s).2.wire.trace = s.wire.trace ++ t ∧
        (s.session.scopes = [] → OutermostTrace D c work s t) ∧
        (s.session.scopes ≠ [] → NestedTrace D c work s t ∧
          (∀ e ∈ t, e.Allowed c (Request.Permitted (some s.nextSavepoint))) ∧
          ∀ e w, D.send c (.query (savepointStatement s.nextSavepoint)) s.wire = (.error e, w) →
            run (transact D propagate work) s = (.error (.queryFailed e), s.ticked.onto w)) := by
  have hmaintains := fun site => hwork.maintains_running (c := c) site
  rw [run_transact]
  cases hscopes : s.session.scopes with
  | nil =>
      obtain ⟨hconn, hsame, t, htrace, htraced⟩ := outermost_trace (D := D) hc hmaintains
      rw [unitBody_outermost _ (State.inTransaction_eq_false_iff.mpr hscopes)]
      obtain ⟨hwire, hconn', hsame'⟩ :=
        recorded_beside (run (outermost D work) s).2 (run (outermost D work) s).1
      refine ⟨hconn'.trans hconn, hsame'.trans (hsame.trans hscopes), t,
        (congrArg Wire.trace hwire).trans htrace, fun _ => htraced, fun h => absurd rfl h⟩
  | cons scope scopes =>
      obtain ⟨hconn, hsame, t, htrace, htraced⟩ := nested_trace (D := D) hc hmaintains
      rw [unitBody_inside _ (State.inTransaction_of_cons hscopes)]
      obtain ⟨hwire, hconn', hsame'⟩ :=
        recorded_beside (run (nested D work) s).2 (run (nested D work) s).1
      refine ⟨hconn'.trans hconn, hsame'.trans (hsame.trans hscopes), t,
        (congrArg Wire.trace hwire).trans htrace, fun h => absurd h (List.cons_ne_nil _ _),
        fun _ => ?_⟩
      refine ⟨htraced, htraced.permitted, fun e w hset => ?_⟩
      rw [run_nested_of_refused D hc hset]
      rfl

/-- A unit with a savepoint of its own and, inside, a unit whose failure is guarded. -/
theorem transact_discipline_of_guarded_failure :
    let work : Work (Endpoint Engine.small) := .command (.savepoint "here") false
      (.transact true true (.command (.fail .notConnected) false .done) .done)
    let s : State (Bench Engine.small) :=
      { wire := ⟨⟨[⟨default, .scripted (.opened default), ""⟩]⟩, []⟩
        session := { Session.new with connection := some 0 }
        defaults := .builtin
        clock := id
        reports := [] }
    s.session.connection = some 0 ∧ s.session.scopes = [] ∧
      Orderly Bench.driver (work.run Bench.driver) ∧
      (run (transact Bench.driver true (work.run Bench.driver)) s).2.session.scopes = [] ∧
      ∃ t, (run (transact Bench.driver true (work.run Bench.driver)) s).2.wire.trace = t ∧
        OutermostTrace Bench.driver 0 (work.run Bench.driver) s t := by
  intro work s
  have hwork : Orderly Bench.driver (work.run Bench.driver) :=
    work.orderly Bench.driver ⟨trivial, ⟨trivial, trivial⟩, trivial⟩
  obtain ⟨-, hscopes, t, htrace, houtermost, -⟩ :=
    transact_discipline (c := 0) hwork true (s := s) rfl
  exact ⟨rfl, rfl, hwork, hscopes, t, htrace, houtermost rfl⟩

end SlotQuery
