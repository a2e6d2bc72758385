import SlotQuery.Proofs.Engine.Failure
import SlotQuery.Proofs.Session.Contained

/-!
# Units of work happen as a whole or not at all

This is about units on an embedded connection, whose database any engine may keep.  The work of a
unit may be anything that is contained in it (`Contained`): what the database holds, the settings,
the clock and the faults of the connection are arbitrary.

`transact_atomic` is the main statement.  If the work fails, the database holds afterwards what it
held before; this is true of the outermost unit and, with what the enclosing work has changed, of a
unit at any depth.  If the work succeeds, the database holds what the work left, and behind the
outermost unit no transaction stays open, so that it is committed.

`outermost_ends` follows the outermost unit from the invariant of its work to what is left of its
transaction; `nested_ends` did so for a unit inside another.  An engine may refuse to commit: then
a success is undone like a failure (`Settled`), and the caller is told why.
-/

namespace SlotQuery

open Act Session
open Engine (Ledger)

variable {E : Engine} {α : Type} {c : ConnId}

/-- What the outermost unit finds when it starts. -/
def Footing.outermost {Contents : Type} (l : Ledger Contents) : Footing Contents where
  guard := none
  outer := []
  base := l.contents
  below := []

/-- How a unit ends whose work has come to an outcome: it ends like its work and what the work has
done is kept, or it fails and everything is undone.  Where the work has failed, the unit fails with
the same error. -/
inductive Settled {Contents : Type} (before worked : Contents) :
    Except Error α → Except Error α → Contents → Prop
  | kept (a : α) : Settled before worked (.ok a) (.ok a) worked
  | undone {r : Except Error α} {e : Error} (h : ∀ e', r = .error e' → e' = e) :
      Settled before worked r (.error e) before

/-- A unit that fails has undone everything. -/
theorem Settled.of_error {Contents : Type} {before worked after : Contents} {r : Except Error α}
    {e : Error} (h : Settled before worked r (.error e) after) : after = before := by
  cases h with
  | undone => rfl

/-- A unit that succeeds has kept everything, and its work has succeeded. -/
theorem Settled.of_ok {Contents : Type} {before worked after : Contents} {r : Except Error α}
    {a : α} (h : Settled before worked r (.ok a) after) : r = .ok a ∧ after = worked := by
  cases h with
  | kept => exact ⟨rfl, rfl⟩

/-- While no transaction runs, the flag is given back without a word. -/
theorem run_restore_of_idle {s : State (Bench E)} {l : Ledger E.Contents}
    (hc : s.session.connection = some c) (hl : s.ledger? c = some l) (hidle : l.transaction = none)
    (prior : Bool) (result : Except Error α) :
    ∃ w, run (restore Bench.driver prior result) s = (.ok result, s.onto w) ∧
      w.world.ledger? c = some l := by
  obtain ⟨_, w, hback, hl'⟩ := exists_send (Bench.respond_autocommit hl hidle prior)
  refine ⟨w, ?_, hl'⟩
  rw [run_restore Bench.driver hc, hback]
  cases result with
  | ok a => rfl
  | error e => rfl

/-- The end of a transaction: it is committed, or rolled back if the work failed or the engine
refuses to commit. -/
theorem conclude_ends (hE : E.Transactional) {s : State (Bench E)} {l : Ledger E.Contents}
    (hc : s.session.connection = some c) (hl : s.ledger? c = some l) (hruns : l.transaction ≠ none)
    (r : Except Error α) :
    ∃ w l' result, run (conclude Bench.driver (r, false)) s = (.ok result, s.onto w) ∧
      w.world.ledger? c = some l' ∧ l'.transaction = none ∧
      Settled l.committed l.contents r result l'.contents ∧ (E.Granting → result = r) := by
  have hundone := Ledger.rollback_eq_some_iff.mpr ⟨hruns, rfl⟩
  cases r with
  | ok a =>
      rcases hcommit : Bench.driver.send c .commit s.wire with ⟨e | _, w⟩
      · obtain ⟨l₁, hl₁, hrefused⟩ := stepped_of_send hE .commit trivial hl hcommit
        obtain rfl : l₁ = l := hrefused
        obtain ⟨_, w', hroll, hrolled⟩ := exists_send (w := w)
          (Bench.respond_goesBack hE .rollback trivial hl₁ trivial hundone)
        have hroll' : Bench.driver.send c .rollback w = (.ok (), w') := hroll
        have hended := run_conclude_refused Bench.driver hc hcommit a
        rw [hroll'] at hended
        refine ⟨w', _, _, hended, hrolled, rfl, .undone nofun, fun hgrants => ?_⟩
        obtain ⟨⟨a', hgranted⟩, -⟩ := Bench.respond_granting hE .commit trivial hgrants
          hl (Ledger.commit_eq_some_iff.mpr ⟨hruns, rfl⟩)
        cases hgranted.symm.trans (Prod.mk.inj hcommit).1
      · obtain ⟨l₁, hl₁, hcommitted⟩ := stepped_of_send hE .commit trivial hl hcommit
        obtain ⟨-, rfl⟩ := Ledger.commit_eq_some_iff.mp hcommitted
        exact ⟨w, _, _, run_conclude_committed Bench.driver hc hcommit a, hl₁, rfl, .kept a,
          fun _ => rfl⟩
  | error e =>
      obtain ⟨_, w, hroll, hrolled⟩ := exists_send (w := s.wire)
        (Bench.respond_goesBack hE .rollback trivial hl trivial hundone)
      have hroll' : Bench.driver.send c .rollback s.wire = (.ok (), w) := hroll
      have hended := run_conclude_failed Bench.driver hc e false (α := α)
      rw [hroll'] at hended
      exact ⟨w, _, _, hended, hrolled, rfl, .undone fun _ h => (Except.error.inj h).symm,
        fun _ => rfl⟩

/-- Where the engine grants every step, a unit starts. -/
theorem State.starts_of_granting (hE : E.Transactional) (hgrants : E.Granting)
    {s : State (Bench E)} {l : Ledger E.Contents} (hl : s.ledger? c = some l)
    (hidle : s.session.scopes = [] → l.transaction = none) : s.Starts Bench.driver c := by
  cases hin : s.session.inTransaction with
  | true =>
      have hname := holdable_savepointName (s.clock 0) s.session.scopes.length
      obtain ⟨reply, w, hset, -⟩ := exists_send (w := s.wire) (Bench.respond_granting hE
        (.savepoint s.nextSavepoint) hname hgrants hl rfl)
      rw [State.Starts, if_pos hin]
      exact ⟨reply, w, hset⟩
  | false =>
      have hnone := hidle (State.inTransaction_eq_false_iff.mp hin)
      obtain ⟨_, w, hflag, hl'⟩ := exists_send (Bench.respond_autocommit hl hnone false)
      obtain ⟨_, w', hbegin, -⟩ := exists_send (w := w) (Bench.respond_granting hE
        .begin trivial hgrants hl' (Ledger.begin_eq_some_iff.mpr ⟨hnone, rfl⟩))
      rw [State.Starts, hin, if_neg Bool.false_ne_true]
      exact ⟨w, w', hflag, hbegin⟩

section

variable {s : State (Bench E)} {l : Ledger E.Contents} (hE : E.Transactional)
variable (hc : s.session.connection = some c) (hout : s.session.scopes = [])
variable (hl : s.ledger? c = some l) (hstart : s.Starts Bench.driver c)

include hE hc hout hstart

include hl in
/-- The outermost unit starts where no transaction is running, with one of its own and the contents
as they were. -/
theorem outermost_starts :
    l.transaction = none ∧ Standing c (.outermost l) [] (s.starting Bench.driver c) ∧
      (s.starting Bench.driver c).contents c = some l.contents := by
  obtain ⟨w, w', hflag, hbegin, hstarting⟩ :=
    hstart.exists_begun (State.inTransaction_eq_false_iff.mpr hout)
  have hl₁ : w.world.ledger? c = some l := by
    obtain ⟨-, rfl⟩ := Prod.mk.inj hflag
    exact Bench.ledger?_respond (r := .autocommit false) (fun _ => rfl) hl fun e he => he
  obtain ⟨l', hl', hbegun⟩ := stepped_of_send hE .begin trivial hl₁ hbegin
  obtain ⟨hidle, rfl⟩ := Ledger.begin_eq_some_iff.mp hbegun
  rw [hstarting]
  refine ⟨hidle, ⟨?_, hc, ⟨false, ?_, fun _ => rfl⟩, ⟨[], ?_, ?_, .slnil⟩, ?_⟩, ?_⟩
  · intro name hguard
    cases hguard
  · show _ :: s.session.scopes = _
    rw [hout]
    rfl
  · exact has_open_iff.mpr ⟨_, hl', rfl⟩
  · intro p hp
    cases hp
  · intro name hname
    cases hname
  · exact congrArg (Option.map Ledger.contents) hl'

/-- An outermost unit leaves no transaction behind.  If its work failed, or the engine refuses to
commit, the contents are those that it started from, and otherwise those that its work left. -/
theorem outermost_ends {work : Act (Bench E) α} {r : Except Error α} {s' : State (Bench E)}
    (hrun : run work (s.starting Bench.driver c) = (r, s')) {live : List String}
    (hs' : Standing c (.outermost l) live s') :
    ∃ l₁ l' result, s'.ledger? c = some l₁ ∧
      (run (outermost Bench.driver work) s).1 = .ok result ∧
      (run (outermost Bench.driver work) s).2.session.connection = some c ∧
      (run (outermost Bench.driver work) s).2.session.scopes = s.session.scopes ∧
      (run (outermost Bench.driver work) s).2.ledger? c = some l' ∧
      l'.transaction = none ∧ Settled l.contents l₁.contents r result l'.contents ∧
      (E.Granting → result = r) := by
  obtain ⟨w, w', hflag, hbegin, hstarting⟩ :=
    hstart.exists_begun (State.inTransaction_eq_false_iff.mpr hout)
  obtain ⟨own, hruns, -, -⟩ := hs'.savepoints
  obtain ⟨l₁, hl₁, ht⟩ := has_open_iff.mp hruns
  obtain ⟨settled, hscopes, hsettled⟩ := hs'.scopes
  have hleft : s'.leaving.session.scopes = s.session.scopes := by
    show s'.session.scopes.tail = _
    rw [hscopes, hout]
    rfl
  have hunsettled : s'.settled = false := by
    rw [State.settled, hscopes]
    exact hsettled rfl
  have hbase : l₁.committed = l.contents := by
    rw [Ledger.committed, ht]
    rfl
  rw [hstarting] at hrun
  rw [run_outermost_of_begun Bench.driver hc hflag hbegin work hrun, hunsettled]
  obtain ⟨u, l', result, hconclude, hl', hidle, hkept, hsame⟩ :=
    conclude_ends hE (s := s'.leaving) hs'.connection hl₁ (by rw [ht]; nofun) r
  obtain ⟨u', hrestore, hended⟩ := run_restore_of_idle (s := s'.leaving.onto u) hs'.connection
    hl' hidle (Bench.driver.autocommit c s.wire.world) result
  rw [run_bind_of_ok hconclude, hrestore]
  exact ⟨l₁, l', result, hl₁, rfl, hs'.connection, hleft, hended, hidle, hbase ▸ hkept, hsame⟩

end

/-- What the body of a unit comes to that starts, be it the outermost one or one inside another, if
its work leaves it standing. -/
theorem unitBody_ends (hE : E.Transactional) {s : State (Bench E)} {l : Ledger E.Contents}
    {work : Act (Bench E) α} {live : List String} (hc : s.session.connection = some c)
    (hl : s.ledger? c = some l) (hstart : s.Starts Bench.driver c)
    (hwork : ∀ f, Standing c f [] (s.starting Bench.driver c) →
      Standing c f live (run work (s.starting Bench.driver c)).2) :
    ∃ l₁ l' result, (s.starting Bench.driver c).contents c = some l.contents ∧
      (run work (s.starting Bench.driver c)).2.ledger? c = some l₁ ∧
      (run (unitBody Bench.driver s work) s).1 = .ok result ∧
      (run (unitBody Bench.driver s work) s).2.session.connection = some c ∧
      (run (unitBody Bench.driver s work) s).2.session.scopes = s.session.scopes ∧
      (run (unitBody Bench.driver s work) s).2.ledger? c = some l' ∧
      (s.session.scopes = [] → l'.transaction = none) ∧
      Settled l.contents l₁.contents (run work (s.starting Bench.driver c)).1 result l'.contents ∧
      (E.Granting → result = (run work (s.starting Bench.driver c)).1) := by
  have hrun : run work (s.starting Bench.driver c) =
      ((run work (s.starting Bench.driver c)).1, (run work (s.starting Bench.driver c)).2) := rfl
  cases hscopes : s.session.scopes with
  | nil =>
      obtain ⟨-, hstarted, hcontents⟩ := outermost_starts hE hc hscopes hl hstart
      obtain ⟨l₁, l', result, hl₁, hresult, hconn, hsame, hl', hended, hsettled, hgranted⟩ :=
        outermost_ends hE hc hscopes hstart hrun (hwork _ hstarted)
      rw [unitBody_outermost _ (State.inTransaction_eq_false_iff.mpr hscopes)]
      exact ⟨l₁, l', result, hcontents, hl₁, hresult, hconn, hsame.trans hscopes, hl',
        fun _ => hended, hsettled, hgranted⟩
  | cons scope scopes =>
      have hin := State.inTransaction_of_cons hscopes
      obtain ⟨hstarted, hset⟩ := nested_starts hE hc hin hl hstart
      have hended := hwork _ hstarted
      obtain ⟨own, hruns, -, -⟩ := hended.savepoints
      obtain ⟨l₁, hl₁, -⟩ := has_open_iff.mp hruns
      obtain ⟨l', own, hresult, hconn, hsame, hl', -, -, herror, hok⟩ :=
        nested_ends hE hc hin hstart hrun hended
      rw [unitBody_inside _ hin]
      refine ⟨l₁, l', _, congrArg (Option.map Ledger.contents) hset, hl₁, hresult, hconn,
        hsame.trans hscopes, hl', fun h => (nomatch h), ?_, fun _ => rfl⟩
      cases hr : (run work (s.starting Bench.driver c)).1 with
      | ok a =>
          obtain rfl : l₁ = l' := Option.some.inj (hl₁.symm.trans (hok a hr))
          exact .kept a
      | error e =>
          rw [herror e hr]
          exact .undone fun _ h => (Except.error.inj h).symm

/-- A unit of contained work on an embedded connection happens as a whole or not at all.

The unit starts with the database as it is, and its caller is told how its work ended.  If the work
fails, the database holds what it held before; if it succeeds, what the work left.  The connection
and the running units are as before, and where none was running no transaction is left open. -/
theorem transact_atomic (hE : E.Transactional) (hcareful : E.Careful) (hgrants : E.Granting)
    {s : State (Bench E)} {l : Ledger E.Contents} {work : Act (Bench E) α} {live : List String}
    (hc : s.session.connection = some c) (hl : s.ledger? c = some l)
    (hidle : s.session.scopes = [] → l.transaction = none)
    (hwork : Contained c [] (s.starting Bench.driver c) work live) (propagate : Bool) :
    let start := s.starting Bench.driver c
    let ended := run (transact Bench.driver propagate work) s
    start.contents c = s.contents c ∧
      ended.1 = reported propagate (.ok (run work start).1) ∧
      (∀ e, (run work start).1 = .error e → ended.2.contents c = s.contents c) ∧
      (∀ a, (run work start).1 = .ok a → ended.2.contents c = (run work start).2.contents c) ∧
      (∃ l', ended.2.ledger? c = some l' ∧ (s.session.scopes = [] → l'.transaction = none)) ∧
      ended.2.session.connection = some c ∧ ended.2.session.scopes = s.session.scopes := by
  intro start ended
  obtain ⟨l₁, l', result, hstarted, hl₁, hresult, hconn, hscopes, hl', hended, hsettled,
      hgranted⟩ :=
    unitBody_ends hE hc hl (State.starts_of_granting hE hgrants hl hidle)
      fun f => hwork.standing hE hcareful hgrants (f := f)
  obtain rfl := hgranted hgrants
  obtain ⟨hwire, hconn', hscopes'⟩ := recorded_beside (run (unitBody Bench.driver s work) s).2
    (run (unitBody Bench.driver s work) s).1
  have hbefore : s.contents c = some l.contents := congrArg (Option.map Ledger.contents) hl
  have hrun : ended = (reported propagate (.ok (run work start).1),
      recorded (run (unitBody Bench.driver s work) s).2
        (run (unitBody Bench.driver s work) s).1) := by
    rw [← hresult]
    exact run_transact Bench.driver propagate work s
  have hleft : ended.2.ledger? c = some l' := by
    rw [hrun, State.ledger?, hwire]
    exact hl'
  have hafter : ended.2.contents c = some l'.contents := congrArg (Option.map Ledger.contents) hleft
  refine ⟨hstarted.trans hbefore.symm, by rw [hrun], fun e he => ?_, fun a ha => ?_,
    ⟨l', hleft, hended⟩, ?_, ?_⟩
  · rw [he] at hsettled
    rw [hafter, hbefore, hsettled.of_error]
  · rw [ha] at hsettled
    rw [hafter, hsettled.of_ok.2]
    exact (congrArg (Option.map Ledger.contents) hl₁).symm
  · rw [hrun]
    exact hconn'.trans hconn
  · rw [hrun]
    exact hscopes'.trans hscopes

/-- A unit that fails in the end.  Before, it sets a savepoint and goes back to it, past a unit that
empties the table and fails as well. -/
theorem transact_atomic_of_guarded_failure :
    let inner : Act (Bench Engine.small) Unit := do
      let _ ← observe (Command.run Bench.driver (.query "DELETE FROM t" none))
      throw .notConnected
    let work : Act (Bench Engine.small) Unit := do
      let _ ← observe (Command.run Bench.driver (.savepoint "here"))
      let _ ← observe (transact Bench.driver true inner)
      let _ ← observe (Command.run Bench.driver (.rollbackTo "here"))
      throw .notConnected
    let store : Engine.Store := .opened [⟨"t", ["a"], none, [⟨1, [.null]⟩]⟩]
    let embedded : Embedded Engine.small := { Embedded.opened none with store := some store }
    let s : State (Bench Engine.small) :=
      { wire := ⟨⟨[⟨default, .embedded embedded, ""⟩]⟩, []⟩
        session := { Session.new with connection := some 0 }
        defaults := .builtin
        clock := id
        reports := [] }
    (Engine.small.Transactional ∧ Engine.small.Careful ∧ Engine.small.Granting) ∧
      s.session.connection = some 0 ∧ s.ledger? 0 = some store.ledger ∧
      store.ledger.transaction = none ∧
      (run (transact Bench.driver true work) s).1 = .error .notConnected ∧
      (run (transact Bench.driver true work) s).2.contents 0 = some store.ledger.contents := by
  intro inner work store embedded s
  have hinner : ∀ s, Contained 0 [] s inner [] := by
    intro s
    refine .observed (.command (.plain ?_)) (.failing _)
    intro _ _ p _ _ hp
    exact noControl_prepare_of_letter Engine.small_transactional (c := 'D') (by decide) (by decide)
      (by decide) (by decide) hp
  have hhere : Ordinary "here" := ordinary_of_letter (by decide) (c := 'h') (by decide) rfl
  have hwork : Contained 0 [] (s.starting Bench.driver 0) work ["here"] := by
    refine .observed (.command (.savepoint hhere)) ?_
    refine .observed (.unit true (hinner _)) ?_
    exact .observed (.command (.rollbackTo ⟨"here", .head _, by decide⟩)) (.failing _)
  have hfailed : (run work (s.starting Bench.driver 0)).1 = .error .notConnected := rfl
  obtain ⟨-, hresult, hundone, -⟩ :=
    transact_atomic Engine.small_transactional Engine.small_careful Engine.small_granting (c := 0)
      (s := s) rfl rfl (fun _ => rfl) hwork true
  exact ⟨⟨Engine.small_transactional, Engine.small_careful, Engine.small_granting⟩, rfl, rfl, rfl,
    by rw [hresult, hfailed]; rfl, hundone _ hfailed⟩

end SlotQuery
