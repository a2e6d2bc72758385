import SlotQuery.Proofs.Session.Maintains
import SlotQuery.Proofs.Session.Transact

/-!
# How a session steers its connection

A session asks its connection for more than statements.  It begins and ends transactions, sets the
autocommit flag, sets savepoints and rolls back to them, and opens a dead connection again.  These
requests steer the connection (`Request.Steers`), and nothing but these stands between the work of a
unit and what a session does around it.

A property is `Steered` if it outlives such a request on the session's connection, and whatever a
session does beside the wire in order to make it.  Then it outlives every action that is made of
them.  So a unit of work maintains the property if its work does (`Steered.transact`), on every
path, those included on which it does not start.
-/

namespace SlotQuery

open Act Session

/-- The request is to load a staged file. -/
def Request.IsLoad : Request → Prop
  | load _ => True
  | _ => False

/-- The event is a request to load a staged file. -/
def Event.Loads : Event → Prop
  | sent _ r => r.IsLoad
  | _ => False

/-- The request controls a transaction, by a statement for its savepoints included, or it is about
whether the connection is open. -/
def Request.Steers : Request → Prop
  | query sql => ∃ name, sql = savepointStatement name ∨ sql = rollbackToStatement name
  | begin | commit | rollback | autocommit _ | isAlive | reconnect | close => True
  | _ => False

/-- The event is no request, or one that steers. -/
def Event.Steers : Event → Prop
  | sent _ r => r.Steers
  | _ => True

theorem Request.Steers.savepoint (name : String) : (query (savepointStatement name)).Steers :=
  ⟨name, .inl rfl⟩

theorem Request.Steers.rollbackTo (name : String) : (query (rollbackToStatement name)).Steers :=
  ⟨name, .inr rfl⟩

/-- A request that steers is no load. -/
theorem Request.Steers.not_isLoad {r : Request} (h : r.Steers) : ¬ r.IsLoad := by
  cases r with
  | load file => exact h.elim
  | _ => exact id

/-- An event that steers loads nothing. -/
theorem Event.Steers.not_loads {e : Event} (h : e.Steers) : ¬ e.Loads := by
  cases e with
  | sent c r => exact Request.Steers.not_isLoad h
  | accepted | refused | alive => exact id

section

variable {Address World α β : Type}

/-- The two states differ at most in the units that run, the newest error, the clock and the
reports. -/
structure Silent (s s' : State World) : Prop where
  wire : s'.wire = s.wire
  connection : s'.session.connection = s.session.connection
  log : s'.session.log = s.session.log
  settings : s'.session.settings = s.session.settings
  saved : s'.session.saved = s.session.saved
  defaults : s'.defaults = s.defaults
  overflowed : s'.overflowed = s.overflowed

/-- The property outlives what a session does to steer its connection. -/
structure Steered (D : Driver Address World) (I : State World → Prop) : Prop where
  silent : ∀ {s s'}, I s → Silent s s' → I s'
  ask : ∀ {s c r}, I s → s.session.connection = some c → r.Steers →
    I (s.onto (D.send c r s.wire).2)
  look : ∀ {s c}, I s → s.session.connection = some c → I (s.onto (D.isAlive c s.wire).2)

namespace Steered

variable {D : Driver Address World} {I : State World → Prop} (H : Steered D I)

include H

/-- What follows a request on the session's connection. -/
theorem ask_bind {r : Request} (hr : r.Steers)
    {f : ConnId → Except DriverError r.Answer → Act World β}
    (hf : ∀ c answer, Maintains I (f c answer)) :
    Maintains I (connected >>= fun c => onWire (D.send c r) >>= f c) := by
  intro s hs
  cases hc : s.session.connection with
  | none =>
      rw [run_bind_of_error (run_connected_of_none hc)]
      exact hs
  | some c =>
      rw [run_connected_bind hc, run_onWire_bind]
      exact hf c _ _ (H.ask hs hc hr)

/-- What outlives steering outlives a request of transaction control. -/
theorem control {r : Request} (hr : r.Steers) :
    Maintains I (connected >>= fun c => Session.control D c r) := by
  refine H.ask_bind hr fun c answer => ?_
  cases answer with
  | ok a => exact Maintains.pure a
  | error e => exact Maintains.throw _

theorem issue {sql : String} (hsql : (Request.query sql).Steers) :
    Maintains I (Session.issue D sql) := by
  refine H.ask_bind hsql fun c answer => ?_
  cases answer with
  | ok a => exact Maintains.pure _
  | error e => exact Maintains.throw _

theorem rollbackQuietly : Maintains I (Session.rollbackQuietly D) := by
  intro s hs
  cases hc : s.session.connection with
  | none =>
      unfold Session.rollbackQuietly
      rw [run_get_bind, hc]
      exact hs
  | some c =>
      rw [run_rollbackQuietly D hc]
      exact H.ask hs hc trivial

theorem revive : Maintains I (Session.revive D) := by
  intro s hs
  cases hc : s.session.connection with
  | none =>
      unfold Session.revive
      rw [run_get_bind, hc]
      exact hs
  | some c =>
      have hlooked := H.look hs hc
      rw [run_revive D hc]
      unfold revived
      split
      · exact hlooked
      · exact H.ask (s := s.onto (D.isAlive c s.wire).2) hlooked hc trivial

theorem restore (prior : Bool) (result : Except Error α) :
    Maintains I (Session.restore D prior result) := by
  intro s hs
  cases hc : s.session.connection with
  | none =>
      unfold Session.restore
      rw [run_get_bind, hc]
      exact hs
  | some c =>
      rw [run_restore D hc]
      exact H.ask hs hc trivial

theorem commitOrRollback : Maintains I (Session.commitOrRollback D) := by
  refine H.ask_bind (r := .commit) trivial fun c answer => ?_
  cases answer with
  | ok _ => exact Maintains.pure _
  | error e => exact H.rollbackQuietly.bind fun _ => Maintains.throw _

theorem conclude (outcome : Except Error α × Bool) : Maintains I (Session.conclude D outcome) := by
  rcases outcome with ⟨e | a, settled⟩
  · exact H.rollbackQuietly.bind fun _ => Maintains.pure _
  · cases settled with
    | true => exact Maintains.pure _
    | false => exact H.commitOrRollback.observe.bind fun _ => Maintains.pure _

theorem settle : Maintains I (Session.settle : Act World Unit) :=
  fun _ hs => H.silent hs ⟨rfl, rfl, rfl, rfl, rfl, rfl, rfl⟩

theorem commit : Maintains I (Session.commit D) := by
  refine H.settle.bind fun _ => Maintains.bind (Maintains.get.bind fun _ => Maintains.pure _) ?_
  rintro (_ | name)
  · exact H.control trivial
  · exact Maintains.pure _

theorem rollback : Maintains I (Session.rollback D) := by
  refine H.settle.bind fun _ => Maintains.bind (Maintains.get.bind fun _ => Maintains.pure _) ?_
  rintro (_ | name)
  · exact H.control trivial
  · exact H.issue (Request.Steers.rollbackTo name)

theorem within {work : Act World α} (hwork : Maintains I work) (savepoint : Option String) :
    Maintains I (Session.within savepoint work) := by
  intro s hs
  have hended := hwork (s.entering savepoint) (H.silent hs ⟨rfl, rfl, rfl, rfl, rfl, rfl, rfl⟩)
  rw [run_within]
  exact H.silent hended ⟨rfl, rfl, rfl, rfl, rfl, rfl, rfl⟩

theorem nested {work : Act World α} (hwork : Maintains I work) :
    Maintains I (Session.nested D work) := by
  have htick : Maintains I (Act.tick : Act World Nat) :=
    fun _ hs => H.silent hs ⟨rfl, rfl, rfl, rfl, rfl, rfl, rfl⟩
  unfold Session.nested
  refine htick.bind fun now => Maintains.get.bind fun s => ?_
  refine (H.issue (Request.Steers.savepoint _)).bind fun _ => ?_
  refine (H.within hwork _).bind fun outcome => ?_
  rcases outcome with ⟨e | a, settled⟩
  · exact H.revive.bind fun _ => (H.issue (Request.Steers.rollbackTo _)).observe.bind fun _ =>
      Maintains.pure _
  · exact Maintains.pure _

theorem outermost {work : Act World α} (hwork : Maintains I work) :
    Maintains I (Session.outermost D work) := by
  intro s hs
  cases hc : s.session.connection with
  | none =>
      have hgone : run (Session.outermost D work) s = (.error .notConnected, s) :=
        run_bind_of_error (run_connected_of_none hc)
      rw [hgone]
      exact hs
  | some c =>
      have hset := H.ask (r := .autocommit false) hs hc trivial
      rcases hflag : D.send c (.autocommit false) s.wire with ⟨e | _, w⟩
      · rw [hflag] at hset
        rw [run_outermost_of_flag_refused D hc hflag]
        exact hset
      rw [hflag] at hset
      have hasked := H.ask (s := s.onto w) (r := .begin) hset hc trivial
      rcases hbegin : D.send c .begin w with ⟨e | _, w'⟩
      · have hbegin' : D.send c .begin (s.onto w).wire = (.error e, w') := hbegin
        rw [hbegin'] at hasked
        rw [run_outermost_of_begin_refused D hc hflag hbegin]
        exact H.ask (s := s.onto w') hasked hc trivial
      · have hbegin' : D.send c .begin (s.onto w).wire = (.ok (), w') := hbegin
        rw [hbegin'] at hasked
        have hended := H.within hwork none (s.onto w') hasked
        rw [run_within] at hended
        rw [run_outermost_of_begun D hc hflag hbegin work (Prod.ext rfl rfl)]
        exact Maintains.bind (H.conclude _) (fun result => H.restore _ result) _ hended

/-- A unit of work maintains what its work maintains. -/
theorem transact {work : Act World α} (hwork : Maintains I work) (propagate : Bool) :
    Maintains I (Session.transact D propagate work) := by
  intro s hs
  have hbody : Maintains I (unitBody D s work) := by
    unfold unitBody
    split
    · exact H.nested hwork
    · exact H.outermost hwork
  have hended := hbody s hs
  rw [run_transact]
  rcases (run (unitBody D s work) s).1 with _ | _ | _
  · exact hended
  · exact H.silent hended ⟨rfl, rfl, rfl, rfl, rfl, rfl, rfl⟩
  · exact hended

end Steered

/-- The command makes requests of the session's connection that steer it, and nothing else. -/
def Command.OnlySteers : Command Address → Prop
  | setAutocommit _ | commit | rollback | savepoint _ | rollbackTo _ => True
  | _ => False

theorem Command.OnlySteers.maintains {D : Driver Address World} {I : State World → Prop}
    (H : Steered D I) {command : Command Address} (h : command.OnlySteers) :
    Maintains I (command.run D) := by
  cases command with
  | setAutocommit on =>
      have hr : (Request.autocommit on).Steers := trivial
      refine Command.maintains_silently (H.ask_bind hr fun c answer => ?_)
      cases answer with
      | ok a => exact Maintains.pure _
      | error e => exact Maintains.throw _
  | commit => exact Command.maintains_silently H.commit
  | rollback => exact Command.maintains_silently H.rollback
  | savepoint name =>
      exact Command.maintains_silently (H.issue (Request.Steers.savepoint name))
  | rollbackTo name =>
      exact Command.maintains_silently (H.issue (Request.Steers.rollbackTo name))
  | _ => exact h.elim

end

end SlotQuery
