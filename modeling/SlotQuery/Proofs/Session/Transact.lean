import SlotQuery.Session.Script

/-!
# The paths through a unit of work

What `Session.transact` does depends on a handful of answers of the driver and on how the work ends.
This file follows each path once and says where it leads, in terms of the wire alone: `D.send` gives
the answer to a request and the wire after it.  Nothing is assumed about the work.

* `run_outermost_of_flag_refused` and `run_outermost_of_begin_refused` are the two ways in which
  an outermost unit does not start, `run_outermost_of_begun` is the one in which it does.
* `run_conclude_settled`, `run_conclude_committed`, `run_conclude_refused` and
  `run_conclude_failed` are the ways in which its transaction ends, and `run_restore` gives the
  flag back.
* `run_nested_of_refused`, `run_nested_of_ok` and `run_nested_of_error` are the paths of a unit
  inside another, and `run_nested_of_none` is the one without a connection.
* `run_commit` and `run_rollback` say what is asked for when a unit settles itself.
* `unitBody_outermost` and `unitBody_inside` tell the two kinds of unit apart, and `run_transact`
  says that recording the error of a failed unit is all that comes after.
-/

namespace SlotQuery

variable {Address World α : Type}

namespace State

/-- The state in which the work of a unit starts. -/
def entering (savepoint : Option String) (s : State World) : State World :=
  { s with session := { s.session with scopes := ⟨savepoint, false⟩ :: s.session.scopes } }

/-- The state in which the innermost unit has ended. -/
def leaving (s : State World) : State World :=
  { s with session := { s.session with scopes := s.session.scopes.tail } }

/-- The innermost unit has settled itself. -/
def settled (s : State World) : Bool :=
  (s.session.scopes.head?.map Scope.settled).getD false

/-- The state in which the innermost unit counts as settled. -/
def settling (s : State World) : State World :=
  { s with
    session :=
      { s.session with
        scopes := s.session.scopes.modifyHead fun scope => { scope with settled := true } } }

/-- The savepoint that guards the innermost unit. -/
def guard? (s : State World) : Option String :=
  s.session.scopes.head?.bind Scope.savepoint

/-- The state with another wire. -/
def onto (w : Wire World) (s : State World) : State World :=
  { s with wire := w }

/-- The state after the clock was read. -/
def ticked (s : State World) : State World :=
  { s with clock := fun n => s.clock (n + 1) }

/-- The savepoint that guards the next unit inside the running one. -/
def nextSavepoint (s : State World) : String :=
  Session.savepointName (s.clock 0) s.session.scopes.length

theorem inTransaction_eq_false_iff {s : State World} :
    s.session.inTransaction = false ↔ s.session.scopes = [] := by
  rw [Session.inTransaction, Bool.not_eq_false', List.isEmpty_iff]

/-- A session with a scope is in one. -/
theorem inTransaction_of_cons {s : State World} {scope : Scope} {scopes : List Scope}
    (h : s.session.scopes = scope :: scopes) : s.session.inTransaction = true := by
  rw [Session.inTransaction, h]
  rfl

end State

namespace Act

open Session

variable (D : Driver Address World) {c : ConnId} {s : State World}

/-- Work within a scope hands out its result and whether the unit is settled. -/
theorem run_within (savepoint : Option String) (work : Act World α) (s : State World) :
    run (within savepoint work) s =
      (.ok ((run work (s.entering savepoint)).1, (run work (s.entering savepoint)).2.settled),
        (run work (s.entering savepoint)).2.leaving) := rfl

/-- On a connection, what needs one goes on. -/
theorem run_connected_bind {β : Type} (hc : s.session.connection = some c)
    (f : ConnId → Act World β) :
    run (connected >>= f) s = run (f c) s :=
  run_bind_of_ok (run_connected hc)

/-- Without a connection it fails at once. -/
theorem run_connected_of_none (h : s.session.connection = none) :
    run connected s = (.error .notConnected, s) := by
  unfold connected
  rw [run_get_bind, h]
  rfl

/-- A request of transaction control is sent and its refusal handed on. -/
theorem run_control {r : Request} :
    run (control D c r) s =
      (((D.send c r s.wire).1.mapError Error.queryFailed), s.onto (D.send c r s.wire).2) := by
  unfold Session.control
  rw [run_onWire_bind]
  cases (D.send c r s.wire).1 <;> rfl

/-- A quiet rollback is sent and its answer dropped. -/
theorem run_rollbackQuietly (hc : s.session.connection = some c) :
    run (rollbackQuietly D) s = (.ok (), s.onto (D.send c .rollback s.wire).2) := by
  unfold rollbackQuietly
  rw [run_get_bind]
  simp only [hc]
  rfl

theorem run_conclude_settled (a : α) :
    run (conclude D (.ok a, true)) s = (.ok (.ok a), s) := rfl

/-- A unit that succeeded is committed. -/
theorem run_conclude_committed (hc : s.session.connection = some c) {w : Wire World}
    (h : D.send c .commit s.wire = (.ok (), w)) (a : α) :
    run (conclude D (.ok a, false)) s = (.ok (.ok a), s.onto w) := by
  unfold conclude
  rw [run_observe_bind]
  unfold commitOrRollback
  rw [run_connected_bind hc, run_onWire_bind, h]
  rfl

/-- A commit that is refused is followed by a rollback, however that ends. -/
theorem run_conclude_refused (hc : s.session.connection = some c) {w : Wire World} {e : DriverError}
    (h : D.send c .commit s.wire = (.error e, w)) (a : α) :
    run (conclude D (.ok a, false)) s =
      (.ok (.error (.queryFailed e)), s.onto (D.send c .rollback w).2) := by
  have hend : run (commitOrRollback D) s =
      (.error (.queryFailed e), s.onto (D.send c .rollback w).2) := by
    unfold commitOrRollback
    rw [run_connected_bind hc, run_onWire_bind, h]
    exact run_bind_of_ok (run_rollbackQuietly D (s := s.onto w) hc)
  unfold conclude
  rw [run_observe_bind, hend]
  rfl

/-- A unit that failed is rolled back, whatever the answer. -/
theorem run_conclude_failed (hc : s.session.connection = some c) (e : Error) (b : Bool) :
    run (conclude D ((.error e, b) : Except Error α × Bool)) s =
      (.ok (.error e), s.onto (D.send c .rollback s.wire).2) := by
  unfold conclude
  exact run_bind_of_ok (run_rollbackQuietly D hc)

/-- What a unit comes to once its flag has been given back: a refusal spoils a success. -/
def restored (answer : Except DriverError Unit) (result : Except Error α) : Except Error α :=
  match answer, result with
  | .error e, .ok _ => .error (.queryFailed e)
  | _, result => result

/-- The autocommit flag is set back, and a refusal takes the place of a value. -/
theorem run_restore (hc : s.session.connection = some c) (prior : Bool) (result : Except Error α) :
    run (restore D prior result) s =
      (.ok (restored (D.send c (.autocommit prior) s.wire).1 result),
        s.onto (D.send c (.autocommit prior) s.wire).2) := by
  unfold restore
  rw [run_get_bind]
  simp only [hc]
  rw [run_onWire_bind]
  cases (D.send c (.autocommit prior) s.wire).1 <;> cases result <;> rfl

/-- A refused flag keeps an outermost unit from starting. -/
theorem run_outermost_of_flag_refused (hc : s.session.connection = some c) {w : Wire World}
    {e : DriverError} (h : D.send c (.autocommit false) s.wire = (.error e, w))
    (work : Act World α) :
    run (outermost D work) s = (.error (.queryFailed e), s.onto w) := by
  unfold outermost
  rw [run_connected_bind hc, run_get_bind]
  refine run_bind_of_error ?_
  rw [run_control, h]
  rfl

/-- A refused beginning does so too, and the flag is set back. -/
theorem run_outermost_of_begin_refused (hc : s.session.connection = some c) {w w' : Wire World}
    {e : DriverError} (h : D.send c (.autocommit false) s.wire = (.ok (), w))
    (h' : D.send c .begin w = (.error e, w')) (work : Act World α) :
    run (outermost D work) s =
      (.error (.queryFailed e),
        s.onto (D.send c (.autocommit (D.autocommit c s.wire.world)) w').2) := by
  have hflag : run (control D c (.autocommit false)) s = (.ok (), s.onto w) := by
    rw [run_control, h]
    rfl
  unfold outermost
  rw [run_connected_bind hc, run_get_bind, run_bind_of_ok hflag, run_onWire_bind]
  simp only [State.onto, h']
  rfl

/-- An outermost unit that starts: its work runs, its transaction ends, its flag is given back. -/
theorem run_outermost_of_begun (hc : s.session.connection = some c) {w w' : Wire World}
    (h : D.send c (.autocommit false) s.wire = (.ok (), w)) (h' : D.send c .begin w = (.ok (), w'))
    (work : Act World α) {r : Except Error α} {s' : State World}
    (hwork : run work ((s.onto w').entering none) = (r, s')) :
    run (outermost D work) s =
      run (conclude D (r, s'.settled) >>= restore D (D.autocommit c s.wire.world)) s'.leaving := by
  have hflag : run (control D c (.autocommit false)) s = (.ok (), s.onto w) := by
    rw [run_control, h]
    rfl
  have hwithin : run (within none work) (s.onto w') = (.ok (r, s'.settled), s'.leaving) := by
    rw [run_within, hwork]
  unfold outermost
  rw [run_connected_bind hc, run_get_bind, run_bind_of_ok hflag, run_onWire_bind]
  simp only [State.onto, h']
  exact run_bind_of_ok hwithin

/-- A statement without parameters is sent and its refusal handed on. -/
theorem run_issue (hc : s.session.connection = some c) (sql : String) :
    run (issue D sql) s =
      (((D.send c (.query sql) s.wire).1.map fun _ => ()).mapError Error.queryFailed,
        s.onto (D.send c (.query sql) s.wire).2) := by
  unfold issue
  rw [run_connected_bind hc, run_onWire_bind]
  cases (D.send c (.query sql) s.wire).1 <;> rfl

/-- The wire after a connection was asked whether it is alive, and opened again if it is not. -/
def revived (c : ConnId) (w : Wire World) : Wire World :=
  if (D.isAlive c w).1 then (D.isAlive c w).2
  else (D.send c .reconnect (D.isAlive c w).2).2

/-- A connection is looked at and opened anew when it is lost. -/
theorem run_revive (hc : s.session.connection = some c) :
    run (revive D) s = (.ok (), s.onto (revived D c s.wire)) := by
  unfold revive revived
  rw [run_get_bind]
  simp only [hc]
  rw [run_onWire_bind]
  cases (D.isAlive c s.wire).1 <;> rfl

/-- Without a connection no nested unit starts. -/
theorem run_nested_of_none (h : s.session.connection = none) (work : Act World α) :
    run (nested D work) s = (.error .notConnected, s.ticked) := by
  unfold nested savepoint issue
  rw [run_tick_bind, run_get_bind]
  exact run_bind_of_error (run_bind_of_error (run_connected_of_none (s := s.ticked) h))

/-- A refused savepoint keeps a nested unit from starting. -/
theorem run_nested_of_refused (hc : s.session.connection = some c) {w : Wire World}
    {e : DriverError}
    (h : D.send c (.query (savepointStatement s.nextSavepoint)) s.wire = (.error e, w))
    (work : Act World α) :
    run (nested D work) s = (.error (.queryFailed e), s.ticked.onto w) := by
  have hset : run (savepoint D s.nextSavepoint) s.ticked =
      (.error (.queryFailed e), s.ticked.onto w) := by
    have h' : D.send c (.query (savepointStatement s.nextSavepoint)) s.ticked.wire =
        (.error e, w) := h
    unfold savepoint
    rw [run_issue D (s := s.ticked) hc, h']
    rfl
  unfold nested
  rw [run_tick_bind, run_get_bind]
  exact run_bind_of_error hset

/-- A unit inside another whose savepoint is set goes on from its work. -/
theorem run_nested_of_set (hc : s.session.connection = some c) {w : Wire World} {reply : Reply}
    (h : D.send c (.query (savepointStatement s.nextSavepoint)) s.wire = (.ok reply, w))
    (work : Act World α) {r : Except Error α} {s' : State World}
    (hwork : run work ((s.ticked.onto w).entering (some s.nextSavepoint)) = (r, s')) :
    run (nested D work) s =
      match r with
      | .ok a => (.ok (.ok a), s'.leaving)
      | .error e =>
        run (do revive D; let _ ← observe (rollbackTo D s.nextSavepoint); return .error e)
          s'.leaving := by
  have hset : run (savepoint D s.nextSavepoint) s.ticked = (.ok (), s.ticked.onto w) := by
    have h' : D.send c (.query (savepointStatement s.nextSavepoint)) s.ticked.wire =
        (.ok reply, w) := h
    unfold savepoint
    rw [run_issue D (s := s.ticked) hc, h']
    rfl
  have hwithin : run (within (some s.nextSavepoint) work) (s.ticked.onto w) =
      (.ok (r, s'.settled), s'.leaving) := by
    rw [run_within, hwork]
  unfold nested
  rw [run_tick_bind, run_get_bind]
  refine (run_bind_of_ok hset).trans ((run_bind_of_ok hwithin).trans ?_)
  cases r <;> rfl

/-- A nested unit that succeeds is left with nothing more sent. -/
theorem run_nested_of_ok (hc : s.session.connection = some c) {w : Wire World} {reply : Reply}
    (h : D.send c (.query (savepointStatement s.nextSavepoint)) s.wire = (.ok reply, w))
    (work : Act World α) {a : α} {s' : State World}
    (hwork : run work ((s.ticked.onto w).entering (some s.nextSavepoint)) = (.ok a, s')) :
    run (nested D work) s = (.ok (.ok a), s'.leaving) :=
  run_nested_of_set D hc h work hwork

/-- The failure of a unit inside another is undone back to its own savepoint, after the connection
was opened again if it had died. -/
theorem run_nested_of_error (hc : s.session.connection = some c) {w : Wire World} {reply : Reply}
    (h : D.send c (.query (savepointStatement s.nextSavepoint)) s.wire = (.ok reply, w))
    (work : Act World α) {e : Error} {s' : State World}
    (hwork : run work ((s.ticked.onto w).entering (some s.nextSavepoint)) = (.error e, s'))
    (hc' : s'.session.connection = some c) :
    run (nested D work) s =
      (.ok (.error e), s'.leaving.onto
        (D.send c (.query (rollbackToStatement s.nextSavepoint)) (revived D c s'.wire)).2) := by
  rw [run_nested_of_set D hc h work hwork]
  refine (run_bind_of_ok (run_revive D (s := s'.leaving) hc')).trans ?_
  rw [run_observe_bind]
  unfold rollbackTo
  rw [run_issue D (s := s'.leaving.onto (revived D c s'.leaving.wire)) hc']
  rfl

theorem guard?_settling (s : State World) : s.settling.guard? = s.guard? := by
  unfold State.guard? State.settling
  cases s.session.scopes <;> rfl

theorem run_guard? (s : State World) : run Session.guard? s = (.ok s.guard?, s) := rfl

/-- A unit that is guarded by a savepoint only counts as committed. -/
theorem run_commit (s : State World) :
    run (commit D) s =
      match s.guard? with
      | some _ => (.ok (), s.settling)
      | none => run (do control D (← connected) .commit) s.settling := by
  have hsettle : run (settle : Act World Unit) s = (.ok (), s.settling) := rfl
  unfold commit
  rw [run_bind_of_ok hsettle, run_bind_of_ok (run_guard? s.settling), guard?_settling]
  cases s.guard? <;> rfl

/-- A unit that is guarded by a savepoint goes back to it. -/
theorem run_rollback (s : State World) :
    run (rollback D) s =
      match s.guard? with
      | some name => run (rollbackTo D name) s.settling
      | none => run (do control D (← connected) .rollback) s.settling := by
  have hsettle : run (settle : Act World Unit) s = (.ok (), s.settling) := rfl
  unfold rollback
  rw [run_bind_of_ok hsettle, run_bind_of_ok (run_guard? s.settling), guard?_settling]
  cases s.guard? <;> rfl

/-- What a unit's caller sees of how the unit ended. -/
def reported (propagate : Bool) : Except Error (Except Error α) → Except Error (Option α)
  | .ok (.ok a) => .ok (some a)
  | .ok (.error e) => if propagate then .error e else .ok none
  | .error e => .error e

/-- The state with the error of a failed unit kept as the newest. -/
def recorded (s : State World) : Except Error (Except Error α) → State World
  | .ok (.error e) => (run (recordError e) s).2
  | _ => s

/-- Recording a result touches the session's error and nothing around it. -/
theorem recorded_beside (s : State World) (r : Except Error (Except Error α)) :
    (recorded s r).wire = s.wire ∧
      (recorded s r).session.connection = s.session.connection ∧
      (recorded s r).session.scopes = s.session.scopes := by
  rcases r with _ | _ | a <;> exact ⟨rfl, rfl, rfl⟩

/-- The body of a unit: the outermost one where none is running, and one inside another
elsewhere. -/
def unitBody (s : State World) (work : Act World α) : Act World (Except Error α) :=
  if s.session.inTransaction then nested D work else outermost D work

theorem unitBody_inside (hin : s.session.inTransaction = true) (work : Act World α) :
    unitBody D s work = nested D work :=
  if_pos hin

theorem unitBody_outermost (hout : s.session.inTransaction = false) (work : Act World α) :
    unitBody D s work = outermost D work := by
  rw [unitBody, hout, if_neg Bool.false_ne_true]

/-- A unit reports the result of its body and records it. -/
theorem run_transact (propagate : Bool) (work : Act World α) (s : State World) :
    run (transact D propagate work) s =
      (reported propagate (run (unitBody D s work) s).1,
        recorded (run (unitBody D s work) s).2 (run (unitBody D s work) s).1) := by
  unfold transact unitBody
  rw [run_get_bind]
  by_cases hin : s.session.inTransaction
  · simp only [hin, if_true]
    rw [run_bind]
    rcases run (nested D work) s with ⟨_ | _ | a, s'⟩
    · rfl
    · cases propagate <;> rfl
    · rfl
  · simp only [hin, Bool.false_eq_true, if_false]
    rw [run_bind]
    rcases run (outermost D work) s with ⟨_ | _ | a, s'⟩
    · rfl
    · cases propagate <;> rfl
    · rfl

end Act

open Session

section

variable {Address World : Type} {D : Driver Address World} {c : ConnId} {s : State World}

/-- The state in which the work of a unit starts, if nothing refuses it. -/
def State.starting (D : Driver Address World) (c : ConnId) (s : State World) : State World :=
  if s.session.inTransaction then
    (s.ticked.onto (D.send c (.query (savepointStatement s.nextSavepoint)) s.wire).2).entering
      (some s.nextSavepoint)
  else
    (s.onto (D.send c .begin (D.send c (.autocommit false) s.wire).2).2).entering none

/-- A nested unit starts behind its savepoint. -/
theorem State.starting_inside (hin : s.session.inTransaction = true) {reply : Reply}
    {w : Wire World}
    (hset : D.send c (.query (savepointStatement s.nextSavepoint)) s.wire = (.ok reply, w)) :
    s.starting D c = (s.ticked.onto w).entering (some s.nextSavepoint) := by
  rw [State.starting, if_pos hin, hset]

/-- An outermost unit starts behind its beginning. -/
theorem State.starting_outermost (hout : s.session.inTransaction = false) {w w' : Wire World}
    (hflag : D.send c (.autocommit false) s.wire = (.ok (), w))
    (hbegin : D.send c .begin w = (.ok (), w')) :
    s.starting D c = (s.onto w').entering none := by
  rw [State.starting, hout, if_neg Bool.false_ne_true, hflag, hbegin]

/-- The driver grants what a unit asks for before its work. -/
def State.Starts (D : Driver Address World) (c : ConnId) (s : State World) : Prop :=
  if s.session.inTransaction then
    ∃ reply w, D.send c (.query (savepointStatement s.nextSavepoint)) s.wire = (.ok reply, w)
  else
    ∃ w w', D.send c (.autocommit false) s.wire = (.ok (), w) ∧ D.send c .begin w = (.ok (), w')

/-- A nested unit that starts has set its savepoint. -/
theorem State.Starts.exists_set (hstart : s.Starts D c) (hin : s.session.inTransaction = true) :
    ∃ reply w, D.send c (.query (savepointStatement s.nextSavepoint)) s.wire = (.ok reply, w) ∧
      s.starting D c = (s.ticked.onto w).entering (some s.nextSavepoint) := by
  rw [State.Starts, if_pos hin] at hstart
  obtain ⟨reply, w, hset⟩ := hstart
  exact ⟨reply, w, hset, State.starting_inside hin hset⟩

/-- An outermost unit that starts has begun its transaction. -/
theorem State.Starts.exists_begun (hstart : s.Starts D c) (hout : s.session.inTransaction = false) :
    ∃ w w', D.send c (.autocommit false) s.wire = (.ok (), w) ∧
      D.send c .begin w = (.ok (), w') ∧ s.starting D c = (s.onto w').entering none := by
  rw [State.Starts, hout, if_neg Bool.false_ne_true] at hstart
  obtain ⟨w, w', hflag, hbegin⟩ := hstart
  exact ⟨w, w', hflag, hbegin, State.starting_outermost hout hflag hbegin⟩

/-- The driver refuses what a unit asks for before its work, and this is the error. -/
def State.Refuses (D : Driver Address World) (c : ConnId) (s : State World) (error : Error) :
    Prop :=
  if s.session.inTransaction then
    ∃ e w, D.send c (.query (savepointStatement s.nextSavepoint)) s.wire = (.error e, w) ∧
      error = .queryFailed e
  else
    ∃ e w, error = .queryFailed e ∧ (D.send c (.autocommit false) s.wire = (.error e, w) ∨
      ∃ w', D.send c (.autocommit false) s.wire = (.ok (), w') ∧ D.send c .begin w' = (.error e, w))

/-- A unit whose start the driver does not grant is refused. -/
theorem State.exists_refuses (h : ¬ s.Starts D c) : ∃ error, s.Refuses D c error := by
  unfold State.Starts at h
  unfold State.Refuses
  cases hin : s.session.inTransaction with
  | true =>
      rw [hin, if_pos rfl] at h
      rcases hset : D.send c (.query (savepointStatement s.nextSavepoint)) s.wire with
        ⟨e | reply, w⟩
      · exact ⟨_, e, w, rfl, rfl⟩
      · exact absurd ⟨reply, w, hset⟩ h
  | false =>
      rw [hin, if_neg Bool.false_ne_true] at h
      rcases hflag : D.send c (.autocommit false) s.wire with ⟨e | _, w⟩
      · exact ⟨_, e, w, rfl, .inl rfl⟩
      · rcases hbegin : D.send c .begin w with ⟨e | _, w'⟩
        · exact ⟨_, e, w', rfl, .inr ⟨w, rfl, hbegin⟩⟩
        · exact absurd ⟨w, w', hflag, hbegin⟩ h

end

end SlotQuery
