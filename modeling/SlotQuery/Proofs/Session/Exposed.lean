import SlotQuery.Proofs.Session.Answers
import SlotQuery.Proofs.Session.Standing
import SlotQuery.Proofs.Session.TransactionControl

/-!
# Failures that a unit of work gets to see

A unit of work is undone if its work fails, and only then.  So a failure somewhere inside the work
undoes the unit exactly as far as it is passed on: through what comes after it in a row of actions,
and through the units that raise their errors.  `Exposed` says where in a run of the work a part of
it stands from which every failure gets out, and `Exposed.error` that it does.

Two ways of keeping a failure to oneself are followed here.

* A statement that the driver refuses is an error under settings that raise errors, and the answer
  `false` under others.  `refused_statement_in_unit` says that the first undoes the unit and that
  the second leaves the decision to the work: a unit that succeeds is kept, whatever was refused in
  it.
* A unit inside another is undone by a statement of its own, whose refusal nobody is told.
  `failed_unit_inside_outermost` says that the caller of the unit learns the same either way, and
  that the outermost unit is undone if the error is raised and kept if it is not, though the unit
  inside may then be undone in name only.

In both cases `Undone` and `Kept` are what the unit writes to the trace.  The driver is arbitrary,
and the work is any orderly one.
-/

namespace SlotQuery

open Act Session

variable {Address World α β γ : Type}

/-- When the work runs in the first state, the part of it runs in the second, and no failure of the
part is caught before it gets out of the work. -/
inductive Exposed (D : Driver Address World) (c : ConnId) :
    {α β : Type} → State World → Act World α → State World → Act World β → Prop
  | whole {α : Type} {s : State World} {work : Act World α} : Exposed D c s work s work
  | first {α β γ : Type} {s s' : State World} {a : Act World α} {f : α → Act World β}
      {part : Act World γ} (h : Exposed D c s a s' part) : Exposed D c s (a >>= f) s' part
  | later {α β γ : Type} {s s' s'' : State World} {a : Act World α} {f : α → Act World β} {v : α}
      {part : Act World γ} (hrun : run a s = (.ok v, s')) (h : Exposed D c s' (f v) s'' part) :
      Exposed D c s (a >>= f) s'' part
  | unit {α γ : Type} {s s' : State World} {work : Act World α} {part : Act World γ}
      (hc : s.session.connection = some c) (hstart : s.Starts D c)
      (h : Exposed D c (s.starting D c) work s' part) :
      Exposed D c s (transact D true work) s' part

/-- What an outermost unit writes before its work, and a unit inside another in its place. -/
def State.opening (c : ConnId) (s : State World) : List Event :=
  if s.session.inTransaction then
    [.sent c (.query (savepointStatement s.nextSavepoint)), .accepted]
  else [.sent c (.autocommit false), .accepted, .sent c .begin, .accepted]

/-- What guards the work of a unit that starts in the state. -/
def State.nextGuard (s : State World) : Option String :=
  if s.session.inTransaction then some s.nextSavepoint else none

/-- What a unit writes after its work to undo it. -/
inductive Undone (D : Driver Address World) (c : ConnId) (s : State World) : List Event → Prop
  | outermost (hout : s.session.inTransaction = false)
      (answer back : Except DriverError Unit) :
      Undone D c s (Driver.call c .rollback answer ++
        Driver.call c (.autocommit (D.autocommit c s.wire.world)) back)
  | inside (hin : s.session.inTransaction = true) {revival : List Event}
      (hrevival : Revival c revival) (answer : Except DriverError Reply) :
      Undone D c s (revival ++
        Driver.call c (.query (rollbackToStatement s.nextSavepoint)) answer)

/-- What a unit writes after its work to keep it: the outermost one commits, and rolls back only
if that is refused. -/
inductive Kept (D : Driver Address World) (c : ConnId) (s : State World) : List Event → Prop
  | committed (hout : s.session.inTransaction = false) (back : Except DriverError Unit) :
      Kept D c s ([.sent c .commit, .accepted] ++
        Driver.call c (.autocommit (D.autocommit c s.wire.world)) back)
  | refused (hout : s.session.inTransaction = false) (e : DriverError)
      (answer back : Except DriverError Unit) :
      Kept D c s ([.sent c .commit, .refused e] ++ Driver.call c .rollback answer ++
        Driver.call c (.autocommit (D.autocommit c s.wire.world)) back)
  | inside (hin : s.session.inTransaction = true) : Kept D c s []

/-- Undoing a unit sends no commit. -/
theorem Undone.not_commit {D : Driver Address World} {c : ConnId} {s : State World}
    {ending : List Event} (h : Undone D c s ending) : .sent c .commit ∉ ending := by
  intro hmem
  cases h with
  | outermost hout answer back =>
      cases answer <;> cases back <;> simp [Driver.call, Driver.ending] at hmem
  | inside hin hrevival answer =>
      cases hrevival with
      | alive => cases answer <;> simp [Driver.call, Driver.ending] at hmem
      | reopened opened =>
          cases opened <;> cases answer <;> simp [Driver.call, Driver.ending] at hmem

/-- The requests that start a unit do not commit. -/
theorem State.not_commit_opening (c : ConnId) (s : State World) :
    .sent c .commit ∉ s.opening c := by
  unfold State.opening
  split <;> simp

section

variable {D : Driver Address World} {c : ConnId} {s : State World} {work : Act World α}

/-- An error stays the error while the flag is given back. -/
theorem run_restore_error (prior : Bool) (e : Error) (s : State World) :
    (run (restore D prior (.error e : Except Error α)) s).1 = .ok (.error e) := by
  unfold restore
  rw [run_get_bind]
  cases s.session.connection with
  | none => rfl
  | some c =>
      dsimp only
      rw [run_onWire_bind]
      cases (D.send c (.autocommit prior) s.wire).1 <;> rfl

/-- An error stays the error while the transaction is ended, settled or not. -/
theorem run_conclude_error (e : Error) (settled : Bool) (s : State World) :
    (run (conclude D ((.error e, settled) : Except Error α × Bool)) s).1 = .ok (.error e) := by
  unfold conclude rollbackQuietly
  rw [run_bind, run_get_bind]
  cases s.session.connection with
  | none => rfl
  | some c => rfl

/-- Reviving a connection does not fail, whatever the driver answers. -/
theorem run_revive_fst (s : State World) : (run (revive D) s).1 = .ok () := by
  unfold revive
  rw [run_get_bind]
  cases s.session.connection with
  | none => rfl
  | some c =>
      dsimp only
      rw [run_onWire_bind]
      cases (D.isAlive c s.wire).1 <;> rfl

/-- Past the failure of an action that does not fail, nothing is lost. -/
theorem run_bind_fst_of_ok {a : Act World α} {f : α → Act World β} {v : α}
    (ha : (run a s).1 = .ok v) : run (a >>= f) s = run (f v) (run a s).2 :=
  run_bind_of_ok (Prod.ext ha rfl)

/-- A unit that starts fails with the error of its work, however undoing it goes. -/
theorem unitBody_error (hc : s.session.connection = some c) (hstart : s.Starts D c) {e : Error}
    (hwork : (run work (s.starting D c)).1 = .error e) :
    (run (unitBody D s work) s).1 = .ok (.error e) := by
  have hrun : run work (s.starting D c) = (.error e, (run work (s.starting D c)).2) :=
    Prod.ext hwork rfl
  cases hin : s.session.inTransaction with
  | true =>
      obtain ⟨reply, w, hset, hstarting⟩ := hstart.exists_set hin
      rw [hstarting] at hrun
      rw [unitBody_inside D hin, run_nested_of_set D hc hset work hrun]
      dsimp only
      rw [run_bind_fst_of_ok (run_revive_fst _), run_observe_bind]
      rfl
  | false =>
      obtain ⟨w, w', hflag, hbegin, hstarting⟩ := hstart.exists_begun hin
      rw [hstarting] at hrun
      rw [unitBody_outermost D hin, run_outermost_of_begun D hc hflag hbegin work hrun,
        run_bind_fst_of_ok (run_conclude_error _ _ _), run_restore_error]

/-- What the unit inside another writes, if it starts. -/
theorem nested_ending (hwork : ∀ site, Maintains (Running c site) work)
    (hc : s.session.connection = some c) (hin : s.session.inTransaction = true)
    (hstart : s.Starts D c) :
    ∃ own ending, (run work (s.starting D c)).2.wire.trace = (s.starting D c).wire.trace ++ own ∧
      (∀ e ∈ own, e.Allowed c (Request.Permitted (some s.nextSavepoint))) ∧
      (run (nested D work) s).2.wire.trace = s.wire.trace ++ (s.opening c ++ own ++ ending) ∧
      (∀ e, (run work (s.starting D c)).1 = .error e → Undone D c s ending) ∧
      (∀ a, (run work (s.starting D c)).1 = .ok a → Kept D c s ending) := by
  obtain ⟨reply, w, hset, hstarting⟩ := hstart.exists_set hin
  obtain ⟨-, -, t, htrace, hnested⟩ := nested_trace (D := D) hc hwork
  rw [hstarting, State.opening, if_pos hin]
  cases hnested with
  | refused hset' =>
      rw [hset] at hset'
      cases hset'
  | @kept reply' w' a s' own hset' hrun hown hpermitted =>
      rw [hset] at hset'
      cases hset'
      rw [hrun]
      refine ⟨own, [], hown, hpermitted, ?_, ?_, fun _ _ => .inside hin⟩
      · rw [htrace, List.append_nil]
      · intro e he
        cases he
  | @undone reply' w' e s' own revival hset' hrun hown hpermitted hrevival answer =>
      rw [hset] at hset'
      cases hset'
      rw [hrun]
      refine ⟨own, _, hown, hpermitted, ?_, fun _ _ => .inside hin hrevival answer, ?_⟩
      · rw [htrace]
        simp only [List.append_assoc]
      · intro a ha
        cases ha

/-- What the outermost unit writes, if it starts and its work does not settle it. -/
theorem outermost_ending (hwork : ∀ site, Maintains (Running c site) work)
    (hc : s.session.connection = some c) (hout : s.session.inTransaction = false)
    (hstart : s.Starts D c) :
    ∃ own ending, (run work (s.starting D c)).2.wire.trace = (s.starting D c).wire.trace ++ own ∧
      (∀ e ∈ own, e.Allowed c (Request.Permitted none)) ∧
      (run (outermost D work) s).2.wire.trace = s.wire.trace ++ (s.opening c ++ own ++ ending) ∧
      (∀ e, (run work (s.starting D c)).1 = .error e → Undone D c s ending) ∧
      (∀ a, (run work (s.starting D c)).1 = .ok a →
        (run work (s.starting D c)).2.settled = false → Kept D c s ending) := by
  obtain ⟨w, w', hflag, hbegin, hstarting⟩ := hstart.exists_begun hout
  obtain ⟨-, -, t, htrace, houtermost⟩ := outermost_trace (D := D) hc hwork
  rw [hstarting, State.opening, hout, if_neg Bool.false_ne_true]
  cases houtermost with
  | flagRefused hflag' =>
      rw [hflag] at hflag'
      cases hflag'
  | beginRefused hflag' hbegin' answer =>
      rw [hflag] at hflag'
      cases hflag'
      rw [hbegin] at hbegin'
      cases hbegin'
  | @ran u u' r s' own closing hflag' hbegin' hrun hown hpermitted hclosing back =>
      rw [hflag] at hflag'
      cases hflag'
      rw [hbegin] at hbegin'
      cases hbegin'
      rw [hrun]
      refine ⟨own, closing ++ Driver.call c (.autocommit (D.autocommit c s.wire.world)) back, hown,
        hpermitted, ?_, ?_, ?_⟩
      · rw [htrace]
        simp only [List.append_assoc]
      · rintro e rfl
        cases hclosing with
        | failed e settled answer => exact .outermost hout answer back
      · rintro a rfl hunsettled
        dsimp only at hunsettled
        rw [hunsettled] at hclosing
        cases hclosing with
        | committed a => exact .committed hout back
        | refused a e answer => exact .refused hout e answer back

end

/-- A failure that is not caught on its way out is the failure of the whole. -/
theorem Exposed.error {D : Driver Address World} {c : ConnId} {s s' : State World}
    {work : Act World α} {part : Act World β} (h : Exposed D c s work s' part) {e : Error}
    (he : (run part s').1 = .error e) : (run work s).1 = .error e := by
  induction h with
  | whole => exact he
  | first h ih =>
      have hfirst := ih he
      rw [run_bind_of_error (Prod.ext hfirst rfl)]
  | later hrun h ih =>
      rw [run_bind_of_ok hrun]
      exact ih he
  | unit hc hstart h ih =>
      rw [run_transact, unitBody_error hc hstart (ih he)]
      rfl

/-- What a unit of orderly work writes, if it starts: its work between what comes before it and
what undoes or keeps it. -/
theorem Orderly.unit_ending {D : Driver Address World} {c : ConnId} {s : State World}
    {work : Act World α} (hwork : Orderly D work) (hc : s.session.connection = some c)
    (hstart : s.Starts D c) (propagate : Bool) :
    ∃ own ending, (run work (s.starting D c)).2.wire.trace = (s.starting D c).wire.trace ++ own ∧
      (∀ e ∈ own, e.Allowed c (Request.Permitted s.nextGuard)) ∧
      (run (transact D propagate work) s).2.wire.trace =
        s.wire.trace ++ (s.opening c ++ own ++ ending) ∧
      (∀ e, (run work (s.starting D c)).1 = .error e → Undone D c s ending) ∧
      (∀ a, (run work (s.starting D c)).1 = .ok a →
        (run work (s.starting D c)).2.settled = false → Kept D c s ending) := by
  have hmaintains := fun site => hwork.maintains_running (c := c) site
  rw [run_transact, (recorded_beside _ _).1]
  cases hin : s.session.inTransaction with
  | true =>
      obtain ⟨own, ending, hown, hpermitted, htrace, hundone, hkept⟩ :=
        nested_ending hmaintains hc hin hstart
      rw [unitBody_inside D hin, State.nextGuard, if_pos hin]
      exact ⟨own, ending, hown, hpermitted, htrace, hundone, fun a ha _ => hkept a ha⟩
  | false =>
      rw [unitBody_outermost D hin, State.nextGuard, hin, if_neg Bool.false_ne_true]
      exact outermost_ending hmaintains hc hin hstart

/-- A unit in whose work a failure gets out is undone and tells of that failure, and no commit is
sent but by the work itself.  A unit whose work succeeds and does not settle it is kept. -/
theorem Orderly.unit_decided {D : Driver Address World} {c : ConnId} {s s' : State World}
    {work : Act World α} {part : Act World β} (hwork : Orderly D work)
    (hc : s.session.connection = some c) (hstart : s.Starts D c)
    (hpart : Exposed D c (s.starting D c) work s' part) (propagate : Bool) :
    ∃ own ending, (run work (s.starting D c)).2.wire.trace = (s.starting D c).wire.trace ++ own ∧
      (run (transact D propagate work) s).2.wire.trace =
        s.wire.trace ++ (s.opening c ++ own ++ ending) ∧
      (∀ e, (run part s').1 = .error e →
        (run (transact D propagate work) s).1 = (if propagate then .error e else .ok none) ∧
        Undone D c s ending ∧
        (.sent c .commit ∈ s.opening c ++ own ++ ending → .sent c .commit ∈ own)) ∧
      (∀ a, (run work (s.starting D c)).1 = .ok a →
        (run work (s.starting D c)).2.settled = false → Kept D c s ending) := by
  obtain ⟨own, ending, hown, -, htrace, hundone, hkept⟩ :=
    hwork.unit_ending hc hstart propagate
  refine ⟨own, ending, hown, htrace, fun e he => ?_, hkept⟩
  have hfailed := hpart.error he
  refine ⟨?_, hundone e hfailed, fun hmem => ?_⟩
  · rw [run_transact, unitBody_error hc hstart hfailed]
    rfl
  · rcases List.mem_append.mp hmem with hmem | hmem
    · rcases List.mem_append.mp hmem with hmem | hmem
      · exact absurd hmem (s.not_commit_opening c)
      · exact hmem
    · exact absurd hmem (hundone e hfailed).not_commit

/-- The driver refuses what becomes of the template on the session's connection. -/
structure RefusedStatement (D : Driver Address World) (c : ConnId) (sql : String) (st : Settings)
    (s : State World) (e : Error) : Prop where
  connection : s.session.connection = some c
  refusal : ∃ p, Template.prepare st sql = .ok p ∧
    (performUnder D st.charset c p s.wire).1 = .error e

/-- A statement that the driver refuses, in a unit of orderly work and where its failure gets out,
decides over the unit only under settings that raise errors: then the unit is undone, its caller
is told of the error, and no commit is sent but by the work itself.  Under other settings the
statement answers `false`, and the unit is kept if its work succeeds and leaves it unsettled. -/
theorem refused_statement_in_unit {D : Driver Address World} {c : ConnId} {s s' : State World}
    {work : Act World α} (hwork : Orderly D work) (hc : s.session.connection = some c)
    (hstart : s.Starts D c) {sql : String} {st : Settings}
    (hpart : Exposed D c (s.starting D c) work s' (Session.run D sql st)) {e : Error}
    (hrefused : RefusedStatement D c sql st s' e) (propagate : Bool) :
    (run (Session.run D sql st) s').2.session.lastError = some e.message ∧
      ∃ own ending, (run work (s.starting D c)).2.wire.trace = (s.starting D c).wire.trace ++ own ∧
        (run (transact D propagate work) s).2.wire.trace =
          s.wire.trace ++ (s.opening c ++ own ++ ending) ∧
        (st.throwErrors = true →
          (run (transact D propagate work) s).1 = (if propagate then .error e else .ok none) ∧
          Undone D c s ending ∧
          (.sent c .commit ∈ s.opening c ++ own ++ ending → .sent c .commit ∈ own)) ∧
        (st.throwErrors = false →
          (run (Session.run D sql st) s').1 = .ok (.bool false) ∧
          ∀ a, (run work (s.starting D c)).1 = .ok a →
            (run work (s.starting D c)).2.settled = false → Kept D c s ending) := by
  obtain ⟨p, hp, hsent⟩ := hrefused.refusal
  obtain ⟨hanswer, -, hrecorded⟩ :=
    run_of_prepared hp hrefused.connection (Prod.ext hsent rfl)
  obtain ⟨own, ending, hown, htrace, hfailed, hkept⟩ :=
    hwork.unit_decided hc hstart hpart propagate
  refine ⟨hrecorded e rfl, own, ending, hown, htrace, fun hthrow => ?_, fun hquiet => ⟨?_, hkept⟩⟩
  · rw [told, if_pos hthrow] at hanswer
    exact hfailed e hanswer
  · rw [hanswer, told, hquiet]
    rfl

/-- A driver that counts the statements it is given and refuses one of them. -/
def Driver.refusing (place : Nat) (e : DriverError) : Driver Unit Nat where
  dial _ n := (0, n)
  hangUp n := n
  respond _ r n :=
    match r with
    | .query _ => (if n = place then .error e else .ok (.done true), n + 1)
    | .fetch => (.ok (.done true), n)
    | .isAlive => (.ok true, n)
    | .load _ => (.ok 0, n)
    | .charset _ | .prepare _ | .bind _ | .execute | .closeStatement | .batch _ | .begin | .commit
    | .rollback | .autocommit _ | .reconnect | .close => (.ok (), n)
  capabilities _ _ := .all
  database _ _ := ""
  autocommit _ _ := true
  lastInsertId _ _ := 0
  affected _ _ := 0
  loads _ _ := true

/-- Two inserts, of which the second is refused and answers `false`. -/
theorem refused_statement_in_unit_of_quiet_settings :
    let D := Driver.refusing 1 ⟨1146, "no such table"⟩
    let work : Act Nat Answer := do
      let _ ← Command.run D (.query "INSERT INTO t (a) VALUES (1)" none)
      Command.run D (.query "INSERT INTO missing (a) VALUES (1)" none)
    let s : State Nat :=
      { wire := ⟨0, []⟩
        session :=
          { Session.new with
            connection := some 0
            settings := some { Settings.builtin with throwErrors := false } }
        defaults := .builtin
        clock := id
        reports := [] }
    Orderly D work ∧ s.session.connection = some 0 ∧ s.Starts D 0 ∧
      ∃ own ending, (run (transact D true work) s).2.wire.trace = s.opening 0 ++ own ++ ending ∧
        Kept D 0 s ending := by
  intro D work s
  let quiet : Settings := { Settings.builtin with throwErrors := false }
  let start := s.starting D 0
  have hwork : Orderly D work := .bind (.command trivial) fun _ => .command trivial
  have hstart : s.Starts D 0 := ⟨_, _, rfl, rfl⟩
  have hp : Template.prepare quiet "INSERT INTO t (a) VALUES (1)" =
      .ok ⟨"INSERT INTO t (a) VALUES (1)", []⟩ := by decide +kernel
  have hp' : Template.prepare quiet "INSERT INTO missing (a) VALUES (1)" =
      .ok ⟨"INSERT INTO missing (a) VALUES (1)", []⟩ := by decide +kernel
  let start' := (run (Session.run D "INSERT INTO t (a) VALUES (1)" quiet) start).2
  have hgranted : (performUnder D quiet.charset 0 ⟨"INSERT INTO t (a) VALUES (1)", []⟩
      start.wire).1 = .ok (.done true) := rfl
  obtain ⟨hfirst, hbeside, -⟩ := run_of_prepared (s := start) hp rfl (Prod.ext hgranted rfl)
  have hsettings : start'.session.currentSettings start'.defaults = quiet := by
    rw [Session.currentSettings, hbeside.settings]
    rfl
  have hrun : run (Command.run D (.query "INSERT INTO t (a) VALUES (1)" none)) start =
      (.ok (.output (.bool true)), start') := by
    rw [Command.run_query]
    exact Prod.ext (congrArg (Except.map Answer.output) hfirst) rfl
  have hpart : Exposed D 0 start work start'
      (Session.run D "INSERT INTO missing (a) VALUES (1)" quiet) := by
    refine .later hrun (.later (v := .none) rfl (.first (.later ?_ .whole)))
    rw [run_effective, hsettings]
    rfl
  have hsent : (performUnder D quiet.charset 0 ⟨"INSERT INTO missing (a) VALUES (1)", []⟩
      start'.wire).1 = .error (.queryFailed ⟨1146, "no such table"⟩) := by
    rw [hbeside.wire]
    rfl
  have hconn : start'.session.connection = some 0 := hbeside.connection
  obtain ⟨hanswer, hbeside', -⟩ := run_of_prepared hp' hconn (Prod.ext hsent rfl)
  have hended : run work start = (.ok (.output (.bool false)),
      (run (Session.run D "INSERT INTO missing (a) VALUES (1)" quiet) start').2) := by
    refine (run_bind_of_ok hrun).trans ?_
    rw [Command.run_query, hsettings, hanswer]
    rfl
  have hunsettled : (run work start).2.settled = false := by
    rw [hended, State.settled, hbeside'.scopes]
    show (start'.session.scopes.head?.map Scope.settled).getD false = false
    rw [hbeside.scopes]
    rfl
  obtain ⟨-, own, ending, -, htrace, -, hquiet⟩ :=
    refused_statement_in_unit hwork rfl hstart hpart ⟨hconn, _, hp', hsent⟩ true
  exact ⟨hwork, rfl, hstart, own, ending, htrace,
    (hquiet rfl).2 _ (congrArg Prod.fst hended) hunsettled⟩

/-- Keeping an outermost unit means sending a commit. -/
theorem Kept.commit_mem {D : Driver Address World} {c : ConnId} {s : State World}
    {ending : List Event} (h : Kept D c s ending) (hout : s.session.inTransaction = false) :
    .sent c .commit ∈ ending := by
  cases h with
  | committed hout back => exact .head _
  | refused hout e answer back => exact .head _
  | inside hin =>
      rw [hout] at hin
      cases hin

/-- A unit inside another that starts and fails tells its caller the same however the driver answers
the statement that goes back to its savepoint. -/
theorem transact_of_failed_inside {D : Driver Address World} {c : ConnId} {s s' : State World}
    {work : Act World α} (hc : s.session.connection = some c)
    (hin : s.session.inTransaction = true) (hstart : s.Starts D c) {e : Error}
    (hwork : run work (s.starting D c) = (.error e, s')) (hc' : s'.session.connection = some c)
    {answer : Except DriverError Reply} {w : Wire World}
    (hundo : D.send c (.query (rollbackToStatement s.nextSavepoint)) (revived D c s'.wire) =
      (answer, w)) (propagate : Bool) :
    (run (transact D propagate work) s).1 = (if propagate then .error e else .ok none) ∧
      (run (transact D propagate work) s).2.wire = w := by
  obtain ⟨reply, w₀, hset, hstarting⟩ := hstart.exists_set hin
  rw [hstarting] at hwork
  rw [run_transact, (recorded_beside _ _).1, unitBody_inside D hin,
    run_nested_of_error D hc hset work hwork hc', hundo]
  exact ⟨rfl, rfl⟩

/-- A unit fails inside the outermost one, whose work is orderly.  Whatever the driver answers when
it is asked to go back to the savepoint, the caller of the unit inside gets the error if that is
raised, and otherwise the answer that the unit failed and was undone.  If the error is raised and
not caught further out, the outermost unit is undone and no commit is sent but by its work.  If it
is not raised, the outermost unit sends its commit whenever its work succeeds and leaves it
unsettled. -/
theorem failed_unit_inside_outermost {D : Driver Address World} {c : ConnId}
    {s s₁ s₂ : State World} {work : Act World α} {inner : Act World β} (hwork : Orderly D work)
    (hc : s.session.connection = some c) (hout : s.session.inTransaction = false)
    (hstart : s.Starts D c) {propagate : Bool}
    (hpart : Exposed D c (s.starting D c) work s₁ (transact D propagate inner))
    (hc₁ : s₁.session.connection = some c) (hin : s₁.session.inTransaction = true)
    (hstart₁ : s₁.Starts D c) {e : Error}
    (hinner : run inner (s₁.starting D c) = (.error e, s₂))
    (hc₂ : s₂.session.connection = some c) {answer : Except DriverError Reply} {w : Wire World}
    (hundo : D.send c (.query (rollbackToStatement s₁.nextSavepoint)) (revived D c s₂.wire) =
      (answer, w)) (raised : Bool) :
    (run (transact D propagate inner) s₁).1 = (if propagate then .error e else .ok none) ∧
      (run (transact D propagate inner) s₁).2.wire = w ∧
      ∃ own ending, (run work (s.starting D c)).2.wire.trace = (s.starting D c).wire.trace ++ own ∧
        (run (transact D raised work) s).2.wire.trace =
          s.wire.trace ++ (s.opening c ++ own ++ ending) ∧
        (propagate = true →
          (run (transact D raised work) s).1 = (if raised then .error e else .ok none) ∧
          Undone D c s ending ∧
          (.sent c .commit ∈ s.opening c ++ own ++ ending → .sent c .commit ∈ own)) ∧
        (propagate = false → ∀ a, (run work (s.starting D c)).1 = .ok a →
          (run work (s.starting D c)).2.settled = false →
          Kept D c s ending ∧ .sent c .commit ∈ ending) := by
  obtain ⟨htold, hwire⟩ :=
    transact_of_failed_inside hc₁ hin hstart₁ hinner hc₂ hundo propagate
  obtain ⟨own, ending, hown, htrace, hfailed, hkept⟩ := hwork.unit_decided hc hstart hpart raised
  refine ⟨htold, hwire, own, ending, hown, htrace, fun hraise => ?_, fun _ a ha hunsettled => ?_⟩
  · rw [if_pos hraise] at htold
    exact hfailed e htold
  · have hend := hkept a ha hunsettled
    exact ⟨hend, hend.commit_mem hout⟩

/-- A unit inside that fails without raising its error, on a connection that refuses to go back. -/
theorem failed_unit_inside_outermost_of_refused_return :
    let D := Driver.refusing 1 ⟨1305, "no such savepoint"⟩
    let inner : Act Nat Answer := Command.run D (.fail (.other "stop"))
    let work : Act Nat (Option Answer) := transact D false inner
    let s : State Nat :=
      { wire := ⟨0, []⟩
        session := { Session.new with connection := some 0 }
        defaults := .builtin
        clock := id
        reports := [] }
    let start := s.starting D 0
    (D.send 0 (.query (rollbackToStatement start.nextSavepoint))
        (revived D 0 (start.starting D 0).wire)).1 = .error ⟨1305, "no such savepoint"⟩ ∧
      (run work start).1 = .ok none ∧
      ∃ own ending, (run (transact D true work) s).2.wire.trace = s.opening 0 ++ own ++ ending ∧
        .sent 0 .commit ∈ ending := by
  intro D inner work s start
  have hinner : Orderly D inner := .command trivial
  have hrefused : (D.send 0 (.query (rollbackToStatement start.nextSavepoint))
      (revived D 0 (start.starting D 0).wire)).1 = .error ⟨1305, "no such savepoint"⟩ := rfl
  have hpart : Exposed D 0 start work start (transact D false inner) := .whole
  have hstart : s.Starts D 0 := ⟨_, _, rfl, rfl⟩
  have hset : start.Starts D 0 := ⟨_, _, rfl⟩
  have hfailed : run inner (start.starting D 0) = (.error (.other "stop"), start.starting D 0) :=
    rfl
  obtain ⟨htold, -, own, ending, -, htrace, -, hkept⟩ :=
    failed_unit_inside_outermost (.unit false hinner) rfl rfl hstart hpart rfl rfl hset hfailed rfl
      (Prod.ext hrefused rfl) true
  exact ⟨hrefused, htold, own, ending, htrace, (hkept rfl none htold rfl).2⟩

end SlotQuery
