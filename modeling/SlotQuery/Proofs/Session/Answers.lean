import SlotQuery.Proofs.Driver.Barren
import SlotQuery.Proofs.Result.Shape
import SlotQuery.Proofs.Session.Maintains
import SlotQuery.Proofs.Session.Transact

/-!
# What the caller of a statement learns

A template that is rejected is not sent, and neither is one without a connection to send it on
(`run_of_rejected`, `run_of_unconnected`).  Any other goes over the wire, and its caller is told
what came back: the shape of the reply, or the driver's error, which is raised or turned into
`false` as the settings say (`told`).  Apart from the wire, only the log and the newest error show
that it was run (`run_of_prepared`).

A caller that is told of an error or of `false` may rely on it: on an embedded connection the
statement has left the database as it was (`run_barren`).
-/

namespace SlotQuery

open Act Session
variable {E : Engine} {Address World : Type}

/-- The state with an error as the newest. -/
def State.noting (s : State World) (e : Error) : State World :=
  { s with session := { s.session with lastError := some e.message } }

section

variable {D : Driver Address World} {c : ConnId} {sql : String} {st : Settings} {s : State World}
variable {p : Template.Prepared}

/-- A template that cannot be prepared leaves its error as the newest. -/
theorem run_of_rejected {e : Error} (hp : Template.prepare st sql = .error e) :
    run (Session.run D sql st) s = (.error e, s.noting e) := by
  unfold Session.run
  rw [hp]
  rfl

/-- So does one that there is no connection for. -/
theorem run_of_unconnected (hp : Template.prepare st sql = .ok p)
    (hc : s.session.connection = none) :
    run (Session.run D sql st) s = (.error .notConnected, s.noting .notConnected) := by
  unfold Session.run
  rw [hp]
  dsimp only
  rw [run_get_bind, hc]
  rfl

/-- A template that can be prepared is run on the connection. -/
theorem run_eq_runOn (hp : Template.prepare st sql = .ok p)
    (hc : s.session.connection = some c) :
    run (Session.run D sql st) s = run (runOn D c sql st p) s := by
  unfold Session.run
  rw [hp]
  dsimp only
  rw [run_get_bind, hc]

/-- A query is a template under the settings that its overrides make. -/
theorem run_query_of_override (sql : String) (o : Overrides) :
    run (Session.query D sql o) s =
      match (s.session.currentSettings s.defaults).override o with
      | .error e => (.error e, s)
      | .ok st => run (Session.run D sql st) s := by
  unfold Session.query
  rw [run_bind, run_effective]
  cases (s.session.currentSettings s.defaults).override o with
  | error e => rfl
  | ok st => rfl

/-- What is saved under a name is looked up when it is run. -/
theorem run_runSaved_of_saved (name : String) (o : Overrides) :
    run (Session.runSaved D name o) s =
      match s.session.savedQuery? name with
      | none => (.error (.notFound (.savedQuery name)), s)
      | some sql => run (Session.query D sql o) s := by
  unfold Session.runSaved
  rw [run_get_bind]
  cases s.session.savedQuery? name with
  | none => rfl
  | some sql => rfl

end

/-- What the caller of a statement learns from what came over the wire. -/
def told (st : Settings) : Except Error Reply → Except Error Output
  | .ok reply => .ok (shape st reply)
  | .error e => if st.throwErrors then .error e else .ok (.bool false)

/-- A template that can be prepared goes over the wire, and shows in the session in the log and in
the newest error alone. -/
theorem run_of_prepared {D : Driver Address World} {c : ConnId} {sql : String} {st : Settings}
    {s : State World} {p : Template.Prepared} (hp : Template.prepare st sql = .ok p)
    (hc : s.session.connection = some c) {answer : Except Error Reply} {w : Wire World}
    (hsent : performUnder D st.charset c p s.wire = (answer, w)) :
    (run (Session.run D sql st) s).1 = told st answer ∧
      Beside (s.onto w) (run (Session.run D sql st) s).2 ∧
      ∀ e, answer = .error e →
        (run (Session.run D sql st) s).2.session.lastError = some e.message := by
  rw [run_eq_runOn hp hc]
  unfold runOn openEntry pushEntry
  simp only [run_bind, run_tick, run_get, run_updateSession, run_pure, run_onWire]
  rw [hsent]
  cases answer with
  | ok reply =>
      simp only [run_amendEntry_bind, run_noteOverflow_bind, run_pure]
      exact ⟨rfl, ⟨rfl, rfl, rfl, rfl, rfl, rfl⟩, fun _ he => nomatch he⟩
  | error e =>
      have hnewest : ∀ e', (.error e : Except Error Reply) = .error e' →
          some e.message = some e'.message := by
        rintro e' he
        rw [Except.error.inj he]
      unfold told
      cases st.throwErrors with
      | true => exact ⟨rfl, ⟨rfl, rfl, rfl, rfl, rfl, rfl⟩, hnewest⟩
      | false => exact ⟨rfl, ⟨rfl, rfl, rfl, rfl, rfl, rfl⟩, hnewest⟩

/-- A query without overrides is the template under the settings in force. -/
theorem Command.run_query {D : Driver Address World} (sql : String) (s : State World) :
    Act.run (Command.run D (.query sql none)) s =
      ((Act.run (Session.run D sql (s.session.currentSettings s.defaults)) s).1.map .output,
        (Act.run (Session.run D sql (s.session.currentSettings s.defaults)) s).2) := by
  show Act.run (Session.run D sql (s.session.currentSettings s.defaults) >>= fun output =>
    Pure.pure (Answer.output output)) s = _
  rw [run_bind]
  rcases Act.run (Session.run D sql (s.session.currentSettings s.defaults)) s with ⟨_ | _, _⟩
  · rfl
  · rfl

/-- An error or the answer `false` is told only where nothing has come of the statement. -/
theorem barren_of_told {st : Settings} {answer : Except Error Reply}
    (h : told st answer = .ok (.bool false) ∨ ∃ e, told st answer = .error e) :
    Barren answer := by
  cases answer with
  | error e => trivial
  | ok reply =>
      rcases h with h | ⟨e, h⟩
      · cases reply with
        | rows set => exact (Output.ofRows_eq_bool_iff.mp (Except.ok.inj h)).2.1
        | done ok =>
            cases h
            rfl
      · cases h

/-- A template whose caller is told of an error or of `false` has left what the database of an
embedded connection holds. -/
theorem run_barren (hcareful : E.Careful) (hreturning : E.Returning) {c : ConnId}
    {s : State (Bench E)} {found : Option E.Contents} (hc : s.session.connection = some c)
    (h : s.wire.world.HasCandid c fun e => e.contents? = found) {sql : String} {st : Settings}
    (hfail : (run (Session.run Bench.driver sql st) s).1 = .ok (.bool false) ∨
      ∃ e, (run (Session.run Bench.driver sql st) s).1 = .error e) :
    (run (Session.run Bench.driver sql st) s).2.wire.world.HasCandid c fun e =>
      e.contents? = found := by
  cases hp : Template.prepare st sql with
  | error e =>
      rw [run_of_rejected hp]
      exact h
  | ok p =>
      obtain ⟨htold, hbeside, -⟩ := run_of_prepared hp hc (Prod.ext rfl rfl)
      have hended := Bench.ends_performUnder hcareful hreturning st.charset p s.wire h
      rw [htold] at hfail
      rw [hbeside.wire]
      exact hended.mono fun e he => he (barren_of_told hfail)

end SlotQuery
