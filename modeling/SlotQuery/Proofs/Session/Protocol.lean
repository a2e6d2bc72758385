import SlotQuery.Proofs.Driver.Conversed
import SlotQuery.Proofs.Session.Logged

/-!
# What running a template does

Running a template comes to one of three things (`Ran`).  The template is rejected, or there is no
connection to send it on: then an error is raised and kept as the newest, and nothing else happens.
Or it is sent: the driver is asked for what its statement needs and for nothing else (`Conversed`),
one entry is made, and the caller is told of the reply or of the first refusal.

Whether errors are raised is up to the settings, and it makes no other difference (`Indifferent`):
the same is asked of the driver, the same error becomes the newest, and the entry is the same but
for the settings in it.

`run_protocol` says both of every driver, every session, every template and all settings.
-/

namespace SlotQuery

open Act Session

variable {Address World : Type}

/-- The entry of a template that was sent from a state, with the outcome. -/
def sentEntry (D : Driver Address World) (c : ConnId) (sql : String) (st : Settings)
    (p : Template.Prepared) (s : State World) (answer : Except Error Reply) (w : Wire World) :
    LogEntry :=
  (LogEntry.opening (s.clock 0) sql p.sql (D.database c s.wire.world) st p.params).concluded
    (D.affected c w.world) (D.lastInsertId c w.world) answer

/-- The entry holds the template and what became of it, its parameters and the settings. -/
structure LogEntry.Holds (e : LogEntry) (sql : String) (p : Template.Prepared) (st : Settings) :
    Prop where
  query : e.query = sql
  statement : e.statement = p.sql
  params : e.params = p.params
  settings : e.settings = st

/-- What running a template comes to, and the state after it. -/
inductive Ran (D : Driver Address World) (sql : String) (st : Settings) (s : State World) :
    Except Error Output × State World → Prop
  | rejected {e : Error} (hp : Template.prepare st sql = .error e) :
    Ran D sql st s (.error e, s.noting e)
  | unconnected {p : Template.Prepared} (hp : Template.prepare st sql = .ok p)
    (hc : s.session.connection = none) :
    Ran D sql st s (.error .notConnected, s.noting .notConnected)
  | sent {p : Template.Prepared} {c : ConnId} {granted : List Request}
    {outcome : Except (Request × DriverError) Reply} {w : Wire World}
    (hp : Template.prepare st sql = .ok p) (hc : s.session.connection = some c)
    (hconversed : Conversed D c st.charset p s.wire granted outcome w)
    (hentry : (sentEntry D c sql st p s (blamed outcome) w).Holds sql p st) :
    Ran D sql st s (told st (blamed outcome),
      (s.logging w (sentEntry D c sql st p s (blamed outcome) w)).heard D c p.sql (blamed outcome))

/-- The settings with errors raised, or not. -/
def Settings.raising (st : Settings) (raised : Bool) : Settings :=
  { st with throwErrors := raised }

/-- A result whose error is not raised. -/
def hushed : Except Error Output → Except Error Output
  | .ok output => .ok output
  | .error _ => .ok (.bool false)

/-- Whether errors are raised shows in the result and in the settings of the new entry, and nowhere
else.  Where no entry is made, it does not even show there. -/
inductive Indifferent (D : Driver Address World) (sql : String) (st : Settings) (s : State World) :
    Prop
  | unsent {ended : Except Error Output × State World}
    (hraised : run (Session.run D sql (st.raising true)) s = ended)
    (hlog : ended.2.session.log = s.session.log)
    (hquiet : run (Session.run D sql (st.raising false)) s = ended)
  | sent {result : Except Error Output} {s' : State World} {e : LogEntry}
    (hraised : run (Session.run D sql (st.raising true)) s = (result, s'))
    (hlog : s'.session.log = s.session.log ++ [e])
    (hquiet : run (Session.run D sql (st.raising false)) s =
      (hushed result, { s' with session := { s'.session with
        log := s.session.log ++ [{ e with settings := st.raising false }] } }))

section

variable {D : Driver Address World} {sql : String} {st : Settings} {s : State World}
variable {p : Template.Prepared} {c : ConnId}

/-- The entry of a request holds its statement, its parameters and its settings. -/
theorem sentEntry_holds (answer : Except Error Reply) (w : Wire World) :
    (sentEntry D c sql st p s answer w).Holds sql p st := by
  obtain ⟨hstatement, hparams⟩ := LogEntry.fields_concluded
    (.opening (s.clock 0) sql p.sql (D.database c s.wire.world) st p.params)
    (D.affected c w.world) (D.lastInsertId c w.world) answer
  exact ⟨LogEntry.query_concluded .., hstatement, hparams, LogEntry.settings_concluded ..⟩

/-- A template that can be prepared, with a connection to send it on. -/
theorem run_of_connected (hp : Template.prepare st sql = .ok p)
    (hc : s.session.connection = some c) {answer : Except Error Reply} {w : Wire World}
    (hsent : performUnder D st.charset c p s.wire = (answer, w)) :
    run (Session.run D sql st) s =
      (told st answer,
        (s.logging w (sentEntry D c sql st p s answer w)).heard D c p.sql answer) := by
  rw [run_eq_runOn hp hc]
  exact run_runOn_eq sql st p hsent

/-- Running a statement on its own follows the protocol. -/
theorem ran : Ran D sql st s (run (Session.run D sql st) s) := by
  cases hp : Template.prepare st sql with
  | error e =>
      rw [run_of_rejected hp]
      exact .rejected hp
  | ok p =>
      cases hc : s.session.connection with
      | none =>
          rw [run_of_unconnected hp hc]
          exact .unconnected hp hc
      | some c =>
          obtain ⟨granted, outcome, hconversed, hanswer⟩ :=
            conversed_performUnder (D := D) (c := c) st.charset p s.wire
          rw [run_of_connected hp hc (Prod.ext hanswer rfl)]
          exact .sent hp hc hconversed (sentEntry_holds _ _)

/-- Raising errors or not does not change how a reply is shaped. -/
theorem shape_raising (st : Settings) (raised : Bool) (reply : Reply) :
    shape (st.raising raised) reply = shape st reply := by
  cases reply with
  | rows set => rfl
  | done ok => rfl

/-- The settings in an entry do not matter for its completion. -/
theorem sentEntry_raising (raised : Bool) (answer : Except Error Reply) (w : Wire World) :
    sentEntry D c sql (st.raising raised) p s answer w =
      { sentEntry D c sql st p s answer w with settings := st.raising raised } := by
  unfold sentEntry
  cases answer with
  | error e => rfl
  | ok reply =>
      unfold LogEntry.concluded answered
      dsimp only [LogEntry.opening]
      rw [shape_raising]
      split
      · rfl
      · rfl

/-- What is told without raising is what is told with it, its errors hushed. -/
theorem told_raising (answer : Except Error Reply) :
    told (st.raising false) answer = hushed (told (st.raising true) answer) := by
  cases answer with
  | error e => rfl
  | ok reply =>
      exact congrArg Except.ok ((shape_raising st false reply).trans
        (shape_raising st true reply).symm)

/-- Hearing an answer leaves the new entry at the end of the log. -/
theorem log_heard (answer : Except Error Reply) (w : Wire World) (e : LogEntry) :
    ((s.logging w e).heard D c p.sql answer).session.log = s.session.log ++ [e] := by
  cases answer with
  | ok reply => rfl
  | error error => rfl

/-- The newest error does not depend on the entry. -/
theorem heard_logging (answer : Except Error Reply) (w : Wire World) (e e' : LogEntry) :
    (s.logging w e).heard D c p.sql answer =
      { (s.logging w e').heard D c p.sql answer with session :=
        { ((s.logging w e').heard D c p.sql answer).session with
          log := s.session.log ++ [e] } } := by
  cases answer with
  | ok reply => rfl
  | error error => rfl

/-- Raising errors or not changes nothing but what is told. -/
theorem indifferent : Indifferent D sql st s := by
  -- Preparing a template and sending its statement look at other settings only.
  have hprepare : ∀ raised, Template.prepare (st.raising raised) sql = Template.prepare st sql :=
    fun _ => rfl
  cases hp : Template.prepare st sql with
  | error e =>
      have hrun : ∀ raised, run (Session.run D sql (st.raising raised)) s =
          (.error e, s.noting e) := fun raised => run_of_rejected ((hprepare raised).trans hp)
      exact .unsent (hrun true) rfl (hrun false)
  | ok p =>
      cases hc : s.session.connection with
      | none =>
          have hrun : ∀ raised, run (Session.run D sql (st.raising raised)) s =
              (.error .notConnected, s.noting .notConnected) :=
            fun raised => run_of_unconnected ((hprepare raised).trans hp) hc
          exact .unsent (hrun true) rfl (hrun false)
      | some c =>
          rcases hsent : performUnder D st.charset c p s.wire with ⟨answer, w⟩
          have hrun : ∀ raised, run (Session.run D sql (st.raising raised)) s =
              (told (st.raising raised) answer, (s.logging w
                (sentEntry D c sql (st.raising raised) p s answer w)).heard D c p.sql answer) :=
            fun raised => run_of_connected ((hprepare raised).trans hp) hc hsent
          refine .sent (hrun true) (log_heard ..) ?_
          rw [hrun false, told_raising, sentEntry_raising true, sentEntry_raising false]
          exact Prod.ext rfl (heard_logging answer w _ _)

end

/-- Running a template asks the driver for what its statement needs and for nothing else, and makes
one entry; a template that is rejected or has no connection only becomes the newest error.  Whether
errors are raised makes no difference to any of this. -/
theorem run_protocol (D : Driver Address World) (sql : String) (st : Settings) (s : State World) :
    Ran D sql st s (run (Session.run D sql st) s) ∧ Indifferent D sql st s :=
  ⟨ran, indifferent⟩

end SlotQuery
