import SlotQuery.Proofs.Session.Entry
import SlotQuery.Proofs.Session.FailedBatch
import SlotQuery.Proofs.Session.Unlogged

/-!
# What the operations of a session add to its log

`Added own s s'` says that from one state to another the log has got the entries `own` at its end,
each of them complete and consistent, that the trace has only grown, and that all settings have
stayed.

A statement and a script make one entry each, and `run_runOn` and `run_runBatch` say which.  A
template that is rejected makes none (`run_of_rejected`).  `Logged` says in addition that the new
entries are under settings that overrides make of those in force, as all settings of a query are.
Units of work add what their work adds (`Logged.transact`), since nothing is logged around it.
-/

namespace SlotQuery

open Act Session

variable {Address World α β : Type}

/-- Overrides make these settings of those of the session. -/
def State.InForce (s : State World) (st : Settings) : Prop :=
  ∃ changes, (s.session.currentSettings s.defaults).override changes = .ok st

/-- From the first state to the second the log has got some entries, and the settings have
stayed. -/
structure Added (own : List LogEntry) (s s' : State World) : Prop where
  log : s'.session.log = s.session.log ++ own
  consistent : ∀ e ∈ own, e.Consistent s'.wire.trace
  trace : s.wire.trace <+: s'.wire.trace
  settings : s'.session.settings = s.session.settings
  defaults : s'.defaults = s.defaults

namespace Added

variable {own own' : List LogEntry} {s s' s'' : State World}

/-- Two parts of a run add their entries one behind the other. -/
theorem trans (h : Added own s s') (h' : Added own' s' s'') : Added (own ++ own') s s'' where
  log := by rw [h'.log, h.log, List.append_assoc]
  consistent e he :=
    (List.mem_append.mp he).elim (fun he => (h.consistent e he).mono h'.trace) (h'.consistent e)
  trace := h.trace.trans h'.trace
  settings := h'.settings.trans h.settings
  defaults := h'.defaults.trans h.defaults

/-- Where nothing is logged, no entries are added. -/
theorem of_unlogged (h : Unlogged s s') : Added [] s s' where
  log := h.log.trans (List.append_nil _).symm
  consistent e he := absurd he List.not_mem_nil
  trace := by
    obtain ⟨more, htrace, -⟩ := h.trace
    exact ⟨more, htrace.symm⟩
  settings := h.settings
  defaults := h.defaults

/-- Nothing that is done around it without being logged changes what was added. -/
theorem framed (h : Added own s s') {before after : State World} (hbefore : Unlogged before s)
    (hafter : Unlogged s' after) : Added own before after := by
  have hwhole := ((of_unlogged hbefore).trans h).trans (of_unlogged hafter)
  rwa [List.nil_append, List.append_nil] at hwhole

end Added

/-- From the first state to the second the log has got some entries, all of them under settings that
are in force. -/
def Logged (s s' : State World) : Prop :=
  ∃ own, Added own s s' ∧ ∀ e ∈ own, s.InForce e.settings

namespace Logged

variable {s s' s'' : State World}

theorem of_unlogged (h : Unlogged s s') : Logged s s' :=
  ⟨[], .of_unlogged h, fun _ he => absurd he List.not_mem_nil⟩

/-- One entry under settings in force leaves the log in order. -/
theorem single {e : LogEntry} (h : Added [e] s s') (he : s.InForce e.settings) : Logged s s' := by
  refine ⟨[e], h, fun e' he' => ?_⟩
  rw [List.mem_singleton.mp he']
  exact he

theorem refl (s : State World) : Logged s s :=
  of_unlogged (.refl s)

/-- Two parts of a run that leave the log in order do so together. -/
theorem trans (h : Logged s s') (h' : Logged s' s'') : Logged s s'' := by
  obtain ⟨own, hadded, hown⟩ := h
  obtain ⟨own', hadded', hown'⟩ := h'
  refine ⟨own ++ own', hadded.trans hadded', fun e he => ?_⟩
  rcases List.mem_append.mp he with he | he
  · exact hown e he
  · have hforce := hown' e he
    rwa [State.InForce, Session.currentSettings, hadded.settings, hadded.defaults] at hforce

end Logged

theorem modify_length_append (l : List α) (a : α) (f : α → α) :
    (l ++ [a]).modify l.length f = l ++ [f a] := by
  simp [List.modify_eq_set_getElem?]

/-- The state after a statement, with its entry. -/
def State.logging (s : State World) (w : Wire World) (e : LogEntry) : State World :=
  { s.ticked.onto w with session := { s.session with log := s.session.log ++ [e] } }

/-- The state in which the answer to a statement is known: its error is the newest, if it is one,
and otherwise its ids have been reckoned from what the connection shows. -/
def State.heard (D : Driver Address World) (c : ConnId) (statement : String) (s : State World) :
    Except Error Reply → State World
  | .ok _ =>
    s.reckoned
      (answeredBeyond statement (D.affected c s.wire.world) (D.lastInsertId c s.wire.world))
  | .error e => s.noting e

section

variable {D : Driver Address World} {c : ConnId} {s : State World}

/-- A statement adds its entry. -/
theorem added_logging {w : Wire World} {e : LogEntry} (he : e.Consistent w.trace)
    (htrace : s.wire.trace <+: w.trace) : Added [e] s (s.logging w e) where
  log := rfl
  consistent e' he' := by
    rw [List.mem_singleton.mp he']
    exact he
  trace := htrace
  settings := rfl
  defaults := rfl

/-- The entry that was added may be changed, if it stays consistent. -/
theorem Added.amend {e : LogEntry} {s' : State World} (h : Added [e] s s')
    {f : LogEntry → LogEntry} (he : (f e).Consistent s'.wire.trace) :
    Added [f e] s (run (amendEntry s.session.log.length f) s').2 where
  log := by
    show s'.session.log.modify _ f = _
    rw [h.log, modify_length_append]
  consistent e' he' := by
    rw [List.mem_singleton.mp he']
    exact he
  trace := h.trace
  settings := h.settings
  defaults := h.defaults

/-- An entry is opened at the end of the log, before anything is sent. -/
theorem run_openEntry (query statement : String) (st : Settings) (params : List Param) :
    run (openEntry D c query statement st params) s =
      (.ok s.session.log.length, s.logging s.wire
        (.opening (s.clock 0) query statement (D.database c s.wire.world) st params)) :=
  rfl

/-- The entry of a running statement is the newest. -/
theorem run_amendEntry (w : Wire World) (e : LogEntry) (f : LogEntry → LogEntry) :
    run (amendEntry s.session.log.length f) (s.logging w e) = (.ok (), s.logging w (f e)) := by
  unfold amendEntry State.logging
  rw [run_updateSession, modify_length_append]

/-- Hearing the answer logs nothing further. -/
theorem State.unlogged_heard (statement : String) (s : State World) (answer : Except Error Reply) :
    Unlogged s (s.heard D c statement answer) := by
  cases answer with
  | ok reply => exact .unseen rfl rfl rfl rfl
  | error e => exact .unseen rfl rfl rfl rfl

/-- What a statement on a connection comes to: what its caller is told, its entry, and the newest
error if it failed. -/
theorem run_runOn_eq (sql : String) (st : Settings) (p : Template.Prepared)
    {answer : Except Error Reply} {w : Wire World}
    (hsent : performUnder D st.charset c p s.wire = (answer, w)) :
    run (runOn D c sql st p) s =
      (told st answer,
        (s.logging w ((LogEntry.opening (s.clock 0) sql p.sql
          (D.database c s.wire.world) st p.params).concluded (D.affected c w.world)
            (D.lastInsertId c w.world) answer)).heard D c p.sql answer) := by
  have hwire : performUnder D st.charset c p (s.logging s.wire (.opening (s.clock 0) sql p.sql
      (D.database c s.wire.world) st p.params)).wire = (answer, w) := hsent
  unfold runOn told
  rw [run_bind_of_ok (run_openEntry ..), run_onWire_bind, run_get_bind, hwire]
  cases answer with
  | ok reply =>
      dsimp only
      exact (run_bind_of_ok (run_amendEntry ..)).trans (run_noteOverflow_bind ..)
  | error e =>
      dsimp only
      cases st.throwErrors with
      | true => exact run_bind_of_ok (run_amendEntry ..)
      | false => exact run_bind_of_ok (run_amendEntry ..)

/-- The ids of a statement are reckoned where it is answered. -/
theorem overflowed_runOn (sql : String) (st : Settings) (p : Template.Prepared) {reply : Reply}
    {w : Wire World} (hsent : performUnder D st.charset c p s.wire = (.ok reply, w)) :
    (run (runOn D c sql st p) s).2.overflowed =
      (s.overflowed || answeredBeyond p.sql (D.affected c w.world) (D.lastInsertId c w.world)) := by
  rw [run_runOn_eq sql st p hsent]
  rfl

/-- A statement comes to what it is told and its entry, with nothing logged behind. -/
theorem run_runOn (sql : String) (st : Settings) (p : Template.Prepared)
    {answer : Except Error Reply} {w : Wire World}
    (hsent : performUnder D st.charset c p s.wire = (answer, w)) :
    ∃ logged, run (runOn D c sql st p) s = (told st answer, logged) ∧
      Unlogged (s.logging w ((LogEntry.opening (s.clock 0) sql p.sql
        (D.database c s.wire.world) st p.params).concluded (D.affected c w.world)
          (D.lastInsertId c w.world) answer)) logged :=
  ⟨_, run_runOn_eq sql st p hsent, State.unlogged_heard ..⟩

/-- A script comes to its answer and its entry. -/
theorem run_runBatch (hc : s.session.connection = some c) (script : String) (st : Settings)
    {answer : Except DriverError Unit} {w : Wire World}
    (hsent : performBatch D st.charset c (Template.condense st.delimiters script) s.wire =
      (answer, w)) :
    run (runBatch D script st) s =
      (answer.mapError .queryFailed,
        s.logging w ((LogEntry.opening (s.clock 0) script (Template.condense st.delimiters script)
          (D.database c s.wire.world) st []).counted
            (answer.map fun _ => D.affected c w.world))) := by
  have hwire : performBatch D st.charset c (Template.condense st.delimiters script)
      (s.logging s.wire (.opening (s.clock 0) script (Template.condense st.delimiters script)
        (D.database c s.wire.world) st [])).wire = (answer, w) := hsent
  unfold runBatch
  dsimp only
  rw [run_connected_bind hc, run_bind_of_ok (run_openEntry ..), run_onWire_bind, run_get_bind,
    hwire]
  cases answer with
  | ok _ => exact run_amendEntry ..
  | error e => exact run_bind_of_ok (run_amendEntry ..)

/-- A statement makes one entry, which is completed by its answer. -/
theorem runOn_adds (sql : String) (st : Settings) (p : Template.Prepared)
    {answer : Except Error Reply} {w : Wire World}
    (hsent : performUnder D st.charset c p s.wire = (answer, w)) :
    Added [(LogEntry.opening (s.clock 0) sql p.sql (D.database c s.wire.world) st
        p.params).concluded (D.affected c w.world) (D.lastInsertId c w.world) answer] s
      (run (runOn D c sql st p) s).2 := by
  have hemits : Driver.Emits c (fun _ => True) (performUnder D st.charset c p) :=
    D.emits_performUnder (fun _ _ => trivial) _ _
  have hgrown := hemits.grows s.wire
  rw [hsent] at hgrown
  rw [run_runOn_eq sql st p hsent]
  exact (added_logging (LogEntry.consistent_concluded ..) hgrown).framed (.refl s)
    (State.unlogged_heard ..)

theorem runOn_added (sql : String) (st : Settings) (p : Template.Prepared) :
    ∃ e, Added [e] s (run (runOn D c sql st p) s).2 ∧ e.settings = st :=
  ⟨_, runOn_adds sql st p rfl, LogEntry.settings_concluded ..⟩

/-- A template that is sent makes one entry. -/
theorem run_added (hc : s.session.connection = some c) {sql : String} {st : Settings}
    {p : Template.Prepared} (hp : Template.prepare st sql = .ok p) :
    ∃ e, Added [e] s (run (Session.run D sql st) s).2 ∧ e.settings = st := by
  rw [run_eq_runOn hp hc]
  exact runOn_added sql st p

theorem Unlogged.inForce {s' : State World} (h : Unlogged s s') {st : Settings}
    (hst : s.InForce st) : s'.InForce st := by
  rwa [State.InForce, Session.currentSettings, h.settings, h.defaults]

namespace Logged

/-- A template is logged under the settings that it is run with. -/
theorem run {st : Settings} (hst : s.InForce st) (sql : String) :
    Logged s (Act.run (Session.run D sql st) s).2 := by
  cases hp : Template.prepare st sql with
  | error e =>
      rw [run_of_rejected hp]
      exact .of_unlogged (.unseen rfl rfl rfl rfl)
  | ok p =>
      cases hc : s.session.connection with
      | some c =>
          obtain ⟨e, hadded, he⟩ := run_added (D := D) hc hp
          exact .single hadded (he ▸ hst)
      | none =>
          rw [run_of_unconnected hp hc]
          exact .of_unlogged (.unseen rfl rfl rfl rfl)

/-- A script is logged under the settings that it is run with. -/
theorem runBatch {st : Settings} (hst : s.InForce st) (script : String) :
    Logged s (Act.run (Session.runBatch D script st) s).2 := by
  cases hc : s.session.connection with
  | none =>
      have hgone : Act.run (Session.runBatch D script st) s = (.error .notConnected, s) :=
        run_bind_of_error (run_connected_of_none hc)
      rw [hgone]
      exact .refl s
  | some c =>
      have hemits : Driver.Emits c (fun _ => True) (performBatch D st.charset c
          (Template.condense st.delimiters script)) :=
        D.emits_performBatch (fun _ _ => trivial) _ _
      rw [run_runBatch hc script st (Prod.ext rfl rfl)]
      exact .single (added_logging (LogEntry.consistent_counted _) (hemits.grows s.wire))
        ((LogEntry.settings_counted ..).symm ▸ hst)

/-- A query leaves the log in order. -/
theorem query (sql : String) (changes : Overrides) :
    Logged s (Act.run (Session.query D sql changes) s).2 := by
  rw [run_query_of_override]
  cases hset : (s.session.currentSettings s.defaults).override changes with
  | error e => exact .refl s
  | ok st => exact .run ⟨changes, hset⟩ sql

theorem runSaved (name : String) (changes : Overrides) :
    Logged s (Act.run (Session.runSaved D name changes) s).2 := by
  rw [run_runSaved_of_saved]
  cases s.session.savedQuery? name with
  | none => exact .refl s
  | some sql => exact .query sql changes

/-- A unit adds what its work adds. -/
theorem transact {work : Act World α}
    (hwork : ∀ s', Unlogged s s' → Logged s' (Act.run work s').2) (propagate : Bool) :
    Logged s (Act.run (Session.transact D propagate work) s).2 := by
  cases framing D propagate work s with
  | unstarted _ h => exact .of_unlogged h
  | started _ _ hbefore hafter _ =>
      exact ((of_unlogged hbefore).trans (hwork _ hbefore)).trans (of_unlogged hafter)

theorem runFile (file : ScriptFile) : Logged s (Act.run (Session.runFile D file) s).2 := by
  unfold Session.runFile
  cases file.contents with
  | none => exact .refl s
  | some bytes =>
      dsimp only
      cases Text.decode? bytes with
      | none => exact .refl s
      | some script =>
          have hactive : s.InForce (s.session.currentSettings s.defaults) := ⟨.none, rfl⟩
          dsimp only
          rw [run_bind_of_ok (run_activeSettings s), run_bind_pure_snd]
          exact .transact (fun s' h => .runBatch (h.inForce hactive) script) _

end Logged

end

end SlotQuery
