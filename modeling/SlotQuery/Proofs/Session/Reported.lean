import SlotQuery.Proofs.Session.Verdict

/-!
# What the caller of an outermost unit may rely on

The caller of an outermost unit is told that it succeeded, with a value, or that it failed.  Three
questions about this answer are settled here, for whatever a unit of work can do and whatever the
driver answers.

* Does a success mean that the transaction ended?  `success_of_outermost`: a unit is a success
  exactly if its work is one and nothing that is asked for after the work is refused.  If the work
  did not settle the unit, a commit was granted.  If it did, then nothing is asked for any more, and
  whether the transaction ended depends on whether the work had it ended.
* Does a failure mean that nothing was committed?  `failure_of_outermost`: unless the work itself
  had a commit granted, there is one exception, in which the commit is granted and then the flag
  cannot be given back.
* Does a success mean that the connection held?  `interruption_of_outermost`: exactly if nothing
  within the work closed it or opened it again.  A unit inside that fails on a dead connection opens
  it again, and the outermost unit learns of this no more than of any other failure inside.
-/

namespace SlotQuery

open Act Session

variable {Address World α : Type}

/-- The transaction was asked to end, one way or the other, and did. -/
def EndGranted (t : List Event) : Prop :=
  Granted .commit t ∨ Granted .rollback t

/-- Everything concerns the connection, which was neither closed nor opened again. -/
def Uninterrupted (c : ConnId) (t : List Event) : Prop :=
  ∀ e ∈ t, e.Concerns c ∧ e ≠ .sent c .reconnect ∧ e ≠ .sent c .close

/-- A unit inside another fails, and the connection is found dead. -/
structure LostInside (D : Driver Address World) (c : ConnId) (inner : Act World α)
    (s s' : State World) (e : Error) : Prop where
  connection : s.session.connection = some c
  inside : s.session.inTransaction = true
  starts : s.Starts D c
  failed : run inner (s.starting D c) = (.error e, s')
  kept : s'.session.connection = some c
  dead : (D.isAlive c s'.wire).1 = false

section

variable {D : Driver Address World} {c : ConnId} {s : State World} {work : Act World α}

/-- Before its work an outermost unit has neither a commit nor a rollback granted. -/
theorem granted_opening (hout : s.session.inTransaction = false) {r : Request}
    (hr : r = .commit ∨ r = .rollback) {t : List Event} :
    Granted r (s.opening c ++ t) ↔ Granted r t := by
  rw [State.opening, hout]
  rcases hr with rfl | rfl <;> simp [Granted, List.infix_cons_iff, List.cons_prefix_cons]

/-- A commit or rollback is granted within a course by its work or by its closing. -/
theorem granted_course (hout : s.session.inTransaction = false) {r : Request}
    (hr : r = .commit ∨ r = .rollback) {own closing : List Event}
    (hclosing : closing.head? ≠ some .accepted) :
    Granted r (s.opening c ++ own ++ closing) ↔ Granted r own ∨ Granted r closing := by
  rw [List.append_assoc, granted_opening hout hr, granted_append hclosing]

/-- The transaction of a success is granted an end after the work if the work left that to the unit,
and otherwise only within the work. -/
theorem endGranted_iff {prior : Bool} {left : Option ConnId} {outcome : Except Error α × Bool}
    {v : α} {own closing : List Event} (h : Verdict prior left outcome (.ok v) closing)
    (hout : s.session.inTransaction = false) :
    EndGranted (s.opening c ++ own ++ closing) ↔ (outcome.2 = true → EndGranted own) := by
  unfold EndGranted
  rw [granted_course hout (.inl rfl) h.head?_closing,
    granted_course hout (.inr rfl) h.head?_closing]
  cases hsettled : outcome.2 with
  | true =>
      have hflag : ∀ {r : Request}, r ≠ .autocommit prior → ¬ Granted r closing := by
        intro r hr hgranted
        obtain ⟨d, hd⟩ := hgranted.exists_sent
        exact hr (h.only_flag hsettled hd)
      have hcommit := hflag (r := .commit) (by simp)
      have hrollback := hflag (r := .rollback) (by simp)
      simp [hcommit, hrollback]
  | false =>
      rcases h.closing_of_ok with ⟨hsettled', -⟩ | ⟨-, d, -, rfl⟩
      · rw [hsettled] at hsettled'
        cases hsettled'
      · have hgranted : Granted .commit
            [.sent d .commit, .accepted, .sent d (.autocommit prior), .accepted] :=
          ⟨d, (List.prefix_append [Event.sent d .commit, .accepted] _).isInfix⟩
        simp [hgranted]

/-- A unit is told to have succeeded exactly if its work did and nothing that was asked for after
the work was refused; what was refused within the work does not count.  If the work did not settle
the unit, a commit was granted on the connection that the work left.  If it did, it asked the
connection that it started on for a commit or a rollback, or to close; nothing but the flag comes
after; and the transaction was granted an end only if the work had it granted. -/
theorem success_of_outermost (hwork : Expressible D work)
    (hout : s.session.inTransaction = false) (propagate : Bool) :
    let told := (run (transact D propagate work) s).1
    ((∀ c, s.session.connection = some c → ¬ s.Starts D c) → ∃ e, told = .error e) ∧
      ∀ c, s.session.connection = some c → s.Starts D c →
        let left := (run work (s.starting D c)).2
        let prior := D.autocommit c s.wire.world
        ∃ own closing, Course D c s work propagate own closing ∧
          ∀ v, (told = .ok (some v) ↔ (run work (s.starting D c)).1 = .ok v ∧
              (∀ e, .refused e ∉ closing) ∧
              (left.settled = true ∨ left.session.connection ≠ none)) ∧
            (told = .ok (some v) →
              (left.settled = false → ∃ d, left.session.connection = some d ∧
                closing = [.sent d .commit, .accepted, .sent d (.autocommit prior), .accepted]) ∧
              (left.settled = true →
                (.sent c .commit ∈ own ∨ .sent c .rollback ∈ own ∨ .sent c .close ∈ own) ∧
                ∀ d r, .sent d r ∈ closing → r = .autocommit prior) ∧
              (EndGranted (s.opening c ++ own ++ closing) ↔
                (left.settled = true → EndGranted own))) := by
  intro told
  refine ⟨fun hnot => ?_, fun c hc hstart => ?_⟩
  · obtain ⟨e, t, htold, -⟩ := transact_of_not_starts hout hnot work propagate
    exact ⟨e, htold⟩
  intro left prior
  obtain ⟨own, closing, result, hcourse, htold, hverdict, haccount⟩ :=
    hwork.verdict hc hout hstart propagate
  have htold' : told = reported propagate (.ok result) := htold
  refine ⟨own, closing, hcourse, fun v => ⟨?_, fun hv => ?_⟩⟩
  · rw [htold', reported_eq_some_iff]
    exact hverdict.ok_iff
  rw [htold', reported_eq_some_iff] at hv
  rw [hv] at hverdict
  refine ⟨fun hunsettled => ?_, fun hsettled => ⟨?_, fun d r => hverdict.only_flag hsettled⟩,
    endGranted_iff hverdict hout⟩
  · rcases hverdict.closing_of_ok with ⟨hsettled, -⟩ | ⟨-, d, hd, hclosing⟩
    · rw [hunsettled] at hsettled
      cases hsettled
    · exact ⟨d, hd, hclosing⟩
  · rcases haccount with hclose | hattached
    · exact .inr (.inr hclose)
    · exact (hattached.asked rfl hsettled).imp_right .inl

end

/-- The answer to a request that is granted without further ado. -/
def Driver.granted : (r : Request) → r.Answer
  | .query _ | .fetch => .done true
  | .isAlive => true
  | .load _ => 0
  | .charset _ | .prepare _ | .bind _ | .execute | .closeStatement | .batch _ | .begin | .commit
  | .rollback | .autocommit _ | .reconnect | .close => ()

/-- A driver that refuses one request wherever it is made, and grants all others. -/
def Driver.denying (denied : Request) (e : DriverError) : Driver Unit Unit where
  dial _ w := (0, w)
  hangUp w := w
  respond _ r w := (if r = denied then .error e else .ok (granted r), w)
  capabilities _ _ := .all
  database _ _ := ""
  autocommit _ _ := true
  lastInsertId _ _ := 0
  affected _ _ := 0
  loads _ _ := true

/-- The work asks for a commit, is refused, and goes on: a success, and the transaction is left
open. -/
theorem success_of_outermost_of_caught_refusal :
    let D := Driver.denying .commit ⟨1213, "deadlock"⟩
    let work : Act Unit (Except Error Answer) := observe (Command.run D .commit)
    let s : State Unit :=
      { wire := ⟨(), []⟩
        session := { Session.new with connection := some 0 }
        defaults := .builtin
        clock := id
        reports := [] }
    Expressible D work ∧ s.session.connection = some 0 ∧ s.session.inTransaction = false ∧
      s.Starts D 0 ∧
      (run (transact D true work) s).1 =
        .ok (some (.error (.queryFailed ⟨1213, "deadlock"⟩))) ∧
      ∃ own closing, Course D 0 s work true own closing ∧
        ¬ EndGranted (s.opening 0 ++ own ++ closing) := by
  intro D work s
  have hwork : Expressible D work := .caught (.command .commit)
  have hstart : s.Starts D 0 := ⟨_, _, rfl, rfl⟩
  have htold : (run (transact D true work) s).1 =
      .ok (some (.error (.queryFailed ⟨1213, "deadlock"⟩))) := rfl
  have hleft : (run work (s.starting D 0)).2.wire.trace =
      (s.starting D 0).wire.trace ++ [.sent 0 .commit, .refused ⟨1213, "deadlock"⟩] := rfl
  obtain ⟨-, hstarted⟩ := success_of_outermost hwork rfl true (s := s)
  obtain ⟨own, closing, hcourse, htell⟩ := hstarted 0 rfl hstart
  obtain ⟨-, -, hend⟩ := (htell _).2 htold
  have hown : own = [.sent 0 .commit, .refused ⟨1213, "deadlock"⟩] :=
    List.append_cancel_left (hcourse.within.symm.trans hleft)
  refine ⟨hwork, rfl, rfl, hstart, htold, own, closing, hcourse, fun hgranted => ?_⟩
  have hwithin := hend.mp hgranted rfl
  rw [hown] at hwithin
  rcases hwithin with ⟨d, hd⟩ | ⟨d, hd⟩
  · simp [List.infix_cons_iff, List.cons_prefix_cons] at hd
  · simp [List.infix_cons_iff, List.cons_prefix_cons] at hd

section

variable {D : Driver Address World} {c : ConnId} {s : State World} {work : Act World α}

/-- A unit that is told to have failed had a commit granted in two cases only.  One is that its work
had.  The other is that the work succeeded and left it to the unit to commit, this was granted, and
then the flag could not be given back; the caller is told of that.  In all other cases the unit has
rolled back or could not give the flag back, unless there was no connection left. -/
theorem failure_of_outermost (hwork : Expressible D work)
    (hout : s.session.inTransaction = false) {propagate : Bool}
    (hfailed : ∀ v, (run (transact D propagate work) s).1 ≠ .ok (some v)) :
    let told := (run (transact D propagate work) s).1
    ((∀ c, s.session.connection = some c → ¬ s.Starts D c) →
        ∃ t, (run (transact D propagate work) s).2.wire.trace = s.wire.trace ++ t ∧
          ∀ d, .sent d .commit ∉ t) ∧
      ∀ c, s.session.connection = some c → s.Starts D c →
        let left := (run work (s.starting D c)).2
        let prior := D.autocommit c s.wire.world
        ∃ own closing, Course D c s work propagate own closing ∧
          (Granted .commit (s.opening c ++ own ++ closing) ↔ Granted .commit own ∨
            ∃ v d e, (run work (s.starting D c)).1 = .ok v ∧ left.settled = false ∧
              left.session.connection = some d ∧
              closing = [.sent d .commit, .accepted, .sent d (.autocommit prior), .refused e] ∧
              told = if propagate then .error (.queryFailed e) else .ok none) ∧
          ∀ d, left.session.connection = some d → .sent d .rollback ∈ closing ∨
            ∃ e, [.sent d (.autocommit prior), .refused e] <:+ closing := by
  intro told
  refine ⟨fun hnot => ?_, fun c hc hstart => ?_⟩
  · obtain ⟨e, t, -, htrace, honly⟩ := transact_of_not_starts hout hnot work propagate
    refine ⟨t, htrace, fun d hsent => ?_⟩
    rcases honly d _ hsent with h | ⟨flag, h⟩ <;> cases h
  intro left prior
  obtain ⟨own, closing, result, hcourse, htold, hverdict, -⟩ :=
    hwork.verdict hc hout hstart propagate
  have hnone : ∀ v, result ≠ .ok v := by
    rintro v rfl
    exact hfailed v htold
  refine ⟨own, closing, hcourse, ?_, fun d hd => hverdict.rollback_or_flag hnone hd⟩
  rw [granted_course hout (.inl rfl) hverdict.head?_closing]
  refine or_congr_right ⟨fun hgranted => ?_, ?_⟩
  · obtain ⟨d, a, back, hd, houtcome, hresult, hclosing⟩ := hverdict.granted_commit_iff.mp hgranted
    obtain ⟨ha, hunsettled⟩ := Prod.mk.inj houtcome
    cases back with
    | ok _ => exact absurd hresult (hnone a)
    | error e =>
        refine ⟨a, d, e, ha, hunsettled, hd, hclosing, ?_⟩
        rw [hresult] at htold
        exact htold
  · rintro ⟨v, d, e, -, -, -, hclosing, -⟩
    rw [hclosing]
    exact ⟨d, (List.prefix_append [Event.sent d .commit, .accepted] _).isInfix⟩

end

/-- The flag cannot be given back: the caller is told of a failure, and the commit was granted. -/
theorem failure_of_outermost_of_refused_flag :
    let D := Driver.denying (.autocommit true) ⟨2006, "server has gone away"⟩
    let work : Act Unit Unit := pure ()
    let s : State Unit :=
      { wire := ⟨(), []⟩
        session := { Session.new with connection := some 0 }
        defaults := .builtin
        clock := id
        reports := [] }
    Expressible D work ∧ s.session.connection = some 0 ∧ s.session.inTransaction = false ∧
      (run (transact D false work) s).1 = .ok none ∧
      ∃ own closing, Course D 0 s work false own closing ∧ ¬ Granted .commit own ∧
        Granted .commit (s.opening 0 ++ own ++ closing) := by
  intro D work s
  have hwork : Expressible D work := (Orderly.pure ()).expressible
  have hstart : s.Starts D 0 := ⟨_, _, rfl, rfl⟩
  have htold : (run (transact D false work) s).1 = .ok none := rfl
  have hfailed : ∀ v, (run (transact D false work) s).1 ≠ .ok (some v) := by
    intro v hv
    rw [htold] at hv
    cases hv
  have hwhole : (run (transact D false work) s).2.wire.trace = s.wire.trace ++ (s.opening 0 ++ [] ++
      [.sent 0 .commit, .accepted, .sent 0 (.autocommit true),
        .refused ⟨2006, "server has gone away"⟩]) := rfl
  obtain ⟨-, hstarted⟩ := failure_of_outermost hwork rfl hfailed
  obtain ⟨own, closing, hcourse, hgranted, -⟩ := hstarted 0 rfl hstart
  have hown : own = [] := List.append_cancel_left (hcourse.within.symm.trans rfl)
  subst hown
  have hclosing := List.append_cancel_left
    (List.append_cancel_left (hcourse.whole.symm.trans hwhole))
  refine ⟨hwork, rfl, rfl, htold, [], closing, hcourse, ?_, hgranted.mpr (.inr ?_)⟩
  · rintro ⟨d, hd⟩
    simp at hd
  · exact ⟨(), 0, ⟨2006, "server has gone away"⟩, rfl, rfl, rfl, hclosing, rfl⟩

section

variable {β : Type} {D : Driver Address World} {c : ConnId} {s s' : State World}
variable {work : Act World α} {inner : Act World β}

/-- A unit inside another that fails on a dead connection has it opened again before it goes back
to its savepoint, and its caller learns of the failure alone. -/
theorem LostInside.reopened {e : Error} (h : LostInside D c inner s s' e) (raised : Bool) :
    (run (transact D raised inner) s).1 = (if raised then .error e else .ok none) ∧
      ∃ (answer : Except DriverError Unit) (back : Except DriverError Reply),
        (run (transact D raised inner) s).2.wire.trace = s'.wire.trace ++ ([.alive c false] ++
          Driver.call c .reconnect answer ++
          Driver.call c (.query (rollbackToStatement s.nextSavepoint)) back) := by
  have hasked : (D.isAlive c s'.wire).2.trace = s'.wire.trace ++ [.alive c false] := by
    rw [← h.dead]
    rfl
  rcases hopened : D.send c .reconnect (D.isAlive c s'.wire).2 with ⟨answer, w⟩
  have hrevived : revived D c s'.wire = w := by
    rw [revived, h.dead, hopened]
    rfl
  rcases hundo : D.send c (.query (rollbackToStatement s.nextSavepoint)) w with ⟨back, w'⟩
  obtain ⟨htold, hwire⟩ := transact_of_failed_inside h.connection h.inside h.starts h.failed h.kept
    (hrevived.symm ▸ hundo) raised
  refine ⟨htold, answer, back, ?_⟩
  rw [hwire, trace_send _ hundo, trace_send _ hopened, hasked]
  simp only [List.append_assoc]

/-- A success on a connection that was neither closed nor opened again within the work keeps to
that connection from the first request to the last. -/
theorem uninterrupted_iff {prior : Bool} {outcome : Except Error α × Bool} {v : α}
    {own closing start : List Event} {outer : List Scope}
    (h : Verdict prior s'.session.connection outcome (.ok v) closing)
    (hout : s.session.inTransaction = false)
    (haccount : .sent c .close ∈ own ∨ Attached c ⟨none, outer, start⟩ s' own) :
    Uninterrupted c (s.opening c ++ own ++ closing) ↔
      .sent c .reconnect ∉ own ∧ .sent c .close ∉ own := by
  have hwithin : ∀ e ∈ own, e ∈ s.opening c ++ own ++ closing :=
    fun e he => List.mem_append_left _ (List.mem_append_right _ he)
  constructor
  · intro hheld
    exact ⟨fun hmem => (hheld _ (hwithin _ hmem)).2.1 rfl,
      fun hmem => (hheld _ (hwithin _ hmem)).2.2 rfl⟩
  · rintro ⟨hopened, hclosed⟩ e he
    have hattached := haccount.resolve_left hclosed
    rcases List.mem_append.mp he with he | he
    · rcases List.mem_append.mp he with he | he
      · rw [State.opening, hout] at he
        simp only [Bool.false_eq_true, if_false, List.mem_cons, List.not_mem_nil, or_false] at he
        rcases he with rfl | rfl | rfl | rfl <;> simp [Event.Concerns]
      · refine ⟨hattached.concerns e he, ?_, ?_⟩
        · rintro rfl
          exact hopened he
        · rintro rfl
          exact hclosed he
    · rcases h.closing_of_ok with ⟨-, rfl | ⟨d, hd, rfl⟩⟩ | ⟨-, d, hd, rfl⟩
      · cases he
      all_goals
        obtain rfl : c = d := Option.some.inj (hattached.connection.symm.trans hd)
        simp only [List.mem_cons, List.not_mem_nil, or_false] at he
      · rcases he with rfl | rfl <;> simp [Event.Concerns]
      · rcases he with rfl | rfl | rfl | rfl <;> simp [Event.Concerns]

/-- Whether a connection held is not asked when a unit ends.  If the work succeeded, the session has
a connection, and nothing is refused that is asked for after the work, then the unit is told to have
succeeded, whatever became of the connection within the work.  So a success kept to one connection
exactly if the work neither closed it nor had it opened again.  A unit inside that fails on a dead
connection has it opened again; if it does not raise its error, the outermost unit learns nothing of
that, and if it does and the error is not caught further out, the outermost unit is a failure. -/
theorem interruption_of_outermost (hwork : Expressible D work)
    (hc : s.session.connection = some c) (hout : s.session.inTransaction = false)
    (hstart : s.Starts D c) (propagate : Bool) :
    let start := s.starting D c
    let left := (run work start).2
    let told := (run (transact D propagate work) s).1
    ∃ own closing, Course D c s work propagate own closing ∧
      (∀ v, (run work start).1 = .ok v → left.session.connection ≠ none →
        (∀ e, .refused e ∉ closing) → told = .ok (some v)) ∧
      (∀ v, told = .ok (some v) → (Uninterrupted c (s.opening c ++ own ++ closing) ↔
        .sent c .reconnect ∉ own ∧ .sent c .close ∉ own)) ∧
      ∀ {β : Type} {inner : Act World β} {s₁ s₂ : State World} {e : Error},
        LostInside D c inner s₁ s₂ e → ∀ raised,
          let ended := run (transact D raised inner) s₁
          ended.1 = (if raised then .error e else .ok none) ∧
            (start.wire.trace <+: s₂.wire.trace → ended.2.wire.trace <+: left.wire.trace →
              .sent c .reconnect ∈ own) ∧
            (raised = true → Exposed D c start work s₁ (transact D raised inner) →
              told = if propagate then .error e else .ok none) := by
  intro start left told
  obtain ⟨own, closing, result, hcourse, htold, hverdict, haccount⟩ :=
    hwork.verdict hc hout hstart propagate
  refine ⟨own, closing, hcourse, fun v hv hconn hgranted => ?_, fun v hv => ?_,
    fun {_ inner s₁ s₂ e} hlost raised => ⟨(hlost.reopened raised).1, fun hbefore hafter => ?_,
      fun hraised hpart => ?_⟩⟩
  · have hresult := hverdict.ok_iff.mpr ⟨hv, hgranted, .inr hconn⟩
    rw [hresult] at htold
    exact htold
  · have hresult := reported_eq_some_iff.mp (htold.symm.trans hv)
    rw [hresult] at hverdict
    exact uninterrupted_iff hverdict hout haccount
  · obtain ⟨-, answer, back, htrace⟩ := hlost.reopened raised
    obtain ⟨before, hbefore⟩ := hbefore
    obtain ⟨after, hafter⟩ := hafter
    have hall : start.wire.trace ++ own = start.wire.trace ++ (before ++ ([.alive c false] ++
        Driver.call c .reconnect answer ++
        Driver.call c (.query (rollbackToStatement s₁.nextSavepoint)) back) ++ after) := by
      rw [← hcourse.within, ← List.append_assoc, ← List.append_assoc, hbefore, ← htrace]
      exact hafter.symm
    rw [List.append_cancel_left hall]
    simp [Driver.call]
  · have hinner := (hlost.reopened raised).1
    rw [if_pos hraised] at hinner
    have hfailed := hpart.error hinner
    show (run (transact D propagate work) s).1 = _
    rw [run_transact, unitBody_error hc hstart hfailed]
    rfl

end

/-- A unit inside fails without raising its error, on a connection that does not answer any more:
the connection is opened again, and the outermost unit is a success. -/
theorem interruption_of_outermost_of_lost_inside :
    let D := Driver.denying .isAlive ⟨2006, "server has gone away"⟩
    let inner : Act Unit Answer := Command.run D (.fail (.other "stop"))
    let work : Act Unit (Option Answer) := transact D false inner
    let s : State Unit :=
      { wire := ⟨(), []⟩
        session := { Session.new with connection := some 0 }
        defaults := .builtin
        clock := id
        reports := [] }
    let start := s.starting D 0
    Expressible D work ∧ s.session.connection = some 0 ∧ s.session.inTransaction = false ∧
      s.Starts D 0 ∧ LostInside D 0 inner start (start.starting D 0) (.other "stop") ∧
      (run (transact D true work) s).1 = .ok (some none) ∧
      ∃ own closing, Course D 0 s work true own closing ∧ .sent 0 .reconnect ∈ own ∧
        ¬ Uninterrupted 0 (s.opening 0 ++ own ++ closing) := by
  intro D inner work s start
  have hwork : Expressible D work := .unit false (.command (.fail (.other "stop")))
  have hstart : s.Starts D 0 := ⟨_, _, rfl, rfl⟩
  have hlost : LostInside D 0 inner start (start.starting D 0) (.other "stop") :=
    ⟨rfl, rfl, ⟨_, _, rfl⟩, rfl, rfl, rfl⟩
  have htold : (run (transact D true work) s).1 = .ok (some none) := rfl
  obtain ⟨own, closing, hcourse, -, hheld, hlosing⟩ :=
    interruption_of_outermost (c := 0) hwork rfl rfl hstart true (s := s)
  have hopened := (hlosing hlost false).2.1 ⟨_, rfl⟩ (List.prefix_rfl)
  refine ⟨hwork, rfl, rfl, hstart, hlost, htold, own, closing, hcourse, hopened, fun h => ?_⟩
  exact ((hheld none htold).mp h).1 hopened

end SlotQuery
