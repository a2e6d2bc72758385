import SlotQuery.Proofs.Session.Expressible
import SlotQuery.Proofs.Text.Search

/-!
# How an outermost unit ends

An outermost unit that started ends in one of seven ways, and which one it is depends on what its
work came to, whether the work settled the unit, whether the session still has a connection, and
what the driver answers to the few requests that come after the work.  `Verdict` lists them, with
what is written after the work and what the unit comes to; `exists_verdict` says that these are all,
whatever the work has done.

What matters of them is read off the list once: when the unit comes to a value (`Verdict.ok_iff`)
and what it then has written (`Verdict.closing_of_ok`), when a commit is granted
(`Verdict.granted_commit_iff`), and what happens on failure (`Verdict.rollback_or_flag`).
`Expressible.verdict` puts the verdict together with what the work itself has written.
-/

namespace SlotQuery

open Act Session

variable {Address World α β : Type}

/-- A request was made on some connection and accepted. -/
def Granted (r : Request) (t : List Event) : Prop :=
  ∃ d, [.sent d r, .accepted] <:+: t

/-- Past what starts with a request, no grant goes over the boundary. -/
theorem granted_append {r : Request} {t u : List Event} (hu : u.head? ≠ some .accepted) :
    Granted r (t ++ u) ↔ Granted r t ∨ Granted r u := by
  unfold Granted
  rw [← exists_or]
  refine exists_congr fun d => ?_
  rw [Text.pair_infix_append]
  constructor
  · rintro (h | h | ⟨-, h⟩)
    · exact .inl h
    · exact .inr h
    · exact absurd h hu
  · rintro (h | h)
    · exact .inl h
    · exact .inr (.inl h)

/-- A granted request was sent. -/
theorem Granted.exists_sent {r : Request} {t : List Event} (h : Granted r t) :
    ∃ d, .sent d r ∈ t := by
  obtain ⟨d, hd⟩ := h
  exact ⟨d, hd.subset (.head _)⟩

@[simp] theorem sent_mem_call {c d : ConnId} {q r : Request} {answer : Except DriverError α} :
    .sent d r ∈ Driver.call c q answer ↔ d = c ∧ r = q := by
  cases answer <;> simp [Driver.call, Driver.ending]

/-- How an outermost unit ends that started.  Its work left the session on a connection or on none,
came to something and settled the unit or not; then the unit comes to something, and writes what it
writes to end the transaction and to give the flag back. -/
inductive Verdict (prior : Bool) (left : Option ConnId) :
    Except Error α × Bool → Except Error α → List Event → Prop
  | settled {d : ConnId} (hd : left = some d) (a : α) (back : Except DriverError Unit) :
      Verdict prior left (.ok a, true) (restored back (.ok a))
        (Driver.call d (.autocommit prior) back)
  | committed {d : ConnId} (hd : left = some d) (a : α) (back : Except DriverError Unit) :
      Verdict prior left (.ok a, false) (restored back (.ok a))
        ([.sent d .commit, .accepted] ++ Driver.call d (.autocommit prior) back)
  | refused {d : ConnId} (hd : left = some d) (a : α) (e : DriverError)
      (answer back : Except DriverError Unit) :
      Verdict prior left (.ok a, false) (.error (.queryFailed e))
        ([.sent d .commit, .refused e] ++ Driver.call d .rollback answer ++
          Driver.call d (.autocommit prior) back)
  | failed {d : ConnId} (hd : left = some d) (e : Error) (settled : Bool)
      (answer back : Except DriverError Unit) :
      Verdict prior left (.error e, settled) (.error e)
        (Driver.call d .rollback answer ++ Driver.call d (.autocommit prior) back)
  | settledAdrift (hd : left = none) (a : α) : Verdict prior left (.ok a, true) (.ok a) []
  | unsettledAdrift (hd : left = none) (a : α) :
      Verdict prior left (.ok a, false) (.error .notConnected) []
  | failedAdrift (hd : left = none) (e : Error) (settled : Bool) :
      Verdict prior left (.error e, settled) (.error e) []

section

variable {D : Driver Address World} {c d : ConnId} {s : State World} {work : Act World α}

/-- A failure is not changed by how the flag is given back. -/
theorem restored_error (back : Except DriverError Unit) (e : Error) :
    restored back (.error e : Except Error α) = .error e := by
  cases back with
  | ok _ => rfl
  | error e => rfl

/-- A success stays one exactly if the flag is given back. -/
theorem restored_ok_iff {back : Except DriverError Unit} {a v : α} :
    restored back (.ok a : Except Error α) = .ok v ↔ back = .ok () ∧ a = v := by
  cases back with
  | ok _ => simp [restored]
  | error e => simp [restored]

/-- A unit gives its flag back after its transaction has ended. -/
theorem run_restore_after {r : Except Error α} {w : Wire World} {a : Act World (Except Error α)}
    (ha : run a s = (.ok r, s.onto w)) (hd : s.session.connection = some d) (prior : Bool) :
    ∃ back, (run (a >>= restore D prior) s).1 = .ok (restored back r) ∧
      (run (a >>= restore D prior) s).2.wire.trace =
        w.trace ++ Driver.call d (.autocommit prior) back := by
  rcases hback : D.send d (.autocommit prior) w with ⟨back, w'⟩
  have hback' : D.send d (.autocommit prior) (s.onto w).wire = (back, w') := hback
  rw [run_bind_of_ok ha, run_restore D (s := s.onto w) hd, hback']
  exact ⟨back, rfl, trace_send _ hback⟩

/-- Without a connection, a unit ends without a word. -/
theorem run_conclude_adrift (hd : s.session.connection = none) (prior : Bool)
    (outcome : Except Error α × Bool) :
    ∃ result, run (conclude D outcome >>= restore D prior) s = (.ok result, s) ∧
      Verdict prior s.session.connection outcome result [] := by
  have hback : ∀ r : Except Error α, run (restore D prior r) s = (.ok r, s) := by
    intro r
    unfold restore
    rw [run_get_bind, hd]
    rfl
  rcases outcome with ⟨e | a, settled⟩
  · have hquiet : run (rollbackQuietly D) s = (.ok (), s) := by
      unfold rollbackQuietly
      rw [run_get_bind, hd]
      rfl
    have hended : run (conclude D ((.error e, settled) : Except Error α × Bool)) s =
        (.ok (.error e), s) := by
      unfold conclude
      rw [run_bind_of_ok hquiet]
      rfl
    refine ⟨.error e, ?_, .failedAdrift hd e settled⟩
    rw [run_bind_of_ok hended, hback]
  · cases settled with
    | true =>
        refine ⟨.ok a, ?_, .settledAdrift hd a⟩
        rw [run_bind_of_ok (run_conclude_settled D a), hback]
    | false =>
        have hgone : run (commitOrRollback D) s = (.error .notConnected, s) :=
          run_bind_of_error (run_connected_of_none hd)
        have hended : run (conclude D (.ok a, false)) s = (.ok (.error .notConnected), s) := by
          unfold conclude
          rw [run_observe_bind, hgone]
          rfl
        refine ⟨.error .notConnected, ?_, .unsettledAdrift hd a⟩
        rw [run_bind_of_ok hended, hback]

/-- However the work left things, the unit ends in one of the ways listed. -/
theorem exists_verdict (prior : Bool) (outcome : Except Error α × Bool) (s : State World) :
    ∃ result closing, (run (conclude D outcome >>= restore D prior) s).1 = .ok result ∧
      (run (conclude D outcome >>= restore D prior) s).2.wire.trace = s.wire.trace ++ closing ∧
      Verdict prior s.session.connection outcome result closing := by
  cases hd : s.session.connection with
  | none =>
      obtain ⟨result, hrun, hverdict⟩ := run_conclude_adrift (D := D) hd prior outcome
      rw [hrun, ← hd]
      exact ⟨result, [], rfl, (List.append_nil _).symm, hverdict⟩
  | some d =>
      rcases outcome with ⟨e | a, settled⟩
      · rcases hroll : D.send d .rollback s.wire with ⟨answer, w⟩
        have hended : run (conclude D ((.error e, settled) : Except Error α × Bool)) s =
            (.ok (.error e), s.onto w) := by
          rw [run_conclude_failed D hd, hroll]
        obtain ⟨back, htold, htrace⟩ := run_restore_after (D := D) hended hd prior
        rw [restored_error] at htold
        refine ⟨_, _, htold, ?_, .failed rfl e settled answer back⟩
        rw [htrace, trace_send _ hroll, List.append_assoc]
      · cases settled with
        | true =>
            obtain ⟨back, htold, htrace⟩ :=
              run_restore_after (D := D) (w := s.wire) (run_conclude_settled D a) hd prior
            exact ⟨_, _, htold, htrace, .settled rfl a back⟩
        | false =>
            rcases hcommit : D.send d .commit s.wire with ⟨e | _, w⟩
            · rcases hroll : D.send d .rollback w with ⟨answer, w'⟩
              have hended := run_conclude_refused D hd hcommit a
              rw [hroll] at hended
              obtain ⟨back, htold, htrace⟩ := run_restore_after (D := D) hended hd prior
              rw [restored_error] at htold
              refine ⟨_, _, htold, ?_, .refused rfl a e answer back⟩
              rw [htrace, trace_send _ hroll, trace_send _ hcommit]
              simp only [Driver.call, Driver.ending, List.append_assoc]
            · have hended := run_conclude_committed D hd hcommit a
              obtain ⟨back, htold, htrace⟩ := run_restore_after (D := D) hended hd prior
              refine ⟨_, _, htold, ?_, .committed rfl a back⟩
              rw [htrace, trace_send _ hcommit, List.append_assoc]
              rfl

end

namespace Verdict

variable {prior : Bool} {left : Option ConnId} {outcome : Except Error α × Bool}
variable {result : Except Error α} {closing : List Event}

/-- A unit comes to a value exactly if its work did, nothing that it asked for afterwards was
refused, and it did not have to do without a connection. -/
theorem ok_iff (h : Verdict prior left outcome result closing) {v : α} :
    result = .ok v ↔ outcome.1 = .ok v ∧ (∀ e, .refused e ∉ closing) ∧
      (outcome.2 = true ∨ left ≠ none) := by
  cases h with
  | settled hd a back =>
      rw [restored_ok_iff]
      cases back <;> simp [Driver.call, Driver.ending]
  | committed hd a back =>
      rw [restored_ok_iff]
      cases back <;> simp [Driver.call, Driver.ending, hd]
  | refused hd a e answer back =>
      refine iff_of_false (by simp) fun h => h.2.1 e ?_
      simp
  | failed hd e settled answer back => simp
  | settledAdrift hd a => simp
  | unsettledAdrift hd a => simp [hd]
  | failedAdrift hd e settled => simp

/-- What a unit writes after its work when it comes to a value: nothing but the flag if the work
settled it, and a commit that is granted if the work did not. -/
theorem closing_of_ok {v : α} (h : Verdict prior left outcome (.ok v) closing) :
    (outcome.2 = true ∧ (closing = [] ∨
        ∃ d, left = some d ∧ closing = [.sent d (.autocommit prior), .accepted])) ∨
      (outcome.2 = false ∧ ∃ d, left = some d ∧
        closing = [.sent d .commit, .accepted, .sent d (.autocommit prior), .accepted]) := by
  generalize hresult : Except.ok v = result at h
  cases h with
  | settled hd a back =>
      obtain ⟨rfl, rfl⟩ := restored_ok_iff.mp hresult.symm
      exact .inl ⟨rfl, .inr ⟨_, hd, rfl⟩⟩
  | committed hd a back =>
      obtain ⟨rfl, rfl⟩ := restored_ok_iff.mp hresult.symm
      exact .inr ⟨rfl, _, hd, rfl⟩
  | settledAdrift hd a => exact .inl ⟨rfl, .inl rfl⟩
  | refused | failed | unsettledAdrift | failedAdrift => cases hresult

/-- When a unit that its work settled comes to a value, it asks for nothing but the flag. -/
theorem only_flag {v : α} (h : Verdict prior left outcome (.ok v) closing)
    (hsettled : outcome.2 = true) {d : ConnId} {r : Request} (hsent : .sent d r ∈ closing) :
    r = .autocommit prior := by
  rcases h.closing_of_ok with ⟨-, rfl | ⟨d', -, rfl⟩⟩ | ⟨hunsettled, -⟩
  · cases hsent
  · simp only [List.mem_cons, Event.sent.injEq, reduceCtorEq, List.not_mem_nil, or_false] at hsent
    exact hsent.2
  · rw [hsettled] at hunsettled
    cases hunsettled

/-- What comes after the work starts with a request, if with anything. -/
theorem head?_closing (h : Verdict prior left outcome result closing) :
    closing.head? ≠ some .accepted := by
  cases h <;> simp [Driver.call]

/-- After the work a commit is granted in one case only. -/
theorem granted_commit_iff (h : Verdict prior left outcome result closing) :
    Granted .commit closing ↔ ∃ d a back, left = some d ∧ outcome = (.ok a, false) ∧
      result = restored back (.ok a) ∧
      closing = [.sent d .commit, .accepted] ++ Driver.call d (.autocommit prior) back := by
  constructor
  · intro hgranted
    cases h with
    | committed hd a back => exact ⟨_, a, back, hd, rfl, rfl, rfl⟩
    | refused hd a e answer back =>
        obtain ⟨d', hd'⟩ := hgranted
        cases answer <;> cases back <;>
          simp [Driver.call, Driver.ending, List.infix_cons_iff, List.cons_prefix_cons] at hd'
    | settled | failed | settledAdrift | unsettledAdrift | failedAdrift =>
        obtain ⟨d', hd'⟩ := hgranted.exists_sent
        simp at hd'
  · rintro ⟨d, a, back, -, -, -, rfl⟩
    exact ⟨d, (List.prefix_append _ _).isInfix⟩

/-- A unit that comes to no value has rolled back, or its flag was not given back, unless there was
no connection left. -/
theorem rollback_or_flag {d : ConnId} (h : Verdict prior left outcome result closing)
    (hfailed : ∀ v, result ≠ .ok v) (hd : left = some d) :
    .sent d .rollback ∈ closing ∨ ∃ e, [.sent d (.autocommit prior), .refused e] <:+ closing := by
  subst hd
  cases h with
  | settled hd a back =>
      obtain rfl := Option.some.inj hd
      cases back with
      | ok _ => exact absurd rfl (hfailed a)
      | error e => exact .inr ⟨e, List.suffix_rfl⟩
  | committed hd a back =>
      obtain rfl := Option.some.inj hd
      cases back with
      | ok _ => exact absurd rfl (hfailed a)
      | error e => exact .inr ⟨e, List.suffix_append _ _⟩
  | refused hd a e answer back =>
      obtain rfl := Option.some.inj hd
      exact .inl (by simp)
  | failed hd e settled answer back =>
      obtain rfl := Option.some.inj hd
      exact .inl (by simp)
  | settledAdrift hd | unsettledAdrift hd | failedAdrift hd => cases hd

end Verdict

/-- A value is reported when the result is one. -/
theorem reported_eq_some_iff {propagate : Bool} {result : Except Error α} {v : α} :
    reported propagate (.ok result) = .ok (some v) ↔ result = .ok v := by
  rcases result with e | a
  · cases propagate <;> simp [reported]
  · simp [reported]

section

variable {D : Driver Address World} {c : ConnId} {s : State World} {work : Act World α}

/-- An outermost unit that does not start says so, and asks for nothing but the flag and a
transaction. -/
theorem transact_of_not_starts (hout : s.session.inTransaction = false)
    (hnot : ∀ c, s.session.connection = some c → ¬ s.Starts D c) (work : Act World α)
    (propagate : Bool) :
    ∃ e t, (run (transact D propagate work) s).1 = .error e ∧
      (run (transact D propagate work) s).2.wire.trace = s.wire.trace ++ t ∧
      ∀ d r, .sent d r ∈ t → r = .begin ∨ ∃ on, r = .autocommit on := by
  rw [run_transact, (recorded_beside _ _).1, unitBody_outermost D hout]
  cases hc : s.session.connection with
  | none =>
      have hgone : run (outermost D work) s = (.error .notConnected, s) :=
        run_bind_of_error (run_connected_of_none hc)
      rw [hgone]
      refine ⟨.notConnected, [], rfl, (List.append_nil _).symm, fun d r hsent => ?_⟩
      cases hsent
  | some c =>
      rcases hflag : D.send c (.autocommit false) s.wire with ⟨e | _, w⟩
      · rw [run_outermost_of_flag_refused D hc hflag]
        refine ⟨.queryFailed e, _, rfl, trace_send _ hflag, fun d r hsent => ?_⟩
        exact .inr ⟨false, (sent_mem_call.mp hsent).2⟩
      rcases hbegin : D.send c .begin w with ⟨e | _, w'⟩
      · rw [run_outermost_of_begin_refused D hc hflag hbegin]
        rcases hback : D.send c (.autocommit (D.autocommit c s.wire.world)) w' with ⟨answer, w''⟩
        refine ⟨.queryFailed e,
          Driver.call c (.autocommit false) (.ok () : Except DriverError Unit) ++
          Driver.call c .begin (.error e : Except DriverError Unit) ++
          Driver.call c (.autocommit (D.autocommit c s.wire.world)) answer, rfl, ?_, ?_⟩
        · show w''.trace = _
          rw [trace_send _ hback, trace_send _ hbegin, trace_send _ hflag]
          simp only [List.append_assoc]
        · intro d r hsent
          simp only [List.mem_append, sent_mem_call] at hsent
          rcases hsent with (⟨-, rfl⟩ | ⟨-, rfl⟩) | ⟨-, rfl⟩
          · exact .inr ⟨_, rfl⟩
          · exact .inl rfl
          · exact .inr ⟨_, rfl⟩
      · refine absurd ?_ (hnot c hc)
        rw [State.Starts, hout]
        exact ⟨w, w', hflag, hbegin⟩

/-- What the work of an outermost unit writes, and what the unit writes after it. -/
structure Course (D : Driver Address World) (c : ConnId) (s : State World) (work : Act World α)
    (propagate : Bool) (own closing : List Event) : Prop where
  within : (run work (s.starting D c)).2.wire.trace = (s.starting D c).wire.trace ++ own
  whole : (run (transact D propagate work) s).2.wire.trace =
    s.wire.trace ++ (s.opening c ++ own ++ closing)

/-- An outermost unit of expressible work that starts takes its course and ends in one of the ways
listed. -/
theorem Expressible.verdict (hwork : Expressible D work) (hc : s.session.connection = some c)
    (hout : s.session.inTransaction = false) (hstart : s.Starts D c) (propagate : Bool) :
    ∃ own closing result, Course D c s work propagate own closing ∧
      (run (transact D propagate work) s).1 = reported propagate (.ok result) ∧
      Verdict (D.autocommit c s.wire.world) (run work (s.starting D c)).2.session.connection
        ((run work (s.starting D c)).1, (run work (s.starting D c)).2.settled) result closing ∧
      (.sent c .close ∈ own ∨ Attached c ⟨none, s.session.scopes, (s.starting D c).wire.trace⟩
        (run work (s.starting D c)).2 own) := by
  obtain ⟨own, hown, haccount⟩ := hwork.outermost_account hc hout
  obtain ⟨w, w', hflag, hbegin, hstarting⟩ := hstart.exists_begun hout
  have hopened : (s.starting D c).wire.trace = s.wire.trace ++ s.opening c := by
    rw [hstarting, State.opening, hout]
    show w'.trace = _
    rw [trace_send _ hbegin, trace_send _ hflag, List.append_assoc]
    rfl
  rcases hrun : run work (s.starting D c) with ⟨r, s'⟩
  rw [hrun] at hown haccount
  have hrun' := hrun
  rw [hstarting] at hrun'
  have hended := run_outermost_of_begun D hc hflag hbegin work hrun'
  obtain ⟨result, closing, hresult, htrace, hverdict⟩ := exists_verdict (D := D)
    (D.autocommit c s.wire.world) (r, s'.settled) s'.leaving
  rw [← hended] at hresult htrace
  refine ⟨own, closing, result, ⟨?_, ?_⟩, ?_, hverdict, haccount⟩
  · rw [hrun]
    exact hown
  · rw [run_transact, (recorded_beside _ _).1, unitBody_outermost D hout, htrace]
    show s'.wire.trace ++ closing = _
    rw [hown, hopened]
    simp only [List.append_assoc]
  · rw [run_transact, unitBody_outermost D hout, hresult]

end

end SlotQuery
