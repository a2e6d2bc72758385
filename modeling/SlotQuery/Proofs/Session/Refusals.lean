import SlotQuery.Proofs.Session.Loading

/-!
# Results and the refusals behind them

A driver refuses requests, and a session makes something of that.  `Refusal t e` says that on the
trace `t` a request was refused with the error `e`; that a statement is closed does not count, since
nothing can come of it.

A result `Reflects` what was written to the wire if it is a value exactly where nothing was refused,
and carries the error of a refusal otherwise.  This goes for what a statement, a script and a staged
file come to, and it is kept along a row of requests.  So it goes for what a unit of such work comes
to (`transact_reflects`), except for one that does not start, whose error is raised at once.
-/

namespace SlotQuery

open Act Session

variable {Address World α β : Type}

/-- A request was refused with the error, and it was not the one to close a statement. -/
def Refusal (t : List Event) (e : DriverError) : Prop :=
  ∃ d r, r ≠ .closeStatement ∧ [.sent d r, .refused e] <:+: t

/-- A refusal in a part of a trace is a refusal in the whole. -/
theorem Refusal.mono {t u : List Event} {e : DriverError} (h : Refusal t e) (htu : t <:+: u) :
    Refusal u e := by
  obtain ⟨d, r, hr, hpair⟩ := h
  exact ⟨d, r, hr, hpair.trans htu⟩

/-- Past what starts with no refusal, none goes over the boundary. -/
theorem refusal_append {t u : List Event} {e : DriverError}
    (hu : ∀ e, u.head? ≠ some (.refused e)) :
    Refusal (t ++ u) e ↔ Refusal t e ∨ Refusal u e := by
  constructor
  · rintro ⟨d, r, hr, hpair⟩
    rcases Text.pair_infix_append.mp hpair with h | h | ⟨-, h⟩
    · exact .inl ⟨d, r, hr, h⟩
    · exact .inr ⟨d, r, hr, h⟩
    · exact absurd h (hu e)
  · rintro (h | h)
    · exact h.mono (List.prefix_append _ _).isInfix
    · exact h.mono (List.suffix_append _ _).isInfix

/-- A call is refused by the error of its answer, a closed statement aside. -/
theorem refusal_call {c : ConnId} {r : Request} {answer : Except DriverError α} {e : DriverError} :
    Refusal (Driver.call c r answer) e ↔ r ≠ .closeStatement ∧ answer = .error e := by
  constructor
  · rintro ⟨d, r', hr, hpair⟩
    obtain ⟨hsent, hended⟩ := List.cons.inj (hpair.eq_of_length rfl)
    obtain ⟨rfl, rfl⟩ := Event.sent.inj hsent
    refine ⟨hr, ?_⟩
    cases answer with
    | ok a => cases hended
    | error e' => cases hended; rfl
  · rintro ⟨hr, rfl⟩
    exact ⟨c, r, hr, List.infix_rfl⟩

/-- A value was come to and nothing was refused, or an error that carries that of a refusal. -/
structure Reflects (result : Except Error α) (own : List Event) : Prop where
  opens : ∀ e, own.head? ≠ some (.refused e)
  value : ∀ a, result = .ok a → ∀ e, ¬ Refusal own e
  error : ∀ error, result = .error error → ∃ e, error.driver? = some e ∧ Refusal own e

/-- A trace whose parts open without a refusal opens without one. -/
theorem head?_append {t u : List Event} (ht : ∀ e, t.head? ≠ some (.refused e))
    (hu : ∀ e, u.head? ≠ some (.refused e)) (e : DriverError) :
    (t ++ u).head? ≠ some (.refused e) := by
  cases t with
  | nil => exact hu e
  | cons x t => exact ht e

namespace Reflects

variable {result : Except Error α} {t u : List Event} {a : α}

/-- A value at once reflects an empty trace. -/
theorem nil (a : α) : Reflects (.ok a) [] where
  opens _ h := nomatch h
  value _ _ _ h := by
    obtain ⟨d, r, -, hpair⟩ := h
    cases List.eq_nil_of_infix_nil hpair
  error _ h := nomatch h

/-- What comes after a value decides. -/
theorem append {b : β} (h : Reflects (.ok b) t) (h' : Reflects result u) :
    Reflects result (t ++ u) where
  opens := head?_append h.opens h'.opens
  value a ha e hrefused := by
    rcases (refusal_append h'.opens).mp hrefused with hfirst | hlater
    · exact h.value b rfl e hfirst
    · exact h'.value a ha e hlater
  error err herr := by
    obtain ⟨e, he, hrefused⟩ := h'.error err herr
    exact ⟨e, he, hrefused.mono (List.suffix_append _ _).isInfix⟩

/-- Nothing that comes after an error changes it. -/
theorem ignored {error : Error} (h : Reflects (.error error : Except Error α) t) (u : List Event) :
    Reflects (.error error : Except Error β) (t ++ u) where
  opens e := by
    obtain ⟨_, _, _, _, _, hpair⟩ := h.error error rfl
    have ht : t ≠ [] := fun hnil => by
      rw [hnil] at hpair
      cases List.eq_nil_of_infix_nil hpair
    rw [List.head?_append_of_ne_nil _ ht]
    exact h.opens e
  value _ ha := nomatch ha
  error err herr := by
    obtain rfl := Except.error.inj herr
    obtain ⟨e, he, hrefused⟩ := h.error error rfl
    exact ⟨e, he, hrefused.mono (List.prefix_append _ _).isInfix⟩

/-- A request that was made and accepted. -/
theorem accepted (c : ConnId) (r : Request) (a : α) :
    Reflects (.ok a) [.sent c r, .accepted] where
  opens _ h := nomatch h
  value _ _ e h := by
    have hcall : Refusal (Driver.call c r (.ok () : Except DriverError Unit)) e := h
    cases (refusal_call.mp hcall).2
  error _ h := nomatch h

/-- A request that was made and refused. -/
theorem refused {c : ConnId} {r : Request} (hr : r ≠ .closeStatement) {error : Error}
    {e : DriverError} (he : error.driver? = some e) :
    Reflects (.error error : Except Error α) [.sent c r, .refused e] where
  opens _ h := nomatch h
  value _ h := nomatch h
  error err herr := by
    obtain rfl := Except.error.inj herr
    exact ⟨e, he, c, r, hr, List.infix_rfl⟩

/-- A request whose answer is all that is come to. -/
theorem call {c : ConnId} {r : Request} (hr : r ≠ .closeStatement) {f : DriverError → Error}
    (hf : ∀ e, (f e).driver? = some e) (answer : Except DriverError α) :
    Reflects (answer.mapError f) (Driver.call c r answer) := by
  cases answer with
  | ok a => exact accepted c r a
  | error e => exact refused hr (hf e)

/-- How a statement is closed does not matter. -/
theorem closed (h : Reflects result t) (c : ConnId) (answer : Except DriverError Unit) :
    Reflects result (t ++ Driver.call c .closeStatement answer) := by
  cases result with
  | error error => exact h.ignored _
  | ok a =>
      refine h.append (u := Driver.call c .closeStatement answer) ?_
      refine ⟨fun _ h => (nomatch h), fun _ _ e hrefused => ?_, fun _ h => (nomatch h)⟩
      exact absurd rfl (refusal_call.mp hrefused).1

/-- A function of the value changes nothing about what is reflected. -/
theorem map (f : α → β) (h : Reflects result t) : Reflects (result.map f) t := by
  cases result with
  | ok a => exact ⟨h.opens, fun _ _ => h.value a rfl, fun _ herr => nomatch herr⟩
  | error e =>
      refine ⟨h.opens, fun _ ha => (nomatch ha), fun err herr => ?_⟩
      obtain rfl := Except.error.inj herr
      exact h.error e rfl

end Reflects

/-- The handling of a statement reflects its calls. -/
theorem Handled.reflects {c : ConnId} {params : List Param} {answer : Except DriverError Reply}
    {own : List Event} (h : Handled c params answer own) :
    Reflects (answer.mapError .executionFailed) own := by
  have hbound : Reflects (.ok ()) [.sent c (.bind params), .accepted] := .accepted ..
  have hexecuted : Reflects (.ok ()) [.sent c .execute, .accepted] := .accepted ..
  cases h with
  | unbound e => exact .refused (by simp) rfl
  | unexecuted e => exact hbound.append (.refused (by simp) rfl)
  | executed answer =>
      exact (hbound.append hexecuted).append (.call (by simp) (fun _ => rfl) answer)

theorem Performed.reflects {c : ConnId} {charset : String} {p : Template.Prepared}
    {answer : Except Error Reply} {own : List Event} (h : Performed c charset p answer own) :
    Reflects answer own := by
  cases h with
  | refused e => exact .refused (by simp) rfl
  | executed h =>
      refine (Reflects.accepted c (.charset charset) ()).append ?_
      cases h with
      | direct _ answer => exact .call (by simp) (fun _ => rfl) answer
      | unprepared _ e => exact .refused (by simp) rfl
      | prepared _ h closed =>
          exact ((Reflects.accepted c (.prepare p.sql) ()).append h.reflects).closed c closed

theorem PerformedBatch.reflects {c : ConnId} {charset script : String}
    {answer : Except DriverError Unit} {own : List Event}
    (h : PerformedBatch c charset script answer own) :
    Reflects (answer.mapError .queryFailed) own := by
  cases h with
  | refused e => exact .refused (by simp) rfl
  | executed answer =>
      exact (Reflects.accepted c (.charset charset) ()).append
        (.call (by simp) (fun _ => rfl) answer)

theorem Loaded.reflects {c : ConnId} {file : Batch.Load} {answer : Except DriverError Nat}
    {own : List Event} (h : Loaded c file answer own) :
    Reflects (answer.mapError .queryFailed) own := by
  cases h with
  | itself answer => exact .call (by simp) (fun _ => rfl) answer
  | stated answer count =>
      cases answer with
      | ok reply =>
          refine ⟨fun _ h => ?_, fun _ _ e hrefused => ?_, fun _ herr => ?_⟩
          · cases h
          · obtain ⟨d, r, -, hpair⟩ := hrefused
            have hmem := hpair.subset (List.mem_cons_of_mem _ List.mem_cons_self)
            simp [Driver.call, Driver.ending] at hmem
          · cases herr
      | error e =>
          refine ⟨fun _ h => ?_, fun _ ha => ?_, fun err herr => ?_⟩
          · cases h
          · cases ha
          · obtain rfl := Except.error.inj herr
            exact ⟨e, rfl, c, .query file.statement, by simp, [.sent c (.load file)],
              [.refused e], rfl⟩

/-- On the connection, the action comes to what reflects what it writes. -/
def Act.Reflecting (c : ConnId) (a : Act World α) : Prop :=
  ∀ s, s.session.connection = some c → (run a s).2.session.connection = some c ∧
    ∃ own, (run a s).2.wire.trace = s.wire.trace ++ own ∧ Reflects (run a s).1 own

/-- A unit whose work reflects what that has written does so itself, whichever way it ends. -/
theorem Verdict.reflects {prior : Bool} {c : ConnId} {outcome : Except Error α × Bool}
    {result : Except Error α} {own closing : List Event}
    (h : Verdict prior (some c) outcome result closing) (hwork : Reflects outcome.1 own) :
    Reflects result (own ++ closing) := by
  have hback : ∀ (a : α) (back : Except DriverError Unit),
      Reflects (restored back (.ok a)) (Driver.call c (.autocommit prior) back) := by
    intro a back
    cases back with
    | ok _ => exact .accepted ..
    | error e => exact .refused (by simp) rfl
  cases h with
  | settled hd a back =>
      obtain rfl := Option.some.inj hd
      exact hwork.append (hback a back)
  | committed hd a back =>
      obtain rfl := Option.some.inj hd
      exact hwork.append ((Reflects.accepted c .commit ()).append (hback a back))
  | refused hd a e answer back =>
      obtain rfl := Option.some.inj hd
      have hrefused : Reflects (.error (.queryFailed e) : Except Error α)
          [.sent c .commit, .refused e] := .refused (by simp) rfl
      refine hwork.append ?_
      rw [List.append_assoc]
      exact hrefused.ignored _
  | failed hd e settled answer back => exact hwork.ignored _
  | settledAdrift hd | unsettledAdrift hd | failedAdrift hd => cases hd

section

variable {D : Driver Address World} {c : ConnId} {s : State World} {work : Act World α}

/-- The body of a unit that is refused fails, and the session is as before. -/
theorem State.Refuses.run_unitBody (hc : s.session.connection = some c) {error : Error}
    (h : s.Refuses D c error) (work : Act World α) :
    (run (unitBody D s work) s).1 = .error error ∧
      (run (unitBody D s work) s).2.session = s.session := by
  unfold State.Refuses at h
  cases hin : s.session.inTransaction with
  | true =>
      rw [if_pos hin] at h
      obtain ⟨e, w, hset, rfl⟩ := h
      rw [unitBody_inside D hin, run_nested_of_refused D hc hset]
      exact ⟨rfl, rfl⟩
  | false =>
      rw [hin, if_neg Bool.false_ne_true] at h
      rw [unitBody_outermost D hin]
      obtain ⟨e, w, rfl, hflag | ⟨w', hflag, hbegin⟩⟩ := h
      · rw [run_outermost_of_flag_refused D hc hflag]
        exact ⟨rfl, rfl⟩
      · rw [run_outermost_of_begin_refused D hc hflag hbegin]
        exact ⟨rfl, rfl⟩

/-- A unit that is refused raises the error, propagated or not. -/
theorem run_transact_of_refuses (hc : s.session.connection = some c) {error : Error}
    (h : s.Refuses D c error) (propagate : Bool) (work : Act World α) :
    (run (transact D propagate work) s).1 = .error error := by
  rw [run_transact, (h.run_unitBody hc work).1]
  rfl

/-- A nested unit that is not refused reflects what was sent within it. -/
theorem nested_reflects (hc : s.session.connection = some c) (hwork : Reflecting c work)
    (hin : s.session.inTransaction = true) :
    (∃ error, s.Refuses D c error) ∨ ∃ r own, (run (nested D work) s).1 = .ok r ∧
      (run (nested D work) s).2.wire.trace = s.wire.trace ++ own ∧ Reflects r own := by
  rcases hset : D.send c (.query (savepointStatement s.nextSavepoint)) s.wire with ⟨e | reply, w⟩
  · left
    refine ⟨.queryFailed e, ?_⟩
    rw [State.Refuses, if_pos hin]
    exact ⟨e, w, hset, rfl⟩
  · right
    have hopened : Reflects (.ok ())
        [.sent c (.query (savepointStatement s.nextSavepoint)), .accepted] := .accepted ..
    obtain ⟨hc', own, htrace, hown⟩ := hwork ((s.ticked.onto w).entering (some s.nextSavepoint)) hc
    rcases hrun : run work ((s.ticked.onto w).entering (some s.nextSavepoint)) with ⟨r, s'⟩
    rw [hrun] at htrace hown hc'
    have htrace' : s'.wire.trace = s.wire.trace ++
        ([.sent c (.query (savepointStatement s.nextSavepoint)), .accepted] ++ own) := by
      rw [← List.append_assoc]
      exact htrace.trans (congrArg (· ++ own) (trace_send _ hset))
    cases r with
    | ok a =>
        rw [run_nested_of_ok D hc hset work hrun]
        exact ⟨.ok a, _, rfl, htrace', hopened.append hown⟩
    | error e =>
        rw [run_nested_of_error D hc hset work hrun hc']
        obtain ⟨revival, hrevived, -⟩ := trace_revived (D := D) (c := c) s'.wire
        rcases hundo : D.send c (.query (rollbackToStatement s.nextSavepoint))
          (revived D c s'.wire) with ⟨answer, w'⟩
        refine ⟨.error e, _, rfl, ?_, (hopened.append hown).ignored (revival ++
          Driver.call c (.query (rollbackToStatement s.nextSavepoint)) answer)⟩
        show w'.trace = _
        rw [trace_send _ hundo, hrevived, htrace']
        simp only [List.append_assoc]

theorem outermost_reflects (hc : s.session.connection = some c) (hwork : Reflecting c work)
    (hout : s.session.inTransaction = false) :
    (∃ error, s.Refuses D c error) ∨ ∃ r own, (run (outermost D work) s).1 = .ok r ∧
      (run (outermost D work) s).2.wire.trace = s.wire.trace ++ own ∧ Reflects r own := by
  rcases hflag : D.send c (.autocommit false) s.wire with ⟨e | _, w⟩
  · left
    refine ⟨.queryFailed e, ?_⟩
    rw [State.Refuses, hout, if_neg Bool.false_ne_true]
    exact ⟨e, w, rfl, .inl hflag⟩
  rcases hbegin : D.send c .begin w with ⟨e | _, w'⟩
  · left
    refine ⟨.queryFailed e, ?_⟩
    rw [State.Refuses, hout, if_neg Bool.false_ne_true]
    exact ⟨e, w', rfl, .inr ⟨w, hflag, hbegin⟩⟩
  · right
    have hopened : Reflects (.ok ()) ([.sent c (.autocommit false), .accepted] ++
        [.sent c .begin, .accepted]) :=
      (Reflects.accepted c (.autocommit false) ()).append (.accepted c .begin ())
    obtain ⟨hc', own, htrace, hown⟩ := hwork ((s.onto w').entering none) hc
    rcases hrun : run work ((s.onto w').entering none) with ⟨r, s'⟩
    rw [hrun] at htrace hown hc'
    rw [run_outermost_of_begun D hc hflag hbegin work hrun]
    obtain ⟨result, closing, hresult, hclosing, hverdict⟩ := exists_verdict (D := D)
      (D.autocommit c s.wire.world) (r, s'.settled) s'.leaving
    have hleft : s'.leaving.session.connection = some c := hc'
    rw [hleft] at hverdict
    refine ⟨result, _, hresult, ?_, hopened.append (hverdict.reflects hown)⟩
    have hstarted : s'.wire.trace = w'.trace ++ own := htrace
    rw [hclosing]
    show s'.wire.trace ++ closing = _
    rw [hstarted, trace_send _ hbegin, trace_send _ hflag]
    simp only [Driver.call, Driver.ending, List.append_assoc]

/-- A unit that starts comes to what reflects everything that it writes, and keeps the error that it
comes to as the newest. -/
theorem transact_reflects (hc : s.session.connection = some c) (hwork : Reflecting c work)
    (propagate : Bool) :
    (∃ error, s.Refuses D c error) ∨
      ∃ r own, (run (transact D propagate work) s).1 = reported propagate (.ok r) ∧
        (run (transact D propagate work) s).2.wire.trace = s.wire.trace ++ own ∧
        Reflects r own ∧ ∀ error, r = .error error →
          (run (transact D propagate work) s).2.session.lastError = some error.message := by
  have hbody : (∃ error, s.Refuses D c error) ∨ ∃ r own,
      (run (unitBody D s work) s).1 = .ok r ∧
      (run (unitBody D s work) s).2.wire.trace = s.wire.trace ++ own ∧ Reflects r own := by
    cases hin : s.session.inTransaction with
    | true =>
        rw [unitBody_inside D hin]
        exact nested_reflects hc hwork hin
    | false =>
        rw [unitBody_outermost D hin]
        exact outermost_reflects hc hwork hin
  refine hbody.imp_right ?_
  rintro ⟨r, own, hr, htrace, hown⟩
  rw [run_transact, hr, (recorded_beside _ _).1]
  refine ⟨r, own, rfl, htrace, hown, ?_⟩
  rintro error rfl
  rfl

/-- A script reflects what it writes. -/
theorem runBatch_reflecting (script : String) (st : Settings) :
    Reflecting c (runBatch D script st) := by
  intro s hc
  obtain ⟨own, htrace, hown⟩ := D.writes_performBatch (c := c) st.charset
    (Template.condense st.delimiters script) s.wire
  rw [run_runBatch hc script st (Prod.ext rfl rfl)]
  exact ⟨hc, own, htrace, hown.reflects⟩

/-- A staged file reflects what it writes. -/
theorem loadStaged_reflecting (file : Batch.Load) (st : Settings) :
    Reflecting c (loadStaged D file st) := by
  intro s hc
  obtain ⟨own, htrace, hown⟩ := D.writes_load (c := c) file s.wire
  rw [run_loadStaged hc]
  exact ⟨hc, own, htrace, hown.reflects.map _⟩

end

end SlotQuery
