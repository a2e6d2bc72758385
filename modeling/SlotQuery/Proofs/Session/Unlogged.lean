import SlotQuery.Proofs.Session.Steering
import SlotQuery.Proofs.Session.Verdict

/-!
# What leaves the log alone

Whatever a session asks of a connection in order to open it, to close it, to revive it or to control
a transaction shows on the trace and nowhere else: nothing is logged, no settings change, and no
statement is run but for its savepoints.  `Unlogged` relates two states between which nothing but
this has happened.

A unit of work asks for such things before its work and after it.  So a unit adds to the log exactly
what its work adds, if it starts, and nothing if it does not.  `framing` says this for every
session and every pattern of answers, and `Unlogged.maintains_transact` is what properties make of
it that only the log and the settings can change.
-/

namespace SlotQuery

open Act Session

variable {Address World α : Type}

/-- What steers on its own connection steers. -/
theorem Event.Allowed.steers {c : ConnId} {e : Event} (h : e.Allowed c Request.Steers) :
    e.Steers := by
  cases e with
  | sent d r => exact h.2
  | accepted | refused | alive => trivial

/-- From the first state to the second nothing was logged, no settings have changed, and nothing was
asked for but what steers. -/
structure Unlogged (s s' : State World) : Prop where
  log : s'.session.log = s.session.log
  settings : s'.session.settings = s.session.settings
  defaults : s'.defaults = s.defaults
  steered : ∃ more, s'.wire.trace = s.wire.trace ++ more ∧ ∀ e ∈ more, e.Steers

namespace Unlogged

variable {D : Driver Address World} {c : ConnId} {s₀ s s' : State World}

theorem refl (s : State World) : Unlogged s s :=
  ⟨rfl, rfl, rfl, [], (List.append_nil _).symm, fun _ he => absurd he List.not_mem_nil⟩

/-- No staged file was loaded. -/
theorem trace (h : Unlogged s s') :
    ∃ more, s'.wire.trace = s.wire.trace ++ more ∧ ∀ e ∈ more, ¬ e.Loads := by
  obtain ⟨more, htrace, hmore⟩ := h.steered
  exact ⟨more, htrace, fun e he => (hmore e he).not_loads⟩

/-- What logs nothing step by step logs nothing on the whole. -/
theorem trans (h : Unlogged s₀ s) (h' : Unlogged s s') : Unlogged s₀ s' := by
  obtain ⟨more, htrace, hmore⟩ := h.steered
  obtain ⟨more', htrace', hmore'⟩ := h'.steered
  refine ⟨h'.log.trans h.log, h'.settings.trans h.settings, h'.defaults.trans h.defaults,
    more ++ more', ?_, fun e he => (List.mem_append.mp he).elim (hmore e) (hmore' e)⟩
  rw [htrace', htrace, List.append_assoc]

/-- A change that shows neither on the trace nor in the log and the settings. -/
theorem unseen (hlog : s'.session.log = s.session.log)
    (hsettings : s'.session.settings = s.session.settings) (hdefaults : s'.defaults = s.defaults)
    (htrace : s'.wire.trace = s.wire.trace) : Unlogged s s' :=
  ⟨hlog, hsettings, hdefaults, [], htrace.trans (List.append_nil _).symm,
    fun _ he => absurd he List.not_mem_nil⟩

/-- What sends steering requests only logs nothing. -/
theorem of_emits {m : StateM (Wire World) α} (hm : Driver.Emits c Request.Steers m)
    (s : State World) : Unlogged s (s.onto (m s.wire).2) := by
  obtain ⟨more, htrace, hmore⟩ := hm s.wire
  exact ⟨rfl, rfl, rfl, more, htrace, fun e he => (hmore e he).steers⟩

/-- One steering request logs nothing. -/
theorem of_send {r : Request} (hr : r.Steers) {answer : Except DriverError r.Answer}
    {w : Wire World} (h : D.send c r s.wire = (answer, w)) : Unlogged s (s.onto w) := by
  have hsent : Unlogged s (s.onto (D.send c r s.wire).2) := of_emits (D.emits_send hr) s
  rw [h] at hsent
  exact hsent

/-- Steering a transaction logs nothing. -/
theorem outlives_steering : Steered D (Unlogged s₀) where
  silent hs h := hs.trans (unseen h.log h.settings h.defaults (congrArg Wire.trace h.wire))
  ask {s c r} hs _ hr := hs.trans (of_send hr rfl)
  look {s c} hs _ := by
    refine hs.trans ⟨rfl, rfl, rfl, [.alive c (D.isAlive c s.wire).1], rfl, fun e he => ?_⟩
    rw [List.mem_singleton.mp he]
    trivial

/-- A change to other fields of the session logs nothing. -/
theorem updateSession {f : Session → Session} (hlog : ∀ x, (f x).log = x.log)
    (hsettings : ∀ x, (f x).settings = x.settings) :
    Maintains (Unlogged s₀) (Act.updateSession f) :=
  fun s hs => hs.trans (unseen (hlog s.session) (hsettings s.session) rfl rfl)

/-- Disconnecting logs nothing. -/
theorem disconnect : Maintains (Unlogged s₀) (disconnect D) := by
  unfold Session.disconnect
  refine Maintains.get.bind fun s => ?_
  cases s.session.connection with
  | none => exact Maintains.pure _
  | some c =>
      refine Maintains.bind (updateSession (fun _ => rfl) fun _ => rfl) fun _ =>
        Maintains.bind (fun s hs => hs.trans (of_send (r := .close) (c := c) trivial rfl))
          fun answer => ?_
      cases answer with
      | ok _ => exact Maintains.pure _
      | error e => exact Maintains.throw _

/-- Taking over a connection logs nothing. -/
theorem attach (c : ConnId) : Maintains (Unlogged s₀) (attach D c) := by
  have htaken : Maintains (Unlogged s₀) (do
      Session.disconnect D
      Act.updateSession fun s => { s with connection := some c }) :=
    disconnect.bind fun _ => updateSession (fun _ => rfl) fun _ => rfl
  unfold Session.attach
  exact Maintains.get.bind fun _ => (htaken.unless_throw _).unless_throw _

/-- Connecting to an address logs nothing. -/
theorem connect (address : Address) (autocommit : Option Bool) :
    Maintains (Unlogged s₀) (connect D address autocommit) := by
  have hopened : Maintains (Unlogged s₀)
      (Act.onWire (D.openConnection address autocommit)) := by
    intro s hs
    cases autocommit with
    | none => exact hs.trans (unseen rfl rfl rfl rfl)
    | some on =>
        let dialled : State World := s.onto ⟨(D.dial address s.wire.world).2, s.wire.trace⟩
        have hdialled : Unlogged s dialled := unseen rfl rfl rfl rfl
        let c := (D.dial address s.wire.world).1
        have hset : Driver.Emits c Request.Steers (D.send c (.autocommit on)) :=
          D.emits_send trivial
        exact hs.trans (hdialled.trans (of_emits hset dialled))
  unfold Session.connect
  refine hopened.bind fun answer => ?_
  cases answer with
  | ok c => exact attach c
  | error e => exact Maintains.throw _

end Unlogged

/-- What becomes of a unit and of the state, seen from the log: the unit does not start and fails,
or its work runs, and nothing is logged before it and after it.  A unit comes to a value only if
its work does. -/
inductive Framing (D : Driver Address World) (s : State World) (work : Act World α)
    (result : Except Error (Option α)) (s' : State World) : Prop
  | unstarted (hfailed : ∃ e, result = .error e) (h : Unlogged s s')
  | started {c : ConnId} (hc : s.session.connection = some c) (hstart : s.Starts D c)
      (hbefore : Unlogged s (s.starting D c))
      (hafter : Unlogged (run work (s.starting D c)).2 s')
      (hvalue : ∀ a, result = .ok (some a) → (run work (s.starting D c)).1 = .ok a)

/-- Nothing is logged before the work of a unit. -/
theorem State.Starts.unlogged {D : Driver Address World} {s : State World} {c : ConnId}
    (hstart : s.Starts D c) : Unlogged s (s.starting D c) := by
  have hentered : ∀ (s : State World) guard, Unlogged s (s.entering guard) :=
    fun s guard => .unseen rfl rfl rfl rfl
  cases hin : s.session.inTransaction with
  | true =>
      obtain ⟨reply, w, hset, hstarting⟩ := hstart.exists_set hin
      have hticked : Unlogged s s.ticked := .unseen rfl rfl rfl rfl
      rw [hstarting]
      have hasked : Unlogged s (s.ticked.onto w) :=
        hticked.trans (.of_send (s := s.ticked) (Request.Steers.savepoint _) hset)
      exact hasked.trans (hentered _ _)
  | false =>
      obtain ⟨w, w', hflag, hbegin, hstarting⟩ := hstart.exists_begun hin
      have hset : Unlogged s (s.onto w) := .of_send (r := .autocommit false) trivial hflag
      rw [hstarting]
      have hasked : Unlogged s (s.onto w') :=
        hset.trans (.of_send (s := s.onto w) (r := .begin) trivial hbegin)
      exact hasked.trans (hentered _ _)

section

variable {D : Driver Address World} {s : State World} (work : Act World α)

/-- A nested unit frames its work by steps that log nothing. -/
theorem nested_framing (hin : s.session.inTransaction = true) :
    Framing D s work ((run (nested D work) s).1.map Except.toOption)
      (run (nested D work) s).2 := by
  have hticked : Unlogged s s.ticked := .unseen rfl rfl rfl rfl
  cases hc : s.session.connection with
  | none =>
      rw [run_nested_of_none D hc]
      exact .unstarted ⟨_, rfl⟩ hticked
  | some c =>
      rcases hset : D.send c (.query (savepointStatement s.nextSavepoint)) s.wire with
        ⟨e | reply, w⟩
      · rw [run_nested_of_refused D hc hset]
        exact .unstarted ⟨_, rfl⟩
          (hticked.trans (.of_send (s := s.ticked) (Request.Steers.savepoint _) hset))
      · have hstarting := State.starting_inside hin hset
        have hstart : s.Starts D c := by
          rw [State.Starts, if_pos hin]
          exact ⟨reply, w, hset⟩
        rcases hrun : run work (s.starting D c) with ⟨r, s'⟩
        have hrun' := hrun
        rw [hstarting] at hrun'
        have hleft : Unlogged s' s'.leaving := .unseen rfl rfl rfl rfl
        rw [run_nested_of_set D hc hset work hrun']
        cases r with
        | ok a =>
            refine .started hc hstart hstart.unlogged (hrun ▸ hleft) fun v hv => ?_
            rw [hrun]
            cases hv
            rfl
        | error e =>
            refine .started hc hstart hstart.unlogged ?_ fun v hv => ?_
            · rw [hrun]
              have H : Steered D (Unlogged s') := Unlogged.outlives_steering
              refine Maintains.bind H.revive (fun _ => ?_) s'.leaving hleft
              exact (H.issue (Request.Steers.rollbackTo _)).observe.bind fun _ => Maintains.pure _
            · dsimp only at hv
              rw [run_bind_fst_of_ok (run_revive_fst _), run_observe_bind] at hv
              cases hv

theorem outermost_framing (hout : s.session.inTransaction = false) :
    Framing D s work ((run (outermost D work) s).1.map Except.toOption)
      (run (outermost D work) s).2 := by
  cases hc : s.session.connection with
  | none =>
      have hgone : run (outermost D work) s = (.error .notConnected, s) :=
        run_bind_of_error (run_connected_of_none hc)
      rw [hgone]
      exact .unstarted ⟨_, rfl⟩ (.refl s)
  | some c =>
      rcases hflag : D.send c (.autocommit false) s.wire with ⟨e | _, w⟩
      · rw [run_outermost_of_flag_refused D hc hflag]
        exact .unstarted ⟨_, rfl⟩ (.of_send (r := .autocommit false) trivial hflag)
      have hset : Unlogged s (s.onto w) := .of_send (r := .autocommit false) trivial hflag
      rcases hbegin : D.send c .begin w with ⟨e | _, w'⟩
      · rw [run_outermost_of_begin_refused D hc hflag hbegin]
        have hasked : Unlogged s (s.onto w') :=
          hset.trans (.of_send (s := s.onto w) (r := .begin) trivial hbegin)
        exact .unstarted ⟨_, rfl⟩
          (hasked.trans (.of_send (s := s.onto w') (r := .autocommit _) trivial (Prod.ext rfl rfl)))
      · have hstarting := State.starting_outermost hout hflag hbegin
        have hstart : s.Starts D c := by
          rw [State.Starts, hout, if_neg Bool.false_ne_true]
          exact ⟨w, w', hflag, hbegin⟩
        rcases hrun : run work (s.starting D c) with ⟨r, s'⟩
        have hrun' := hrun
        rw [hstarting] at hrun'
        rw [run_outermost_of_begun D hc hflag hbegin work hrun']
        refine .started hc hstart hstart.unlogged ?_ fun v hv => ?_
        · rw [hrun]
          have hleft : Unlogged s' s'.leaving := .unseen rfl rfl rfl rfl
          exact Maintains.bind (Unlogged.outlives_steering.conclude _)
            (fun result => Unlogged.outlives_steering.restore _ result) s'.leaving hleft
        · obtain ⟨result, closing, hresult, -, hverdict⟩ := exists_verdict (D := D)
            (D.autocommit c s.wire.world) (r, s'.settled) s'.leaving
          rw [hresult] at hv
          rw [hrun]
          cases result with
          | error e => cases hv
          | ok a =>
              have hvalue := (hverdict.ok_iff.mp rfl).1
              cases hv
              exact hvalue

/-- Seen from the log, a unit is its work. -/
theorem framing (D : Driver Address World) (propagate : Bool) (work : Act World α)
    (s : State World) :
    Framing D s work (run (transact D propagate work) s).1
      (run (transact D propagate work) s).2 := by
  have hbody : Framing D s work ((run (unitBody D s work) s).1.map Except.toOption)
      (run (unitBody D s work) s).2 := by
    cases hin : s.session.inTransaction with
    | true =>
        rw [unitBody_inside D hin]
        exact nested_framing work hin
    | false =>
        rw [unitBody_outermost D hin]
        exact outermost_framing work hin
  rw [run_transact]
  rcases hrun : run (unitBody D s work) s with ⟨result, s'⟩
  rw [hrun] at hbody
  have hrecorded : Unlogged s' (recorded s' result) := by
    rcases result with _ | _ | _ <;> exact .unseen rfl rfl rfl rfl
  cases hbody with
  | unstarted hfailed h =>
      obtain ⟨e, he⟩ := hfailed
      cases result with
      | error e => exact .unstarted ⟨e, rfl⟩ (h.trans hrecorded)
      | ok result => cases he
  | started hc hstart hbefore hafter hvalue =>
      refine .started hc hstart hbefore (hafter.trans hrecorded) fun a ha => hvalue a ?_
      cases result with
      | error e => cases ha
      | ok result =>
          rw [reported_eq_some_iff.mp ha]
          rfl

end

/-- A property that outlives whatever is not logged is maintained by units whose work maintains
it. -/
theorem Unlogged.maintains_transact {D : Driver Address World} {I : State World → Prop}
    (hI : ∀ s s', Unlogged s s' → I s → I s') {work : Act World α} (hwork : Maintains I work)
    (propagate : Bool) : Maintains I (transact D propagate work) := by
  intro s hs
  cases framing D propagate work s with
  | unstarted _ h => exact hI _ _ h hs
  | started hc hstart hbefore hafter hvalue =>
      exact hI _ _ hafter (hwork _ (hI _ _ hbefore hs))

end SlotQuery
