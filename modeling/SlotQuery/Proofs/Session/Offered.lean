import SlotQuery.Proofs.Driver.Steady
import SlotQuery.Proofs.Session.Courses

/-!
# Features that a connection offers

A connection reports which features it offers.  A session takes only connections that prepare
statements and know transactions, and it asks again before it has a file loaded.  So no request goes
to a connection that does not offer what it needs (`Request.OfferedBy`): this goes for every command
and every unit, and so for everything that is put together from them (`Commanded.offered`).  What a
connection once offered it keeps offering; that is asked of the driver (`Driver.Steady`).

Nobody asks for savepoints.  The units inside others set them on every connection, and whether they
are offered makes no difference to anything (`Work.run_withSavepoints`).
-/

namespace SlotQuery

open Act Session

/-- The features include what the request needs.  Statements need none, whatever they say. -/
def Request.OfferedBy (features : Capabilities) : Request → Prop
  | prepare _ => features.preparedStatements = true
  | begin => features.transactions = true
  | load _ => features.bulkLoad = true
  | _ => True

/-- Statements other than a load need no more than sufficient features. -/
theorem Request.IsStatement.offeredBy {features : Capabilities} (h : features.Suffice) {r : Request}
    (hr : r.IsStatement) (hload : ∀ file, r ≠ .load file) : r.OfferedBy features := by
  cases r with
  | prepare sql => exact h.preparedStatements
  | begin => exact h.transactions
  | load file => exact absurd rfl (hload file)
  | _ => trivial

theorem Request.Steers.offeredBy {features : Capabilities} (h : features.Suffice) {r : Request}
    (hr : r.Steers) : r.OfferedBy features := by
  cases r with
  | begin => exact h.transactions
  | prepare | load => exact hr.elim
  | _ => trivial

section

variable {Address World α β : Type}

/-- The event is no request, or one that the connection offers to answer. -/
def Event.Offered (D : Driver Address World) (known : World → ConnId → Prop) (w : World) :
    Event → Prop
  | sent c r => known w c ∧ r.OfferedBy (D.capabilities c w)
  | _ => True

/-- The connection of the session, if it has one, is one that a session can take. -/
def State.Served (D : Driver Address World) (known : World → ConnId → Prop) (s : State World) :
    Prop :=
  ∀ c, s.session.connection = some c → D.Serves known s.wire.world c

/-- From the first state to the second, every request went to a connection that offers what the
request needs, and every connection offers what it did. -/
structure Offered (D : Driver Address World) (known : World → ConnId → Prop)
    (s s' : State World) : Prop where
  retains : D.Retains known s.wire.world s'.wire.world
  requests : ∃ own, s'.wire.trace = s.wire.trace ++ own ∧
    ∀ e ∈ own, e.Offered D known s'.wire.world
  served : s'.Served D known

variable {D : Driver Address World} {known : World → ConnId → Prop}

/-- What a connection offered it still offers in a later world. -/
theorem Event.Offered.mono {w w' : World} {e : Event} (h : e.Offered D known w)
    (hretains : D.Retains known w w') : e.Offered D known w' := by
  cases e with
  | sent c r =>
      obtain ⟨hknown, hsame⟩ := hretains c h.1
      exact ⟨hknown, hsame.symm ▸ h.2⟩
  | accepted | refused | alive => trivial

/-- What stays on one known connection and within its features is offered. -/
theorem Event.Allowed.offered {c : ConnId} {w w' : World} {e : Event}
    (h : e.Allowed c (Request.OfferedBy (D.capabilities c w))) (hknown : known w c)
    (hretains : D.Retains known w w') : e.Offered D known w' := by
  cases e with
  | sent d r =>
      obtain ⟨rfl, hr⟩ := h
      exact Event.Offered.mono (e := .sent d r) ⟨hknown, hr⟩ hretains
  | accepted | refused | alive => trivial

namespace Offered

variable {s₀ s s' s'' : State World} {c : ConnId}

theorem refl (hs : s.Served D known) : Offered D known s s :=
  ⟨.refl D known _, ⟨[], (List.append_nil _).symm, fun _ he => absurd he List.not_mem_nil⟩, hs⟩

/-- What is offered step by step is offered on the whole. -/
theorem trans (h : Offered D known s s') (h' : Offered D known s' s'') :
    Offered D known s s'' := by
  obtain ⟨own, htrace, hown⟩ := h.requests
  obtain ⟨own', htrace', hown'⟩ := h'.requests
  refine ⟨h.retains.trans h'.retains, ⟨own ++ own', ?_, fun e he => ?_⟩, h'.served⟩
  · rw [htrace', htrace, List.append_assoc]
  · exact (List.mem_append.mp he).elim (fun he => (hown e he).mono h'.retains) (hown' e)

/-- A change that does not show on the wire, and takes no other connection. -/
theorem unseen (hs : s.Served D known) (hwire : s'.wire = s.wire)
    (hconn : s'.session.connection = s.session.connection) : Offered D known s s' := by
  refine ⟨hwire ▸ .refl D known _, ⟨[], ?_, fun _ he => absurd he List.not_mem_nil⟩, fun c hc => ?_⟩
  · rw [hwire, List.append_nil]
  · rw [hwire]
    exact hs c (hconn.symm.trans hc)

/-- Requests on the session's connection for which that offers what they need. -/
theorem requested {w : Wire World} {own : List Event} (hs : s.Served D known)
    (hc : s.session.connection = some c) (hretains : D.Retains known s.wire.world w.world)
    (htrace : w.trace = s.wire.trace ++ own)
    (hown : ∀ e ∈ own, e.Allowed c (Request.OfferedBy (D.capabilities c s.wire.world))) :
    Offered D known s (s.onto w) where
  retains := hretains
  requests := ⟨own, htrace, fun e he => (hown e he).offered (hs c hc).known hretains⟩
  served d hd := (hs d hd).mono hretains

/-- A request that steers a transaction is offered. -/
theorem send (hD : D.Steady known) (hs : s.Served D known) (hc : s.session.connection = some c)
    {r : Request} (hr : r.Steers) : Offered D known s (s.onto (D.send c r s.wire).2) := by
  have hretains := (hD.kept c s.wire.world).send r s.wire (.refl D known _)
  refine .requested hs hc hretains (trace_send r rfl) ?_
  exact allowed_call (hr.offeredBy (hs c hc).suffice) _

theorem look (hD : D.Steady known) (hs : s.Served D known) (hc : s.session.connection = some c) :
    Offered D known s (s.onto (D.isAlive c s.wire).2) := by
  have hretains := (hD.kept c s.wire.world).isAlive s.wire (.refl D known _)
  exact .requested hs hc hretains rfl (List.forall_mem_singleton.mpr rfl)

/-- The property outlives steering, together with whatever is said of the connection. -/
theorem outlives_steering (hD : D.Steady known) (on : Option ConnId → Prop) :
    Steered D fun s => Offered D known s₀ s ∧ on s.session.connection where
  silent hs h := ⟨hs.1.trans (.unseen hs.1.served h.wire h.connection), h.connection.symm ▸ hs.2⟩
  ask hs hc hr := ⟨hs.1.trans (.send hD hs.1.served hc hr), hs.2⟩
  look hs hc := ⟨hs.1.trans (.look hD hs.1.served hc), hs.2⟩

/-- Statements, scripts and files on the connection that the session was on to begin with. -/
theorem undisturbed (hD : D.Steady known) (hs₀ : s₀.Served D known) (c : ConnId) :
    Undisturbed D c (fun _ => True) (fun _ => True) (fun (_ : Unit) s =>
      Offered D known s₀ s ∧ s.session.connection = some c ∧
        s₀.session.connection = some c) where
  connected hs := hs.2.1
  aside hs h :=
    ⟨hs.1.trans (.unseen hs.1.served h.wire h.connection), h.connection.trans hs.2.1, hs.2.2⟩
  statement {p charset} _ _ s hs := by
    obtain ⟨own, htrace, hown⟩ := D.writes_performUnder (c := c) charset p s.wire
    have hretains := (hD.kept c s.wire.world).performUnder charset p s.wire (.refl D known _)
    have hoffered := hown.allowed fun r hr hload =>
      hr.offeredBy (hs.1.served c hs.2.1).suffice hload
    exact ⟨hs.1.trans (.requested hs.1.served hs.2.1 hretains htrace hoffered), hs.2⟩
  batch {text charset} _ _ s hs := by
    obtain ⟨own, htrace, hown⟩ := D.writes_performBatch (c := c) charset text s.wire
    have hretains := (hD.kept c s.wire.world).performBatch charset text s.wire (.refl D known _)
    have hoffered := hown.allowed fun r hr hload =>
      hr.offeredBy (hs.1.served c hs.2.1).suffice hload
    exact ⟨hs.1.trans (.requested hs.1.served hs.2.1 hretains htrace hoffered), hs.2⟩
  load {j t} ht hbulk file _ s hs := by
    -- The connection offered to load files in another state; it still does.
    have hsame : ∀ {s'}, Offered D known s₀ s' → D.capabilities c s'.wire.world =
        D.capabilities c s₀.wire.world := fun h => (h.retains c (hs₀ c ht.2.2).known).2
    have hbulk' : (D.capabilities c s.wire.world).bulkLoad = true := by
      rw [hsame hs.1, ← hsame ht.1]
      exact hbulk
    obtain ⟨own, htrace, hown⟩ := D.writes_load (c := c) file s.wire
    have hretains := (hD.kept c s.wire.world).load file s.wire (.refl D known _)
    have hload : (Request.load file).OfferedBy (D.capabilities c s.wire.world) := hbulk'
    have hoffered := hown.allowed hload trivial
    exact ⟨hs.1.trans (.requested hs.1.served hs.2.1 hretains htrace hoffered), hs.2⟩
  unit hwork propagate _ :=
    (outlives_steering hD fun k => k = some c ∧ s₀.session.connection = some c).transact
      (hwork ()) propagate

/-- A command that runs statements asks for offered requests only. -/
theorem statements (hD : D.Steady known) {command : Command Address}
    (h : command.RunsStatements) (hs : s.Served D known) :
    Offered D known s (Act.run (command.run D) s).2 := by
  have hmaintains : Maintains (fun s' => Offered D known s s' ∧
      s'.session.connection = s.session.connection) (command.run D) := by
    refine Command.RunsStatements.maintains (i := ()) (undisturbed hD hs) ?_ ?_ ?_ h
    · intro d s' hs' hd
      exact ⟨hs'.1, hd, hs'.2.symm.trans hd⟩
    · intro d s' hs'
      exact ⟨hs'.1, hs'.2.1.trans hs'.2.2.symm⟩
    · intro s' s'' hs' hwire hconn _
      exact ⟨hs'.1.trans (.unseen hs'.1.served hwire hconn), hconn.trans hs'.2⟩
  exact (hmaintains s ⟨.refl hs, rfl⟩).1

theorem steering (hD : D.Steady known) {command : Command Address} (h : command.OnlySteers)
    (hs : s.Served D known) : Offered D known s (Act.run (command.run D) s).2 :=
  (h.maintains (outlives_steering hD fun _ => True) s ⟨.refl hs, trivial⟩).1

theorem disconnect (hD : D.Steady known) (hs : s.Served D known) :
    Offered D known s (Act.run (Session.disconnect D) s).2 := by
  unfold Session.disconnect
  rw [run_get_bind]
  cases hc : s.session.connection with
  | none => exact .refl hs
  | some c =>
      dsimp only
      rw [run_updateSession_bind, run_onWire_bind]
      let parted : State World := { s with session := { s.session with connection := none } }
      have hsent : Offered D known s (parted.onto (D.send c .close s.wire).2) :=
        { Offered.send hD hs hc (r := .close) trivial with served := fun _ hd => nomatch hd }
      cases (D.send c .close s.wire).1 with
      | ok _ => exact hsent
      | error e => exact hsent

/-- A session does not take a connection that lacks what it cannot do without, and asks nothing of
it. -/
theorem run_attach_of_lacking (h : ¬ (D.capabilities c s.wire.world).Suffice) :
    (D.capabilities c s.wire.world).preparedStatements = false ∧
        Act.run (Session.attach D c) s = (.error (.missingCapability .preparedStatements), s) ∨
      (D.capabilities c s.wire.world).transactions = false ∧
        Act.run (Session.attach D c) s = (.error (.missingCapability .transactions), s) := by
  unfold Session.attach
  rw [run_get_bind]
  dsimp only
  cases hprepared : (D.capabilities c s.wire.world).preparedStatements with
  | false => exact .inl ⟨rfl, rfl⟩
  | true =>
      cases htransactions : (D.capabilities c s.wire.world).transactions with
      | false => exact .inr ⟨rfl, rfl⟩
      | true => exact absurd ⟨hprepared, htransactions⟩ h

/-- Taking over a known connection asks it for offered requests only. -/
theorem attach (hD : D.Steady known) (hs : s.Served D known) (hknown : known s.wire.world c) :
    Offered D known s (Act.run (Session.attach D c) s).2 := by
  by_cases hsuffice : (D.capabilities c s.wire.world).Suffice
  · have hparted := Offered.disconnect hD hs
    have htaken : Act.run (Session.attach D c) s = Act.run (Session.disconnect D >>= fun _ =>
        updateSession fun session => { session with connection := some c }) s := by
      unfold Session.attach
      rw [run_get_bind]
      dsimp only
      rw [hsuffice.preparedStatements, hsuffice.transactions]
      rfl
    rw [htaken, run_bind]
    rcases hrun : Act.run (Session.disconnect D) s with ⟨_ | _, s'⟩
    · rw [hrun] at hparted
      exact hparted
    · rw [hrun] at hparted
      refine { hparted with served := fun d hd => ?_ }
      obtain rfl : c = d := Option.some.inj hd
      exact Driver.Serves.mono ⟨hknown, hsuffice⟩ hparted.retains
  · rcases run_attach_of_lacking hsuffice with ⟨-, hrun⟩ | ⟨-, hrun⟩
    · rw [hrun]
      exact .refl hs
    · rw [hrun]
      exact .refl hs

/-- A connection that was opened is known, whether or not its flag was set. -/
theorem opened (hD : D.Steady known) {s' : State World} (h : Offered D known s s')
    (hknown : known s'.wire.world c) {answer : Except DriverError ConnId}
    (hanswer : ∀ d, answer = .ok d → d = c) :
    Offered D known s (Act.run (match answer with
      | .ok d => Session.attach D d
      | .error e => throw (.connectionFailed e)) s').2 := by
  cases answer with
  | error e => exact h
  | ok d =>
      obtain rfl := hanswer d rfl
      exact h.trans (.attach hD h.served hknown)

theorem connect (hD : D.Steady known) (hs : s.Served D known) (address : Address)
    (autocommit : Option Bool) :
    Offered D known s (Act.run (Session.connect D address autocommit) s).2 := by
  let c := (D.dial address s.wire.world).1
  let dialled : Wire World := ⟨(D.dial address s.wire.world).2, s.wire.trace⟩
  have hdial := hD.dial address s.wire.world
  have hopened := hD.opened address s.wire.world
  unfold Session.connect
  rw [run_onWire_bind]
  cases autocommit with
  | none =>
      have hfirst : Offered D known s (s.onto dialled) :=
        ⟨hdial, ⟨[], (List.append_nil _).symm, fun _ he => absurd he List.not_mem_nil⟩,
          fun d hd => (hs d hd).mono hdial⟩
      exact hfirst.opened hD hopened fun d hd => (Except.ok.inj hd).symm
  | some on =>
      have hset := (hD.kept c dialled.world).send (.autocommit on) dialled (.refl D known _)
      have hfirst : Offered D known s (s.onto (D.send c (.autocommit on) dialled).2) := by
        refine ⟨hdial.trans hset, ⟨_, trace_send (w := dialled) (.autocommit on) rfl,
          fun e he => ?_⟩, fun d hd => (hs d hd).mono (hdial.trans hset)⟩
        have hflag : (Request.autocommit on).OfferedBy (D.capabilities c dialled.world) := trivial
        have hallowed := allowed_call (c := c) hflag _ e he
        exact hallowed.offered hopened hset
      refine hfirst.opened hD (hset c hopened).1 fun d hd => ?_
      obtain ⟨_, -, rfl⟩ := exists_of_map_eq_ok hd
      rfl

/-- An action that is offered at every state maintains what was offered before. -/
theorem maintains {a : Act World α}
    (h : ∀ {s}, s.Served D known → Offered D known s (Act.run a s).2) :
    Maintains (Offered D known s₀) a :=
  fun _ hs => hs.trans (h hs.served)

/-- Every command asks for offered requests only. -/
theorem command (hD : D.Steady known) (command : Command Address) :
    Maintains (Offered D known s₀) (command.run D) := by
  cases command with
  | query | insertRows | runSaved | runFile =>
      exact maintains fun hs => .statements hD trivial hs
  | setAutocommit | commit | rollback | savepoint | rollbackTo =>
      exact maintains fun hs => .steering hD trivial hs
  | configure | configureDefaults | resetConfiguration | resetDefaults | clearLog | saveQuery =>
      exact Command.OnlyAdjusts.maintains
        (fun _ _ hwire hconn _ hs => hs.trans (.unseen hs.served hwire hconn)) trivial
  | connect address on => exact Command.maintains_silently (maintains (.connect hD · address on))
  | disconnect => exact Command.maintains_silently (maintains (.disconnect hD))
  | hangUp =>
      refine Command.maintains_silently (maintains fun {s} hs => ?_)
      have hretains := hD.hangUp s.wire.world
      exact ⟨hretains, ⟨[], (List.append_nil _).symm, fun _ he => absurd he List.not_mem_nil⟩,
        fun d hd => (hs d hd).mono hretains⟩
  | _ => exact Command.OnlyLooks.maintains trivial

end Offered

/-- Work that is put together from commands and units makes no request of a connection that does not
offer what it needs. -/
theorem Commanded.offered (hD : D.Steady known) {work : Act World α} (h : Commanded D work) :
    ∀ s₀, Maintains (Offered D known s₀) work := by
  induction h with
  | aside h =>
      intro s₀ s hs
      obtain ⟨hwire, hsession⟩ := h s
      exact hs.trans (.unseen hs.served hwire (congrArg Session.connection hsession))
  | command command => exact fun _ => Offered.command hD command
  | bind _ _ iha ihf => exact fun s₀ => (iha s₀).bind fun v => ihf v s₀
  | caught _ iha => exact fun s₀ => (iha s₀).observe
  | unit propagate _ ih =>
      intro s₀ s hs
      exact ((Offered.outlives_steering hD fun _ => True).transact
        (fun s hs => ⟨ih s₀ s hs.1, trivial⟩) propagate s ⟨hs, trivial⟩).1

/-- The driver whose connections say of savepoints what they are told to, and are otherwise the
same. -/
def Driver.withSavepoints (D : Driver Address World) (offer : ConnId → World → Bool) :
    Driver Address World :=
  { D with capabilities := fun c w => { D.capabilities c w with savepoints := offer c w } }

/-- Whether savepoints are offered makes no difference to a command. -/
theorem Command.run_withSavepoints (offer : ConnId → World → Bool) (command : Command Address) :
    command.run (D.withSavepoints offer) = command.run D := by
  cases command <;> rfl

/-- Whether savepoints are offered makes no difference to anything. -/
theorem Work.run_withSavepoints (offer : ConnId → World → Bool) (work : Work Address) :
    work.run (D.withSavepoints offer) = work.run D := by
  induction work with
  | done => rfl
  | command c guarded rest ih =>
      unfold Work.run
      rw [ih, Command.run_withSavepoints]
  | transact propagate guarded body rest ihbody ihrest =>
      unfold Work.run
      rw [ihbody, ihrest]
      rfl

/-- A unit inside another asks for its savepoint before anything else, on any connection. -/
theorem transact_sets_savepoint (hD : D.Steady known) {work : Act World α}
    (hwork : Commanded D work) {s : State World} (hs : s.Served D known) {c : ConnId}
    (hc : s.session.connection = some c) (hin : s.session.inTransaction = true)
    (propagate : Bool) :
    ∃ more, (run (transact D propagate work) s).2.wire.trace =
      s.wire.trace ++ .sent c (.query (savepointStatement s.nextSavepoint)) :: more := by
  rw [run_transact, unitBody_inside D hin, (recorded_beside _ _).1]
  rcases hset : D.send c (.query (savepointStatement s.nextSavepoint)) s.wire with ⟨answer, w⟩
  have htrace : w.trace = s.wire.trace ++ _ := trace_send _ hset
  have hsent : Offered D known s.ticked (s.ticked.onto w) := by
    have hsavepoint := Request.Steers.savepoint s.nextSavepoint
    have h := Offered.send (s := s.ticked) hD hs hc hsavepoint
    have hset' : D.send c (.query (savepointStatement s.nextSavepoint)) s.ticked.wire =
        (answer, w) := hset
    rw [hset'] at h
    exact h
  -- Whatever follows the savepoint only adds to the trace.
  have hfollowed : Offered D known (s.ticked.onto w) (run (nested D work) s).2 := by
    have hrefl := Offered.refl hsent.served
    cases answer with
    | error e =>
        rw [run_nested_of_refused D hc hset]
        exact hrefl
    | ok reply =>
        have H : Steered D fun s' => Offered D known (s.ticked.onto w) s' ∧ True :=
          Offered.outlives_steering hD fun _ => True
        have hkept := H.within (fun s hs => ⟨hwork.offered hD _ s hs.1, trivial⟩)
          (some s.nextSavepoint) (s.ticked.onto w) ⟨hrefl, trivial⟩
        rcases hrun : run work ((s.ticked.onto w).entering (some s.nextSavepoint)) with ⟨r, s'⟩
        rw [run_within, hrun] at hkept
        rw [run_nested_of_set D hc hset work hrun]
        cases r with
        | ok a => exact hkept.1
        | error e =>
            have hundone := (H.issue (Request.Steers.rollbackTo s.nextSavepoint)).observe
            exact ((H.revive.bind fun _ => hundone.bind fun _ => Maintains.pure _) _ hkept).1
  obtain ⟨own, hown, -⟩ := hfollowed.requests
  refine ⟨Driver.ending answer :: own, ?_⟩
  rw [hown]
  show w.trace ++ own = _
  rw [htrace, List.append_assoc]
  rfl

/-- On a steady driver no request goes to a connection that does not offer what it needs, whatever
commands and units a session runs.  In its place the call fails and asks nothing of the driver: a
session does not take a connection that lacks prepared statements or transactions, and inserts no
large batch on one that does not load files.  Savepoints are the exception.  Whether they are
offered makes no difference, and a unit inside another asks for one first thing. -/
theorem only_offered_requests (hD : D.Steady known) :
    (∀ {α : Type} {work : Act World α}, Commanded D work → ∀ {s : State World},
        s.Served D known → Offered D known s (run work s).2) ∧
      (∀ {s : State World} {c : ConnId}, ¬ (D.capabilities c s.wire.world).Suffice →
        (D.capabilities c s.wire.world).preparedStatements = false ∧
            run (attach D c) s = (.error (.missingCapability .preparedStatements), s) ∨
          (D.capabilities c s.wire.world).transactions = false ∧
            run (attach D c) s = (.error (.missingCapability .transactions), s)) ∧
      (∀ {s : State World} {c : ConnId} {st : Settings} {table : String} {columns : List String}
        {rows : List (List Cell)} {changes : Option Json},
        s.session.connection = some c → (D.capabilities c s.wire.world).bulkLoad = false →
        (Command.insertRows table columns rows changes : Command Address).Under s st →
        fitsInline st rows.length = false → ragged? columns.length rows = none →
        run ((Command.insertRows table columns rows changes).run D) s =
          (.error (.missingCapability .bulkLoad), s)) ∧
      (∀ (offer : ConnId → World → Bool) (work : Work Address),
        work.run (D.withSavepoints offer) = work.run D) ∧
      ∀ {α : Type} {work : Act World α}, Commanded D work → ∀ {s : State World} {c : ConnId},
        s.Served D known → s.session.connection = some c → s.session.inTransaction = true →
        ∀ propagate, ∃ more, (run (transact D propagate work) s).2.wire.trace =
          s.wire.trace ++ .sent c (.query (savepointStatement s.nextSavepoint)) :: more := by
  refine ⟨fun hwork s hs => hwork.offered hD s s (.refl hs), Offered.run_attach_of_lacking, ?_,
    Work.run_withSavepoints, fun hwork s c hs hc hin propagate =>
      transact_sets_savepoint hD hwork hs hc hin propagate⟩
  intro s c st table columns rows changes hc hbulk hunder hlarge heven
  rw [Command.run_insertRows hunder hlarge heven, run_bulkLoad_of_missing hc hbulk]
  rfl

end

/-- A connection that does not offer savepoints, and a unit inside another on it. -/
theorem only_offered_requests_of_units :
    let scenario : Scenario := ⟨⟨true, true, false, true⟩, "main", [], [], 0, 0⟩
    let bench : Bench Engine.small :=
      ⟨[⟨⟨[], [], [], [], none, [], false⟩, .scripted (.opened scenario), ""⟩]⟩
    let s : State (Bench Engine.small) :=
      { wire := ⟨bench, []⟩
        session := { Session.new with connection := some 0 }
        defaults := .builtin
        clock := id
        reports := [] }
    let work : Work (Endpoint Engine.small) :=
      .transact true false (.transact true false .done .done) .done
    Offered Bench.driver Bench.Holds s (run (work.run Bench.driver) s).2 ∧
      .sent 0 (.query "SAVEPOINT `sp_00000000000000000000_1`") ∈
        (run (work.run Bench.driver) s).2.wire.trace ∧
      (Bench.driver.capabilities 0 (run (work.run Bench.driver) s).2.wire.world).savepoints =
        false := by
  intro scenario bench s work
  have hserved : s.Served Bench.driver Bench.Holds := by
    intro c hc
    obtain rfl := Option.some.inj hc
    exact ⟨Nat.zero_lt_one, rfl, rfl⟩
  have hoffered := (only_offered_requests Bench.steady).1 (Work.commanded Bench.driver work) hserved
  exact ⟨hoffered, by decide +kernel, by decide +kernel⟩

end SlotQuery
