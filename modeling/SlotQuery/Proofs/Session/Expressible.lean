import SlotQuery.Proofs.Session.Exposed

/-!
# Whatever a unit of work can do

Orderly work stays on the connection that its unit started on.  A session lets a unit of work do
more: it may close the connection, take another one, change the autocommit flag, or ask the driver
directly for anything at all.  `Expressible` is all work of this kind.

Such work can lose the connection of its unit in one way only, and that shows on the trace: the
connection was asked to close.  `Underway` is the invariant.  It says of a connection on which the
unit may have started that either the connection was asked to close since then, or the session is
still on it, everything that was written concerns it, and an outermost unit that counts as settled
has asked it for a commit or a rollback.  Every command keeps this (`Underway.command`), so does a
unit inside another (`Underway.transact`), and by induction so does all expressible work
(`Expressible.maintains_underway`), for every unit that it is part of.
-/

namespace SlotQuery

open Act Session

variable {Address World α β : Type}

/-- Work put together from commands, from units, and from requests that are made of the session's
connection directly; whatever else it does, it leaves the wire and the session alone. -/
inductive Expressible (D : Driver Address World) : {α : Type} → Act World α → Prop
  | aside {α : Type} {a : Act World α}
      (h : ∀ s, (run a s).2.wire = s.wire ∧ (run a s).2.session = s.session) : Expressible D a
  | command (command : Command Address) : Expressible D (command.run D)
  | direct {α : Type} {m : ConnId → StateM (Wire World) α}
      (h : ∀ c, Driver.Emits c (fun _ => True) (m c)) :
      Expressible D (connected >>= fun c => onWire (m c))
  | bind {α β : Type} {a : Act World α} {f : α → Act World β}
      (ha : Expressible D a) (hf : ∀ v, Expressible D (f v)) : Expressible D (a >>= f)
  | caught {α : Type} {a : Act World α} (ha : Expressible D a) : Expressible D (observe a)
  | unit {α : Type} {work : Act World α} (propagate : Bool) (h : Expressible D work) :
      Expressible D (transact D propagate work)

/-- Work put together from commands and units alone; whatever else it does, it leaves the wire and
the session alone. -/
inductive Commanded (D : Driver Address World) : {α : Type} → Act World α → Prop
  | aside {α : Type} {a : Act World α}
      (h : ∀ s, (run a s).2.wire = s.wire ∧ (run a s).2.session = s.session) : Commanded D a
  | command (command : Command Address) : Commanded D (command.run D)
  | bind {α β : Type} {a : Act World α} {f : α → Act World β}
      (ha : Commanded D a) (hf : ∀ v, Commanded D (f v)) : Commanded D (a >>= f)
  | caught {α : Type} {a : Act World α} (ha : Commanded D a) : Commanded D (observe a)
  | unit {α : Type} {work : Act World α} (propagate : Bool) (h : Commanded D work) :
      Commanded D (transact D propagate work)

/-- The event is about a connection, or sets the flag of some connection: of one that is being
opened, the flag may be set before the session takes it. -/
def Event.Concerns (c : ConnId) : Event → Prop
  | sent d r => d = c ∨ ∃ on, r = .autocommit on
  | alive d _ => d = c
  | accepted => True
  | refused _ => True

/-- What is allowed on a connection concerns it. -/
theorem Event.Allowed.concerns {c : ConnId} {ok : Request → Prop} {e : Event}
    (h : e.Allowed c ok) : e.Concerns c := by
  cases e with
  | sent d r => exact .inl h.1
  | alive d answer => exact h
  | accepted => trivial
  | refused e => trivial

theorem Event.concerns_ending (c : ConnId) (answer : Except DriverError α) :
    (Driver.ending answer).Concerns c := by
  cases answer <;> trivial

/-- A call concerns its connection. -/
theorem concerns_call (c : ConnId) (r : Request) (answer : Except DriverError α) :
    ∀ e ∈ Driver.call c r answer, e.Concerns c := by
  intro e he
  simp only [Driver.call, List.mem_cons, List.not_mem_nil, or_false] at he
  rcases he with rfl | rfl
  · exact .inl rfl
  · exact Event.concerns_ending c answer

/-- The connection was asked to close since the unit started. -/
def Closed (c : ConnId) (site : Site) (s : State World) : Prop :=
  ∃ own, s.wire.trace = site.start ++ own ∧ .sent c .close ∈ own

/-- The session is on the connection and has kept to it since the unit started.  If the unit is an
outermost one and counts as settled, the connection was asked for a commit or a rollback. -/
structure Attached (c : ConnId) (site : Site) (s : State World) (own : List Event) : Prop where
  trace : s.wire.trace = site.start ++ own
  connection : s.session.connection = some c
  concerns : ∀ e ∈ own, e.Concerns c
  asked : site.guard = none → s.settled = true →
    .sent c .commit ∈ own ∨ .sent c .rollback ∈ own

/-- A unit is running at a site, on a session whose connection is as said, and has kept to a given
connection unless that was asked to close. -/
structure Underway (on : Option ConnId → Prop) (c : ConnId) (site : Site) (s : State World) :
    Prop where
  connection : on s.session.connection
  scopes : ∃ settled, s.session.scopes = ⟨site.guard, settled⟩ :: site.outer
  account : Closed c site s ∨ ∃ own, Attached c site s own

section

variable {D : Driver Address World} {on : Option ConnId → Prop} {c d : ConnId} {site : Site}
variable {s s' : State World}

/-- A connection that was asked to close stays one however the trace goes on. -/
theorem Closed.extend (h : Closed c site s) {more : List Event}
    (htrace : s'.wire.trace = s.wire.trace ++ more) : Closed c site s' := by
  obtain ⟨own, hown, hclose⟩ := h
  refine ⟨own ++ more, ?_, List.mem_append_left more hclose⟩
  rw [htrace, hown, List.append_assoc]

/-- More events that concern the connection, while the session stays on it and its units stay as
they are. -/
theorem Attached.extend {own : List Event} (h : Attached c site s own)
    (hconn : s'.session.connection = some c) (hscopes : s'.session.scopes = s.session.scopes)
    {more : List Event} (htrace : s'.wire.trace = s.wire.trace ++ more)
    (hmore : ∀ e ∈ more, e.Concerns c) : Attached c site s' (own ++ more) where
  trace := by rw [htrace, h.trace, List.append_assoc]
  connection := hconn
  concerns e he := (List.mem_append.mp he).elim (h.concerns e) (hmore e)
  asked hguard hsettled := by
    rw [State.settled, hscopes] at hsettled
    exact (h.asked hguard hsettled).imp (List.mem_append_left more) (List.mem_append_left more)

namespace Underway

/-- What keeps the connection and the scopes, and adds only events that concern the connection. -/
theorem extend (hs : Underway on c site s)
    (hconn : s'.session.connection = s.session.connection)
    (hscopes : s'.session.scopes = s.session.scopes) {more : List Event}
    (htrace : s'.wire.trace = s.wire.trace ++ more)
    (hmore : ∀ d, s.session.connection = some d → ∀ e ∈ more, e.Concerns d) :
    Underway on c site s' where
  connection := hconn ▸ hs.connection
  scopes := hscopes ▸ hs.scopes
  account := by
    rcases hs.account with hclosed | ⟨own, hown⟩
    · exact .inl (hclosed.extend htrace)
    · exact .inr ⟨own ++ more, hown.extend (hconn.trans hown.connection) hscopes htrace
        (hmore c hown.connection)⟩

/-- A change that shows neither on the wire nor in the connection and the scopes. -/
theorem unseen (hs : Underway on c site s) (htrace : s'.wire.trace = s.wire.trace)
    (hconn : s'.session.connection = s.session.connection)
    (hscopes : s'.session.scopes = s.session.scopes) : Underway on c site s' := by
  refine hs.extend hconn hscopes (htrace.trans (List.append_nil _).symm) fun d _ e he => ?_
  cases he

theorem weaken {on' : Option ConnId → Prop} (h : ∀ k, on k → on' k) (hs : Underway on c site s) :
    Underway on' c site s :=
  ⟨h _ hs.connection, hs.scopes, hs.account⟩

/-- What is asked of the session's own connection concerns the unit. -/
theorem onWire (hon : ∀ k, on k → k = some d) {m : StateM (Wire World) α}
    (hm : Driver.Emits d (fun _ => True) m) : Maintains (Underway on c site) (Act.onWire m) := by
  intro s hs
  obtain ⟨more, htrace, hmore⟩ := hm s.wire
  refine hs.extend rfl rfl htrace fun d' hd' e he => ?_
  have hsame : d' = d := Option.some.inj (hd'.symm.trans (hon _ hs.connection))
  exact hsame ▸ (hmore e he).concerns

/-- What is done on the session's connection may count on its being there. -/
theorem connected_bind {f : ConnId → Act World α}
    (hf : ∀ d, Maintains (Underway (fun k => on k ∧ k = some d) c site) (f d)) :
    Maintains (Underway on c site) (connected >>= f) := by
  intro s hs
  cases hconn : s.session.connection with
  | none =>
      rw [run_bind_of_error (run_connected_of_none hconn)]
      exact hs
  | some d =>
      rw [run_connected_bind hconn]
      exact (hf d s ⟨⟨hs.connection, hconn⟩, hs.scopes, hs.account⟩).weaken fun _ h => h.1

/-- A statement of the session itself keeps the account of the unit. -/
theorem issue (sql : String) : Maintains (Underway on c site) (issue D sql) := by
  unfold Session.issue
  refine connected_bind fun d => ?_
  refine (onWire (fun _ h => h.2) (D.emits_send (r := .query sql) trivial)).bind fun answer => ?_
  cases answer with
  | ok a => exact Maintains.pure _
  | error e => exact Maintains.throw _

theorem revive : Maintains (Underway on c site) (revive D) := by
  intro s hs
  cases hconn : s.session.connection with
  | none =>
      have hidle : run (Session.revive D) s = (.ok (), s) := by
        unfold Session.revive
        rw [run_get_bind, hconn]
        rfl
      rw [hidle]
      exact hs
  | some d =>
      obtain ⟨revival, htrace, hrevival⟩ := trace_revived (D := D) (c := d) s.wire
      rw [run_revive D hconn]
      refine hs.extend rfl rfl htrace fun d' hd' e he => ?_
      obtain rfl : d = d' := Option.some.inj (hconn.symm.trans hd')
      exact (hrevival.permitted none e he).concerns

/-- The work of a unit starts on the connection of the session. -/
theorem enter (hon : on s.session.connection) (hconn : s.session.connection = some d)
    (guard : Option String) :
    Underway on d ⟨guard, s.session.scopes, s.wire.trace⟩ (s.entering guard) :=
  ⟨hon, ⟨false, rfl⟩, .inr ⟨[], (List.append_nil _).symm, hconn,
    fun _ he => absurd he List.not_mem_nil, fun _ hsettled => absurd hsettled Bool.false_ne_true⟩⟩

/-- The work of a unit inside the running one has ended, and whatever it did to its own connection
it did to that of the running one, if this still had it. -/
theorem leave (hs : Underway on c site s) (hconn : s.session.connection = some d)
    {before : List Event} (hbefore : ∀ e ∈ before, e.Concerns d) {guard : Option String}
    (hs' : Underway on d ⟨guard, s.session.scopes, s.wire.trace ++ before⟩ s') :
    Underway on c site s'.leaving := by
  obtain ⟨settled, hscopes⟩ := hs'.scopes
  have hsame : s'.leaving.session.scopes = s.session.scopes := by
    show s'.session.scopes.tail = _
    rw [hscopes]
    rfl
  refine ⟨hs'.connection, hsame ▸ hs.scopes, ?_⟩
  have hended : ∃ own, s'.wire.trace = s.wire.trace ++ before ++ own := by
    rcases hs'.account with ⟨own, hown, -⟩ | ⟨own, hown⟩
    · exact ⟨own, hown⟩
    · exact ⟨own, hown.trace⟩
  rcases hs.account with hclosed | ⟨own, hown⟩
  · obtain ⟨more, hmore⟩ := hended
    rw [List.append_assoc] at hmore
    exact .inl (hclosed.extend hmore)
  · obtain rfl : c = d := Option.some.inj (hown.connection.symm.trans hconn)
    rcases hs'.account with ⟨own', hown', hclose⟩ | ⟨own', hown'⟩
    · refine .inl ⟨own ++ (before ++ own'), ?_, ?_⟩
      · show s'.wire.trace = _
        rw [hown', hown.trace]
        simp only [List.append_assoc]
      · exact List.mem_append_right _ (List.mem_append_right _ hclose)
    · have hconn' : s'.leaving.session.connection = some c := hown'.connection
      refine .inr ⟨own ++ (before ++ own'), hown.extend hconn' hsame ?_ fun e he => ?_⟩
      · show s'.wire.trace = _
        rw [hown'.trace, List.append_assoc]
      · exact (List.mem_append.mp he).elim (hbefore e) (hown'.concerns e)

/-- A unit inside the running one keeps it going, if its work keeps every unit going. -/
theorem nested {work : Act World α} (hwork : ∀ c site, Maintains (Underway on c site) work) :
    Maintains (Underway on c site) (nested D work) := by
  intro s hs
  cases hconn : s.session.connection with
  | none =>
      rw [run_nested_of_none D hconn]
      exact hs.unseen rfl rfl rfl
  | some d =>
      rcases hset : D.send d (.query (savepointStatement s.nextSavepoint)) s.wire with
        ⟨e | reply, w⟩
      · rw [run_nested_of_refused D hconn hset]
        refine hs.extend rfl rfl (trace_send _ hset) fun d' hd' => ?_
        obtain rfl : d = d' := Option.some.inj (hconn.symm.trans hd')
        exact concerns_call d _ _
      · rcases hrun : run work ((s.ticked.onto w).entering (some s.nextSavepoint)) with ⟨r, s'⟩
        have hended := hwork d _ _
          (enter (s := s.ticked.onto w) hs.connection hconn (some s.nextSavepoint))
        have hset' : (s.ticked.onto w).wire.trace = s.wire.trace ++ _ := trace_send _ hset
        rw [hrun, hset'] at hended
        have hleft := hs.leave hconn (concerns_call d _ _) hended
        rw [run_nested_of_set D hconn hset work hrun]
        cases r with
        | ok a => exact hleft
        | error e =>
            refine Maintains.bind revive (fun _ => ?_) s'.leaving hleft
            exact (issue _).observe.bind fun _ => Maintains.pure _

theorem inTransaction (hs : Underway on c site s) : s.session.inTransaction = true := by
  obtain ⟨settled, hscopes⟩ := hs.scopes
  exact State.inTransaction_of_cons hscopes

/-- A unit inside another keeps the account of the outer one. -/
theorem transact {work : Act World α} (hwork : ∀ c site, Maintains (Underway on c site) work)
    (propagate : Bool) : Maintains (Underway on c site) (transact D propagate work) := by
  intro s hs
  have hended := nested (D := D) hwork s hs
  obtain ⟨hwire, hconn, hscopes⟩ := recorded_beside (run (Session.nested D work) s).2
    (run (Session.nested D work) s).1
  rw [run_transact, unitBody_inside _ hs.inTransaction]
  exact hended.unseen (congrArg Wire.trace hwire) hconn hscopes

/-- Statements, scripts, files and units on the connection of the session. -/
theorem undisturbed (D : Driver Address World) (d : ConnId) :
    Undisturbed D d (fun _ => True) (fun _ => True)
      (fun i : ConnId × Site => Underway (· = some d) i.1 i.2) where
  connected hs := hs.connection
  aside hs hbeside := hs.unseen (congrArg Wire.trace hbeside.wire) hbeside.connection hbeside.scopes
  statement {p charset} _ _ :=
    onWire (fun _ h => h) (D.emits_performUnder (fun _ _ => trivial) charset p)
  batch {text charset} _ _ :=
    onWire (fun _ h => h) (D.emits_performBatch (fun _ _ => trivial) charset text)
  load _ _ file _ := onWire (fun _ h => h) (D.emits_load (fun _ _ => trivial) file)
  unit hwork propagate _ := transact (fun c site => hwork (c, site)) propagate

/-- Without a connection the session has lost the one of the unit. -/
theorem closed_of_disconnected (hs : Underway on c site s) (hconn : s.session.connection = none) :
    Closed c site s := by
  rcases hs.account with hclosed | ⟨own, hown⟩
  · exact hclosed
  · rw [hown.connection] at hconn
    cases hconn

/-- Whatever is done after the connection was asked to close. -/
theorem of_closed (hclosed : Closed c site s)
    (hscopes : ∃ settled, s.session.scopes = ⟨site.guard, settled⟩ :: site.outer) :
    Underway (fun _ => True) c site s :=
  ⟨trivial, hscopes, .inl hclosed⟩

/-- Disconnecting asks the connection of the unit to close, and leaves the units. -/
theorem closed_disconnect (hs : Underway on c site s) :
    Closed c site (run (disconnect D) s).2 ∧
      (run (disconnect D) s).2.session.scopes = s.session.scopes := by
  unfold Session.disconnect
  rw [run_get_bind]
  cases hconn : s.session.connection with
  | none => exact ⟨hs.closed_of_disconnected hconn, rfl⟩
  | some d =>
      dsimp only
      rw [run_updateSession_bind, run_onWire_bind]
      rcases hsent : D.send d .close s.wire with ⟨answer, w⟩
      have htrace : w.trace = s.wire.trace ++ Driver.call d .close answer := trace_send _ hsent
      have hclosed : Closed c site (s.onto w) := by
        rcases hs.account with hclosed | ⟨own, hown⟩
        · exact hclosed.extend htrace
        · obtain rfl : c = d := Option.some.inj (hown.connection.symm.trans hconn)
          refine ⟨own ++ Driver.call c .close answer, ?_, List.mem_append_right _ (.head _)⟩
          show w.trace = _
          rw [htrace, hown.trace, List.append_assoc]
      cases answer with
      | ok _ => exact ⟨hclosed, rfl⟩
      | error e => exact ⟨hclosed, rfl⟩

/-- Disconnecting keeps the account. -/
theorem disconnect : Maintains (Underway (fun _ => True) c site) (disconnect D) := by
  intro s hs
  obtain ⟨hclosed, hscopes⟩ := hs.closed_disconnect (D := D)
  exact of_closed hclosed (hscopes ▸ hs.scopes)

/-- Taking a connection keeps it. -/
theorem attach (d : ConnId) : Maintains (Underway (fun _ => True) c site) (attach D d) := by
  have htaken : Maintains (Underway (fun _ => True) c site) (do
      Session.disconnect D
      updateSession fun session => { session with connection := some d }) := by
    intro s hs
    obtain ⟨hclosed, hscopes⟩ := hs.closed_disconnect (D := D)
    rw [run_bind]
    rcases hrun : run (Session.disconnect D) s with ⟨_ | _, s'⟩
    · rw [hrun] at hclosed hscopes
      exact of_closed hclosed (hscopes ▸ hs.scopes)
    · rw [hrun] at hclosed hscopes
      exact of_closed (s := { s' with session := { s'.session with connection := some d } })
        hclosed (hscopes ▸ hs.scopes)
  unfold Session.attach
  refine Maintains.get.bind fun s => ?_
  exact (htaken.unless_throw _).unless_throw _

/-- Opening a connection keeps it. -/
theorem connect (address : Address) (autocommit : Option Bool) :
    Maintains (Underway (fun _ => True) c site) (connect D address autocommit) := by
  have hopened : Maintains (Underway (fun _ => True) c site)
      (Act.onWire (D.openConnection address autocommit)) := by
    intro s hs
    cases autocommit with
    | none => exact hs.unseen rfl rfl rfl
    | some flag =>
        refine hs.extend rfl rfl (trace_send (D := D) (c := (D.dial address s.wire.world).1)
          (.autocommit flag) (w := ⟨(D.dial address s.wire.world).2, s.wire.trace⟩) rfl) ?_
        intro d _ e he
        simp only [Driver.call, List.mem_cons, List.not_mem_nil, or_false] at he
        rcases he with rfl | rfl
        · exact .inr ⟨flag, rfl⟩
        · exact Event.concerns_ending d _
  unfold Session.connect
  refine hopened.bind fun answer => ?_
  cases answer with
  | ok d => exact attach d
  | error e => exact Maintains.throw _

/-- Settling marks the newest unit and no other. -/
theorem scopes_settle (hs : Underway on c site s) :
    (run settle s).2.session.scopes = ⟨site.guard, true⟩ :: site.outer := by
  obtain ⟨settled, hscopes⟩ := hs.scopes
  show s.session.scopes.modifyHead _ = _
  rw [hscopes]
  rfl

/-- A unit inside another may count as settled. -/
theorem settle (hs : Underway on c site s) {name : String} (hguard : site.guard = some name) :
    Underway on c site (run (Session.settle : Act World Unit) s).2 := by
  refine ⟨hs.connection, ⟨true, hs.scopes_settle⟩, ?_⟩
  rcases hs.account with hclosed | ⟨own, hown⟩
  · exact .inl hclosed
  · refine .inr ⟨own, hown.trace, hown.connection, hown.concerns, fun hnone => ?_⟩
    rw [hguard] at hnone
    cases hnone

/-- What a unit does after it counts as settled depends on what guards it. -/
theorem settle_bind {f : Option String → Act World Unit}
    (hinside : ∀ name, Maintains (Underway on c site) (f (some name)))
    (houtermost : ∀ s, Underway on c site s → site.guard = none →
      Underway on c site (run (f none) (run (Session.settle : Act World Unit) s).2).2) :
    Maintains (Underway on c site) (Session.settle >>= fun _ => guard? >>= f) := by
  intro s hs
  let marked := (run (Session.settle : Act World Unit) s).2
  have hsettle : run (Session.settle : Act World Unit) s = (.ok (), marked) := rfl
  have hguard : run (guard? : Act World (Option String)) marked = (.ok site.guard, marked) := by
    unfold guard?
    rw [run_get_bind, hs.scopes_settle]
    rfl
  rw [run_bind_of_ok hsettle, run_bind_of_ok hguard]
  cases hsite : site.guard with
  | none => exact houtermost s hs hsite
  | some name => exact hinside name marked (hs.settle hsite)

/-- An outermost unit that counts as settled asks for a commit or a rollback at once. -/
theorem settle_control (hs : Underway on c site s) {r : Request}
    (hr : r = .commit ∨ r = .rollback) :
    Underway on c site (run (connected >>= fun d => Session.control D d r)
      (run (Session.settle : Act World Unit) s).2).2 := by
  let marked := (run (Session.settle : Act World Unit) s).2
  cases hconn : s.session.connection with
  | none =>
      rw [run_bind_of_error (run_connected_of_none (s := marked) hconn)]
      exact ⟨hs.connection, ⟨true, hs.scopes_settle⟩, .inl (hs.closed_of_disconnected hconn)⟩
  | some d =>
      rw [run_connected_bind (s := marked) hconn, run_control]
      rcases hsent : D.send d r s.wire with ⟨answer, w⟩
      have hsent' : D.send d r marked.wire = (answer, w) := hsent
      have htrace := trace_send _ hsent
      rw [hsent']
      refine ⟨hs.connection, ⟨true, hs.scopes_settle⟩, ?_⟩
      rcases hs.account with hclosed | ⟨own, hown⟩
      · exact .inl (hclosed.extend htrace)
      · obtain rfl : c = d := Option.some.inj (hown.connection.symm.trans hconn)
        refine .inr ⟨own ++ Driver.call c r answer, ?_, hconn, fun e he => ?_, fun _ _ => ?_⟩
        · show w.trace = _
          rw [htrace, hown.trace, List.append_assoc]
        · exact (List.mem_append.mp he).elim (hown.concerns e) (concerns_call c r answer e)
        · rcases hr with rfl | rfl
          · exact .inl (List.mem_append_right _ (.head _))
          · exact .inr (List.mem_append_right _ (.head _))

theorem commit : Maintains (Underway on c site) (commit D) :=
  settle_bind (fun _ => Maintains.pure _) fun _ hs _ => hs.settle_control (.inl rfl)

theorem rollback : Maintains (Underway on c site) (rollback D) :=
  settle_bind (fun _ => issue _) fun _ hs _ => hs.settle_control (.inr rfl)

end Underway

/-- A session without a connection, and what stands in its wire and in its scopes. -/
structure Adrift (w : Wire World) (scopes : List Scope) (s : State World) : Prop where
  wire : s.wire = w
  connection : s.session.connection = none
  scopes : s.session.scopes = scopes

namespace Adrift

variable {w : Wire World} {scopes : List Scope}

/-- Without a connection, what is done on one is not done. -/
theorem connected_bind {f : ConnId → Act World α} :
    Maintains (Adrift w scopes) (connected >>= f) := by
  intro s hs
  rw [run_bind_of_error (run_connected_of_none hs.connection)]
  exact hs

/-- No unit starts without a connection. -/
theorem transact {work : Act World α} (propagate : Bool) :
    Maintains (Adrift w scopes) (transact D propagate work) := by
  intro s hs
  have hbody : Maintains (Adrift w scopes) (unitBody D s work) := by
    unfold unitBody
    split
    · intro s' hs'
      rw [run_nested_of_none D hs'.connection]
      exact ⟨hs'.wire, hs'.connection, hs'.scopes⟩
    · exact connected_bind
  obtain ⟨hwire, hconn, hscopes⟩ := recorded_beside (run (unitBody D s work) s).2
    (run (unitBody D s work) s).1
  rw [run_transact]
  have hended := hbody s hs
  exact ⟨hwire.trans hended.wire, hconn.trans hended.connection, hscopes.trans hended.scopes⟩

/-- No statement is sent without a connection. -/
theorem run (sql : String) (st : Settings) :
    Maintains (Adrift w scopes) (Session.run D sql st) := by
  intro s hs
  cases hp : Template.prepare st sql with
  | error e =>
      rw [run_of_rejected hp]
      exact ⟨hs.wire, hs.connection, hs.scopes⟩
  | ok p =>
      rw [run_of_unconnected hp hs.connection]
      exact ⟨hs.wire, hs.connection, hs.scopes⟩

theorem query (sql : String) (changes : Overrides) :
    Maintains (Adrift w scopes) (Session.query D sql changes) :=
  (Maintains.effective changes).bind fun st => run sql st

theorem runSaved (name : String) (changes : Overrides) :
    Maintains (Adrift w scopes) (Session.runSaved D name changes) := by
  refine Maintains.get.bind fun s => ?_
  cases s.session.savedQuery? name with
  | none => exact Maintains.throw _
  | some sql => exact query sql changes

theorem insertRows (table : String) (columns : List String) (rows : List (List Cell))
    (changes : Overrides) :
    Maintains (Adrift w scopes) (Session.insertRows D table columns rows changes) :=
  Maintains.insertRows (fun st sql _ => run sql st) fun _ => connected_bind

theorem runFile (file : ScriptFile) : Maintains (Adrift w scopes) (Session.runFile D file) := by
  unfold Session.runFile
  cases file.contents with
  | none => exact Maintains.throw _
  | some bytes =>
      dsimp only
      cases Text.decode? bytes with
      | none => exact Maintains.throw _
      | some text =>
          refine Maintains.bind (fun _ hs => hs) fun st => ?_
          exact (transact st.throwErrors).bind fun _ => Maintains.pure _

end Adrift

/-- A property outlives statements, scripts and files on every connection, if what is undisturbed
there makes up the property, and if the property does not depend on what a session does without a
connection. -/
theorem Command.RunsStatements.maintains {ι : Type} {I : State World → Prop}
    {J : ConnId → ι → State World → Prop} {i : ι}
    (H : ∀ d, Undisturbed D d (fun _ => True) (fun _ => True) (J d))
    (hon : ∀ {d s}, I s → s.session.connection = some d → J d i s)
    (hoff : ∀ {d s}, J d i s → I s)
    (hidle : ∀ {s s'}, I s → s'.wire = s.wire →
      s'.session.connection = s.session.connection → s'.session.scopes = s.session.scopes → I s')
    {command : Command Address} (h : command.RunsStatements) :
    Maintains I (command.run D) := by
  have hboth : ∀ {α : Type} {a : Act World α}, (∀ d, Maintains (J d i) a) →
      (∀ w scopes, Maintains (Adrift w scopes) a) → Maintains I a := by
    intro α a hconnected hadrift s hs
    cases hconn : s.session.connection with
    | none =>
        have hended := hadrift s.wire s.session.scopes s ⟨rfl, hconn, rfl⟩
        exact hidle hs hended.wire (hended.connection.trans hconn.symm) hended.scopes
    | some d => exact hoff (hconnected d s (hon hs hconn))
  cases command with
  | query sql changes =>
      refine (Command.maintains_overrides changes).bind fun o => ?_
      refine (hboth (fun d s hs => ?_) fun _ _ => Adrift.query sql o).bind fun _ =>
        Maintains.pure _
      exact (H d).query i hs fun _ _ _ _ => trivial
  | insertRows table columns rows changes =>
      refine (Command.maintains_overrides changes).bind fun o => ?_
      refine (hboth (fun d => ?_) fun _ _ => Adrift.insertRows table columns rows o).bind
        fun _ => Maintains.pure _
      exact (H d).insertRows i (fun _ _ _ _ _ => trivial) fun _ _ _ => trivial
  | runSaved name changes =>
      refine (Command.maintains_overrides changes).bind fun o => ?_
      refine (hboth (fun d s hs => ?_) fun _ _ => Adrift.runSaved name o).bind fun _ =>
        Maintains.pure _
      exact (H d).runSaved i hs fun _ _ _ _ _ _ => trivial
  | runFile file =>
      refine (hboth (fun d s hs => ?_) fun _ _ => Adrift.runFile file).bind fun _ =>
        Maintains.pure _
      exact (H d).runFile i hs fun _ _ _ _ => trivial
  | _ => exact h.elim

namespace Underway

/-- Every command keeps the account of every unit that it is part of. -/
theorem command (command : Command Address) :
    Maintains (Underway (fun _ => True) c site) (command.run D) := by
  cases command with
  | query | insertRows | runSaved | runFile =>
      exact Command.RunsStatements.maintains (i := (c, site)) (undisturbed D)
        (fun hs hconn => ⟨hconn, hs.scopes, hs.account⟩) (fun hs => hs.weaken fun _ _ => trivial)
        (fun hs hwire hconn hscopes => hs.unseen (congrArg Wire.trace hwire) hconn hscopes) trivial
  | configure | configureDefaults | resetConfiguration | resetDefaults | clearLog | saveQuery =>
      exact Command.OnlyAdjusts.maintains
        (fun _ _ hwire hconn hscopes hs => hs.unseen (congrArg Wire.trace hwire) hconn hscopes)
        trivial
  | hangUp => exact Command.maintains_silently fun s hs => hs.unseen rfl rfl rfl
  | connect address on => exact Command.maintains_silently (connect address on)
  | disconnect => exact Command.maintains_silently disconnect
  | setAutocommit flag =>
      refine Command.maintains_silently (connected_bind fun d => ?_)
      refine (onWire (fun _ h => h.2) (D.emits_send (r := .autocommit flag) trivial)).bind
        fun answer => ?_
      cases answer with
      | ok a => exact Maintains.pure _
      | error e => exact Maintains.throw _
  | commit => exact Command.maintains_silently commit
  | rollback => exact Command.maintains_silently rollback
  | savepoint name => exact Command.maintains_silently (issue (savepointStatement name))
  | rollbackTo name => exact Command.maintains_silently (issue (rollbackToStatement name))
  | _ => exact Command.OnlyLooks.maintains trivial

end Underway

end

namespace Expressible

variable {D : Driver Address World} {work : Act World α}

/-- Expressible work keeps every unit going that it is part of. -/
theorem maintains_underway (h : Expressible D work) :
    ∀ c site, Maintains (Underway (fun _ => True) c site) work := by
  induction h with
  | aside h =>
      intro c site s hs
      obtain ⟨hwire, hsession⟩ := h s
      exact hs.unseen (congrArg Wire.trace hwire) (congrArg Session.connection hsession)
        (congrArg Session.scopes hsession)
  | command command => exact fun _ _ => Underway.command command
  | direct h =>
      intro c site
      exact Underway.connected_bind fun d => Underway.onWire (fun _ hd => hd.2) (h d)
  | bind _ _ iha ihf => exact fun c site => (iha c site).bind fun v => ihf v c site
  | caught _ iha => exact fun c site => (iha c site).observe
  | unit propagate _ ih => exact fun _ _ => Underway.transact ih propagate

/-- What the work of an outermost unit leaves behind.  It has only written more; and unless it asked
the connection that it started on to close, it has kept to that. -/
theorem outermost_account (h : Expressible D work) {c : ConnId} {s : State World}
    (hc : s.session.connection = some c) (hout : s.session.inTransaction = false) :
    ∃ own, (run work (s.starting D c)).2.wire.trace = (s.starting D c).wire.trace ++ own ∧
      (.sent c .close ∈ own ∨ Attached c ⟨none, s.session.scopes, (s.starting D c).wire.trace⟩
        (run work (s.starting D c)).2 own) := by
  rw [State.starting, hout, if_neg Bool.false_ne_true]
  have hended := h.maintains_underway c _ _
    (Underway.enter (s := s.onto (D.send c .begin (D.send c (.autocommit false) s.wire).2).2)
      trivial hc none)
  rcases hended.account with ⟨own, hown, hclose⟩ | ⟨own, hown⟩
  · exact ⟨own, hown, .inl hclose⟩
  · exact ⟨own, hown.trace, .inr hown⟩

end Expressible

/-- Commands and units alone are expressible. -/
theorem Commanded.expressible {D : Driver Address World} {work : Act World α}
    (h : Commanded D work) : Expressible D work := by
  induction h with
  | aside h => exact .aside h
  | command command => exact .command command
  | bind _ _ iha ihf => exact .bind iha ihf
  | caught _ iha => exact .caught iha
  | unit propagate _ ih => exact .unit propagate ih

/-- Orderly work is put together from commands and units. -/
theorem Orderly.commanded {D : Driver Address World} {work : Act World α}
    (h : Orderly D work) : Commanded D work := by
  induction h with
  | aside h => exact .aside h
  | @command command _ => exact .command command
  | bind _ _ iha ihf => exact .bind iha ihf
  | caught _ iha => exact .caught iha
  | unit propagate _ ih => exact .unit propagate ih

/-- Orderly work is expressible. -/
theorem Orderly.expressible {D : Driver Address World} {work : Act World α}
    (h : Orderly D work) : Expressible D work :=
  h.commanded.expressible

/-- Every tree of commands and units is put together from these alone. -/
theorem Work.commanded (D : Driver Address World) (work : Work Address) :
    Commanded D (work.run D) := by
  have hguard : ∀ {α : Type} guarded (result : Except Error α),
      Commanded D (Work.unlessGuarded guarded result) :=
    fun guarded result => (Work.orderly_unlessGuarded guarded result).commanded
  have hreport : ∀ r : View → Report, Commanded D (Work.report r : Act World Unit) :=
    fun r => (Orderly.report r).commanded
  induction work with
  | done => exact (Orderly.pure ()).commanded
  | command c guarded rest ih =>
      exact .bind (.caught (.command c)) fun result => .bind (hreport _) fun _ =>
        .bind (hguard guarded result) fun _ => ih
  | transact propagate guarded body rest ihbody ihrest =>
      have hentry : Commanded D (Work.reportEntry : Act World Unit) :=
        .bind (.aside fun _ => ⟨rfl, rfl⟩) fun _ => hreport _
      have hunit : Commanded D
          (Session.transact D propagate do Work.reportEntry; body.run D) :=
        .unit propagate (.bind hentry fun _ => ihbody)
      have htold : ∀ value : Option Unit, Commanded D (pure value.isSome : Act World Bool) :=
        fun value => (Orderly.pure _).commanded
      refine .bind Orderly.get.commanded fun s => ?_
      refine .bind (.caught (.bind hunit htold)) fun result => ?_
      exact .bind Orderly.get.commanded fun s' => .bind (hreport _) fun _ =>
        .bind (hguard guarded result) fun _ => ihrest

end SlotQuery
