import SlotQuery.Proofs.Driver.Bench
import SlotQuery.Proofs.Session.Insertion
import SlotQuery.Proofs.Session.Maintains
import SlotQuery.Proofs.Session.Savepoints
import SlotQuery.Proofs.Session.Transact

/-!
# What a running unit of work can go back to

On an embedded connection the stack of running units and the stack of savepoints grow together.
A `Footing` is what a unit found when it started, and `Standing` says that it is still there: the
transaction goes back to the same contents, and below the savepoints that were set since, none of
which could be mistaken for the unit's own or for one of an outer unit, lie the ones that were
set before.  The savepoints that the unit itself set and has not gone back over are live, and
stand among the newer ones in their order.

Everything that a session does with a connection, and that is not control of the transaction,
leaves a standing unit standing (`Standing.undisturbed`).  So do units inside it, whatever
becomes of them: `nested_refused` is about those that the engine does not let start,
`nested_starts` says where the others start, and `nested_ends` where they leave the database.
-/

namespace SlotQuery

open Act Session
open Engine (Ledger Transaction Savepoint Step sameName Holdable)

variable {E : Engine} {α : Type} {c : ConnId}

/-- What the database behind the connection holds, and the transaction that runs on it. -/
def State.ledger? (c : ConnId) (s : State (Bench E)) : Option (Ledger E.Contents) :=
  s.wire.world.ledger? c

/-- What the database holds, as the session sees it. -/
def State.contents (c : ConnId) (s : State (Bench E)) : Option E.Contents :=
  (s.ledger? c).map Ledger.contents

/-- The savepoint is not one that guards a unit at the given depth or further out. -/
def Foreign {Contents : Type} (depth : Nat) (p : Savepoint Contents) : Prop :=
  ∀ clock d, d ≤ depth → sameName p.name (savepointName clock d) = false

/-- What a unit found when it started. -/
structure Footing (Contents : Type) where
  /-- The savepoint that guards the unit. -/
  guard : Option String
  outer : List Scope
  /-- The contents when the transaction began. -/
  base : Contents
  /-- The savepoints that had been set, the unit's own first. -/
  below : List (Savepoint Contents)

/-- The unit's own savepoint is the newest of those that had been set. -/
def Footing.Grounded {Contents : Type} (f : Footing Contents) : Prop :=
  ∀ name, f.guard = some name → ∃ clock contents older,
    name = savepointName clock f.outer.length ∧ f.below = ⟨name, contents⟩ :: older

/-- The unit is running, and what it started from is still there.  `live` are the names of the
savepoints that it set and has not gone back over, the newest first. -/
structure Standing (c : ConnId) (f : Footing E.Contents) (live : List String)
    (s : State (Bench E)) : Prop where
  grounded : f.Grounded
  connection : s.session.connection = some c
  scopes : ∃ settled, s.session.scopes = ⟨f.guard, settled⟩ :: f.outer ∧
    (f.guard = none → settled = false)
  savepoints : ∃ own, s.wire.world.Has c (Embedded.Open (some ⟨f.base, own ++ f.below⟩)) ∧
    (∀ p ∈ own, Foreign f.outer.length p) ∧ live.Sublist (own.map Savepoint.name)
  holdable : ∀ name ∈ live, Holdable name

section

variable {w : Wire (Bench E)} {l l' : Ledger E.Contents}

/-- A connection has an open transaction when its ledger does. -/
theorem has_open_iff {t : Option (Transaction E.Contents)} {b : Bench E} :
    b.Has c (Embedded.Open t) ↔ ∃ l, b.ledger? c = some l ∧ l.transaction = t := by
  constructor
  · rintro ⟨e, he, l, hl, ht⟩
    exact ⟨l, Bench.ledger?_eq_some_iff.mpr ⟨e, he, hl⟩, ht⟩
  · rintro ⟨l, hl, ht⟩
    obtain ⟨e, he, hsome⟩ := Bench.ledger?_eq_some_iff.mp hl
    exact ⟨e, he, l, hsome, ht⟩

/-- A request that is granted, on the wire. -/
theorem exists_send {r : Request}
    (h : (∃ a, (Bench.respond c r w.world).1 = .ok a) ∧
      (Bench.respond c r w.world).2.ledger? c = some l') :
    ∃ a w', Bench.driver.send c r w = (.ok a, w') ∧ w'.world.ledger? c = some l' := by
  obtain ⟨⟨a, ha⟩, hl⟩ := h
  exact ⟨a, (Bench.driver.send c r w).2, Prod.ext ha rfl, hl⟩

/-- What has become of a step that was asked for on the wire. -/
theorem stepped_of_send (hE : E.Transactional) (step : Step) (hstep : step.Holdable)
    (hl : w.world.ledger? c = some l) {answer : Except DriverError step.request.Answer}
    {w' : Wire (Bench E)} (hsent : Bench.driver.send c step.request w = (answer, w')) :
    ∃ l', w'.world.ledger? c = some l' ∧ l.Stepped step answer l' := by
  obtain ⟨l', hl', hstepped⟩ := Bench.respond_stepped hE _ hstep hl
  obtain ⟨rfl, rfl⟩ := Prod.mk.inj hsent
  exact ⟨l', hl', hstepped⟩

/-- A step that was asked for on the wire and refused has changed nothing. -/
theorem has_of_refused_send (hE : E.Transactional) (step : Step) (hstep : step.Holdable)
    {found : Option (Ledger E.Contents)} (h : w.world.Has c fun e => e.ledger? = found)
    {error : DriverError} {w' : Wire (Bench E)}
    (hsent : Bench.driver.send c step.request w = (.error error, w')) :
    w'.world.Has c fun e => e.ledger? = found := by
  obtain ⟨hanswer, rfl⟩ := Prod.mk.inj hsent
  exact Bench.has_of_refused hE _ hstep h hanswer

/-- A step that was taken on the wire was taken on an open connection. -/
theorem open_of_send (step : Step) {e : Embedded E} (he : w.world.embedded? c = some e)
    {a : step.request.Answer} {w' : Wire (Bench E)}
    (hsent : Bench.driver.send c step.request w = (.ok a, w')) : ∃ l, e.ledger? = some l :=
  Bench.open_of_taken step he (Prod.mk.inj hsent).1

/-- A connection that is alive is not opened again. -/
theorem ledger?_revived (hE : E.Transactional) (h : w.world.ledger? c = some l) :
    (revived Bench.driver c w).world.ledger? c = some l := by
  obtain ⟨hanswer, hl⟩ := Bench.respond_isAlive hE h
  have halive : (Bench.driver.isAlive c w).1 = true := Driver.isAlive_of_respond hanswer
  rw [revived, if_pos halive]
  exact hl

end

/-- The transaction that runs, or the one that a savepoint would begin. -/
def Engine.Ledger.current {Contents : Type} (l : Ledger Contents) : Transaction Contents :=
  l.transaction.getD ⟨l.contents, []⟩

/-- What a unit finds that starts inside the running one, with the ledger as it is. -/
def Footing.inside (s : State (Bench E)) (l : Ledger E.Contents) : Footing E.Contents where
  guard := some s.nextSavepoint
  outer := s.session.scopes
  base := l.current.base
  below := ⟨s.nextSavepoint, l.contents⟩ :: l.current.savepoints

section

variable {s : State (Bench E)} {l : Ledger E.Contents} (hE : E.Transactional)
variable (hc : s.session.connection = some c) (hin : s.session.inTransaction = true)
variable (hl : s.ledger? c = some l) (hstart : s.Starts Bench.driver c)

include hE hc hin hstart

include hl in
/-- A unit inside another that starts does so with its savepoint on top of what was there, and the
contents as they were. -/
theorem nested_starts :
    Standing c (.inside s l) [] (s.starting Bench.driver c) ∧
      (s.starting Bench.driver c).ledger? c = some (l.savepoint s.nextSavepoint) := by
  have hname := holdable_savepointName (s.clock 0) s.session.scopes.length
  obtain ⟨reply, w, hset, hstarting⟩ := hstart.exists_set hin
  obtain ⟨l', hl', hstepped⟩ :=
    stepped_of_send hE (.savepoint s.nextSavepoint) hname hl hset
  obtain rfl : l.savepoint s.nextSavepoint = l' := Option.some.inj hstepped
  rw [hstarting]
  refine ⟨⟨?_, hc, ⟨false, rfl, fun _ => rfl⟩, ?_, fun _ h => nomatch h⟩, hl'⟩
  · intro name hguard
    obtain rfl := Option.some.inj hguard
    exact ⟨_, _, _, rfl, rfl⟩
  · refine ⟨[], has_open_iff.mpr ⟨_, hl', rfl⟩, fun p hp => ?_, .slnil⟩
    cases hp

/-- A unit inside another leaves its savepoint where it was set, with savepoints on top that no
outer unit takes for its own; if its work failed, the contents are those that it started from. -/
theorem nested_ends {work : Act (Bench E) α} {r : Except Error α} {s' : State (Bench E)}
    (hrun : run work (s.starting Bench.driver c) = (r, s')) {live : List String}
    (hs' : Standing c (.inside s l) live s') :
    ∃ l' own, (run (nested Bench.driver work) s).1 = .ok r ∧
      (run (nested Bench.driver work) s).2.session.connection = some c ∧
      (run (nested Bench.driver work) s).2.session.scopes = s.session.scopes ∧
      (run (nested Bench.driver work) s).2.ledger? c = some l' ∧
      l'.transaction = some ⟨l.current.base,
        own ++ ⟨s.nextSavepoint, l.contents⟩ :: l.current.savepoints⟩ ∧
      (∀ p ∈ own, Foreign s.session.scopes.length p) ∧
      (∀ e, r = .error e → l'.contents = l.contents) ∧
      (∀ a, r = .ok a → s'.ledger? c = some l') := by
  have hname := holdable_savepointName (s.clock 0) s.session.scopes.length
  obtain ⟨reply, w, hset, hstarting⟩ := hstart.exists_set hin
  rw [hstarting] at hrun
  obtain ⟨own, hruns, hown, -⟩ := hs'.savepoints
  obtain ⟨l₁, hl₁, ht⟩ := has_open_iff.mp hruns
  obtain ⟨settled, hscopes, -⟩ := hs'.scopes
  have hleft : s'.leaving.session.scopes = s.session.scopes := by
    show s'.session.scopes.tail = _
    rw [hscopes]
    rfl
  cases r with
  | ok a =>
      rw [run_nested_of_ok Bench.driver hc hset work hrun]
      refine ⟨l₁, own, rfl, hs'.connection, hleft, hl₁, ht, hown, ?_, fun _ _ => hl₁⟩
      intro e h
      cases h
  | error e =>
      rw [run_nested_of_error Bench.driver hc hset work hrun hs'.connection]
      have hnewer : ∀ q ∈ own, sameName q.name s.nextSavepoint = false :=
        fun q hq => hown q hq (s.clock 0) s.session.scopes.length (Nat.le_refl _)
      have hback := Ledger.rollbackTo_below (p := ⟨s.nextSavepoint, l.contents⟩) ht hnewer
      obtain ⟨reply', w', hundone, hl'⟩ := exists_send (Bench.respond_goesBack hE
        (.rollbackTo s.nextSavepoint) hname (ledger?_revived hE hl₁) trivial hback)
      have hundone' : Bench.driver.send c (.query (rollbackToStatement s.nextSavepoint))
          (revived Bench.driver c s'.wire) = (.ok reply', w') := hundone
      rw [hundone']
      refine ⟨_, [], rfl, hs'.connection, hleft, hl', rfl, ?_, fun _ _ => rfl, ?_⟩
      · intro p hp
        cases hp
      · intro a h
        cases h

end

/-- A unit inside another that is refused its savepoint leaves everything as it was. -/
theorem nested_refused (hE : E.Transactional) {s : State (Bench E)}
    (hc : s.session.connection = some c) (hin : s.session.inTransaction = true)
    {found : Option (Ledger E.Contents)} (hfound : s.wire.world.Has c fun e => e.ledger? = found)
    (hrefused : ¬ s.Starts Bench.driver c) (work : Act (Bench E) α) :
    ∃ e w, run (nested Bench.driver work) s = (.error e, s.ticked.onto w) ∧
      w.world.Has c fun e => e.ledger? = found := by
  have hname := holdable_savepointName (s.clock 0) s.session.scopes.length
  rcases hset : Bench.driver.send c (.query (savepointStatement s.nextSavepoint)) s.wire with
    ⟨e | reply, w⟩
  · exact ⟨_, w, run_nested_of_refused Bench.driver hc hset work,
      has_of_refused_send hE (.savepoint s.nextSavepoint) hname hfound hset⟩
  · refine absurd ?_ hrefused
    rw [State.Starts, if_pos hin]
    exact ⟨reply, w, hset⟩

/-- A generated name that belongs to a deeper unit is foreign to the outer ones. -/
theorem foreign_savepointName {Contents : Type} {depth deeper : Nat} (h : depth < deeper)
    (clock : Nat) (contents : Contents) :
    Foreign depth ⟨savepointName clock deeper, contents⟩ := by
  intro clock' d hd
  cases hsame : sameName (savepointName clock deeper) (savepointName clock' d) with
  | false => rfl
  | true =>
      have heq := depth_eq_of_sameName hsame
      omega

theorem Foreign.mono {Contents : Type} {depth deeper : Nat} {p : Savepoint Contents}
    (h : Foreign deeper p) (hle : depth ≤ deeper) : Foreign depth p :=
  fun clock d hd => h clock d (hd.trans hle)

namespace Standing

variable {f : Footing E.Contents} {live : List String} {s s' : State (Bench E)}

theorem inTransaction (hs : Standing c f live s) : s.session.inTransaction = true := by
  obtain ⟨settled, hscopes, -⟩ := hs.scopes
  exact State.inTransaction_of_cons hscopes

/-- What matters of the session is the connection and the scopes. -/
theorem beside (hs : Standing c f live s) (hwire : s'.wire.world = s.wire.world)
    (hconn : s'.session.connection = s.session.connection)
    (hscopes : s'.session.scopes = s.session.scopes) : Standing c f live s' where
  grounded := hs.grounded
  connection := hconn.trans hs.connection
  scopes := hscopes ▸ hs.scopes
  savepoints := hwire ▸ hs.savepoints
  holdable := hs.holdable

/-- Whatever keeps the transaction that is running. -/
theorem onWire {m : StateM (Wire (Bench E)) α}
    (hm : ∀ t, Driver.Keeps (Bench.Has c (Embedded.Open (some t))) m) :
    Maintains (Standing c f live) (Act.onWire m) := by
  intro s hs
  obtain ⟨own, hruns, hown, hlive⟩ := hs.savepoints
  exact ⟨hs.grounded, hs.connection, hs.scopes, ⟨own, hm _ s.wire hruns, hown, hlive⟩, hs.holdable⟩

/-- A unit inside another, whether it starts, succeeds or fails, leaves the other one standing. -/
theorem transact (hE : E.Transactional) (hs : Standing c f live s) (propagate : Bool)
    {work : Act (Bench E) α}
    (hwork : ∀ l, Standing c (.inside s l) [] (s.starting Bench.driver c) →
      ∃ live', Standing c (.inside s l) live' (run work (s.starting Bench.driver c)).2) :
    Standing c f live (run (Session.transact Bench.driver propagate work) s).2 := by
  rw [run_transact, unitBody_inside _ hs.inTransaction]
  obtain ⟨hwire, hconn', hsame'⟩ := recorded_beside (run (nested Bench.driver work) s).2
    (run (nested Bench.driver work) s).1
  refine Standing.beside ?_ (congrArg Wire.world hwire) hconn' hsame'
  obtain ⟨own, hruns, hown, hlive⟩ := hs.savepoints
  obtain ⟨l, hl, ht⟩ := has_open_iff.mp hruns
  by_cases hstart : s.Starts Bench.driver c
  · obtain ⟨settled, hscopes, hsettled⟩ := hs.scopes
    have hcurrent : l.current = ⟨f.base, own ++ f.below⟩ := by
      rw [Engine.Ledger.current, ht]
      rfl
    have hdepth : s.session.scopes.length = f.outer.length + 1 := by
      rw [hscopes]
      rfl
    obtain ⟨hstarted, -⟩ := nested_starts hE hs.connection hs.inTransaction hl hstart
    obtain ⟨live', hended⟩ := hwork l hstarted
    have hrun : run work (s.starting Bench.driver c) =
        ((run work (s.starting Bench.driver c)).1, (run work (s.starting Bench.driver c)).2) := rfl
    obtain ⟨l', own', -, hconn, hsame, hl', ht', hown', -, -⟩ :=
      nested_ends hE hs.connection hs.inTransaction hstart hrun hended
    refine ⟨hs.grounded, hconn, ⟨settled, hsame.trans hscopes, hsettled⟩,
      ⟨own' ++ ⟨s.nextSavepoint, l.contents⟩ :: own, ?_, ?_, ?_⟩, hs.holdable⟩
    · refine has_open_iff.mpr ⟨l', hl', ?_⟩
      rw [ht', hcurrent, List.append_assoc, List.cons_append]
    · intro p hp
      rcases List.mem_append.mp hp with hp | hp
      · exact (hown' p hp).mono (by omega)
      · rcases List.mem_cons.mp hp with rfl | hp
        · exact foreign_savepointName (by omega) _ _
        · exact hown p hp
    · rw [List.map_append, List.map_cons]
      exact (hlive.trans (List.sublist_cons_self _ _)).trans (List.sublist_append_right _ _)
  · obtain ⟨e, w, hrefused, hkept⟩ := nested_refused hE hs.connection hs.inTransaction
      (Bench.ledger?_eq_some_iff.mp hl) hstart work
    rw [hrefused]
    exact ⟨hs.grounded, hs.connection, hs.scopes,
      ⟨own, has_open_iff.mpr ⟨l, Bench.ledger?_eq_some_iff.mpr hkept, ht⟩, hown, hlive⟩,
      hs.holdable⟩

/-- Statements, scripts, files and units of work leave a unit standing. -/
theorem undisturbed (hE : E.Transactional) (hcareful : E.Careful) (c : ConnId) :
    Undisturbed Bench.driver c (fun p => E.NoControl p.sql) E.ControlFree
      (fun i : Footing E.Contents × List String => Standing c i.1 i.2) where
  connected hs := hs.connection
  aside hs hbeside :=
    hs.beside (congrArg Wire.world hbeside.wire) hbeside.connection hbeside.scopes
  statement hp _ := onWire fun _ => Bench.keeps_performUnder hE hcareful hp _
  batch htext _ := onWire fun _ => Bench.keeps_performBatch hE hcareful htext
  load _ _ file _ := onWire fun _ => Bench.keeps_load hE hcareful file
  unit hwork propagate _ s hs :=
    hs.transact hE propagate fun l hstarted => ⟨[], hwork (.inside s l, []) _ hstarted⟩

end Standing

end SlotQuery
